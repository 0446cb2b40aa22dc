import ComponentScan.Proofs.Absorption.Supplied
import ComponentScan.Proofs.Engine.Passes

/-!
# Suppliers in a run

A run calls a supplier when the first match that refers to it enters, in whichever pass, and never
again. What the supplier hands out stands in the inventory together, marked for that match
(`runAll_calls`).
-/

namespace ComponentScan

/-! ## The inventory of a supplier -/

namespace Expansion

/-- An artifact as it enters the inventory of the scan. -/
def mark (owners : List String) (a : Artifact) : Artifact :=
  { a with kind := .expanded, markers := a.markers.putNewAll owners .contains }

theorem artifactsOf_eq_map_mark {x : Expansion} (h : x.managesAssetIds = false)
    (owners : List String) : x.artifactsOf owners = x.artifacts.map (mark owners) := by
  rw [artifactsOf]
  simp only [h, Bool.false_eq_true, if_false]
  rfl

theorem not_file_of_mem_artifactsOf {x : Expansion} {owners : List String} {a : Artifact}
    (h : a ∈ x.artifactsOf owners) : a.kind ≠ .file := by
  rw [artifactsOf_eq_map_entered] at h
  obtain ⟨b, -, rfl⟩ := List.mem_map.1 h
  rw [(x.carriedOver_entered owners b).rest]
  simp

end Expansion

namespace Outcome

variable {context : ScanContext} {options : AbsorptionOptions} {suppliers : Suppliers}
  {ledger : Ledger} {found : List AnchorMatch}

/-- What stands together in the inventory, and is no file, stays so. -/
theorem exists_unchanged {front block back : List Artifact}
    (h : context.artifacts = front ++ block ++ back)
    (hblock : ∀ a ∈ block, a.kind ≠ .file ∧ keeps options a = true) :
    ∃ front back, (final context options suppliers ledger found).artifacts =
      front ++ block ++ back := by
  have hsettle : block.map (settle found) = block.map id :=
    List.map_congr_left fun a ha => settle_of_not_file (hblock a ha).1
  have hkeeps : block.filter (keeps options) = block :=
    List.filter_eq_self.2 fun a ha => (hblock a ha).2
  refine ⟨(front.map (settle found)).filter (keeps options),
    (back.map (settle found) ++
      arrivals (entrants context options suppliers ledger [] found)).filter (keeps options), ?_⟩
  rw [artifacts_final, unpurged, h]
  simp [hsettle, hkeeps]

end Outcome

/-! ## Runs -/

namespace Session

open Outcome

variable {s t u : Session} {suppliers : Suppliers} {found found' : List AnchorMatch}
  {summary : AbsorptionSummary} {i : SupplierId} {x : Expansion}

theorem Pass.options_eq {mode : Mode} (h : Pass s suppliers mode found summary t) :
    t.options = s.options := by
  rw [options, h.settings]
  rfl

theorem Pass.assetIdChain_eq {mode : Mode} (h : Pass s suppliers mode found summary t) :
    t.context.assetIdChain = s.context.assetIdChain := by
  rw [h.context]
  rfl

/-- Of the matches of a pass for which a supplier is called, the first one brings along what the
supplier hands out. -/
theorem Pass.exists_first {mode : Mode} (h : Pass s suppliers mode found summary t)
    (hi : i ∈ Outcome.calls s.context s.options s.engine.ledger found) :
    ∃ before m after, found = before ++ m :: after ∧ m.enters s.context = true ∧
      m.descriptor.supplier = some i ∧
      (∀ m' ∈ before, m'.enters s.context → m'.descriptor.supplier ≠ some i) ∧
      m.owners = s.context.assetIdChain ++ [m.assetId] ∧
      ∀ x, suppliers i = .ok x → ∃ front back, t.context.artifacts =
        front ++ (x.artifactsOf m.owners).filter (keeps s.options) ++ back := by
  obtain ⟨before, m, after, hfound, henters, hs, hfirst, hinventory⟩ :=
    exists_first_of_mem_calls hi
  refine ⟨before, m, after, hfound, henters, hs, hfirst, ?_, h.context ▸ hinventory⟩
  rw [AnchorMatch.owners, (AnchorMatch.origin_of_mem_all h.sightings (by simp [hfound])).2]

/-- What is handed out in one pass stays where it is in a later one. -/
theorem Pass.exists_unchanged {mode : Mode} (h : Pass s suppliers mode found summary t)
    {front back : List Artifact} {owners : List String}
    (hs : s.context.artifacts =
      front ++ (x.artifactsOf owners).filter (keeps s.options) ++ back) :
    ∃ front back, t.context.artifacts =
      front ++ (x.artifactsOf owners).filter (keeps s.options) ++ back := by
  rw [h.context]
  refine Outcome.exists_unchanged hs fun a ha => ?_
  obtain ⟨hmem, hkeeps⟩ := List.mem_filter.1 ha
  exact ⟨Expansion.not_file_of_mem_artifactsOf hmem, hkeeps⟩

/-- The survivors of two passes, and what becomes of the suppliers they refer to. -/
structure Expands (s : Session) (suppliers : Suppliers) (survivors : List AnchorMatch)
    (called : List SupplierId) (t : Session) : Prop where
  calls : t.calls = s.calls ++ called
  nodup : called.Nodup
  mem_iff : ∀ i, i ∈ called ↔ s.engine.settings.expandInventories = true ∧
    ∃ m ∈ survivors, m.descriptor.supplier = some i
  first : ∀ i ∈ called, ∃ before m after, survivors = before ++ m :: after ∧
    m.descriptor.supplier = some i ∧ (∀ m' ∈ before, m'.descriptor.supplier ≠ some i) ∧
    m.owners = s.context.assetIdChain ++ [m.assetId] ∧
    ∀ x, suppliers i = .ok x → ∃ front back, t.context.artifacts =
      front ++ (x.artifactsOf m.owners).filter (keeps s.options) ++ back

/-- A pass that begins with an empty ledger. -/
theorem Pass.expands {mode : Mode} (h : Pass s suppliers mode found summary t)
    (hledger : s.engine.ledger = {}) :
    Expands s suppliers (found.filter (·.enters s.context))
      (Outcome.calls s.context s.options s.engine.ledger found) t where
  calls := h.calls
  nodup := nodup_calls _ _ _ _
  mem_iff i := by
    rw [mem_calls_iff, hledger]
    simp [options, and_assoc]
  first i hi := by
    obtain ⟨before, m, after, hfound, henters, hs, hfirst, howners, hx⟩ := h.exists_first hi
    refine ⟨before.filter (·.enters s.context), m, after.filter (·.enters s.context), ?_, hs,
      fun m' hm' => ?_, howners, hx⟩
    · rw [hfound, List.filter_append, List.filter_cons_of_pos henters]
    · obtain ⟨hmem, henters'⟩ := List.mem_filter.1 hm'
      exact hfirst m' hmem henters'

/-- A second pass calls the suppliers that the first has not called. -/
theorem Expands.pass {mode : Mode} {survivors : List AnchorMatch} {called : List SupplierId}
    (h : Expands s suppliers survivors called u) (hledger : u.engine.ledger.called = called)
    (hoptions : u.options = s.options) (hchain : u.context.assetIdChain = s.context.assetIdChain)
    (hpass : Pass u suppliers mode found summary t) :
    Expands s suppliers (survivors ++ found.filter (·.enters u.context))
      (called ++ Outcome.calls u.context u.options u.engine.ledger found) t where
  calls := by rw [hpass.calls, h.calls, List.append_assoc]
  nodup := by
    refine h.nodup.append (nodup_calls _ _ _ _) fun i hi hi' => ?_
    exact (mem_calls_iff.1 hi').2.1 (hledger ▸ hi)
  mem_iff i := by
    have hexpand : u.options.expandInventories = s.engine.settings.expandInventories :=
      congrArg AbsorptionOptions.expandInventories hoptions
    rw [List.mem_append, mem_calls_iff, hledger, h.mem_iff, hexpand]
    simp only [List.mem_append, or_and_right, exists_or, List.mem_filter, and_assoc]
    by_cases hfirst : ∃ m ∈ survivors, m.descriptor.supplier = some i
    · simp +contextual [hfirst]
    · simp [hfirst]
  first i hi := by
    rcases List.mem_append.1 hi with hi | hi
    · -- the supplier was called in the first pass
      obtain ⟨before, m, after, hsurvivors, hs, hfirst, howners, hx⟩ := h.first i hi
      refine ⟨before, m, after ++ found.filter (·.enters u.context), ?_, hs, hfirst, howners, ?_⟩
      · rw [hsurvivors, List.append_assoc, List.cons_append]
      · intro x hi
        obtain ⟨front, back, hartifacts⟩ := hx x hi
        rw [← hoptions] at hartifacts ⊢
        exact hpass.exists_unchanged hartifacts
    · -- nobody that survived the first pass refers to the supplier
      obtain ⟨hexpand, hnew, -⟩ := mem_calls_iff.1 hi
      obtain ⟨before, m, after, hfound, henters, hs, hfirst, howners, hx⟩ := hpass.exists_first hi
      refine ⟨survivors ++ before.filter (·.enters u.context), m,
        after.filter (·.enters u.context), ?_, hs, fun m' hm' => ?_, hchain ▸ howners,
        hoptions ▸ hx⟩
      · rw [hfound, List.filter_append, List.filter_cons_of_pos henters, List.append_assoc]
      · rcases List.mem_append.1 hm' with hm' | hm'
        · intro hrefers
          have hexpand' : s.options.expandInventories = true := hoptions ▸ hexpand
          exact hnew (hledger ▸ (h.mem_iff i).2 ⟨hexpand', m', hm', hrefers⟩)
        · obtain ⟨hmem, henters'⟩ := List.mem_filter.1 hm'
          exact hfirst m' hmem henters'

/-- A run of an engine that is enabled calls every supplier at most once over both passes, whether
or not the call fails: those of the matches that survive, if the settings ask for it. What a
supplier hands out stands together in the inventory, marked as contained in the assets around the
scan and in the component of the first of these matches. -/
theorem runAll_calls (s : Session) (suppliers : Suppliers) (summary : RunSummary) (t : Session)
    (henabled : s.engine.settings.enabled = true)
    (h : s.runAll suppliers = (.ok summary, t)) :
    let start := s.reset.extract.2
    let middle := (start.absorb suppliers .immediate).2
    ∃ found found' called,
      start.sightings .immediate = .ok found ∧
      (if s.engine.settings.runDeferredPass then middle.sightings .deferred = .ok found'
        else found' = []) ∧
      let survivors :=
        found.filter (·.enters start.context) ++ found'.filter (·.enters middle.context)
      t.calls = s.calls ++ called ∧ called.Nodup ∧
      summary.total.expansions = called.length ∧
      (∀ i, i ∈ called ↔ s.engine.settings.expandInventories = true ∧
        ∃ m ∈ survivors, m.descriptor.supplier = some i) ∧
      ∀ i ∈ called, ∃ before m after, survivors = before ++ m :: after ∧
        m.descriptor.supplier = some i ∧ (∀ m' ∈ before, m'.descriptor.supplier ≠ some i) ∧
        ∀ x, suppliers i = .ok x → x.managesAssetIds = false →
          let mark := Expansion.mark (s.context.assetIdChain ++ [m.assetId])
          (∃ front back, t.context.artifacts =
            front ++ (x.artifacts.map mark).filter (keeps s.options) ++ back) ∧
          ∀ a id, (mark a).markers.get? id = (a.markers.get? id).or
            (if id ∈ s.context.assetIdChain ∨ id = m.assetId then some .contains else none) := by
  intro start middle
  obtain ⟨hdisabled, -⟩ | ⟨-, -, found, u, hu, hpass, hdeferred⟩ := runAll_cases h
  · rw [henabled] at hdisabled
    cases hdisabled
  have hu : u = middle := hu
  subst hu
  have hfirst := hpass.expands rfl
  have hledger : middle.engine.ledger.called =
      Outcome.calls start.context start.options start.engine.ledger found := hpass.called
  -- without a deferred pass there are no further matches
  have hexpands : ∃ found' called,
      (if s.engine.settings.runDeferredPass then middle.sightings .deferred = .ok found'
        else found' = []) ∧ summary.total.expansions = called.length ∧
      Expands start suppliers
        (found.filter (·.enters start.context) ++ found'.filter (·.enters middle.context))
        called t := by
    rcases hdeferred with ⟨hoff, hnone, rfl⟩ | ⟨hon, found', second, hsome, hpass'⟩
    · refine ⟨[], _, by simp [hoff], ?_, by simpa using hfirst⟩
      rw [RunSummary.total, hnone, hpass.summary_eq]
      rfl
    · refine ⟨found', _, by simpa [hon] using hpass'.sightings, ?_,
        hfirst.pass hledger hpass.options_eq hpass.assetIdChain_eq hpass'⟩
      rw [RunSummary.total, hsome, List.length_append]
      show summary.immediate.expansions + second.expansions = _
      rw [hpass.summary_eq, hpass'.summary_eq]
      rfl
  obtain ⟨found', called, hfound', hexpansions, hexpands⟩ := hexpands
  refine ⟨found, found', called, hpass.sightings, hfound', hexpands.calls, hexpands.nodup,
    hexpansions, hexpands.mem_iff, fun i hi => ?_⟩
  obtain ⟨before, m, after, hsurvivors, hs, hfirst, howners, hx⟩ := hexpands.first i hi
  refine ⟨before, m, after, hsurvivors, hs, hfirst, fun x hsupply hmanages => ⟨?_, fun a id => ?_⟩⟩
  · have hartifacts := hx x hsupply
    rw [Expansion.artifactsOf_eq_map_mark hmanages, howners] at hartifacts
    exact hartifacts
  · rw [Expansion.mark, StringMap.get?_putNewAll]
    simp only [List.mem_append, List.mem_singleton]

/-- Two components of one supplier in the immediate pass and another one in the deferred pass, a
match that is dropped, and a supplier that fails. -/
theorem runAll_calls_shared :
    let descriptor (name includes anchor : String) (mode : Mode) (supplier : SupplierId) :
        Descriptor :=
      { name, version := "1", anchor := some anchor, anchorChecksum := some "*", includes, mode
        supplier := some supplier }
    let s : Session :=
      { engine := { settings := {}, registry := .empty }
        context := .ofScanned "/scan" [{ path := "lib/a" }, { path := "b" }] ["AID-image"]
        store :=
          ⟨[descriptor "none" "x" "lib/a" .immediate 2, descriptor "outer" "lib/*" "a" .immediate 1,
            descriptor "inner" "lib/*" "lib/a" .immediate 1, descriptor "late" "b" "b" .deferred 1,
            descriptor "last" "b" "b" .deferred 3]⟩ }
    let suppliers : Suppliers := fun i =>
      if i = 3 then .error (.other "offline")
      else .ok { artifacts := [{ id := "dep", kind := .file }] }
    let t := (s.runAll suppliers).2
    s.engine.settings.enabled = true ∧
      ∃ summary, s.runAll suppliers = (.ok summary, t) ∧ t.calls = [1, 3] ∧ t.calls.Nodup ∧
        summary.total.expansions = t.calls.length ∧
        (t.context.artifacts.filter (·.kind == .expanded)).map (·.markers.entries) =
          [[("AID-image", .contains), ("AID-outer-1", .contains)]] := by
  intro descriptor s suppliers t
  let summary : RunSummary :=
    { immediate :=
        { found := 3, dropped := 1, absorbed := 2, components := 2, expansions := 1, removed := 1 }
      deferred :=
        some { found := 2, absorbed := 2, components := 2, expansions := 1, removed := 1 } }
  have hrun : s.runAll suppliers = (.ok summary, t) := Prod.ext (by decide +kernel) rfl
  obtain ⟨found, found', called, -, -, hcalls, hnodup, hexpansions, -⟩ :=
    runAll_calls s suppliers summary t rfl hrun
  have hcalled : t.calls = called := by simpa [s] using hcalls
  rw [← hcalled] at hnodup hexpansions
  exact ⟨rfl, summary, hrun, by decide +kernel, hnodup, hexpansions, by decide +kernel⟩

end Session

end ComponentScan
