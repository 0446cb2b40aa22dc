import ComponentScan.Proofs.Absorption.Outcome

/-!
# Matches one after the other

An absorption that has applied some of the matches holds what they leave (`Follows`), and each
further match keeps this. So applying all matches leaves the context that `Outcome.final` tells.
-/

namespace ComponentScan

/-! ## Calls of suppliers -/

namespace Absorption

variable (suppliers : Suppliers) (c : Claimant) (x : Absorption)

/-- What the supplier of a component answers, when it was not called before. -/
def fresh? : Option Expansion :=
  c.hit.descriptor.supplier.bind fun s =>
    if s ∈ x.ledger.called then none else (suppliers s).toOption

theorem expand_of_none (h : c.hit.descriptor.supplier = none) : x.expand suppliers c = x := by
  rw [expand, h]

theorem expand_of_called {s : SupplierId} (h : c.hit.descriptor.supplier = some s)
    (hs : s ∈ x.ledger.called) : x.expand suppliers c = x := by
  have hcontains : x.ledger.called.contains s = true := by simpa using hs
  simp only [expand, h, Ledger.enter, hcontains, if_true]

theorem expand_of_new {s : SupplierId} (h : c.hit.descriptor.supplier = some s)
    (hs : s ∉ x.ledger.called) :
    x.expand suppliers c = call suppliers c s { x with ledger := ⟨x.ledger.called ++ [s]⟩ } := by
  have hcontains : ¬ x.ledger.called.contains s = true := by simpa using hs
  simp only [expand, h, Ledger.enter, if_neg hcontains]

/-- A call keeps the artifacts that were there, and brings along what the supplier answers. -/
theorem expand_spec :
    (x.expand suppliers c).residents = x.residents ∧
    (x.expand suppliers c).arrivals =
      x.arrivals ++ (fresh? suppliers c x).elim [] (·.artifactsOf c.owners) ∧
    (x.expand suppliers c).assets =
      ((fresh? suppliers c x).elim [] Expansion.assets).foldl ScanContext.mergeAsset x.assets ∧
    ∀ s, s ∈ (x.expand suppliers c).ledger.called ↔
      s ∈ x.ledger.called ∨ c.hit.descriptor.supplier = some s := by
  cases h : c.hit.descriptor.supplier with
  | none => simp [expand_of_none suppliers c x h, fresh?, h]
  | some s =>
    by_cases hs : s ∈ x.ledger.called
    · rw [expand_of_called suppliers c x h hs]
      refine ⟨rfl, by simp [fresh?, h, hs], by simp [fresh?, h, hs], fun s' => ?_⟩
      constructor
      · exact .inl
      · rintro (h' | h')
        · exact h'
        · exact Option.some.inj h' ▸ hs
    · rw [expand_of_new suppliers c x h hs]
      have hledger (s' : SupplierId) :
          s' ∈ x.ledger.called ++ [s] ↔ s' ∈ x.ledger.called ∨ some s = some s' := by
        rw [List.mem_append, List.mem_singleton, Option.some.injEq, eq_comm (a := s)]
      cases ha : suppliers s with
      | ok inventory =>
        simp only [call, fresh?, h, hs, ha, Option.bind_some, if_false, Except.toOption,
          Option.elim_some, true_and]
        exact hledger
      | error e =>
        simp only [call, fresh?, h, hs, ha, Option.bind_some, if_false, Except.toOption,
          Option.elim_none, List.append_nil, List.foldl_nil, true_and]
        exact hledger

end Absorption

/-! ## Some of the matches -/

namespace Outcome

variable {context : ScanContext} {options : AbsorptionOptions} {suppliers : Suppliers}
  {ledger : Ledger} {done : List AnchorMatch} {x : Absorption}

theorem entrants_append (earlier found found' : List AnchorMatch) :
    entrants context options suppliers ledger earlier (found ++ found') =
      entrants context options suppliers ledger earlier found ++
        entrants context options suppliers ledger (earlier ++ found) found' := by
  induction found generalizing earlier with
  | nil => simp [entrants]
  | cons m found ih => simp [entrants, ih, List.append_assoc]

/-- An absorption that has applied the matches `done`. -/
structure Follows (context : ScanContext) (options : AbsorptionOptions) (suppliers : Suppliers)
    (ledger : Ledger) (done : List AnchorMatch) (x : Absorption) : Prop where
  residents : x.residents =
    context.artifacts.map fun a => ⟨settle done a, (Resident.ofArtifact a).path⟩
  arrivals : x.arrivals = Outcome.arrivals (entrants context options suppliers ledger [] done)
  assets : x.assets = (newAssets (entrants context options suppliers ledger [] done)).foldl
    ScanContext.mergeAsset context.assets
  called : ∀ s, s ∈ x.ledger.called ↔ s ∈ ledger.called ∨
    options.expandInventories ∧ ∃ m ∈ done, m.enters context ∧ m.descriptor.supplier = some s

/-- What the supplier of the next match answers is the inventory that it brings along. -/
theorem Follows.fresh?_eq (h : Follows context options suppliers ledger done x)
    (hexpand : options.expandInventories = true) {m : AnchorMatch} {c : Claimant}
    (hc : c.hit = m) {y : Absorption} (hy : y.ledger = x.ledger) :
    Absorption.fresh? suppliers c y = inventory? context options suppliers ledger done m := by
  rw [Absorption.fresh?, inventory?, hc, hy]
  cases m.descriptor.supplier with
  | none => rfl
  | some s =>
    rw [Option.bind_some, Option.bind_some]
    -- the ledger holds the suppliers called before and those of the components that have entered
    have hs : s ∈ x.ledger.called ↔ ¬ (options.expandInventories ∧ s ∉ ledger.called ∧
        ∀ m' ∈ done, m'.enters context → m'.descriptor.supplier ≠ some s) := by
      rw [h.called s]
      simp only [hexpand, true_and, not_and, not_forall, not_not]
      constructor
      · rintro (h | ⟨m', hm', he, hs⟩) hn
        · exact absurd h hn
        · exact ⟨m', hm', he, hs⟩
      · intro h
        by_cases hs : s ∈ ledger.called
        · exact .inl hs
        · obtain ⟨m', hm', he, hs⟩ := h hs
          exact .inr ⟨m', hm', he, hs⟩
    by_cases hmem : s ∈ x.ledger.called
    · rw [if_pos hmem, if_neg (hs.1 hmem)]
    · rw [if_neg hmem, if_pos (Decidable.not_not.1 (mt hs.2 hmem))]

/-- Before the first match. -/
theorem Follows.start (found : Nat) :
    Follows context options suppliers ledger []
      { residents := context.artifacts.map .ofArtifact
        assets := context.assets
        ledger
        summary := { found } } where
  residents := List.map_congr_left fun a _ => by simp [settle, StringMap.putNewAll, Resident.ofArtifact]
  arrivals := rfl
  assets := rfl
  called := by simp

/-- The artifacts that were there, with whether the next match covers them. -/
theorem Follows.map_claim (h : Follows context options suppliers ledger done x) {m : AnchorMatch}
    {c : Claimant} (hc : Claimant.ofMatch m = .ok c) :
    x.residents.map (fun r : Resident => r.claim c) = context.artifacts.map fun a =>
      (m.covers a, ⟨settle (done ++ [m]) a, (Resident.ofArtifact a).path⟩) := by
  rw [h.residents, List.map_map]
  exact List.map_congr_left fun a _ => claim_settle hc a

/-- A match is dropped when it does not enter. -/
theorem Follows.dropped_iff (h : Follows context options suppliers ledger done x)
    {m : AnchorMatch} {c : Claimant} (hc : Claimant.ofMatch m = .ok c) :
    ((x.residents.map fun r : Resident => r.claim c).countP Prod.fst = 0 ∧
      !c.hit.descriptor.needsNoFiles) ↔ ¬ m.enters context = true := by
  have hhit : c.hit = m := (Claimant.ofMatch_eq_ok_iff.1 hc).1
  rw [h.map_claim hc, List.countP_map, List.countP_eq_zero, AnchorMatch.enters, hhit]
  simp

theorem entrants_concat (context : ScanContext) (options : AbsorptionOptions)
    (suppliers : Suppliers) (ledger : Ledger) (done : List AnchorMatch) (m : AnchorMatch) :
    entrants context options suppliers ledger [] (done ++ [m]) =
      entrants context options suppliers ledger [] done ++
        if m.enters context then [(m, inventory? context options suppliers ledger done m)]
        else [] := by
  rw [entrants_append]
  simp [entrants]

/-- A match is applied. -/
theorem Follows.apply (h : Follows context options suppliers ledger done x) {m : AnchorMatch}
    {c : Claimant} (hc : Claimant.ofMatch m = .ok c) :
    Follows context options suppliers ledger (done ++ [m]) (x.apply options suppliers c) := by
  have hhit : c.hit = m := (Claimant.ofMatch_eq_ok_iff.1 hc).1
  have hresidents : (x.residents.map fun r : Resident => r.claim c).map Prod.snd =
      context.artifacts.map fun a =>
        ⟨settle (done ++ [m]) a, (Resident.ofArtifact a).path⟩ := by
    rw [h.map_claim hc, List.map_map]
    rfl
  have hentrants := entrants_concat context options suppliers ledger done m
  rw [Absorption.apply]
  dsimp only
  by_cases hm : m.enters context = true
  · rw [if_neg fun h' => (h.dropped_iff hc).1 h' hm]
    rw [if_pos hm] at hentrants
    by_cases hexpand : options.expandInventories = true
    · rw [if_pos hexpand]
      -- the absorption when the component has entered, before its supplier is called
      let claimed := x.residents.map fun r : Resident => r.claim c
      let y : Absorption := { x with
        residents := claimed.map Prod.snd
        arrivals := x.arrivals ++ [c.artifact]
        summary := { x.summary with
          absorbed := x.summary.absorbed + claimed.countP Prod.fst
          components := x.summary.components + 1 } }
      show Follows context options suppliers ledger (done ++ [m]) (y.expand suppliers c)
      obtain ⟨hr, ha, hs, hcalled⟩ := Absorption.expand_spec suppliers c y
      have hfresh : Absorption.fresh? suppliers c y =
          inventory? context options suppliers ledger done m := h.fresh?_eq hexpand hhit rfl
      rw [hfresh] at ha hs
      constructor
      · rw [hr]
        exact hresidents
      · rw [ha, hentrants]
        simp [y, h.arrivals, Claimant.artifact_eq hc, Claimant.owners_eq hc, Outcome.arrivals]
      · rw [hs, hentrants]
        simp [y, h.assets, newAssets]
      · intro s
        rw [hcalled, hhit, show y.ledger = x.ledger from rfl, h.called s]
        simp only [hexpand, true_and, List.mem_append, List.mem_singleton, or_and_right,
          exists_or, exists_eq_left, hm, or_assoc]
    · rw [if_neg hexpand]
      have hnone : inventory? context options suppliers ledger done m = none := by
        simp [inventory?, hexpand]
      rw [hnone] at hentrants
      constructor
      · exact hresidents
      · rw [hentrants]
        simp [h.arrivals, Claimant.artifact_eq hc, Outcome.arrivals]
      · rw [hentrants]
        simp [h.assets, newAssets]
      · intro s
        rw [h.called s]
        simp [hexpand]
  · -- a match that is dropped covers nothing, so the artifacts stay as they are told
    rw [if_pos ((h.dropped_iff hc).2 hm)]
    rw [if_neg hm, List.append_nil] at hentrants
    constructor
    · exact hresidents
    · rw [hentrants]
      exact h.arrivals
    · rw [hentrants]
      exact h.assets
    · intro s
      rw [h.called s]
      simp only [List.mem_append, List.mem_singleton, or_and_right, exists_or, exists_eq_left, hm,
        Bool.false_eq_true, false_and, or_false]

/-- All matches are applied. -/
theorem Follows.foldl (h : Follows context options suppliers ledger done x)
    {found : List AnchorMatch} {cs : List Claimant}
    (hcs : List.Forall₂ (fun m c => Claimant.ofMatch m = .ok c) found cs) :
    Follows context options suppliers ledger (done ++ found)
      (cs.foldl (Absorption.apply options suppliers) x) := by
  induction hcs generalizing done x with
  | nil => simpa using h
  | cons hc _ ih =>
    rw [List.foldl_cons, List.append_cons]
    exact ih (h.apply hc)

/-- What an absorption leaves, when it does not fail. -/
theorem context_ofMatches {found : List AnchorMatch} {a : Absorbed}
    (h : Absorbed.ofMatches found context options suppliers ledger = .ok a) :
    a.context = final context options suppliers ledger found := by
  obtain ⟨cs, hcs, ha⟩ := bind_eq_ok_iff.1 h
  obtain rfl := Except.ok.inj ha
  have hfinal : Follows context options suppliers ledger found _ :=
    (Follows.start found.length).foldl (mapM_eq_ok_iff.1 hcs)
  have hartifacts : (context.artifacts.map fun a =>
      (⟨settle found a, (Resident.ofArtifact a).path⟩ : Resident)).map (·.artifact) =
      context.artifacts.map (settle found) := by
    rw [List.map_map]
    rfl
  rw [final, hfinal.residents, hfinal.arrivals, hfinal.assets, hartifacts]
  cases options.purgeAbsorbed <;> rfl

end Outcome

/-! ## All matches -/

namespace Absorbed

theorem exists_ofMatches {found : List AnchorMatch}
    (h : ∀ m ∈ found, (∃ l, GlobList.parse m.descriptor.includes = .ok l) ∧
      ∃ l, GlobList.parse m.descriptor.excludes = .ok l)
    (context : ScanContext) (options : AbsorptionOptions) (suppliers : Suppliers)
    (ledger : Ledger) : ∃ a, ofMatches found context options suppliers ledger = .ok a := by
  obtain ⟨cs, hcs⟩ := exists_mapM_eq_ok fun m hm =>
    Claimant.exists_ofMatch (h m hm).1 (h m hm).2
  rw [ofMatches, hcs]
  exact ⟨_, rfl⟩

/-- Matches that can be applied are those whose glob lists compile, whatever they are applied to. -/
theorem exists_ofMatches_iff {found : List AnchorMatch} {context : ScanContext}
    {options : AbsorptionOptions} {suppliers : Suppliers} {ledger : Ledger} :
    (∃ a, ofMatches found context options suppliers ledger = .ok a) ↔
      ∀ m ∈ found, (∃ l, GlobList.parse m.descriptor.includes = .ok l) ∧
        ∃ l, GlobList.parse m.descriptor.excludes = .ok l := by
  constructor
  · rintro ⟨a, ha⟩ m hm
    obtain ⟨cs, hcs, -⟩ := bind_eq_ok_iff.1 ha
    obtain ⟨c, -, hc⟩ := exists_result_of_mem hcs hm
    obtain ⟨-, hi, he, -⟩ := Claimant.ofMatch_eq_ok_iff.1 hc
    exact ⟨⟨_, hi⟩, _, he⟩
  · exact fun h => exists_ofMatches h context options suppliers ledger

/-- Matches whose glob lists compile can be applied, and leave the context that `Outcome.final`
tells. A file keeps the markers it had, and is marked under every owner of a match that covers
it. -/
theorem ofMatches_final (found : List AnchorMatch) (context : ScanContext)
    (options : AbsorptionOptions) (suppliers : Suppliers) (ledger : Ledger)
    (h : ∀ m ∈ found, (∃ l, GlobList.parse m.descriptor.includes = .ok l) ∧
      ∃ l, GlobList.parse m.descriptor.excludes = .ok l) :
    ∃ a, ofMatches found context options suppliers ledger = .ok a ∧
      a.context = Outcome.final context options suppliers ledger found ∧
      ∀ r ∈ context.artifacts, ∀ id, (Outcome.settle found r).markers.get? id =
        (r.markers.get? id).or
          (if ∃ m ∈ found, m.covers r ∧ id ∈ m.owners then some .contains else none) := by
  obtain ⟨a, ha⟩ := exists_ofMatches h context options suppliers ledger
  exact ⟨a, ha, Outcome.context_ofMatches ha, fun r _ id => Outcome.get?_settle found r id⟩

/-- An outer and an inner component of one supplier, and one that covers nothing. -/
theorem ofMatches_final_nested :
    let site (part includes : String) : AnchorMatch :=
      { descriptor := { name := part, version := "1", part, includes, supplier := some 7 }
        path := some "app/pkg", checksum := "*", scanRoot := "/scan", ownership := ⟨"", "app"⟩
        assetIdChain := ["AID-image"], rootPaths := .empty }
    let found := [site "none" "x/*", site "outer" "app/**/*", site "inner" "lib/*"]
    let context : ScanContext :=
      .ofScanned "/scan" [{ path := "app/a" }, { path := "lib/b" }, { path := "c" }] []
    let suppliers : Suppliers := fun _ => .ok { artifacts := [{ id := "dep", kind := .file }] }
    (∃ a, ofMatches found context {} suppliers {} = .ok a ∧
      a.context = Outcome.final context {} suppliers {} found ∧
      ∀ r ∈ context.artifacts, ∀ id, (Outcome.settle found r).markers.get? id =
        (r.markers.get? id).or
          (if ∃ m ∈ found, m.covers r ∧ id ∈ m.owners then some .contains else none)) ∧
      (Outcome.final context {} suppliers {} found).artifacts.map (fun a => (a.id, a.kind)) =
        [("c", .file), ("outer", .component), ("dep", .expanded), ("inner", .component)] := by
  intro site found context suppliers
  refine ⟨ofMatches_final found context {} suppliers {} ?_, by decide +kernel⟩
  intro m hm
  have hok (csv : String) (h : (GlobList.parse csv).isOk = true) :
      ∃ l, GlobList.parse csv = .ok l := by
    cases hc : GlobList.parse csv with
    | ok l => exact ⟨l, rfl⟩
    | error e => simp [hc, Except.isOk, Except.toBool] at h
  simp only [found, List.mem_cons, List.not_mem_nil, or_false] at hm
  rcases hm with rfl | rfl | rfl <;> exact ⟨hok _ (by decide +kernel), hok _ (by decide +kernel)⟩

end Absorbed

end ComponentScan
