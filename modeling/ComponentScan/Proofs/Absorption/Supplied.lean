import ComponentScan.Proofs.Absorption.Loose

/-!
# What suppliers hand out

The artifacts that a supplier hands out enter the inventory together and are never absorbed, since
an absorption looks at the files that were there before its first match. Those that come absorbed
leave with the absorbed files when these are removed (`Absorbed.ofMatches_keeps_supplied`).
-/

namespace ComponentScan

/-! ## Entering the inventory -/

/-- An artifact that a supplier hands out, and how it stands in the inventory of a scan: as an
expanded artifact that has at least the markers it came with. -/
structure Artifact.CarriedOver (b e : Artifact) : Prop where
  rest : e = { b with kind := .expanded, markers := e.markers }
  markers : ∀ id marker, b.markers.get? id = some marker → e.markers.get? id = some marker

namespace Expansion

/-- An artifact of an inventory as it enters that of the scan. -/
def entered (x : Expansion) (owners : List String) (b : Artifact) : Artifact :=
  let b := { b with kind := .expanded }
  if x.managesAssetIds then b else b.markAll owners .contains

theorem artifactsOf_eq_map_entered (x : Expansion) (owners : List String) :
    x.artifactsOf owners = x.artifacts.map (x.entered owners) :=
  rfl

theorem carriedOver_entered (x : Expansion) (owners : List String) (b : Artifact) :
    b.CarriedOver (x.entered owners b) := by
  rw [entered]
  cases x.managesAssetIds with
  | true => exact ⟨rfl, fun _ _ h => h⟩
  | false =>
    refine ⟨rfl, fun id marker h => ?_⟩
    show (b.markers.putNewAll owners .contains).get? id = some marker
    rw [StringMap.get?_putNewAll, h, Option.some_or]

end Expansion

/-! ## Staying there -/

namespace Outcome

variable {context : ScanContext} {options : AbsorptionOptions} {suppliers : Suppliers}
  {ledger : Ledger} {found : List AnchorMatch} {i : SupplierId}

/-- Of the matches that enter and refer to a supplier, one is the first. -/
theorem exists_first (h : ∃ m ∈ found, m.enters context ∧ m.descriptor.supplier = some i) :
    ∃ before m after, found = before ++ m :: after ∧ m.enters context = true ∧
      m.descriptor.supplier = some i ∧
      ∀ m' ∈ before, m'.enters context → m'.descriptor.supplier ≠ some i := by
  obtain ⟨m, hm, henters, hs⟩ := h
  cases hfind : found.find? fun m => m.enters context && m.descriptor.supplier == some i with
  | none => simpa [henters, hs] using List.find?_eq_none.1 hfind m hm
  | some first =>
    obtain ⟨hfirst, before, after, hfound, hbefore⟩ := List.find?_eq_some_iff_append.1 hfind
    obtain ⟨hfirst, hsupplier⟩ : first.enters context = true ∧
        first.descriptor.supplier = some i := by simpa using hfirst
    refine ⟨before, first, after, hfound, hfirst, hsupplier, fun m' hm' henters' => ?_⟩
    simpa [henters'] using hbefore m' hm'

/-- What a supplier hands out for the first match that refers to it stands together. -/
theorem exists_inventory {before after : List AnchorMatch} {m : AnchorMatch} {x : Expansion}
    (hexpand : options.expandInventories = true) (hledger : i ∉ ledger.called)
    (henters : m.enters context = true) (hs : m.descriptor.supplier = some i)
    (hfirst : ∀ m' ∈ before, m'.enters context → m'.descriptor.supplier ≠ some i)
    (hx : suppliers i = .ok x) :
    ∃ front back, (final context options suppliers ledger (before ++ m :: after)).artifacts =
      front ++ (x.artifactsOf m.owners).filter (keeps options) ++ back := by
  have hinventory : inventory? context options suppliers ledger before m = some x := by
    rw [inventory?, hs, Option.bind_some, if_pos ⟨hexpand, hledger, hfirst⟩, hx]
    rfl
  have hentrants : entrants context options suppliers ledger [] (before ++ m :: after) =
      entrants context options suppliers ledger [] before ++ (m, some x) ::
        entrants context options suppliers ledger (before ++ [m]) after := by
    rw [entrants_append, List.nil_append, entrants, if_pos henters, hinventory]
    rfl
  let earlier := entrants context options suppliers ledger [] before
  let later := entrants context options suppliers ledger (before ++ [m]) after
  have harrivals : arrivals (earlier ++ (m, some x) :: later) =
      arrivals earlier ++ [m.component] ++ x.artifactsOf m.owners ++ arrivals later := by
    simp [arrivals]
  refine ⟨(context.artifacts.map (settle (before ++ m :: after)) ++
      (arrivals earlier ++ [m.component])).filter (keeps options),
    (arrivals later).filter (keeps options), ?_⟩
  rw [artifacts_final, unpurged, hentrants, harrivals]
  simp only [List.filter_append, List.append_assoc]

/-- Of the matches for which a supplier is called, the first one brings along what the supplier
hands out. -/
theorem exists_first_of_mem_calls (hi : i ∈ calls context options ledger found) :
    ∃ before m after, found = before ++ m :: after ∧ m.enters context = true ∧
      m.descriptor.supplier = some i ∧
      (∀ m' ∈ before, m'.enters context → m'.descriptor.supplier ≠ some i) ∧
      ∀ x, suppliers i = .ok x → ∃ front back,
        (final context options suppliers ledger found).artifacts =
          front ++ (x.artifactsOf m.owners).filter (keeps options) ++ back := by
  obtain ⟨hexpand, hledger, hrefers⟩ := mem_calls_iff.1 hi
  obtain ⟨before, m, after, hfound, henters, hs, hfirst⟩ := exists_first hrefers
  refine ⟨before, m, after, hfound, henters, hs, hfirst, fun x hx => ?_⟩
  rw [hfound]
  exact exists_inventory hexpand hledger henters hs hfirst hx

/-- A supplier that is called and does not fail has its inventory in that of the scan, but for what
is removed. -/
theorem exists_carriedOver {x : Expansion} (hi : i ∈ calls context options ledger found)
    (hx : suppliers i = .ok x) :
    ∃ front block back, (final context options suppliers ledger found).artifacts =
      front ++ block ++ back ∧
      List.Forall₂ Artifact.CarriedOver (x.artifacts.filter (keeps options)) block := by
  obtain ⟨-, m, -, -, -, -, -, hinventory⟩ := exists_first_of_mem_calls hi
  obtain ⟨front, back, hartifacts⟩ := hinventory x hx
  refine ⟨front, _, back, hartifacts, ?_⟩
  have hentered : List.Forall₂ Artifact.CarriedOver x.artifacts (x.artifactsOf m.owners) := by
    rw [Expansion.artifactsOf_eq_map_entered, List.forall₂_map_right_iff, List.forall₂_same]
    exact fun b _ => x.carriedOver_entered m.owners b
  -- an artifact enters as absorbed as it comes
  refine List.rel_filter (fun b e hcarried => ?_) hentered
  rw [hcarried.rest]
  rfl

end Outcome

namespace Absorbed

/-- When an absorption is over, what a supplier has handed out in it stands together in the
inventory, each artifact with everything it came with. Where absorbed artifacts are removed, those
that came absorbed are missing, and no absorbed artifact is left. -/
theorem ofMatches_keeps_supplied (found : List AnchorMatch) (context : ScanContext)
    (options : AbsorptionOptions) (suppliers : Suppliers) (ledger : Ledger) (a : Absorbed)
    (h : ofMatches found context options suppliers ledger = .ok a) :
    (∀ i ∈ a.calls, ∀ x, suppliers i = .ok x →
      ∃ front block back, a.context.artifacts = front ++ block ++ back ∧
        List.Forall₂ Artifact.CarriedOver
          (x.artifacts.filter fun b => !(options.purgeAbsorbed && b.absorbed)) block) ∧
    (options.purgeAbsorbed = true → ∀ e ∈ a.context.artifacts, e.absorbed = false) := by
  obtain ⟨hcalls, -⟩ := Outcome.account_ofMatches h
  rw [hcalls, Outcome.context_ofMatches h]
  refine ⟨fun i hi x hx => Outcome.exists_carriedOver hi hx, fun hpurge e he => ?_⟩
  rw [Outcome.artifacts_of_purge hpurge] at he
  simpa using (List.mem_filter.1 he).2

/-- A supplier that hands out a file with a marker for the component that brings it along, and an
artifact that comes absorbed. -/
theorem ofMatches_keeps_supplied_marked :
    let owner : AnchorMatch :=
      { descriptor := { name := "app", version := "1", part := "app-1", includes := "app/**"
                        supplier := some 7 }
        path := some "app/pkg", checksum := "*", scanRoot := "/scan", ownership := ⟨"", "app"⟩
        assetIdChain := ["AID-image"], rootPaths := .empty }
    let context : ScanContext := .ofScanned "/scan" [{ path := "app/a" }, { path := "b" }] []
    let dep : Artifact :=
      { id := "dep", kind := .file, version := some "2", checksum := some "ab", path := some "app/a"
        markers := .ofList [("AID-app-1", .developmentDependency)] }
    let old : Artifact := { id := "old", kind := .file, absorbed := true }
    let suppliers : Suppliers := fun _ => .ok { artifacts := [old, dep] }
    ∃ a, ofMatches [owner] context {} suppliers {} = .ok a ∧ 7 ∈ a.calls ∧
      (∃ front e back, a.context.artifacts = front ++ [e] ++ back ∧ dep.CarriedOver e) ∧
      ∀ e ∈ a.context.artifacts, e.absorbed = false := by
  intro owner context dep old suppliers
  have hcalls : (ofMatches [owner] context {} suppliers {}).toOption.map (·.calls) = some [7] := by
    decide +kernel
  obtain ⟨a, h, hcalls⟩ := toOption_map_eq_some_iff.1 hcalls
  have hcalled : 7 ∈ a.calls := by simp [hcalls]
  obtain ⟨hkept, hpurged⟩ := ofMatches_keeps_supplied [owner] context {} suppliers {} a h
  obtain ⟨front, block, back, hartifacts, hblock⟩ := hkept 7 hcalled _ rfl
  have hblock : List.Forall₂ Artifact.CarriedOver [dep] block := hblock
  obtain ⟨e, rest, he, hrest, rfl⟩ := List.forall₂_cons_left_iff.1 hblock
  obtain rfl := List.forall₂_nil_left_iff.1 hrest
  exact ⟨a, h, hcalled, ⟨front, e, back, hartifacts, he⟩, hpurged rfl⟩

/-- What a supplier hands out absorbed is not in the inventory in the end. -/
theorem ofMatches_removes_supplied :
    let owner : AnchorMatch :=
      { descriptor := { name := "app", version := "1", part := "app-1", includes := "app/**"
                        supplier := some 7 }
        path := some "app/pkg", checksum := "*", scanRoot := "/scan", ownership := ⟨"", "app"⟩
        assetIdChain := [], rootPaths := .empty }
    let context : ScanContext := .ofScanned "/scan" [{ path := "app/a" }] []
    let old : Artifact := { id := "old", kind := .file, absorbed := true }
    let suppliers : Suppliers := fun _ => .ok { artifacts := [old] }
    ∃ a, ofMatches [owner] context {} suppliers {} = .ok a ∧ 7 ∈ a.calls ∧
      (∃ x, suppliers 7 = .ok x ∧ old ∈ x.artifacts) ∧
      ∀ e ∈ a.context.artifacts, e.id ≠ old.id := by
  intro owner context old suppliers
  have hleft : (ofMatches [owner] context {} suppliers {}).toOption.map
      (fun a => (a.calls, a.context.artifacts.map (·.id))) = some ([7], ["app-1"]) := by
    decide +kernel
  obtain ⟨a, h, hleft⟩ := toOption_map_eq_some_iff.1 hleft
  obtain ⟨hcalls, hids⟩ := Prod.mk.inj hleft
  refine ⟨a, h, by simp [hcalls], ⟨_, rfl, List.mem_singleton_self _⟩, fun e he => ?_⟩
  have hid : e.id ∈ a.context.artifacts.map (·.id) := List.mem_map_of_mem he
  rw [hids, List.mem_singleton] at hid
  rw [hid]
  decide

end Absorbed

end ComponentScan
