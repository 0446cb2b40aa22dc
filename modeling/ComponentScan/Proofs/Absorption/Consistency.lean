import ComponentScan.Proofs.Absorption.Simulation

/-!
# Consistent inventories

In a consistent inventory the absorbed artifacts are the files that carry a marker, and every one
of them is contained in a component of the inventory. An absorption keeps this, and it keeps the
artifacts that are no files, unless a supplier hands out artifacts that are absorbed already.
-/

namespace ComponentScan

/-! ## Views -/

theorem StringMap.isEmpty_eq_false_iff {β : Type} {m : StringMap β} :
    m.isEmpty = false ↔ ∃ key value, m.get? key = some value := by
  rw [isEmpty]
  cases h : m.entries with
  | nil => simp [get?, h]
  | cons e rest =>
    obtain ⟨key, value⟩ := e
    exact iff_of_true rfl ⟨key, value, by simp [get?, h]⟩

namespace ScanContext

/-- The artifacts that are no files, in their order. -/
def others (c : ScanContext) : List Artifact :=
  c.artifacts.filter (!·.isFile)

/-- An inventory in which a file is absorbed when it carries a marker, and contained in one of the
components when it is absorbed, and in which nothing else is absorbed. -/
structure Consistent (c : ScanContext) : Prop where
  marked : ∀ a ∈ c.artifacts, a.kind = .file → (a.absorbed = true ↔ a.markers.isEmpty = false)
  contained : ∀ a ∈ c.artifacts, a.kind = .file →
    ∀ id marker, a.markers.get? id = some marker → marker = .contains
  owned : ∀ a ∈ c.artifacts, a.kind = .file → a.absorbed = true →
    ∃ b ∈ c.artifacts, b.kind = .component ∧
      ∃ id, b.assetId = some id ∧ a.markers.get? id = some .contains
  others : ∀ a ∈ c.artifacts, a.kind ≠ .file → a.absorbed = false

/-- A scan that has just found its files is consistent. -/
theorem Consistent.ofScanned (baseDir : String) (files : List ScannedFile) (chain : List String) :
    (ScanContext.ofScanned baseDir files chain).Consistent := by
  have hfile : ∀ a ∈ (ScanContext.ofScanned baseDir files chain).artifacts,
      a.kind = .file ∧ a.absorbed = false ∧ a.markers = .empty := by
    intro a ha
    obtain ⟨f, -, rfl⟩ := List.mem_map.1 ha
    exact ⟨rfl, rfl, rfl⟩
  constructor
  · intro a ha _
    obtain ⟨-, habsorbed, hmarkers⟩ := hfile a ha
    rw [habsorbed, hmarkers]
    decide
  · intro a ha _ id marker h
    rw [(hfile a ha).2.2] at h
    cases h
  · intro a ha _ h
    rw [(hfile a ha).2.1] at h
    cases h
  · intro a ha h
    exact absurd (hfile a ha).1 h

end ScanContext

/-- Suppliers that hand out no artifact that is absorbed already. -/
def Suppliers.HandOutFresh (suppliers : Suppliers) : Prop :=
  ∀ s inventory, suppliers s = .ok inventory → ∀ a ∈ inventory.artifacts, a.absorbed = false

namespace Outcome

variable {context : ScanContext} {options : AbsorptionOptions} {suppliers : Suppliers}
  {ledger : Ledger} {found : List AnchorMatch}

/-! ## Artifacts that were there -/

theorem covers_file {m : AnchorMatch} {a : Artifact} (h : m.covers a = true) : a.kind = .file := by
  rw [AnchorMatch.covers] at h
  split at h
  · assumption
  · cases h

theorem settle_of_not_file {a : Artifact} (h : a.kind ≠ .file) : settle found a = a := by
  have hnone : found.filter (·.covers a) = [] := by
    rw [List.filter_eq_nil_iff]
    exact fun m _ hm => h (covers_file hm)
  rw [settle, hnone]
  simp [StringMap.putNewAll]

theorem settle_absorbed_iff {a : Artifact} :
    (settle found a).absorbed = true ↔ a.absorbed = true ∨ ∃ m ∈ found, m.covers a = true := by
  simp [settle]

/-! ## Artifacts that have entered -/

theorem mem_entrants {earlier : List AnchorMatch} {e : AnchorMatch × Option Expansion}
    (h : e ∈ entrants context options suppliers ledger earlier found) :
    ∀ x, e.2 = some x → ∃ s, suppliers s = .ok x := by
  induction found generalizing earlier with
  | nil => cases h
  | cons m found ih =>
    rw [entrants] at h
    rcases List.mem_append.1 h with h | h
    · split at h
      · obtain rfl := List.mem_singleton.1 h
        intro x hx
        obtain ⟨s, -, hs⟩ := Option.bind_eq_some_iff.1 hx
        split at hs
        · cases ha : suppliers s with
          | ok inventory =>
            rw [ha] at hs
            exact ⟨s, Option.some.inj hs ▸ ha⟩
          | error => simp [ha, Except.toOption] at hs
        · cases hs
      · cases h
    · exact ih h

theorem component_mem_arrivals {earlier : List AnchorMatch} {m : AnchorMatch} (h : m ∈ found)
    (henters : m.enters context = true) :
    m.component ∈ arrivals (entrants context options suppliers ledger earlier found) := by
  induction found generalizing earlier with
  | nil => cases h
  | cons m' found ih =>
    rw [entrants, arrivals, List.flatMap_append, List.mem_append]
    rcases List.mem_cons.1 h with rfl | h
    · rw [if_pos henters]
      exact .inl (by simp)
    · exact .inr (ih h)

/-- What enters is no file, and is not absorbed. -/
theorem mem_arrivals (hfresh : suppliers.HandOutFresh) {a : Artifact}
    (h : a ∈ arrivals (entrants context options suppliers ledger [] found)) :
    a.kind ≠ .file ∧ a.absorbed = false := by
  obtain ⟨e, he, ha⟩ := List.mem_flatMap.1 h
  rcases List.mem_cons.1 ha with rfl | ha
  · exact ⟨by simp [AnchorMatch.component], rfl⟩
  · cases hx : e.2 with
    | none => simp [hx] at ha
    | some x =>
      rw [hx, Option.elim_some, Expansion.artifactsOf] at ha
      obtain ⟨b, hb, rfl⟩ := List.mem_map.1 ha
      obtain ⟨s, hs⟩ := mem_entrants he x hx
      have hb := hfresh s x hs b hb
      split
      · exact ⟨by simp, hb⟩
      · exact ⟨by simp [Artifact.markAll], hb⟩

/-! ## The whole inventory -/

/-- An artifact that is not absorbed is there afterwards. -/
theorem mem_final_of_mem {a : Artifact}
    (h : a ∈ context.artifacts.map (settle found) ++
      arrivals (entrants context options suppliers ledger [] found))
    (habsorbed : a.absorbed = false) :
    a ∈ (final context options suppliers ledger found).artifacts := by
  rw [final]
  dsimp only
  split
  · exact List.mem_filter.2 ⟨h, by simp [habsorbed]⟩
  · exact h

theorem mem_of_mem_final {a : Artifact}
    (h : a ∈ (final context options suppliers ledger found).artifacts) :
    (∃ b ∈ context.artifacts, settle found b = a) ∨
      a ∈ arrivals (entrants context options suppliers ledger [] found) := by
  have hall : a ∈ context.artifacts.map (settle found) ++
      arrivals (entrants context options suppliers ledger [] found) := by
    rw [final] at h
    dsimp only at h
    split at h
    · exact (List.mem_filter.1 h).1
    · exact h
  rw [List.mem_append, List.mem_map] at hall
  exact hall

/-- Artifacts that are no files stay, and more of them follow. -/
theorem others_final (h : context.Consistent) (hfresh : suppliers.HandOutFresh) :
    (final context options suppliers ledger found).others =
      context.others ++ arrivals (entrants context options suppliers ledger [] found) := by
  have harrivals : ∀ a ∈ arrivals (entrants context options suppliers ledger [] found),
      (!a.isFile) = true ∧ (!a.absorbed) = true := by
    intro a ha
    obtain ⟨hkind, habsorbed⟩ := mem_arrivals hfresh ha
    exact ⟨by simpa [Artifact.isFile] using hkind, by simp [habsorbed]⟩
  -- settling changes files only
  have hstay : (context.artifacts.map (settle found)).filter (!·.isFile) = context.others := by
    rw [ScanContext.others, List.filter_map]
    have hpred : (fun a : Artifact => !a.isFile) ∘ settle found = fun a => !a.isFile := rfl
    rw [hpred, List.map_congr_left (g := id), List.map_id]
    intro a ha
    have hkind : a.kind ≠ .file := by simpa [Artifact.isFile] using (List.mem_filter.1 ha).2
    exact settle_of_not_file hkind
  have hall : (context.artifacts.map (settle found) ++
      arrivals (entrants context options suppliers ledger [] found)).filter (!·.isFile) =
      context.others ++ arrivals (entrants context options suppliers ledger [] found) := by
    rw [List.filter_append, hstay, List.filter_eq_self.2 fun a ha => (harrivals a ha).1]
  rw [ScanContext.others, final]
  dsimp only
  split
  · -- purging takes away files only
    rw [List.filter_filter]
    simp only [Bool.and_comm (!Artifact.isFile _)]
    rw [← List.filter_filter, hall, List.filter_eq_self]
    intro a ha
    rcases List.mem_append.1 ha with ha | ha
    · obtain ⟨hmem, hkind⟩ := List.mem_filter.1 ha
      have hkind : a.kind ≠ .file := by simpa [Artifact.isFile] using hkind
      simp [h.others a hmem hkind]
    · exact (harrivals a ha).2
  · exact hall

/-! ## The files -/

/-- A match that covers a file marks it. -/
theorem exists_marker {a : Artifact} {m : AnchorMatch} (hm : m ∈ found)
    (hcovers : m.covers a = true) :
    ∃ marker, (settle found a).markers.get? m.assetId = some marker := by
  have howner : ∃ m' ∈ found, m'.covers a = true ∧ m.assetId ∈ m'.owners :=
    ⟨m, hm, hcovers, by simp [AnchorMatch.owners]⟩
  rw [get?_settle, if_pos howner]
  cases a.markers.get? m.assetId with
  | none => exact ⟨_, rfl⟩
  | some marker => exact ⟨marker, rfl⟩

/-- A marker was there before, or comes from a match that covers the file. -/
theorem of_get?_settle {a : Artifact} {id : String} {marker : AssetMarker}
    (h : (settle found a).markers.get? id = some marker) :
    a.markers.get? id = some marker ∨
      (∃ m ∈ found, m.covers a = true) ∧ marker = .contains := by
  rw [get?_settle, Option.or_eq_some_iff] at h
  rcases h with h | ⟨-, h⟩
  · exact .inl h
  · split at h
    · rename_i hcovering
      obtain ⟨m, hm, hcovers, -⟩ := hcovering
      exact .inr ⟨⟨m, hm, hcovers⟩, (Option.some.inj h).symm⟩
    · cases h

theorem contained_settle (h : context.Consistent) {a : Artifact} (ha : a ∈ context.artifacts)
    (hkind : a.kind = .file) {id : String} {marker : AssetMarker}
    (hm : (settle found a).markers.get? id = some marker) : marker = .contains := by
  rcases of_get?_settle hm with hm | ⟨-, hm⟩
  · exact h.contained a ha hkind id marker hm
  · exact hm

theorem marked_settle (h : context.Consistent) {a : Artifact} (ha : a ∈ context.artifacts)
    (hkind : a.kind = .file) :
    (settle found a).absorbed = true ↔ (settle found a).markers.isEmpty = false := by
  rw [settle_absorbed_iff, StringMap.isEmpty_eq_false_iff, h.marked a ha hkind,
    StringMap.isEmpty_eq_false_iff]
  constructor
  · rintro (⟨id, marker, hm⟩ | ⟨m, hm, hcovers⟩)
    · exact ⟨id, marker, by rw [get?_settle, hm]; rfl⟩
    · exact ⟨m.assetId, exists_marker hm hcovers⟩
  · rintro ⟨id, marker, hm⟩
    rcases of_get?_settle hm with hm | ⟨hcovering, -⟩
    · exact .inl ⟨id, marker, hm⟩
    · exact .inr hcovering

/-- A file that is absorbed afterwards is contained in a component that is there afterwards. -/
theorem owned_settle (h : context.Consistent) {a : Artifact} (ha : a ∈ context.artifacts)
    (hkind : a.kind = .file) (habsorbed : (settle found a).absorbed = true) :
    ∃ b ∈ (final context options suppliers ledger found).artifacts, b.kind = .component ∧
      ∃ id, b.assetId = some id ∧ (settle found a).markers.get? id = some .contains := by
  rcases settle_absorbed_iff.1 habsorbed with habsorbed | ⟨m, hm, hcovers⟩
  · -- it was absorbed before, and its component has stayed
    obtain ⟨b, hb, hcomponent, id, hid, hmarker⟩ := h.owned a ha hkind habsorbed
    have hother : b.kind ≠ .file := by simp [hcomponent]
    refine ⟨b, mem_final_of_mem ?_ (h.others b hb hother), hcomponent, id, hid, ?_⟩
    · exact List.mem_append_left _ (List.mem_map.2 ⟨b, hb, settle_of_not_file hother⟩)
    · rw [get?_settle, hmarker]
      rfl
  · -- it is covered now, and the component that covers it has entered
    have henters : m.enters context = true := by
      rw [AnchorMatch.enters, Bool.or_eq_true, List.any_eq_true]
      exact .inl ⟨a, ha, hcovers⟩
    obtain ⟨marker, hmarker⟩ := exists_marker hm hcovers
    refine ⟨m.component, mem_final_of_mem ?_ rfl, rfl, m.assetId, rfl, ?_⟩
    · exact List.mem_append_right _ (component_mem_arrivals hm henters)
    · rw [hmarker, contained_settle h ha hkind hmarker]

/-- An absorption leaves a consistent inventory consistent. -/
theorem consistent_final (h : context.Consistent) (hfresh : suppliers.HandOutFresh) :
    (final context options suppliers ledger found).Consistent := by
  have hfile {a : Artifact} (ha : a ∈ (final context options suppliers ledger found).artifacts)
      (hkind : a.kind = .file) : ∃ b ∈ context.artifacts, settle found b = a := by
    rcases mem_of_mem_final ha with hb | ha
    · exact hb
    · exact absurd hkind (mem_arrivals hfresh ha).1
  constructor
  · intro a ha hkind
    obtain ⟨b, hb, rfl⟩ := hfile ha hkind
    exact marked_settle h hb hkind
  · intro a ha hkind id marker hm
    obtain ⟨b, hb, rfl⟩ := hfile ha hkind
    exact contained_settle h hb hkind hm
  · intro a ha hkind habsorbed
    obtain ⟨b, hb, rfl⟩ := hfile ha hkind
    exact owned_settle h hb hkind habsorbed
  · intro a ha hkind
    rcases mem_of_mem_final ha with ⟨b, hb, rfl⟩ | ha
    · have hother : b.kind ≠ .file := hkind
      rw [settle_of_not_file hother]
      exact h.others b hb hother
    · exact (mem_arrivals hfresh ha).2

end Outcome

end ComponentScan
