import ComponentScan.Proofs.Absorption.Unsupplied
import Mathlib.Data.List.Perm.Basic

/-!
# The order of an inventory

An absorption without suppliers treats every artifact and every match on its own. So from
inventories that agree up to their order, and matches that agree up to their order and up to where
the scan took place, it leaves inventories that agree up to their order, with one summary
(`Outcome.final_alike`, `Outcome.summary_alike`).
-/

namespace ComponentScan

/-! ## Maps -/

namespace StringMap

variable {β : Type} {m n : StringMap β}

theorem mem_entries_iff {key : String} {value : β} :
    (key, value) ∈ m.entries ↔ m.get? key = some value := by
  rw [get?, List.lookup_eq_some_iff]
  constructor
  · intro h
    obtain ⟨before, after, hentries⟩ := List.append_of_mem h
    refine ⟨before, after, hentries, fun e he => ?_⟩
    have hascending := m.ascending
    rw [hentries, Ascending, List.pairwise_append] at hascending
    have hlt : e.1 < key := hascending.2.2 e he (key, value) (by simp)
    have hne : key ≠ e.1 := fun h => String.lt_irrefl key (h ▸ hlt)
    simpa using hne
  · rintro ⟨before, after, hentries, -⟩
    simp [hentries]

theorem nodup_entries (m : StringMap β) : m.entries.Nodup := by
  refine List.Pairwise.imp ?_ m.ascending
  rintro a b hlt rfl
  exact String.lt_irrefl a.1 hlt

/-- A map is determined by its view. -/
theorem ext_get? (h : ∀ key, m.get? key = n.get? key) : m = n := by
  have hperm : m.entries.Perm n.entries := by
    rw [List.perm_ext_iff_of_nodup m.nodup_entries n.nodup_entries]
    rintro ⟨key, value⟩
    rw [mem_entries_iff, mem_entries_iff, h]
  have hentries : m.entries = n.entries :=
    hperm.eq_of_pairwise (fun a b _ _ hab hba => (String.lt_asymm hab hba).elim) m.ascending
      n.ascending
  cases m
  cases n
  congr

theorem putNewAll_perm {keys keys' : List String} (h : keys.Perm keys') (m : StringMap β)
    (value : β) : m.putNewAll keys value = m.putNewAll keys' value := by
  refine ext_get? fun key => ?_
  rw [get?_putNewAll, get?_putNewAll]
  simp only [h.mem_iff]

end StringMap

/-! ## Matches -/

namespace AnchorMatch

/-- The match, wherever the scan took place. -/
def placeless (m : AnchorMatch) : AnchorMatch :=
  { m with scanRoot := "" }

/-- The matches of two scans, when they agree up to their order and the places of the scans. -/
def Alike (found found' : List AnchorMatch) : Prop :=
  (found.map placeless).Perm (found'.map placeless)

namespace Alike

variable {found found' : List AnchorMatch}

/-- What does not look at the place of the scan takes the same values, up to their order. -/
theorem map {β : Type} (h : Alike found found') {f : AnchorMatch → β}
    (hf : ∀ m, f m.placeless = f m) : (found.map f).Perm (found'.map f) := by
  have hcomp : f ∘ placeless = f := funext hf
  have hperm := List.Perm.map f h
  rwa [List.map_map, List.map_map, hcomp] at hperm

theorem filter (h : Alike found found') {p : AnchorMatch → Bool}
    (hp : ∀ m, p m.placeless = p m) : Alike (found.filter p) (found'.filter p) := by
  have hcomp : p ∘ placeless = p := funext hp
  have hperm := List.Perm.filter p h
  rwa [List.filter_map, List.filter_map, hcomp] at hperm

theorem append {more more' : List AnchorMatch} (h : Alike found found')
    (hmore : Alike more more') : Alike (found ++ more) (found' ++ more') := by
  rw [Alike, List.map_append, List.map_append]
  exact List.Perm.append h hmore

theorem length_eq (h : Alike found found') : found.length = found'.length := by
  simpa using List.Perm.length_eq h

theorem countP_eq (h : Alike found found') {p : AnchorMatch → Bool}
    (hp : ∀ m, p m.placeless = p m) : found.countP p = found'.countP p := by
  rw [List.countP_eq_length_filter, List.countP_eq_length_filter, (h.filter hp).length_eq]

end Alike

end AnchorMatch

/-! ## Contexts -/

/-- The inventories of two scans, when they agree up to their order. -/
structure ScanContext.Alike (c c' : ScanContext) : Prop where
  artifacts : c.artifacts.Perm c'.artifacts
  assetIdChain : c.assetIdChain = c'.assetIdChain

namespace Outcome

variable {context context' : ScanContext} {options : AbsorptionOptions} {suppliers : Suppliers}
  {ledger ledger' : Ledger} {found found' : List AnchorMatch}

/-- What becomes of an artifact does not depend on the order of the matches. -/
theorem settle_alike (h : AnchorMatch.Alike found found') : settle found = settle found' := by
  funext a
  have hcovering := h.filter (p := (·.covers a)) fun _ => rfl
  have hempty : (found.filter (·.covers a)).isEmpty = (found'.filter (·.covers a)).isEmpty := by
    simpa using List.Perm.isEmpty_eq hcovering
  have howners : ((found.filter (·.covers a)).flatMap (·.owners)).Perm
      ((found'.filter (·.covers a)).flatMap (·.owners)) :=
    (hcovering.map (f := (·.owners)) fun _ => rfl).flatten
  rw [settle, settle, hempty, StringMap.putNewAll_perm howners]

theorem enters_alike (h : context.Alike context') :
    AnchorMatch.enters context = AnchorMatch.enters context' := by
  funext m
  rw [AnchorMatch.enters, AnchorMatch.enters, h.artifacts.any_eq]

/-- The inventories after an absorption agree, before absorbed artifacts are removed. -/
theorem unpurged_alike (hcontext : context.Alike context') (h : AnchorMatch.Alike found found')
    (hsupplier : ∀ m ∈ found, m.descriptor.supplier = none)
    (hsupplier' : ∀ m ∈ found', m.descriptor.supplier = none) :
    (unpurged context options suppliers ledger found).Perm
      (unpurged context' options suppliers ledger' found') := by
  have hentered : AnchorMatch.Alike (found.filter (·.enters context))
      (found'.filter (·.enters context')) := by
    rw [enters_alike hcontext]
    exact h.filter fun _ => rfl
  rw [unpurged_of_unsupplied hsupplier, unpurged_of_unsupplied hsupplier', settle_alike h]
  exact (hcontext.artifacts.map _).append (hentered.map fun _ => rfl)

theorem final_alike (hcontext : context.Alike context') (h : AnchorMatch.Alike found found')
    (hsupplier : ∀ m ∈ found, m.descriptor.supplier = none)
    (hsupplier' : ∀ m ∈ found', m.descriptor.supplier = none) :
    (final context options suppliers ledger found).Alike
      (final context' options suppliers ledger' found') where
  artifacts := by
    rw [artifacts_final, artifacts_final]
    exact (unpurged_alike hcontext h hsupplier hsupplier').filter _
  assetIdChain := hcontext.assetIdChain

theorem summary_alike (hcontext : context.Alike context') (h : AnchorMatch.Alike found found')
    (hsupplier : ∀ m ∈ found, m.descriptor.supplier = none)
    (hsupplier' : ∀ m ∈ found', m.descriptor.supplier = none) :
    summary context options suppliers ledger found =
      summary context' options suppliers ledger' found' := by
  have hdropped : found.countP (!·.enters context) = found'.countP (!·.enters context') := by
    rw [enters_alike hcontext]
    exact h.countP_eq fun _ => rfl
  have hcomponents : found.countP (·.enters context) = found'.countP (·.enters context') := by
    rw [enters_alike hcontext]
    exact h.countP_eq fun _ => rfl
  have hcovered : (covered context found).Perm (covered context' found') :=
    (List.Perm.flatMap_left found fun m _ => hcontext.artifacts.filter m.covers).trans
      (h.map fun _ => rfl).flatten
  have hunpurged : (unpurged context options suppliers ledger found).Perm
      (unpurged context' options suppliers ledger' found') :=
    unpurged_alike hcontext h hsupplier hsupplier'
  rw [summary, summary, h.length_eq, hdropped, hcovered.length_eq, hcomponents,
    calls_of_unsupplied hsupplier, calls_of_unsupplied hsupplier', hunpurged.countP_eq]

end Outcome

end ComponentScan
