import ComponentScan.Proofs.Absorption.Order
import ComponentScan.Proofs.Engine.Passes

/-!
# Passes over an inventory in another order

Two sessions are alike when their inventories agree up to their order, and they hold the same
descriptors, of which none refers to a supplier. A pass leads from sessions that are alike to
sessions that are alike, with one result (`Session.absorb_alike`).
-/

namespace ComponentScan

/-! ## Matching -/

namespace AnchorMatch

variable {context context' : ScanContext} {d : Descriptor} {found : List AnchorMatch}

theorem candidates_alike (h : context.Alike context') :
    (candidates context).Perm (candidates context') :=
  (h.artifacts.filter _).filterMap _

/-- The match at a file depends on the scan through its place and the assets around it. -/
theorem placeless_at? (h : context.assetIdChain = context'.assetIdChain) (d : Descriptor)
    (p : AnchorPattern) (count : Nat) (expected : String) (c : Candidate) :
    (at? context d p count expected c).map placeless =
      (at? context' d p count expected c).map placeless := by
  rw [at?, at?, h]
  split
  · rw [Option.map_map, Option.map_map]
    rfl
  · rfl

theorem ofDescriptor_alike (h : context.Alike context')
    (hfound : ofDescriptor context (candidates context) d = .ok found) :
    ∃ found', ofDescriptor context' (candidates context') d = .ok found' ∧ Alike found found' := by
  obtain ⟨⟨anchor, expected⟩, hcheck, hfound⟩ := bind_eq_ok_iff.1 hfound
  dsimp only at hfound
  split at hfound
  · rename_i hroot
    obtain rfl := Except.ok.inj hfound
    refine ⟨[whole context' d], ?_, ?_⟩
    · rw [ofDescriptor, hcheck]
      exact if_pos hroot
    · rw [Alike, List.map_singleton, List.map_singleton, whole, whole, h.assetIdChain]
      exact .refl _
  · rename_i hroot
    obtain ⟨p, hp, hfound⟩ := bind_eq_ok_iff.1 hfound
    obtain rfl := Except.ok.inj hfound
    refine ⟨(candidates context').filterMap
      (at? context' d p (Ownership.segmentCount (Path.normalize anchor)) expected), ?_, ?_⟩
    · rw [ofDescriptor, hcheck]
      refine (if_neg hroot).trans ?_
      rw [hp]
      rfl
    · rw [Alike, List.map_filterMap, List.map_filterMap]
      simp only [placeless_at? h.assetIdChain]
      exact (candidates_alike h).filterMap _

theorem flatten_alike {ds : List Descriptor} {lists : List (List AnchorMatch)}
    (h : context.Alike context')
    (hlists : List.Forall₂
      (fun d l => ofDescriptor context (candidates context) d = .ok l) ds lists) :
    ∃ lists', List.Forall₂
      (fun d l => ofDescriptor context' (candidates context') d = .ok l) ds lists' ∧
      Alike lists.flatten lists'.flatten := by
  induction hlists with
  | nil => exact ⟨[], .nil, .refl _⟩
  | cons hd _ ih =>
    obtain ⟨l', hl', halike⟩ := ofDescriptor_alike h hd
    obtain ⟨lists', hlists', hrest⟩ := ih
    exact ⟨l' :: lists', .cons hl' hlists', halike.append hrest⟩

/-- In inventories that agree up to their order, matching finds matches that do. -/
theorem all_alike {descriptors : List Descriptor} {mode : Mode} (h : context.Alike context')
    (hfound : all descriptors context mode = .ok found) :
    ∃ found', all descriptors context' mode = .ok found' ∧ Alike found found' := by
  obtain ⟨lists, hlists, hfound⟩ := bind_eq_ok_iff.1 hfound
  obtain rfl : lists.flatten = found := Except.ok.inj hfound
  obtain ⟨lists', hlists', halike⟩ := flatten_alike h (mapM_eq_ok_iff.1 hlists)
  exact ⟨_, bind_eq_ok_iff.2 ⟨lists', mapM_eq_ok_iff.2 hlists', rfl⟩, halike⟩

end AnchorMatch

/-! ## Passes -/

namespace Session

/-- Sessions whose inventories agree up to their order, and whose descriptors are the same and
refer to no supplier. -/
structure Alike (s s' : Session) : Prop where
  settings : s.engine.settings = s'.engine.settings
  store : s.store = s'.store
  unsupplied : ∀ d ∈ s.store.descriptors, d.supplier = none
  context : s.context.Alike s'.context

variable {s s' : Session} {mode : Mode}

theorem Alike.options_eq (h : s.Alike s') : s.options = s'.options := by
  rw [options, options, h.settings]

/-- A pass that finds its matches succeeds. -/
theorem exists_pass {found : List AnchorMatch} (h : s.sightings mode = .ok found)
    (suppliers : Suppliers) :
    ∃ summary, (s.absorb suppliers mode).1 = .ok summary ∧
      Pass s suppliers mode found summary (s.absorb suppliers mode).2 := by
  cases hresult : (s.absorb suppliers mode).1 with
  | error e =>
    rw [absorb_eq_error_iff, h] at hresult
    cases hresult
  | ok summary =>
    obtain ⟨found', hpass⟩ := absorb_pass (Prod.ext hresult rfl)
    obtain rfl : found = found' := Except.ok.inj (h.symm.trans hpass.sightings)
    exact ⟨summary, rfl, hpass⟩

/-- A pass over inventories that agree up to their order has one result, and leaves inventories that
do. -/
theorem absorb_alike (h : s.Alike s') (suppliers : Suppliers) (mode : Mode) :
    (s.absorb suppliers mode).1 = (s'.absorb suppliers mode).1 ∧
      (s.absorb suppliers mode).2.Alike (s'.absorb suppliers mode).2 := by
  cases hfound : s.sightings mode with
  | error e =>
    -- whether matching fails is decided by the descriptors alone
    have hfound' : s'.sightings mode = .error e := by
      rw [sightings, ← h.store]
      exact AnchorMatch.all_eq_error_iff.2 (AnchorMatch.all_eq_error_iff.1 hfound)
    have hresult := (absorb_eq_error_iff suppliers).2 hfound
    have hresult' := (absorb_eq_error_iff suppliers).2 hfound'
    rw [hresult, hresult', absorb_of_error hresult, absorb_of_error hresult']
    exact ⟨rfl, h.settings, h.store, h.unsupplied, h.context⟩
  | ok found =>
    obtain ⟨found', hfound', halike⟩ := AnchorMatch.all_alike h.context hfound
    rw [h.store] at hfound'
    obtain ⟨summary, hresult, hpass⟩ := exists_pass hfound suppliers
    obtain ⟨summary', hresult', hpass'⟩ := exists_pass hfound' suppliers
    have hsupplier := supplier_of_sightings h.unsupplied hfound
    have hsupplier' := supplier_of_sightings (h.store ▸ h.unsupplied) hfound'
    constructor
    · rw [hresult, hresult', hpass.summary_eq, hpass'.summary_eq, h.options_eq,
        Outcome.summary_alike h.context halike hsupplier hsupplier']
    · constructor
      · rw [hpass.settings, hpass'.settings, h.settings]
      · rw [hpass.store, hpass'.store, h.store]
      · rw [hpass.store]
        exact h.unsupplied
      · rw [hpass.context, hpass'.context, h.options_eq]
        exact Outcome.final_alike h.context halike hsupplier hsupplier'

theorem absorbDeferred_alike (h : s.Alike s') (suppliers : Suppliers) :
    (s.absorbDeferred suppliers).1 = (s'.absorbDeferred suppliers).1 ∧
      (s.absorbDeferred suppliers).2.Alike (s'.absorbDeferred suppliers).2 := by
  rw [absorbDeferred, absorbDeferred, h.settings]
  split
  · obtain ⟨hresult, halike⟩ := absorb_alike h suppliers .deferred
    exact ⟨congrArg (Except.map some) hresult, halike⟩
  · exact ⟨rfl, h⟩

end Session

end ComponentScan
