import ComponentScan.Proofs.Extraction.Deduplication

/-!
# Extracting again

After an extraction the store holds the qualifier of everything that was found with a known version
(`holds_run`). An extraction into such a store takes nothing and counts as duplicates what another
store would have taken (`run_of_holds`). So of two extractions into one store the second changes
nothing (`run_again`).
-/

namespace ComponentScan

namespace DescriptorStore

variable {s : DescriptorStore} {ds : List Descriptor}

/-- The store has accepted the qualifier of each descriptor whose version is known. -/
def Holds (s : DescriptorStore) (ds : List Descriptor) : Prop :=
  ∀ d ∈ ds, d.isUnspecific = false → s.contains d.qualifier = true

/-- What was accepted once stays. -/
theorem contains_append {qualifier : String} (h : s.contains qualifier = true)
    (ds : List Descriptor) : contains ⟨s.descriptors ++ ds⟩ qualifier = true := by
  obtain ⟨e, he, hqualifier⟩ := contains_iff.1 h
  exact contains_iff.2 ⟨e, List.mem_append_left ds he, hqualifier⟩

/-- A store that takes the new descriptors of a list holds the list. -/
theorem holds_newcomers (s : DescriptorStore) (ds : List Descriptor) :
    Holds ⟨s.descriptors ++ s.newcomers ds⟩ ds := by
  induction ds generalizing s with
  | nil => exact fun _ hd => nomatch hd
  | cons e ds ih =>
    intro d hd hversion
    by_cases he : e.isUnspecific = true
    · -- `e` is left out, so it is not `d`
      rcases List.mem_cons.1 hd with rfl | hd
      · rw [he] at hversion
        cases hversion
      · rw [newcomers_cons_of_unspecific he]
        exact ih s d hd hversion
    · by_cases hnew : s.contains e.qualifier = true
      · rcases List.mem_cons.1 hd with rfl | hd
        · exact contains_append hnew _
        · rw [newcomers_cons_of_contains hnew]
          exact ih s d hd hversion
      · rw [newcomers_cons_of_new he hnew]
        rcases List.mem_cons.1 hd with rfl | hd
        · exact contains_iff.2 ⟨d, by simp, rfl⟩
        · have h := ih ⟨s.descriptors ++ [e]⟩ d hd hversion
          rwa [List.append_assoc, List.singleton_append] at h

/-- A store takes nothing of a list exactly if it holds the list. -/
theorem newcomers_eq_nil_iff : s.newcomers ds = [] ↔ s.Holds ds := by
  constructor
  · intro h
    have hholds := holds_newcomers s ds
    rwa [h, List.append_nil] at hholds
  · intro h
    have hnone : (ds.filter fun d => !d.isUnspecific && !s.contains d.qualifier) = [] := by
      rw [List.filter_eq_nil_iff]
      intro d hd hnew
      rw [Bool.and_eq_true, Bool.not_eq_true', Bool.not_eq_true'] at hnew
      rw [h d hd hnew.1] at hnew
      cases hnew.2
    rw [newcomers, hnone]
    rfl

end DescriptorStore

namespace Extraction

variable {r : Registry} {context : ScanContext} {store : DescriptorStore}

/-- After an extraction the store holds what was found. -/
theorem holds_run (r : Registry) (context : ScanContext) (store : DescriptorStore) :
    (run r context store).store.Holds (found r context (candidates context)) := by
  have hstore : (run r context store).store =
      ⟨store.descriptors ++ store.newcomers (found r context (candidates context))⟩ :=
    congrArg DescriptorStore.mk (run_follows r context store).descriptors
  rw [hstore]
  exact DescriptorStore.holds_newcomers store _

/-- A store that holds what is found in a context stays as it is. What does not count as
unspecific counts as duplicate. -/
theorem run_of_holds (h : store.Holds (found r context (candidates context))) :
    (run r context store).store = store ∧
      (run r context store).summary.accepted = 0 ∧
      (run r context store).summary.duplicate + (run r context store).summary.unspecific =
        (found r context (candidates context)).length := by
  have hrun := run_follows r context store
  have hnone := DescriptorStore.newcomers_eq_nil_iff.2 h
  have haccepted : (run r context store).summary.accepted = 0 := by
    rw [hrun.accepted, hnone, List.length_nil]
  refine ⟨congrArg DescriptorStore.mk ?_, haccepted, ?_⟩
  · rw [hrun.descriptors, hnone, List.append_nil]
  · rw [← hrun.total, haccepted, Nat.zero_add]

/-- A second extraction of a context into the same store leaves the store as it is. It accepts
nothing, counts as duplicates what the first one accepted or counted as duplicates, and repeats
the other numbers. -/
theorem run_again (r : Registry) (context : ScanContext) (store : DescriptorStore) :
    let first := run r context store
    let second := run r context first.store
    second.store = first.store ∧
      second.summary = { first.summary with
        accepted := 0
        duplicate := first.summary.accepted + first.summary.duplicate } := by
  intro first second
  have hfirst := run_follows r context store
  have hsecond := run_follows r context first.store
  obtain ⟨hstore, haccepted, hrest⟩ := run_of_holds (holds_run r context store)
  have hvisited : second.summary.filesVisited = first.summary.filesVisited :=
    hsecond.visited.trans hfirst.visited.symm
  have hfailed : second.summary.filesFailed = first.summary.filesFailed :=
    hsecond.failed.trans hfirst.failed.symm
  have hunspecific : second.summary.unspecific = first.summary.unspecific :=
    hsecond.unspecific.trans hfirst.unspecific.symm
  have hduplicate :
      second.summary.duplicate = first.summary.accepted + first.summary.duplicate := by
    have htotal := hrest.trans hfirst.total.symm
    rw [hfirst.unspecific.trans hsecond.unspecific.symm] at htotal
    exact Nat.add_right_cancel htotal
  exact ⟨hstore, ExtractionSummary.ext hvisited hfailed haccepted hduplicate hunspecific⟩

end Extraction

end ComponentScan
