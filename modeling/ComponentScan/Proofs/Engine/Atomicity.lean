import ComponentScan.Engine.Session
import ComponentScan.Proofs.Absorption.Simulation
import ComponentScan.Proofs.Anchor.Sightings

/-!
# Passes that fail

A pass fails on a descriptor that does not pass its check, and on nothing else: an anchor that
passed compiles once it is normalized, and so do the glob lists of every match. As all matches are
prepared before the first is applied, a pass that fails leaves no trace but what is reported.
-/

namespace ComponentScan

/-! ## Matching -/

namespace AnchorMatch

variable {context : ScanContext} {d : Descriptor} {e : EngineError}

theorem ofDescriptor_of_root {r : String × String} (h : d.check = .ok r)
    (hroot : d.hasRootAnchor = true) (context : ScanContext) (cs : List Candidate) :
    ofDescriptor context cs d = .ok [whole context d] := by
  simp only [ofDescriptor, h, bind, Except.bind, hroot, if_true]
  rfl

theorem ofDescriptor_of_notRoot {r : String × String} (h : d.check = .ok r)
    (hroot : d.hasRootAnchor = false) (context : ScanContext) (cs : List Candidate) :
    ∃ p, AnchorPattern.compile (Path.normalize r.1) = .ok p ∧
      ofDescriptor context cs d = .ok (cs.filterMap
        (at? context d p (Ownership.segmentCount (Path.normalize r.1)) r.2)) := by
  obtain ⟨p, hp⟩ := (Descriptor.check_eq_ok_iff.1 h).1.exists_compile
  refine ⟨p, hp, ?_⟩
  simp only [ofDescriptor, h, bind, Except.bind, hroot, hp]
  rfl

/-- A descriptor that passes its check can be matched against any files, and all its matches are
its own. -/
theorem ofDescriptor_ok {r : String × String} (h : d.check = .ok r) (context : ScanContext)
    (cs : List Candidate) :
    ∃ found, ofDescriptor context cs d = .ok found ∧ ∀ m ∈ found, m.descriptor = d := by
  cases hroot : d.hasRootAnchor with
  | true =>
    exact ⟨_, ofDescriptor_of_root h hroot context cs, fun m hm => List.mem_singleton.1 hm ▸ rfl⟩
  | false =>
    obtain ⟨p, -, hfound⟩ := ofDescriptor_of_notRoot h hroot context cs
    refine ⟨_, hfound, fun m hm => ?_⟩
    obtain ⟨c, -, hc⟩ := List.mem_filterMap.1 hm
    exact (origin_of_at? hc).1

theorem ofDescriptor_eq_error_iff {cs : List Candidate} :
    ofDescriptor context cs d = .error e ↔ d.Fault e := by
  rw [← Descriptor.check_eq_error_iff]
  cases h : d.check with
  | error e' => simp [ofDescriptor, h, bind, Except.bind]
  | ok r =>
    obtain ⟨found, hfound, -⟩ := ofDescriptor_ok h context cs
    simp [hfound]

/-- Matching fails with the fault of the first invalid descriptor of the mode. -/
theorem all_eq_error_iff {descriptors : List Descriptor} {mode : Mode} :
    all descriptors context mode = .error e ↔
      ∃ before d after, descriptors = before ++ d :: after ∧
        (∀ d' ∈ before, d'.mode = mode → ¬ d'.Invalid) ∧ d.mode = mode ∧ d.Fault e := by
  have hok {d : Descriptor} : (∃ found, ofDescriptor context (candidates context) d = .ok found) ↔
      ¬ d.Invalid := by
    rw [Descriptor.invalid_iff]
    cases h : ofDescriptor context (candidates context) d with
    | ok found =>
      refine iff_of_true ⟨found, rfl⟩ ?_
      rintro ⟨e, he⟩
      rw [ofDescriptor_eq_error_iff.2 he] at h
      cases h
    | error e =>
      exact iff_of_false (by simp) (not_not_intro ⟨e, ofDescriptor_eq_error_iff.1 h⟩)
  rw [all, bind_eq_error_iff, mapM_eq_error_iff]
  simp only [pure, Except.pure, reduceCtorEq, and_false, exists_false, or_false,
    ofDescriptor_eq_error_iff, hok]
  constructor
  · rintro ⟨before, d, after, hd, hbefore, hfault⟩
    obtain ⟨l, l', rfl, rfl, hl⟩ := List.filter_eq_append_iff.1 hd
    obtain ⟨m, m', rfl, hm, hmode, -⟩ := List.filter_eq_cons_iff.1 hl
    refine ⟨l ++ m, d, m', by simp, ?_, by simpa using hmode, hfault⟩
    intro d' hd' hmode'
    rcases List.mem_append.1 hd' with h | h
    · exact hbefore d' (List.mem_filter.2 ⟨h, by simpa using hmode'⟩)
    · exact absurd (by simpa using hmode') (hm d' h)
  · rintro ⟨before, d, after, rfl, hbefore, hmode, hfault⟩
    refine ⟨before.filter (·.mode == mode), d, after.filter (·.mode == mode), ?_, ?_, hfault⟩
    · rw [List.filter_append, List.filter_cons_of_pos (by simpa using hmode)]
    · intro d' hd'
      obtain ⟨hmem, hmode'⟩ := List.mem_filter.1 hd'
      exact hbefore d' hmem (by simpa using hmode')

/-- Matching succeeds when there is no invalid descriptor of the mode, and only then. -/
theorem exists_all_eq_error_iff {descriptors : List Descriptor} {mode : Mode} :
    (∃ e, all descriptors context mode = .error e) ↔
      ∃ d ∈ descriptors, d.mode = mode ∧ d.Invalid := by
  constructor
  · rintro ⟨e, he⟩
    obtain ⟨before, d, after, rfl, -, hmode, hfault⟩ := all_eq_error_iff.1 he
    exact ⟨d, by simp, hmode, Descriptor.invalid_iff.2 ⟨e, hfault⟩⟩
  · rintro ⟨d, hd, hmode, hinvalid⟩
    cases h : all descriptors context mode with
    | error e => exact ⟨e, rfl⟩
    | ok found =>
      -- the invalid descriptor would have been matched
      obtain ⟨lists, hlists, -⟩ := bind_eq_ok_iff.1 h
      obtain ⟨l, -, hl⟩ := exists_result_of_mem hlists
        (List.mem_filter.2 ⟨hd, by simpa using hmode⟩)
      obtain ⟨e, hfault⟩ := Descriptor.invalid_iff.1 hinvalid
      rw [ofDescriptor_eq_error_iff.2 hfault] at hl
      cases hl

/-- Every match is of a descriptor that passed its check. -/
theorem check_of_mem_all {descriptors : List Descriptor} {mode : Mode} {found : List AnchorMatch}
    (h : all descriptors context mode = .ok found) {m : AnchorMatch} (hm : m ∈ found) :
    ∃ r, m.descriptor.check = .ok r := by
  obtain ⟨lists, hlists, hfound⟩ := bind_eq_ok_iff.1 h
  obtain rfl : lists.flatten = found := Except.ok.inj hfound
  obtain ⟨l, hl, hml⟩ := List.mem_flatten.1 hm
  obtain ⟨d, -, hd⟩ := exists_step_of_mem hlists hl
  cases hc : d.check with
  | error e =>
    rw [ofDescriptor_eq_error_iff.2 (Descriptor.check_eq_error_iff.1 hc)] at hd
    cases hd
  | ok r =>
    obtain ⟨found, hfound, hown⟩ := ofDescriptor_ok hc context (candidates context)
    rw [hfound, Except.ok.injEq] at hd
    exact ⟨r, (hown m (hd ▸ hml)).symm ▸ hc⟩

/-- So what matching found can be applied. -/
theorem globs_of_mem_all {descriptors : List Descriptor} {mode : Mode} {found : List AnchorMatch}
    (h : all descriptors context mode = .ok found) {m : AnchorMatch} (hm : m ∈ found) :
    (∃ l, GlobList.parse m.descriptor.includes = .ok l) ∧
      ∃ l, GlobList.parse m.descriptor.excludes = .ok l := by
  obtain ⟨r, hr⟩ := check_of_mem_all h hm
  exact (Descriptor.check_eq_ok_iff.1 hr).2

end AnchorMatch

/-! ## Whole passes -/

namespace Session

variable {s : Session} {mode : Mode} {e : EngineError}

theorem absorb_eq_error_iff (suppliers : Suppliers) :
    (s.absorb suppliers mode).1 = .error e ↔ s.sightings mode = .error e := by
  rw [absorb]
  cases h : s.sightings mode with
  | error e' => simp [Except.bind]
  | ok found =>
    obtain ⟨a, ha⟩ := Absorbed.exists_ofMatches (fun m hm => AnchorMatch.globs_of_mem_all h hm)
      s.context s.options suppliers s.engine.ledger
    simp [Except.bind, ha]

theorem absorb_of_error {suppliers : Suppliers} (h : (s.absorb suppliers mode).1 = .error e) :
    (s.absorb suppliers mode).2 =
      s.record (AnchorMatch.journal s.store.descriptors mode (.error e)) := by
  have hs := (absorb_eq_error_iff suppliers).1 h
  simp only [absorb, hs, Except.bind]

/-- A pass is all or nothing. It fails exactly when a stored descriptor of its mode is invalid,
with the fault of the first such descriptor, and then leaves the context, the store and the
ledger as they were. Neither compiling an anchor that passed its check nor applying what matching
found can fail. -/
theorem absorb_all_or_nothing (s : Session) (suppliers : Suppliers) (mode : Mode) :
    ((∃ e, (s.absorb suppliers mode).1 = .error e) ↔
      ∃ d ∈ s.store.descriptors, d.mode = mode ∧ d.Invalid) ∧
    (∀ e, (s.absorb suppliers mode).1 = .error e ↔
      ∃ before d after, s.store.descriptors = before ++ d :: after ∧
        (∀ d' ∈ before, d'.mode = mode → ¬ d'.Invalid) ∧ d.mode = mode ∧ d.Fault e) ∧
    (∀ e, (s.absorb suppliers mode).1 = .error e →
      (s.absorb suppliers mode).2.context = s.context ∧
      (s.absorb suppliers mode).2.store = s.store ∧
      (s.absorb suppliers mode).2.engine = s.engine ∧
      (s.absorb suppliers mode).2.calls = s.calls) ∧
    (∀ (d : Descriptor) (anchor checksum : String), d.check = .ok (anchor, checksum) →
      ∃ p, AnchorPattern.compile (Path.normalize anchor) = .ok p) ∧
    (∀ found, s.sightings mode = .ok found → ∀ context options ledger,
      ∃ a, Absorbed.ofMatches found context options suppliers ledger = .ok a) := by
  refine ⟨?_, fun e => (absorb_eq_error_iff suppliers).trans AnchorMatch.all_eq_error_iff,
    ?_, ?_, ?_⟩
  · simp only [absorb_eq_error_iff]
    exact AnchorMatch.exists_all_eq_error_iff
  · intro e he
    rw [absorb_of_error he]
    exact ⟨rfl, rfl, rfl, rfl⟩
  · intro d anchor checksum h
    exact (Descriptor.check_eq_ok_iff.1 h).1.exists_compile
  · intro found h context options ledger
    exact Absorbed.exists_ofMatches (fun m hm => AnchorMatch.globs_of_mem_all h hm) context options
      suppliers ledger

end Session

end ComponentScan
