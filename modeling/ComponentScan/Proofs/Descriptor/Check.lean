import ComponentScan.Descriptor.Check
import ComponentScan.Proofs.Text.Pieces
import ComponentScan.Proofs.Traversal

/-!
# What the check of a descriptor says

A descriptor passes when its anchor and its checksum fit together and both glob lists compile.
Otherwise the first condition that does not hold is the error (`check_eq_error_iff`).
-/

namespace ComponentScan.Descriptor

open ComponentScan.Text

variable {d : Descriptor} {anchor checksum : String} {e : EngineError}

/-- The anchor and the checksum of a descriptor, when they fit together. -/
structure Anchored (d : Descriptor) (anchor checksum : String) : Prop where
  hasAnchor : d.effectiveAnchor = some anchor
  hasChecksum : d.effectiveChecksum = some checksum
  noStars : ¬ ['*', '*'] <:+: anchor.toList
  rootAny : isRootAnchor anchor = true → checksum = anyChecksum

/-- The fault of a descriptor: the first condition on it that does not hold. -/
inductive Fault (d : Descriptor) : EngineError → Prop
  | noAnchor (h : d.effectiveAnchor = none) : Fault d (.missingVersionAnchor d.name d.provenance)
  | noChecksum {anchor : String} (ha : d.effectiveAnchor = some anchor)
      (h : d.effectiveChecksum = none) : Fault d (.missingAnchorChecksum d.name anchor)
  | stars {anchor checksum : String} (ha : d.effectiveAnchor = some anchor)
      (hc : d.effectiveChecksum = some checksum) (h : ['*', '*'] <:+: anchor.toList) :
      Fault d (.recursiveWildcardInAnchor d.name anchor)
  | rootChecksum {anchor checksum : String} (ha : d.effectiveAnchor = some anchor)
      (hc : d.effectiveChecksum = some checksum) (hs : ¬ ['*', '*'] <:+: anchor.toList)
      (hroot : isRootAnchor anchor = true) (h : checksum ≠ anyChecksum) :
      Fault d (.rootAnchorRequiresWildcardChecksum d.name checksum)
  | includes {anchor checksum : String} {e : EngineError} (ha : d.Anchored anchor checksum)
      (h : GlobList.parse d.includes = .error e) : Fault d e
  | excludes {anchor checksum : String} {l : GlobList} {e : EngineError}
      (ha : d.Anchored anchor checksum) (hi : GlobList.parse d.includes = .ok l)
      (h : GlobList.parse d.excludes = .error e) : Fault d e

/-! ## Anchors and checksums -/

theorem hasRootAnchor_eq (h : d.effectiveAnchor = some anchor) :
    d.hasRootAnchor = isRootAnchor anchor := by
  rw [hasRootAnchor, h]
  rfl

theorem contains_stars_iff {anchor : String} :
    Text.contains anchor "**" = true ↔ ['*', '*'] <:+: anchor.toList :=
  contains_iff

theorem checkAnchor_eq_ok_iff {r : String × String} :
    d.checkAnchor = .ok r ↔ d.Anchored r.1 r.2 := by
  constructor
  · intro h
    rw [checkAnchor] at h
    split at h
    · cases h
    · rename_i anchor ha
      split at h
      · cases h
      · rename_i checksum hc
        split at h
        · cases h
        · rename_i hs
          split at h
          · cases h
          · rename_i hroot
            cases h
            rw [contains_stars_iff] at hs
            rw [hasRootAnchor_eq ha] at hroot
            exact ⟨ha, hc, hs, fun h => Decidable.byContradiction fun h' => hroot ⟨h, h'⟩⟩
  · intro h
    have hs : ¬ Text.contains r.1 "**" = true := fun h' => h.noStars (contains_stars_iff.1 h')
    have hroot : ¬ (d.hasRootAnchor = true ∧ r.2 ≠ anyChecksum) := by
      rw [hasRootAnchor_eq h.hasAnchor]
      exact fun ⟨h', hne⟩ => hne (h.rootAny h')
    simp only [checkAnchor, h.hasAnchor, h.hasChecksum, if_neg hs, if_neg hroot]

theorem checkAnchor_fault (h : d.checkAnchor = .error e) : d.Fault e := by
  rw [checkAnchor] at h
  split at h
  · rename_i ha
    cases h
    exact .noAnchor ha
  · rename_i anchor ha
    split at h
    · rename_i hc
      cases h
      exact .noChecksum ha hc
    · rename_i checksum hc
      split at h
      · rename_i hs
        cases h
        exact .stars ha hc (contains_stars_iff.1 hs)
      · rename_i hs
        rw [contains_stars_iff] at hs
        split at h
        · rename_i hroot
          cases h
          rw [hasRootAnchor_eq ha] at hroot
          exact .rootChecksum ha hc hs hroot.1 hroot.2
        · cases h

/-! ## The whole check -/

theorem check_eq_ok_iff {r : String × String} :
    d.check = .ok r ↔ d.Anchored r.1 r.2 ∧ (∃ l, GlobList.parse d.includes = .ok l) ∧
      ∃ l, GlobList.parse d.excludes = .ok l := by
  simp only [check, bind_eq_ok_iff, checkAnchor_eq_ok_iff, pure, Except.pure, Except.ok.injEq]
  constructor
  · rintro ⟨_, ha, l, hl, l', hl', rfl⟩
    exact ⟨ha, ⟨l, hl⟩, ⟨l', hl'⟩⟩
  · rintro ⟨ha, ⟨l, hl⟩, ⟨l', hl'⟩⟩
    exact ⟨r, ha, l, hl, l', hl', rfl⟩

theorem fault_of_check (h : d.check = .error e) : d.Fault e := by
  rw [check, bind_eq_error_iff] at h
  rcases h with h | ⟨r, hr, h⟩
  · exact checkAnchor_fault h
  · have ha := checkAnchor_eq_ok_iff.1 hr
    rcases bind_eq_error_iff.1 h with h | ⟨l, hl, h⟩
    · exact .includes ha h
    · rcases bind_eq_error_iff.1 h with h | ⟨_, -, h⟩
      · exact .excludes ha hl h
      · cases h

theorem Fault.checkAnchor_cases (h : d.Fault e) :
    d.checkAnchor = .error e ∨ ∃ r, d.checkAnchor = .ok r ∧
      (GlobList.parse d.includes = .error e ∨
        (∃ l, GlobList.parse d.includes = .ok l) ∧ GlobList.parse d.excludes = .error e) := by
  cases h with
  | noAnchor h => exact .inl (by simp only [checkAnchor, h])
  | noChecksum ha h => exact .inl (by simp only [checkAnchor, ha, h])
  | stars ha hc h =>
    exact .inl (by simp only [checkAnchor, ha, hc, if_pos (contains_stars_iff.2 h)])
  | rootChecksum ha hc hs hroot h =>
    have hs : ¬ Text.contains _ "**" = true := fun h' => hs (contains_stars_iff.1 h')
    have hroot : d.hasRootAnchor = true ∧ _ ≠ anyChecksum := ⟨(hasRootAnchor_eq ha).trans hroot, h⟩
    exact .inl (by simp only [checkAnchor, ha, hc, if_neg hs, if_pos hroot])
  | includes ha h => exact .inr ⟨(_, _), checkAnchor_eq_ok_iff.2 ha, .inl h⟩
  | excludes ha hi h => exact .inr ⟨(_, _), checkAnchor_eq_ok_iff.2 ha, .inr ⟨⟨_, hi⟩, h⟩⟩

/-- The check fails with the fault of the descriptor. -/
theorem check_eq_error_iff : d.check = .error e ↔ d.Fault e := by
  refine ⟨fault_of_check, fun h => ?_⟩
  rw [check, bind_eq_error_iff]
  rcases h.checkAnchor_cases with h | ⟨r, hr, h | ⟨⟨l, hl⟩, h⟩⟩
  · exact .inl h
  · exact .inr ⟨r, hr, bind_eq_error_iff.2 (.inl h)⟩
  · exact .inr ⟨r, hr, bind_eq_error_iff.2 (.inr ⟨l, hl, bind_eq_error_iff.2 (.inl h)⟩)⟩

/-! ## Invalid descriptors -/

/-- A descriptor that cannot be matched or applied: without an anchor or a checksum, with two stars
in a row in its anchor, with an anchor for the whole scan and a checksum, or with a glob list that
does not compile. -/
def Invalid (d : Descriptor) : Prop :=
  (d.anchor = none ∨ d.anchor = some "") ∨ (d.anchorChecksum = none ∨ d.anchorChecksum = some "") ∨
    (∃ anchor, d.anchor = some anchor ∧ ['*', '*'] <:+: anchor.toList) ∨
    (∃ anchor checksum, d.anchor = some anchor ∧ isRootAnchor anchor = true ∧
      d.anchorChecksum = some checksum ∧ checksum ≠ "*") ∨
    (∃ e, GlobList.parse d.includes = .error e) ∨ ∃ e, GlobList.parse d.excludes = .error e

theorem effective_eq_some_iff {text : Option String} {t : String} :
    text.filter (· ≠ "") = some t ↔ text = some t ∧ t ≠ "" := by
  cases text with
  | none => simp
  | some u =>
    rw [Option.filter_eq_some_iff]
    simp

theorem effective_eq_none_iff {text : Option String} :
    text.filter (· ≠ "") = none ↔ text = none ∨ text = some "" := by
  cases text <;> simp

/-- A descriptor is invalid exactly when it has a fault. -/
theorem invalid_iff : d.Invalid ↔ ∃ e, d.Fault e := by
  constructor
  · intro h
    cases hc : d.check with
    | error e => exact ⟨e, check_eq_error_iff.1 hc⟩
    | ok r =>
      -- a descriptor that passes is none of these
      obtain ⟨ha, ⟨l, hl⟩, ⟨l', hl'⟩⟩ := check_eq_ok_iff.1 hc
      obtain ⟨hanchor, hane⟩ := effective_eq_some_iff.1 ha.hasAnchor
      obtain ⟨hchecksum, hcne⟩ := effective_eq_some_iff.1 ha.hasChecksum
      rcases h with h | h | ⟨a, h, hs⟩ | ⟨a, c, h, hr, h', hne⟩ | ⟨e, h⟩ | ⟨e, h⟩
      · simp [hanchor, hane] at h
      · simp [hchecksum, hcne] at h
      · rw [hanchor, Option.some.injEq] at h
        exact absurd (h ▸ hs) ha.noStars
      · rw [hanchor, Option.some.injEq] at h
        rw [hchecksum, Option.some.injEq] at h'
        exact absurd (h' ▸ ha.rootAny (h ▸ hr)) hne
      · simp [hl] at h
      · simp [hl'] at h
  · rintro ⟨e, h⟩
    cases h with
    | noAnchor h => exact .inl (effective_eq_none_iff.1 h)
    | noChecksum _ h => exact .inr (.inl (effective_eq_none_iff.1 h))
    | stars ha _ h => exact .inr (.inr (.inl ⟨_, (effective_eq_some_iff.1 ha).1, h⟩))
    | rootChecksum ha hc _ hroot h =>
      exact .inr (.inr (.inr (.inl ⟨_, _, (effective_eq_some_iff.1 ha).1, hroot,
        (effective_eq_some_iff.1 hc).1, h⟩)))
    | includes _ h => exact .inr (.inr (.inr (.inr (.inl ⟨_, h⟩))))
    | excludes _ _ h => exact .inr (.inr (.inr (.inr (.inr ⟨_, h⟩))))

end ComponentScan.Descriptor
