import ComponentScan.Proofs.Text.Folding

/-!
# Folded texts

The case table is closed: what it maps to it maps to itself. So a folded text holds lower cases
only, and folding keeps it (`foldChars_foldChars`). Texts that differ in the case of ASCII letters
fold alike, as such letters are cased either way (`foldChars_map_asciiLower`).
-/

namespace ComponentScan.Text

/-! ## The case table -/

/-- Whether the codes that the run `r` maps to are not among those that the run `q` maps: they lie
on other sides, or between the codes of `q`. -/
def CaseRun.avoids (r q : CaseRun) : Bool :=
  Nat.blt (r.target + (r.last - r.first)) q.first || Nat.blt q.last r.target ||
    ((r.step == 2 || r.first == r.last) && q.step == 2 && (r.target + q.first) % 2 == 1)

theorem lowerRuns_avoid : (lowerRuns.all fun r => lowerRuns.all r.avoids) = true := by
  decide +kernel

theorem lowerRuns_avoid_dotted :
    ∀ r ∈ lowerRuns, r.target + (r.last - r.first) < 0x130 ∨ 0x130 < r.target := by
  decide +kernel

/-- A code that a run maps, and the code it goes to. -/
structure CaseRun.Maps (r : CaseRun) (n m : Nat) : Prop where
  ge_first : r.first ≤ n
  le_last : n ≤ r.last
  on_step : (n - r.first) % r.step = 0
  eq_target : m = r.target + (n - r.first)

/-- A code is kept, or mapped by one of the runs. -/
theorem lowerCode_cases (rs : List CaseRun) (n : Nat) :
    lowerCode rs n = n ∨ ∃ r ∈ rs, r.Maps n (lowerCode rs n) := by
  induction rs with
  | nil => exact .inl rfl
  | cons r rs ih =>
    rw [lowerCode]
    split
    · exact .inl rfl
    · rename_i hfirst
      split
      · rename_i hlast
        rw [Bool.and_eq_true, decide_eq_true_eq, beq_iff_eq] at hlast
        exact .inr ⟨r, by simp, Nat.le_of_not_lt hfirst, hlast.1, hlast.2, rfl⟩
      · rcases ih with h | ⟨r', hr', h⟩
        · exact .inl h
        · exact .inr ⟨r', List.mem_cons_of_mem r hr', h⟩

theorem CaseRun.not_maps_of_avoids {r q : CaseRun} (h : r.avoids q = true) {n m k : Nat}
    (hr : r.Maps n m) : ¬ q.Maps m k := by
  intro hq
  obtain ⟨hrfirst, hrlast, hrstep, rfl⟩ := hr
  obtain ⟨hqfirst, hqlast, hqstep, -⟩ := hq
  simp only [avoids, Bool.or_eq_true, Bool.and_eq_true, Nat.blt_eq, beq_iff_eq] at h
  rcases h with (h | h) | ⟨⟨h | h, hq⟩, hodd⟩
  · omega
  · omega
  · rw [h] at hrstep
    rw [hq] at hqstep
    omega
  · rw [hq] at hqstep
    omega

/-- What the case table maps to, it keeps. -/
theorem lowerCode_lowerCode (n : Nat) :
    lowerCode lowerRuns (lowerCode lowerRuns n) = lowerCode lowerRuns n := by
  rcases lowerCode_cases lowerRuns n with h | ⟨r, hr, h⟩
  · rw [h, h]
  · rcases lowerCode_cases lowerRuns (lowerCode lowerRuns n) with h' | ⟨q, hq, h'⟩
    · exact h'
    · have havoid := List.all_eq_true.1 (List.all_eq_true.1 lowerRuns_avoid r hr) q hq
      exact absurd h' (CaseRun.not_maps_of_avoids havoid h)

/-! ## Lower cases -/

/-- A character that folding keeps wherever it stands. -/
structure IsLower (c : Char) : Prop where
  lower : lowerChar c = c
  notSigma : c ≠ 'Σ'
  notDotted : c ≠ 'İ'

instance (c : Char) : Decidable (IsLower c) :=
  decidable_of_iff (lowerChar c = c ∧ c ≠ 'Σ' ∧ c ≠ 'İ')
    ⟨fun h => ⟨h.1, h.2.1, h.2.2⟩, fun h => ⟨h.lower, h.notSigma, h.notDotted⟩⟩

theorem lowerBetween_of_isLower {c : Char} (h : IsLower c) (before after : List Char) :
    lowerBetween before c after = [c] := by
  rw [lowerBetween, if_neg h.notSigma, if_neg h.notDotted, h.lower]

theorem isLower_lowerChar {c : Char} (h : c ≠ 'İ') : IsLower (lowerChar c) := by
  rcases toNat_ofNat_eq_or (lowerCode lowerRuns c.toNat) with hc | hc
  · have hcode : (lowerChar c).toNat = lowerCode lowerRuns c.toNat := hc
    have hlower : lowerCode lowerRuns (lowerChar c).toNat = (lowerChar c).toNat := by
      rw [hcode, lowerCode_lowerCode]
    refine ⟨?_, ?_, ?_⟩
    · rw [lowerChar, hlower, Char.ofNat_toNat]
    · intro hsigma
      rw [hsigma] at hlower
      exact absurd hlower (by decide +kernel)
    · intro hdotted
      rw [hdotted] at hcode
      rcases lowerCode_cases lowerRuns c.toNat with hk | ⟨r, hr, hmaps⟩
      · exact h (Char.toNat_inj.1 (hk ▸ hcode.symm))
      · have havoid := lowerRuns_avoid_dotted r hr
        have hcode : 0x130 = lowerCode lowerRuns c.toNat := hcode
        have hle := hmaps.le_last
        have htarget := hmaps.eq_target
        omega
  · have hzero : lowerChar c = Char.ofNat 0 := Char.toNat_inj.1 hc
    rw [hzero]
    decide +kernel

theorem isLower_of_mem_lowerBetween {before after : List Char} {c d : Char}
    (h : d ∈ lowerBetween before c after) : IsLower d := by
  rw [lowerBetween] at h
  split at h
  · split at h <;> (rw [List.mem_singleton] at h; subst h; decide +kernel)
  · split at h
    · simp only [List.mem_cons, List.not_mem_nil, or_false] at h
      rcases h with rfl | rfl <;> decide +kernel
    · rename_i hdotted
      rw [List.mem_singleton] at h
      exact h ▸ isLower_lowerChar hdotted

theorem isLower_of_mem_foldChars {cs : List Char} {c : Char} (h : c ∈ foldChars cs) :
    IsLower c := by
  suffices hg : ∀ before, c ∈ foldAfter before cs → IsLower c from hg [] h
  clear h
  induction cs with
  | nil => simp [foldAfter]
  | cons d cs ih =>
    intro before h
    rw [foldAfter] at h
    rcases List.mem_append.1 h with h | h
    · exact isLower_of_mem_lowerBetween h
    · exact ih _ h

theorem foldChars_of_isLower {cs : List Char} (h : ∀ c ∈ cs, IsLower c) : foldChars cs = cs := by
  suffices hg : ∀ before, foldAfter before cs = cs from hg []
  induction cs with
  | nil => exact fun _ => rfl
  | cons c cs ih =>
    intro before
    rw [foldAfter, lowerBetween_of_isLower (h c (by simp)),
      ih fun d hd => h d (List.mem_cons_of_mem c hd)]
    rfl

/-- A text is folded once and for all. -/
theorem foldChars_foldChars (cs : List Char) : foldChars (foldChars cs) = foldChars cs :=
  foldChars_of_isLower fun _ => isLower_of_mem_foldChars

/-! ## ASCII letters -/

/-- There are few enough ASCII characters to look at each. -/
theorem forall_ascii {P : Char → Prop} (h : ∀ n < 128, P (Char.ofNat n)) {c : Char}
    (hc : c.toNat < 128) : P c :=
  Char.ofNat_toNat c ▸ h c.toNat hc

theorem lowerChar_of_ascii {c : Char} (h : c.toNat < 128) : lowerChar c = asciiLower c :=
  forall_ascii (P := fun c => lowerChar c = asciiLower c) (by decide +kernel) h

/-- A text of ASCII characters is folded character by character. -/
theorem foldChars_of_ascii {cs : List Char} (h : ∀ c ∈ cs, c.toNat < 128) :
    foldChars cs = cs.map asciiLower := by
  suffices hg : ∀ before, foldAfter before cs = cs.map asciiLower from hg []
  induction cs with
  | nil => exact fun _ => rfl
  | cons c cs ih =>
    intro before
    have hc := h c (by simp)
    have hsigma : c ≠ 'Σ' := fun h' => absurd (h' ▸ hc) (by decide)
    have hdotted : c ≠ 'İ' := fun h' => absurd (h' ▸ hc) (by decide)
    rw [foldAfter, ih fun d hd => h d (List.mem_cons_of_mem c hd), lowerBetween, if_neg hsigma,
      if_neg hdotted, lowerChar_of_ascii hc]
    rfl

theorem map_asciiLower_foldChars {cs : List Char} (h : ∀ c ∈ cs, c.toNat < 128) :
    (foldChars cs).map asciiLower = cs.map asciiLower := by
  rw [List.map_congr_left (g := id), List.map_id, foldChars_of_ascii h]
  exact fun c hc => asciiLower_of_not_capital (noCapitals_foldChars cs c hc)

/-- Two characters that folding does not tell apart, neither where they stand nor next to a
sigma. -/
structure FoldsAlike (c d : Char) : Prop where
  between : ∀ before after, lowerBetween before c after = lowerBetween before d after
  cased : isCased c = isCased d
  ignorable : isCaseIgnorable c = isCaseIgnorable d

theorem caseIgnorableRanges_avoid : ∀ r ∈ caseIgnorableRanges,
    r.2 < 0x41 ∨ 0x7A < r.1 ∨ 0x5A < r.1 ∧ r.2 < 0x61 := by
  decide +kernel

theorem isCaseIgnorable_of_letter {c : Char}
    (h : IsCapital c ∨ 0x61 ≤ c.toNat ∧ c.toNat ≤ 0x7A) : isCaseIgnorable c = false := by
  rw [isCaseIgnorable, inRanges, List.any_eq_false]
  intro r hr hin
  have havoid := caseIgnorableRanges_avoid r hr
  have hbounds : r.1 ≤ c.toNat ∧ c.toNat ≤ r.2 := by simpa using hin
  simp only [IsCapital] at h
  omega

theorem foldsAlike_asciiLower (c : Char) : FoldsAlike (asciiLower c) c := by
  by_cases hc : IsCapital c
  · have hall : ∀ n < 128, IsCapital (Char.ofNat n) →
        IsLower (asciiLower (Char.ofNat n)) ∧
          (0x61 ≤ (asciiLower (Char.ofNat n)).toNat ∧ (asciiLower (Char.ofNat n)).toNat ≤ 0x7A) ∧
          isCased (asciiLower (Char.ofNat n)) = isCased (Char.ofNat n) := by
      decide +kernel
    have hascii : c.toNat < 128 := Nat.lt_of_le_of_lt hc.2 (by decide)
    have h := hall c.toNat hascii
    rw [Char.ofNat_toNat] at h
    obtain ⟨hlower, hletter, hcased⟩ := h hc
    refine ⟨fun before after => ?_, hcased, ?_⟩
    · have hsigma : c ≠ 'Σ' := fun h' => absurd (h' ▸ hc) (by decide)
      have hdotted : c ≠ 'İ' := fun h' => absurd (h' ▸ hc) (by decide)
      rw [lowerBetween_of_isLower hlower, lowerBetween, if_neg hsigma, if_neg hdotted,
        lowerChar_of_ascii hascii]
    · rw [isCaseIgnorable_of_letter (.inl hc), isCaseIgnorable_of_letter (.inr hletter)]
  · rw [asciiLower_of_not_capital hc]
    exact ⟨fun _ _ => rfl, rfl, rfl⟩

theorem meetsCased_map_asciiLower (cs : List Char) :
    meetsCased (cs.map asciiLower) = meetsCased cs := by
  induction cs with
  | nil => rfl
  | cons c cs ih =>
    have hc := foldsAlike_asciiLower c
    by_cases hignorable : isCaseIgnorable c = true
    · simpa [meetsCased, hc.ignorable, hignorable] using ih
    · simp [meetsCased, hc.ignorable, hignorable, hc.cased]

/-- Only letters become letters. -/
theorem eq_of_asciiLower_eq {c x : Char} (hx : x.isLower = false) (h : asciiLower c = x) :
    c = x := by
  by_cases hc : IsCapital c
  · have hall : ∀ n < 128, IsCapital (Char.ofNat n) →
        (asciiLower (Char.ofNat n)).isLower = true := by
      decide +kernel
    have hlower := hall c.toNat (Nat.lt_of_le_of_lt hc.2 (by decide))
    rw [Char.ofNat_toNat] at hlower
    rw [← h, hlower hc] at hx
    cases hx
  · rwa [asciiLower_of_not_capital hc] at h

theorem slash_not_mem_of_map_asciiLower {cs ds : List Char} (hds : '/' ∉ ds)
    (h : cs.map asciiLower = ds.map asciiLower) : '/' ∉ cs := by
  intro hmem
  have hlower : '/' ∈ ds.map asciiLower := h ▸ List.mem_map.2 ⟨'/', hmem, rfl⟩
  obtain ⟨c, hc, hslash⟩ := List.mem_map.1 hlower
  exact hds (eq_of_asciiLower_eq (by decide) hslash ▸ hc)

/-- Folding does not see the case of ASCII letters. -/
theorem foldChars_map_asciiLower (cs : List Char) :
    foldChars (cs.map asciiLower) = foldChars cs := by
  suffices hg : ∀ before, foldAfter (before.map asciiLower) (cs.map asciiLower) =
      foldAfter before cs from hg []
  induction cs with
  | nil => exact fun _ => rfl
  | cons c cs ih =>
    intro before
    have hc : lowerBetween (before.map asciiLower) c (cs.map asciiLower) =
        lowerBetween before c cs := by
      simp only [lowerBetween, meetsCased_map_asciiLower]
    rw [List.map_cons, foldAfter, foldAfter, (foldsAlike_asciiLower c).between, hc,
      ← List.map_cons, ih]

/-- Texts that are equal up to the case of ASCII letters fold alike. -/
theorem foldChars_congr {cs ds : List Char} (h : cs.map asciiLower = ds.map asciiLower) :
    foldChars cs = foldChars ds := by
  rw [← foldChars_map_asciiLower cs, h, foldChars_map_asciiLower]

/-! ## Strings -/

theorem fold_fold (s : String) : fold (fold s) = fold s := by
  rw [fold, toList_fold, foldChars_foldChars, fold]

theorem fold_congr {s t : String} (h : s.toList.map asciiLower = t.toList.map asciiLower) :
    fold s = fold t := by
  rw [fold, fold, foldChars_congr h]

end ComponentScan.Text
