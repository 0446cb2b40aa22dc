import ComponentScan.Proofs.Text.Pieces
import ComponentScan.Text.Folding

/-!
# Folding at separators

A slash, a backslash or a star is neither cased nor case-ignorable, so nothing in front of it
decides how a letter behind it is folded: folding goes piece by piece
(`foldChars_append_separator`). Folding makes none of them out of another character, and leaves no
ASCII capital.
-/

namespace ComponentScan.Text

/-! ## One character -/

/-- A run gives a code at or above the target of one of the runs, or keeps the code. -/
theorem lowerCode_eq_or_ge {k : Nat} {rs : List CaseRun} (h : ∀ r ∈ rs, k ≤ r.target) (n : Nat) :
    lowerCode rs n = n ∨ k ≤ lowerCode rs n := by
  induction rs with
  | nil => exact .inl rfl
  | cons r rs ih =>
    have hr : k ≤ r.target := h r (by simp)
    have hrs := ih (fun r' h' => h r' (by simp [h']))
    rw [lowerCode]
    split
    · exact .inl rfl
    · split
      · exact .inr (Nat.le_trans hr (Nat.le_add_right _ _))
      · exact hrs

/-- The runs begin with the ASCII capitals; the next run begins behind ASCII. -/
theorem lowerRuns_eq : ∃ rs, lowerRuns = ⟨0x41, 0x5A, 1, 0x61⟩ :: ⟨0xC0, 0xD6, 1, 0xE0⟩ :: rs :=
  ⟨_, rfl⟩

theorem le_lowerCode (n : Nat) : lowerCode lowerRuns n = n ∨ 0x61 ≤ lowerCode lowerRuns n :=
  lowerCode_eq_or_ge (by decide +kernel) n

theorem lowerCode_of_capital {n : Nat} (h : 0x41 ≤ n) (h' : n ≤ 0x5A) :
    lowerCode lowerRuns n = n + 0x20 := by
  obtain ⟨rs, hrs⟩ := lowerRuns_eq
  have hlt : ¬ n < 0x41 := by omega
  rw [hrs, lowerCode, if_neg hlt, if_pos (by simp [h', Nat.mod_one])]
  show 0x61 + (n - 0x41) = n + 0x20
  omega

/-- In front of the capitals, and between them and the lower cases, no run begins. -/
theorem lowerCode_of_not_capital {n : Nat} (h : n < 0xC0) (hcap : ¬ (0x41 ≤ n ∧ n ≤ 0x5A)) :
    lowerCode lowerRuns n = n := by
  obtain ⟨rs, hrs⟩ := lowerRuns_eq
  rw [hrs, lowerCode]
  split
  · rfl
  · rename_i hlt
    have hlast : ¬ n ≤ 0x5A := fun h' => hcap ⟨Nat.le_of_not_lt hlt, h'⟩
    rw [if_neg (by simp [hlast]), lowerCode, if_pos h]

/-- A lower case is never an ASCII capital. -/
theorem lowerCode_not_capital (n : Nat) :
    ¬ (0x41 ≤ lowerCode lowerRuns n ∧ lowerCode lowerRuns n ≤ 0x5A) := by
  intro ⟨h, h'⟩
  rcases le_lowerCode n with hn | hn
  · rw [hn] at h h'
    rw [lowerCode_of_capital h h'] at hn
    omega
  · omega

theorem toNat_ofNat_eq_or (n : Nat) : (Char.ofNat n).toNat = n ∨ (Char.ofNat n).toNat = 0 := by
  by_cases hv : n.isValidChar
  · have hn : Char.ofNat n = Char.ofNatAux n hv := dif_pos hv
    exact .inl (hn ▸ rfl)
  · have hn : Char.ofNat n = Char.ofNat 0 := dif_neg hv
    exact .inr (hn ▸ rfl)

/-- The code of a character that folding neither makes nor changes: neither a capital nor a
possible lower case. -/
def IsFixedCode (n : Nat) : Prop := 0 < n ∧ n < 0x61 ∧ ¬ (0x41 ≤ n ∧ n ≤ 0x5A)

instance (n : Nat) : Decidable (IsFixedCode n) := inferInstanceAs (Decidable (_ ∧ _))

theorem lowerChar_eq_iff {c s : Char} (hs : IsFixedCode s.toNat) : lowerChar c = s ↔ c = s := by
  obtain ⟨hpos, hlt, hcap⟩ := hs
  constructor
  · intro h
    have hn : (lowerChar c).toNat = s.toNat := by rw [h]
    rcases toNat_ofNat_eq_or (lowerCode lowerRuns c.toNat) with hc | hc
    · rw [lowerChar, hc] at hn
      rcases le_lowerCode c.toNat with hk | hk
      · rw [hk] at hn
        exact Char.toNat_inj.1 hn
      · omega
    · rw [lowerChar, hc] at hn
      omega
  · rintro rfl
    have hk : lowerCode lowerRuns c.toNat = c.toNat := lowerCode_of_not_capital (by omega) hcap
    rw [lowerChar, hk, Char.ofNat_toNat]

theorem lowerBetween_of_fixed {s : Char} (hs : IsFixedCode s.toNat) (before after : List Char) :
    lowerBetween before s after = [s] := by
  have hSigma : s ≠ 'Σ' := by
    rintro rfl
    exact absurd hs (by decide)
  have hDotted : s ≠ 'İ' := by
    rintro rfl
    exact absurd hs (by decide)
  rw [lowerBetween, if_neg hSigma, if_neg hDotted, (lowerChar_eq_iff hs).2 rfl]

/-- A character that folding does not touch comes from itself only. -/
theorem mem_lowerBetween_iff {s c : Char} (hs : IsFixedCode s.toNat) (before after : List Char) :
    s ∈ lowerBetween before c after ↔ c = s := by
  have hne {x : Char} (hx : ¬ IsFixedCode x.toNat) : s ≠ x := by
    rintro rfl
    exact hx hs
  rw [lowerBetween]
  split
  · rename_i hc
    subst hc
    have h1 : s ≠ 'ς' := hne (by decide)
    have h2 : s ≠ 'σ' := hne (by decide)
    have h3 : s ≠ 'Σ' := hne (by decide)
    split <;> simp [h1, h2, Ne.symm h3]
  · split
    · rename_i hc
      subst hc
      have h1 : s ≠ 'i' := hne (by decide)
      have h2 : s ≠ '\u0307' := hne (by decide)
      have h3 : s ≠ 'İ' := hne (by decide)
      simp [h1, h2, Ne.symm h3]
    · rw [List.mem_singleton, eq_comm, lowerChar_eq_iff hs]

theorem lowerBetween_ne_nil (before : List Char) (c : Char) (after : List Char) :
    lowerBetween before c after ≠ [] := by
  rw [lowerBetween]
  split
  · simp
  · split <;> simp

/-! ## A text -/

theorem mem_foldChars_iff {s : Char} (hs : IsFixedCode s.toNat) (cs : List Char) :
    s ∈ foldChars cs ↔ s ∈ cs := by
  suffices h : ∀ before, s ∈ foldAfter before cs ↔ s ∈ cs from h []
  induction cs with
  | nil => simp [foldAfter]
  | cons c cs ih =>
    intro before
    rw [foldAfter, List.mem_append, ih, mem_lowerBetween_iff hs, List.mem_cons, eq_comm]

@[simp]
theorem toList_fold (s : String) : (fold s).toList = foldChars s.toList :=
  String.toList_ofList

/-! ## Capitals -/

/-- An ASCII capital. -/
def IsCapital (c : Char) : Prop := 0x41 ≤ c.toNat ∧ c.toNat ≤ 0x5A

instance (c : Char) : Decidable (IsCapital c) := inferInstanceAs (Decidable (_ ∧ _))

theorem lowerChar_not_capital (c : Char) : ¬ IsCapital (lowerChar c) := by
  intro ⟨h, h'⟩
  rcases toNat_ofNat_eq_or (lowerCode lowerRuns c.toNat) with hc | hc
  · rw [lowerChar, hc] at h h'
    exact lowerCode_not_capital _ ⟨h, h'⟩
  · rw [lowerChar, hc] at h
    omega

theorem not_capital_of_mem_foldChars {c : Char} {cs : List Char} (h : c ∈ foldChars cs) :
    ¬ IsCapital c := by
  suffices hg : ∀ before, c ∈ foldAfter before cs → ¬ IsCapital c from hg [] h
  clear h
  induction cs with
  | nil => simp [foldAfter]
  | cons d cs ih =>
    intro before h
    rw [foldAfter] at h
    rcases List.mem_append.1 h with h | h
    · rw [lowerBetween] at h
      split at h
      · split at h <;> (rw [List.mem_singleton] at h; subst h; decide)
      · split at h
        · simp only [List.mem_cons, List.not_mem_nil, or_false] at h
          rcases h with rfl | rfl <;> decide
        · rw [List.mem_singleton] at h
          exact h ▸ lowerChar_not_capital d
    · exact ih _ h

/-- A text without ASCII capitals, as folding leaves it. -/
def NoCapitals (cs : List Char) : Prop := ∀ c ∈ cs, ¬ IsCapital c

theorem noCapitals_foldChars (cs : List Char) : NoCapitals (foldChars cs) :=
  fun _ hc => not_capital_of_mem_foldChars hc

namespace NoCapitals

variable {c : Char} {cs ds : List Char}

theorem head (h : NoCapitals (c :: cs)) : ¬ IsCapital c :=
  h c List.mem_cons_self

theorem tail (h : NoCapitals (c :: cs)) : NoCapitals cs :=
  fun d hd => h d (List.mem_cons_of_mem c hd)

theorem suffix (h : NoCapitals cs) (hs : ds <:+ cs) : NoCapitals ds :=
  fun d hd => h d (hs.subset hd)

end NoCapitals

theorem asciiLower_of_not_capital {c : Char} (h : ¬ IsCapital c) : asciiLower c = c := by
  refine dif_neg fun hc => h ?_
  exact ⟨UInt32.le_iff_toNat_le.1 hc.1, UInt32.le_iff_toNat_le.1 hc.2⟩

/-! ## Separators -/

/-- A character that folding keeps, that no other character folds to, and behind which the
nearest cased letter does not matter. -/
structure IsSeparator (s : Char) : Prop where
  fixed : IsFixedCode s.toNat
  uncased : isCased s = false
  notIgnorable : isCaseIgnorable s = false

theorem isSeparator_slash : IsSeparator '/' :=
  ⟨by decide, by decide +kernel, by decide +kernel⟩

theorem isSeparator_backslash : IsSeparator '\\' :=
  ⟨by decide, by decide +kernel, by decide +kernel⟩

theorem isSeparator_star : IsSeparator '*' :=
  ⟨by decide, by decide +kernel, by decide +kernel⟩

/-- What stands behind a separator does not tell whether a letter meets a cased one. -/
theorem meetsCased_append_separator {s : Char} (hs : IsSeparator s) (u v : List Char) :
    meetsCased (u ++ s :: v) = meetsCased u := by
  induction u with
  | nil => simp [meetsCased, hs.notIgnorable, hs.uncased]
  | cons c u ih =>
    by_cases hc : isCaseIgnorable c = true
    · simpa [meetsCased, hc] using ih
    · simp [meetsCased, hc]

theorem foldAfter_separator_append {s : Char} (hs : IsSeparator s) (front before cs : List Char) :
    foldAfter (before ++ s :: front) cs = foldAfter before cs := by
  induction cs generalizing before with
  | nil => rfl
  | cons c cs ih =>
    have hc : lowerBetween (before ++ s :: front) c cs = lowerBetween before c cs := by
      simp only [lowerBetween, meetsCased_append_separator hs]
    rw [foldAfter, foldAfter, hc, ← ih (c :: before)]
    rfl

/-- Folding goes piece by piece. -/
theorem foldChars_append_separator {s : Char} (hs : IsSeparator s) (cs rest : List Char) :
    foldChars (cs ++ s :: rest) = foldChars cs ++ s :: foldChars rest := by
  suffices h : ∀ before, foldAfter before (cs ++ s :: rest) =
      foldAfter before cs ++ s :: foldChars rest from h []
  induction cs with
  | nil =>
    intro before
    show lowerBetween before s rest ++ foldAfter (s :: before) rest = s :: foldChars rest
    rw [lowerBetween_of_fixed hs.fixed]
    exact congrArg (s :: ·) (foldAfter_separator_append hs before [] rest)
  | cons c cs ih =>
    intro before
    have hc : lowerBetween before c (cs ++ s :: rest) = lowerBetween before c cs := by
      simp only [lowerBetween, meetsCased_append_separator hs]
    rw [List.cons_append, foldAfter, foldAfter, hc, ih, List.append_assoc]

/-- The pieces of a folded text are the folded pieces of the text. -/
theorem splitOn_foldChars {s : Char} (hs : IsSeparator s) (cs : List Char) :
    (foldChars cs).splitOn s = (cs.splitOn s).map foldChars := by
  induction cs using piece_induction s with
  | last u hu =>
    have hfold : s ∉ foldChars u := mt (mem_foldChars_iff hs.fixed u).1 hu
    rw [List.splitOn_eq_singleton hu, List.splitOn_eq_singleton hfold]
    rfl
  | cut u v hu ih =>
    have hfold : s ∉ foldChars u := mt (mem_foldChars_iff hs.fixed u).1 hu
    rw [foldChars_append_separator hs, List.splitOn_append_cons_self_of_not_mem hu,
      List.splitOn_append_cons_self_of_not_mem hfold, ih, List.map_cons]

/-- A separator of a folded text stands where one stands in the text. -/
theorem foldChars_eq_append_cons {s : Char} (hs : IsSeparator s) {cs x y : List Char}
    (h : foldChars cs = x ++ s :: y) :
    ∃ u v, cs = u ++ s :: v ∧ foldChars u = x ∧ foldChars v = y := by
  induction cs using piece_induction s generalizing x with
  | last u hu => exact absurd ((mem_foldChars_iff hs.fixed u).1 (by simp [h])) hu
  | cut u v hu ih =>
    rw [foldChars_append_separator hs] at h
    rcases List.append_eq_append_iff.1 h with ⟨t, hx, ht⟩ | ⟨t, hx, ht⟩
    · cases t with
      | nil =>
        rw [List.append_nil] at hx
        exact ⟨u, v, rfl, hx.symm, (List.cons.inj ht).2⟩
      | cons b t =>
        obtain ⟨rfl, hv⟩ := List.cons.inj ht
        obtain ⟨u', v', rfl, hu', hv'⟩ := ih hv
        refine ⟨u ++ s :: u', v', by simp, ?_, hv'⟩
        rw [foldChars_append_separator hs, hu', hx]
    · cases t with
      | nil =>
        rw [List.append_nil] at hx
        exact ⟨u, v, rfl, hx, (List.cons.inj ht).2.symm⟩
      | cons b t =>
        -- the separator would lie in the folded first piece
        obtain ⟨rfl, -⟩ := List.cons.inj ht
        exact absurd ((mem_foldChars_iff hs.fixed u).1 (by simp [hx])) hu

theorem foldAfter_eq_nil_iff {before cs : List Char} : foldAfter before cs = [] ↔ cs = [] := by
  cases cs with
  | nil => simp [foldAfter]
  | cons c cs => simp [foldAfter, lowerBetween_ne_nil]

theorem foldChars_eq_nil_iff {cs : List Char} : foldChars cs = [] ↔ cs = [] :=
  foldAfter_eq_nil_iff

theorem fold_eq_empty_iff {s : String} : fold s = "" ↔ s = "" := by
  rw [fold, String.ofList_eq_empty_iff, foldChars_eq_nil_iff, String.toList_eq_nil_iff]

/-- A single character that folding does not touch comes from itself only. -/
theorem foldChars_eq_singleton_iff {s : Char} (hs : IsFixedCode s.toNat) {cs : List Char} :
    foldChars cs = [s] ↔ cs = [s] := by
  constructor
  · intro h
    cases cs with
    | nil => cases h
    | cons c cs =>
      rcases List.append_eq_singleton_iff.1 h with ⟨hnil, -⟩ | ⟨hc, hnil⟩
      · exact absurd hnil (lowerBetween_ne_nil [] c cs)
      · have hmem : s ∈ lowerBetween [] c cs := by simp [hc]
        rw [(mem_lowerBetween_iff hs [] cs).1 hmem, foldAfter_eq_nil_iff.1 hnil]
  · rintro rfl
    exact congrArg (· ++ []) (lowerBetween_of_fixed hs [] [])

end ComponentScan.Text
