import ComponentScan.Proofs.Text.Folded
import ComponentScan.Text.Blank

/-!
# Trimmed texts

A text is trimmed if it neither begins nor ends with a blank character. Folding makes no blank out
of another character, so a trimmed text stays trimmed when it is folded (`trim_fold_trim`).
-/

namespace ComponentScan.Text

/-! ## Texts without blanks around them -/

/-- No blank stands at either end. -/
structure IsTrimmed (cs : List Char) : Prop where
  first : ∀ c ∈ cs.head?, isBlank c = false
  last : ∀ c ∈ cs.getLast?, isBlank c = false

variable {cs : List Char} {c d : Char} {before after : List Char}

theorem first_dropWhile (h : c ∈ (cs.dropWhile isBlank).head?) : isBlank c = false := by
  have hnot := List.head?_dropWhile_not isBlank cs
  rwa [Option.mem_def.1 h] at hnot

theorem dropWhile_of_first (h : ∀ c ∈ cs.head?, isBlank c = false) : cs.dropWhile isBlank = cs := by
  cases cs with
  | nil => rfl
  | cons c cs => exact List.dropWhile_cons_of_neg (by simp [h c rfl])

theorem isTrimmed_trimChars (cs : List Char) : IsTrimmed (trimChars cs) := by
  have hprefix : trimChars cs <+: cs.dropWhile isBlank := by
    rw [← List.reverse_suffix, trimChars, dropEndWhile, List.reverse_reverse]
    exact List.dropWhile_suffix isBlank
  obtain ⟨rest, hrest⟩ := hprefix
  constructor
  · intro c hc
    have hfirst : c ∈ (cs.dropWhile isBlank).head? := by
      rw [← hrest, List.head?_append, Option.mem_def.1 hc]
      rfl
    exact first_dropWhile hfirst
  · intro c hc
    rw [trimChars, dropEndWhile, List.getLast?_reverse] at hc
    exact first_dropWhile hc

theorem IsTrimmed.trimChars_eq (h : IsTrimmed cs) : trimChars cs = cs := by
  have hlast : ∀ c ∈ cs.reverse.head?, isBlank c = false := by
    rw [List.head?_reverse]
    exact h.last
  rw [trimChars, dropEndWhile, dropWhile_of_first h.first, dropWhile_of_first hlast,
    List.reverse_reverse]

/-! ## Folding -/

/-- No run maps to a blank. -/
theorem lowerRuns_avoid_blanks : ∀ r ∈ lowerRuns, ∀ k ≤ r.last - r.first,
    isBlank (Char.ofNat (r.target + k)) = false := by
  decide +kernel

theorem isBlank_lowerChar (h : isBlank c = false) : isBlank (lowerChar c) = false := by
  rw [lowerChar]
  rcases lowerCode_cases lowerRuns c.toNat with hcode | ⟨r, hr, hmaps⟩
  · rw [hcode, Char.ofNat_toNat, h]
  · rw [hmaps.eq_target]
    exact lowerRuns_avoid_blanks r hr _ (Nat.sub_le_sub_right hmaps.le_last _)

theorem isBlank_of_mem_lowerBetween (h : isBlank c = false) (hd : d ∈ lowerBetween before c after) :
    isBlank d = false := by
  rw [lowerBetween] at hd
  split at hd
  · split at hd <;> (rw [List.mem_singleton] at hd; subst hd; decide)
  · split at hd
    · simp only [List.mem_cons, List.not_mem_nil, or_false] at hd
      rcases hd with rfl | rfl <;> decide
    · rw [List.mem_singleton] at hd
      exact hd ▸ isBlank_lowerChar h

/-- The last character of a folded text comes from the last one of the text. -/
theorem getLast?_foldAfter (hd : d ∈ (foldAfter before cs).getLast?) :
    ∃ c ∈ cs.getLast?, ∃ before after, d ∈ lowerBetween before c after := by
  induction cs generalizing before with
  | nil => simp [foldAfter] at hd
  | cons c cs ih =>
    rw [foldAfter] at hd
    cases cs with
    | nil => exact ⟨c, rfl, before, [], List.mem_of_getLast? (by simpa [foldAfter] using hd)⟩
    | cons c' cs =>
      have hsome : (foldAfter (c :: before) (c' :: cs)).getLast?.isSome := by
        simp [foldAfter, lowerBetween_ne_nil]
      rw [List.getLast?_append, Option.or_of_isSome hsome] at hd
      obtain ⟨e, he, hmem⟩ := ih hd
      exact ⟨e, by rwa [List.getLast?_cons_cons], hmem⟩

theorem IsTrimmed.foldChars (h : IsTrimmed cs) : IsTrimmed (foldChars cs) := by
  constructor
  · intro d hd
    cases cs with
    | nil => cases hd
    | cons c cs =>
      have hsome : (lowerBetween [] c cs).head?.isSome := by
        simp [lowerBetween_ne_nil]
      rw [Text.foldChars, foldAfter, List.head?_append, Option.or_of_isSome hsome] at hd
      exact isBlank_of_mem_lowerBetween (h.first c rfl) (List.mem_of_head? hd)
  · intro d hd
    obtain ⟨c, hc, _, _, hmem⟩ := getLast?_foldAfter hd
    exact isBlank_of_mem_lowerBetween (h.last c hc) hmem

/-- Folding does not bring back blanks around a text. -/
theorem trim_fold_trim (s : String) : trim (fold (trim s)) = fold (trim s) := by
  have h := (isTrimmed_trimChars s.toList).foldChars.trimChars_eq
  simp only [trim, fold, String.toList_ofList, h]

end ComponentScan.Text
