import ComponentScan.Toml.Scalar

/-!
# Whole numbers are read back

The digits of a number are a word that stands for the number (`scalar?_toDigits`), up to the range
of whole numbers. They are read as a decimal number since there is no zero in front of others.
-/

namespace ComponentScan.Toml

variable {cs : List Char}

/-! ## Words of digits -/

theorem digits?_of_digits (hne : cs ≠ []) (h : ∀ c ∈ cs, c.isDigit = true) :
    digits? Char.isDigit cs = some cs := by
  induction cs with
  | nil => exact absurd rfl hne
  | cons c cs ih =>
    have hc := h c List.mem_cons_self
    cases cs with
    | nil => rw [digits?, if_pos hc]
    | cons d cs =>
      have hd := h d (by simp)
      have hrest := ih (List.cons_ne_nil d cs) fun x hx => h x (List.mem_cons_of_mem c hx)
      have hunderscore : d ≠ '_' := by
        rintro rfl
        exact absurd hd (by decide)
      rw [digits?, if_pos hc, hrest, Option.map_some]
      · exact List.cons_ne_nil d cs
      · rintro cs' heq
        exact hunderscore (List.cons.inj heq).1

/-- A word of digits is a decimal number without a sign. -/
theorem integer?_of_digits (h : ∀ c ∈ cs, c.isDigit = true) :
    integer? cs = ((decimal? cs).map (valueIn 10)).bind fun n =>
      if n < Nat.pow 2 128 then some (Int.ofNat n) else none := by
  have hnot {c : Char} (hc : c.isDigit = false) : c ∉ cs := fun hmem => by
    rw [h c hmem] at hc
    cases hc
  have hsigned : signed cs = (false, cs) := by
    unfold signed
    split
    · exact absurd List.mem_cons_self (hnot (c := '-') (by decide))
    · exact absurd List.mem_cons_self (hnot (c := '+') (by decide))
    · rfl
  unfold integer?
  dsimp only
  split
  · exact absurd (by simp) (hnot (c := 'x') (by decide))
  · exact absurd (by simp) (hnot (c := 'o') (by decide))
  · exact absurd (by simp) (hnot (c := 'b') (by decide))
  · rw [hsigned]
    rfl

/-- A word of digits is no truth value. -/
theorem scalar?_of_digits (h : ∀ c ∈ cs, c.isDigit = true) {n : Int} (hn : integer? cs = some n) :
    scalar? cs = some (ofInt n) := by
  have hword {w : List Char} {c : Char} (hw : c ∈ w) (hc : c.isDigit = false) : cs ≠ w := by
    rintro rfl
    rw [h c hw] at hc
    cases hc
  rw [scalar?, if_neg (hword (c := 't') (by decide) (by decide)),
    if_neg (hword (c := 'f') (by decide) (by decide)), hn]

/-! ## The digits of a number -/

theorem hexValue?_digitChar {n : Nat} (h : n < 10) : Json.hexValue? n.digitChar = some n := by
  have hall : ∀ n < 10, Json.hexValue? (Nat.digitChar n) = some n := by decide
  exact hall n h

theorem isDigit_of_mem_toDigits {n : Nat} : ∀ c ∈ Nat.toDigits 10 n, c.isDigit = true :=
  fun _ hc => Nat.isDigit_of_mem_toDigits (by decide) (by decide) hc

theorem valueIn_toDigits (n : Nat) : valueIn 10 (Nat.toDigits 10 n) = n := by
  induction n using Nat.strongRecOn with
  | ind n ih =>
    rcases Nat.lt_or_ge n 10 with hlt | hge
    · rw [Nat.toDigits_of_lt_base hlt, valueIn, List.foldl_cons, List.foldl_nil,
        hexValue?_digitChar hlt, Option.getD_some]
      omega
    · have hhigh := ih (n / 10) (by omega)
      rw [valueIn] at hhigh
      rw [Nat.toDigits_of_base_le (by decide) hge, valueIn, List.foldl_append, hhigh,
        List.foldl_cons, List.foldl_nil, hexValue?_digitChar (by omega), Option.getD_some]
      omega

theorem head?_toDigits_ne {n : Nat} (h : n ≠ 0) : (Nat.toDigits 10 n).head? ≠ some '0' := by
  induction n using Nat.strongRecOn with
  | ind n ih =>
    rcases Nat.lt_or_ge n 10 with hlt | hge
    · rw [Nat.toDigits_of_lt_base hlt]
      simpa using h
    · have hhigh := ih (n / 10) (by omega) (by omega)
      obtain ⟨d, ds, hds⟩ :=
        List.exists_cons_of_ne_nil (Nat.toDigits_ne_nil (n := n / 10) (b := 10))
      rw [Nat.toDigits_of_base_le (by decide) hge, hds]
      rwa [hds] at hhigh

theorem decimal?_toDigits (n : Nat) : decimal? (Nat.toDigits 10 n) = some (Nat.toDigits 10 n) := by
  rw [decimal?, digits?_of_digits Nat.toDigits_ne_nil isDigit_of_mem_toDigits, Option.filter_some,
    if_pos]
  by_cases h : n = 0
  · subst h
    decide
  · simpa using .inl (head?_toDigits_ne h)

/-- The digits of a number stand for it. -/
theorem scalar?_toDigits {n : Nat} (h : n < Nat.pow 2 128) :
    scalar? (Nat.toDigits 10 n) = some (.nat n) := by
  refine scalar?_of_digits isDigit_of_mem_toDigits (n := .ofNat n) ?_
  rw [integer?_of_digits isDigit_of_mem_toDigits, decimal?_toDigits, Option.map_some,
    valueIn_toDigits, Option.bind_some, if_pos h]

end ComponentScan.Toml
