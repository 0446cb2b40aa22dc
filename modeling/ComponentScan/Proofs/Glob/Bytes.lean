import ComponentScan.Glob.Match
import ComponentScan.Proofs.Text.Folding

/-!
# Bytes and characters

Globs are matched against bytes. The bytes of a text can be cut only between two characters
wherever the second part starts as a character does (`bytes_eq_append`), and a literal takes a
whole character, up to the case of ASCII letters (`mem_rest_char`).
-/

namespace ComponentScan.Glob

open ComponentScan.Text

/-! ## The bytes of a text -/

@[simp]
theorem bytes_nil : bytes [] = [] := rfl

theorem bytes_cons (c : Char) (cs : List Char) :
    bytes (c :: cs) = String.utf8EncodeChar c ++ bytes cs := rfl

theorem bytes_append (cs ds : List Char) : bytes (cs ++ ds) = bytes cs ++ bytes ds :=
  List.flatMap_append

/-- A character is read off the bytes it begins. -/
theorem utf8EncodeChar_append_inj {c d : Char} {u v : List UInt8}
    (h : String.utf8EncodeChar c ++ u = String.utf8EncodeChar d ++ v) : c = d ∧ u = v := by
  have hdec := congrArg (fun l : List UInt8 => l.toByteArray.utf8DecodeChar? 0) h
  simp only [List.toByteArray_append, ByteArray.utf8DecodeChar?_utf8EncodeChar_append] at hdec
  have hcd : c = d := Option.some.inj hdec
  subst hcd
  exact ⟨rfl, List.append_cancel_left h⟩

theorem bytes_eq_nil_iff {cs : List Char} : bytes cs = [] ↔ cs = [] := by
  cases cs with
  | nil => simp
  | cons c cs => simp [bytes_cons, String.utf8EncodeChar_ne_nil]

/-! ## Boundaries -/

theorem utf8EncodeChar_eq_cons (c : Char) :
    ∃ b t, String.utf8EncodeChar c = b :: t ∧ b.IsUTF8FirstByte ∧
      ∀ x ∈ t, ¬ x.IsUTF8FirstByte := by
  obtain ⟨b, t, hbt⟩ := List.exists_cons_of_ne_nil (String.utf8EncodeChar_ne_nil (c := c))
  have hfirst (i : Nat) (hi : i < (b :: t).length) :
      ((b :: t)[i]).IsUTF8FirstByte ↔ i = 0 := by
    have hlength : i < (String.utf8EncodeChar c).length := hbt ▸ hi
    have h : ((String.utf8EncodeChar c)[i]).IsUTF8FirstByte ↔ i = 0 :=
      UInt8.isUTF8FirstByte_getElem_utf8EncodeChar
    simpa only [hbt] using h
  refine ⟨b, t, hbt, (hfirst 0 (by simp)).2 rfl, ?_⟩
  intro x hx h
  obtain ⟨i, hi, rfl⟩ := List.mem_iff_getElem.1 hx
  have hzero := (hfirst (i + 1) (by simpa using hi)).1 (by simpa using h)
  omega

/-- A cut in front of the first byte of a character is a cut between two characters. -/
theorem bytes_eq_append {cs : List Char} {u v : List UInt8} {x : UInt8}
    (h : bytes cs = u ++ x :: v) (hx : x.IsUTF8FirstByte) :
    ∃ as bs, cs = as ++ bs ∧ bytes as = u ∧ bytes bs = x :: v := by
  induction cs generalizing u with
  | nil => simp at h
  | cons c cs ih =>
    rw [bytes_cons] at h
    rcases List.append_eq_append_iff.1 h with ⟨w, hu, hw⟩ | ⟨w, hc, hw⟩
    · obtain ⟨as, bs, rfl, rfl, hbs⟩ := ih hw
      exact ⟨c :: as, bs, rfl, by rw [bytes_cons, hu], hbs⟩
    · cases w with
      | nil =>
        rw [List.append_nil] at hc
        exact ⟨[c], cs, rfl, by rw [bytes_cons, hc, bytes_nil, List.append_nil], hw.symm⟩
      | cons y w =>
        obtain ⟨rfl, hv⟩ := List.cons.inj hw
        cases u with
        | nil => exact ⟨[], c :: cs, rfl, rfl, h⟩
        | cons z u =>
          -- the cut would stand in front of a later byte of the character
          obtain ⟨b, t, hbt, -, ht⟩ := utf8EncodeChar_eq_cons c
          rw [hbt, List.cons_append] at hc
          obtain ⟨-, ht'⟩ := List.cons.inj hc
          exact absurd hx (ht x (by simp [ht']))

/-! ## The case of ASCII letters -/

/-- The lower case of an ASCII capital; any other byte is kept. -/
def lowerByte (b : UInt8) : UInt8 :=
  if 0x41 ≤ b ∧ b ≤ 0x5A then b + 0x20 else b

/-- There are few enough bytes to look at each. -/
theorem forall_byte {P : UInt8 → Prop} (h : ∀ n < 256, P (UInt8.ofNat n)) (b : UInt8) : P b :=
  UInt8.ofNat_toNat (x := b) ▸ h b.toNat b.toNat_lt

theorem lowerByte_eq_or (b : UInt8) : lowerByte b = b ∨ lowerByte b = otherCase b :=
  forall_byte (P := fun b => lowerByte b = b ∨ lowerByte b = otherCase b) (by decide +kernel) b

theorem lowerByte_otherCase (b : UInt8) : lowerByte (otherCase b) = lowerByte b :=
  forall_byte (P := fun b => lowerByte (otherCase b) = lowerByte b) (by decide +kernel) b

theorem otherCase_otherCase (b : UInt8) : otherCase (otherCase b) = b :=
  forall_byte (P := fun b => otherCase (otherCase b) = b) (by decide +kernel) b

theorem sameByte_iff {a b : UInt8} : sameByte a b = true ↔ lowerByte a = lowerByte b := by
  rw [sameByte, Bool.or_eq_true, beq_iff_eq, beq_iff_eq]
  constructor
  · rintro (rfl | rfl)
    · rfl
    · exact (lowerByte_otherCase a).symm
  · intro h
    rcases lowerByte_eq_or a with ha | ha <;> rcases lowerByte_eq_or b with hb | hb
    · exact .inl (by rw [← ha, h, hb])
    · exact .inr (by rw [← ha, h, hb, otherCase_otherCase])
    · exact .inr (by rw [← ha, h, hb])
    · exact .inl (by rw [← otherCase_otherCase a, ← ha, h, hb, otherCase_otherCase])

theorem lowerByte_first_iff (b : UInt8) :
    (lowerByte b).IsUTF8FirstByte ↔ b.IsUTF8FirstByte :=
  forall_byte (P := fun b => (lowerByte b).IsUTF8FirstByte ↔ b.IsUTF8FirstByte)
    (by decide +kernel) b

/-- The bytes of a character that is not ASCII are no letters. -/
theorem map_lowerByte_utf8EncodeChar (c : Char) :
    (String.utf8EncodeChar c).map lowerByte = String.utf8EncodeChar (asciiLower c) := by
  by_cases hc : c.toNat < 128
  · have hascii : ∀ n, n < 128 → (String.utf8EncodeChar (Char.ofNat n)).map lowerByte =
        String.utf8EncodeChar (asciiLower (Char.ofNat n)) := by decide +kernel
    have h := hascii c.toNat hc
    rwa [Char.ofNat_toNat] at h
  · have hcap : ¬ IsCapital c := fun h => hc (Nat.lt_of_le_of_lt h.2 (by decide))
    rw [asciiLower_of_not_capital hcap]
    have hhigh : ∀ n, n < 256 → 128 ≤ n → lowerByte (UInt8.ofNat n) = UInt8.ofNat n := by
      decide +kernel
    have hv : ¬ c.val.toNat ≤ 0x7f := fun h => hc (Nat.lt_succ_of_le h)
    have hid : ∀ b ∈ String.utf8EncodeChar c, lowerByte b = id b := by
      intro b hb
      simp only [String.utf8EncodeChar, if_neg hv] at hb
      split at hb
      · simp only [List.mem_cons, List.not_mem_nil, or_false] at hb
        rcases hb with rfl | rfl <;> exact hhigh _ (by omega) (by omega)
      · split at hb
        · simp only [List.mem_cons, List.not_mem_nil, or_false] at hb
          rcases hb with rfl | rfl | rfl <;> exact hhigh _ (by omega) (by omega)
        · simp only [List.mem_cons, List.not_mem_nil, or_false] at hb
          rcases hb with rfl | rfl | rfl | rfl <;> exact hhigh _ (by omega) (by omega)
    rw [List.map_congr_left hid, List.map_id]

theorem map_lowerByte_bytes (cs : List Char) :
    (bytes cs).map lowerByte = bytes (cs.map asciiLower) := by
  induction cs with
  | nil => rfl
  | cons c cs ih =>
    rw [bytes_cons, List.map_append, map_lowerByte_utf8EncodeChar, ih]
    rfl

/-! ## Literals -/

/-- What a text read with `sameByte` leaves: it takes a text that differs in case only. -/
theorem mem_rest_sameByte {u s r : List UInt8} :
    r ∈ rest sameByte u s ↔ ∃ v, s = v ++ r ∧ v.map lowerByte = u.map lowerByte := by
  induction u generalizing s with
  | nil =>
    rw [rest, List.mem_singleton]
    constructor
    · rintro rfl
      exact ⟨[], rfl, rfl⟩
    · rintro ⟨v, rfl, hv⟩
      rw [List.map_nil, List.map_eq_nil_iff] at hv
      rw [hv, List.nil_append]
  | cons a u ih =>
    cases s with
    | nil =>
      simp only [rest, List.not_mem_nil, false_iff]
      rintro ⟨v, hv, hmap⟩
      rw [(List.append_eq_nil_iff.1 hv.symm).1] at hmap
      simp at hmap
    | cons b s =>
      rw [rest]
      constructor
      · intro h
        split at h
        · rename_i hab
          obtain ⟨v, rfl, hv⟩ := ih.1 h
          exact ⟨b :: v, rfl, by rw [List.map_cons, List.map_cons, hv, sameByte_iff.1 hab]⟩
        · simp at h
      · rintro ⟨v, hv, hmap⟩
        cases v with
        | nil => simp at hmap
        | cons b' v =>
          obtain ⟨rfl, rfl⟩ := List.cons.inj hv
          obtain ⟨hb, hmap⟩ := List.cons.inj hmap
          rw [if_pos (sameByte_iff.2 hb.symm)]
          exact ih.2 ⟨v, rfl, hmap⟩

/-- A literal takes one character, up to the case of ASCII letters. -/
theorem mem_rest_char {c : Char} {cs : List Char} {r : List UInt8} :
    r ∈ rest sameByte (String.utf8EncodeChar c) (bytes cs) ↔
      ∃ d ds, cs = d :: ds ∧ asciiLower d = asciiLower c ∧ r = bytes ds := by
  rw [mem_rest_sameByte]
  constructor
  · rintro ⟨v, hv, hmap⟩
    rw [map_lowerByte_utf8EncodeChar] at hmap
    have hlow : bytes (cs.map asciiLower) =
        String.utf8EncodeChar (asciiLower c) ++ r.map lowerByte := by
      rw [← map_lowerByte_bytes, hv, List.map_append, hmap]
    cases cs with
    | nil => simp [String.utf8EncodeChar_ne_nil] at hlow
    | cons d ds =>
      rw [List.map_cons, bytes_cons] at hlow
      obtain ⟨hd, -⟩ := utf8EncodeChar_append_inj hlow
      refine ⟨d, ds, rfl, hd, ?_⟩
      -- the two front parts have the same length
      have hlen : v.length = (String.utf8EncodeChar d).length := by
        have h := congrArg List.length (hmap.trans (congrArg String.utf8EncodeChar hd.symm))
        rwa [← map_lowerByte_utf8EncodeChar, List.length_map, List.length_map] at h
      rw [bytes_cons] at hv
      exact (List.append_inj hv hlen.symm).2.symm
  · rintro ⟨d, ds, rfl, hd, rfl⟩
    refine ⟨String.utf8EncodeChar d, bytes_cons d ds, ?_⟩
    rw [map_lowerByte_utf8EncodeChar, map_lowerByte_utf8EncodeChar, hd]

/-- A literal takes nothing but a text that starts as a character does. -/
theorem first_of_mem_rest_char {c : Char} {s r : List UInt8}
    (h : r ∈ rest sameByte (String.utf8EncodeChar c) s) :
    ∃ x t, s = x :: t ∧ x.IsUTF8FirstByte := by
  obtain ⟨v, rfl, hv⟩ := mem_rest_sameByte.1 h
  obtain ⟨b, t, hbt, hb, -⟩ := utf8EncodeChar_eq_cons c
  rw [hbt] at hv
  cases v with
  | nil => simp at hv
  | cons x v =>
    obtain ⟨hx, -⟩ := List.cons.inj hv
    exact ⟨x, v ++ r, rfl, (lowerByte_first_iff x).1 (hx ▸ (lowerByte_first_iff b).2 hb)⟩

end ComponentScan.Glob
