import ComponentScan.Proofs.Glob.Bytes
import ComponentScan.Proofs.Glob.Reading

/-!
# Matching with stars

Tokens that stand for single characters and for stars match the bytes of a text exactly when the
text is an instance of the pattern character by character (`nil_mem_seqRests_iff`). A star may
end in the middle of a character's bytes, but then no character of the pattern can follow.
-/

namespace ComponentScan.Glob

open ComponentScan.Text

/-! ## Single characters -/

/-- A class of one ASCII character is a literal. -/
theorem rests_single {c : Char} (hc : c.utf8Size = 1) (s : List UInt8) :
    (Token.oneOf false [(c, c)]).rests s = rest sameByte (String.utf8EncodeChar c) s := by
  obtain ⟨b, henc⟩ : ∃ b, String.utf8EncodeChar c = [b] :=
    ⟨_, String.utf8EncodeChar_eq_singleton hc⟩
  cases s with
  | nil => rw [Token.rests, henc, single, rest]
  | cons x s =>
    have hrange : byteRanges (c, c) = [(b, b)] := by
      simp [byteRanges, henc]
    have hclass : (inClass [(c, c)] x != false) = sameByte b x := by
      have hle (y : UInt8) : (b ≤ y && y ≤ b) = (b == y) := by
        rw [Bool.eq_iff_iff]
        simp [UInt8.le_antisymm_iff]
      have hother : (b == otherCase x) = (otherCase b == x) := by
        rw [Bool.eq_iff_iff, beq_iff_eq, beq_iff_eq]
        constructor
        · intro h
          rw [h, otherCase_otherCase]
        · intro h
          rw [← h, otherCase_otherCase]
      simp [inClass, hrange, sameByte, hle, hother]
    rw [Token.rests, single, henc, rest, hclass, rest]

theorem rests_wrappedToken {special : List Char} (hspecial : ∀ c ∈ special, c.utf8Size = 1)
    {c : Char} (hc : special.contains c = true ∨ c ≠ '*') (s : List UInt8) :
    (wrappedToken special c).rests s = rest sameByte (String.utf8EncodeChar c) s := by
  rw [wrappedToken]
  by_cases hmem : special.contains c = true
  · rw [if_pos hmem]
    exact rests_single (hspecial c (List.contains_iff_mem.1 hmem)) s
  · rw [if_neg hmem, if_neg (hc.resolve_left hmem), Token.rests]

theorem rests_run (s : List UInt8) :
    Token.run.rests s = runs (· != slashByte) s := by
  rw [Token.rests]

/-! ## Instances of a pattern -/

/-- Whether a text is an instance of a pattern in which the star alone has a role: it stands for
any text without a slash. The case of ASCII letters does not matter. -/
inductive StarFits : List Char → List Char → Prop
  | nil : StarFits [] []
  | star {p u s : List Char} (hu : '/' ∉ u) (h : StarFits p s) : StarFits ('*' :: p) (u ++ s)
  | char {c d : Char} {p s : List Char} (hc : c ≠ '*') (hd : asciiLower d = asciiLower c)
      (h : StarFits p s) : StarFits (c :: p) (d :: s)

/-- The byte of a slash is no part of another character. -/
theorem eq_slash_cons_of_bytes {cs : List Char} {r : List UInt8} (h : bytes cs = slashByte :: r) :
    ∃ ds, cs = '/' :: ds ∧ bytes ds = r := by
  cases cs with
  | nil => simp at h
  | cons d ds =>
    have hslash : String.utf8EncodeChar d ++ bytes ds = String.utf8EncodeChar '/' ++ r := h
    obtain ⟨rfl, rfl⟩ := utf8EncodeChar_append_inj hslash
    exact ⟨ds, rfl, rfl⟩

theorem slashByte_not_mem_bytes {u : List Char} (hu : '/' ∉ u) : slashByte ∉ bytes u := by
  intro h
  obtain ⟨v, w, hvw⟩ := List.append_of_mem h
  obtain ⟨as, bs, rfl, -, hbs⟩ := bytes_eq_append hvw (by decide)
  obtain ⟨ds, rfl, -⟩ := eq_slash_cons_of_bytes hbs
  simp at hu

theorem slash_not_mem_of_bytes {u : List Char} (hu : slashByte ∉ bytes u) : '/' ∉ u := by
  intro h
  obtain ⟨v, w, rfl⟩ := List.append_of_mem h
  apply hu
  rw [bytes_append, bytes_cons, show String.utf8EncodeChar '/' = [slashByte] from rfl]
  simp

/-- A pattern that does not begin with a star takes only texts that start as a character does. -/
theorem first_of_nil_mem_seqRests {c : Char} {p : List Char} {s : List UInt8} (hc : c ≠ '*')
    (h : [] ∈ seqRests ((c :: p).map (wrappedToken strictSpecials)) s) :
    ∃ x t, s = x :: t ∧ x.IsUTF8FirstByte := by
  rw [List.map_cons, seqRests, rests_wrappedToken strictSpecials_utf8Size (.inr hc)] at h
  obtain ⟨r, hr, -⟩ := List.mem_flatMap.1 h
  exact first_of_mem_rest_char hr

theorem nil_mem_seqRests_iff {p s : List Char} (hp : ¬ ['*', '*'] <:+: p) :
    [] ∈ seqRests (p.map (wrappedToken strictSpecials)) (bytes s) ↔ StarFits p s := by
  induction p generalizing s with
  | nil =>
    rw [List.map_nil, seqRests, List.mem_singleton, eq_comm, bytes_eq_nil_iff]
    constructor
    · rintro rfl
      exact .nil
    · intro h
      cases h
      rfl
  | cons c p ih =>
    have hp' : ¬ ['*', '*'] <:+: p := fun h => hp (h.trans (List.suffix_cons c p).isInfix)
    have ih {t : List Char} := ih (s := t) hp'
    rw [List.map_cons, seqRests, List.mem_flatMap]
    by_cases hc : c = '*'
    · subst hc
      have hrun : wrappedToken strictSpecials '*' = .run := rfl
      rw [hrun, rests_run]
      constructor
      · rintro ⟨r, hr, hrest⟩
        obtain ⟨u, hur, hu⟩ := mem_runs.1 hr
        have hslash : slashByte ∉ u := fun h => by simpa using hu _ h
        -- what the star leaves begins a character, or nothing is left
        have hcut : ∃ as bs, s = as ++ bs ∧ bytes as = u ∧ bytes bs = r := by
          cases p with
          | nil =>
            rw [List.map_nil, seqRests, List.mem_singleton] at hrest
            subst hrest
            exact ⟨s, [], by simp, by simpa using hur, rfl⟩
          | cons d p =>
            have hd : d ≠ '*' := by
              rintro rfl
              exact hp ⟨[], p, rfl⟩
            obtain ⟨x, t, rfl, hx⟩ := first_of_nil_mem_seqRests hd hrest
            exact bytes_eq_append hur hx
        obtain ⟨as, bs, rfl, rfl, rfl⟩ := hcut
        exact .star (slash_not_mem_of_bytes hslash) (ih.1 hrest)
      · intro h
        cases h with
        | star hu h =>
          refine ⟨_, mem_runs.2 ⟨_, bytes_append _ _, ?_⟩, ih.2 h⟩
          intro b hb
          have hne : b ≠ slashByte := fun h' => slashByte_not_mem_bytes hu (h' ▸ hb)
          simpa using hne
        | char hc => exact absurd rfl hc
    · rw [rests_wrappedToken strictSpecials_utf8Size (.inr hc)]
      constructor
      · rintro ⟨r, hr, hrest⟩
        obtain ⟨d, ds, rfl, hd, rfl⟩ := mem_rest_char.1 hr
        exact .char hc hd (ih.1 hrest)
      · intro h
        cases h with
        | star => exact absurd rfl hc
        | char _ hd h => exact ⟨_, mem_rest_char.2 ⟨_, _, rfl, hd, rfl⟩, ih.2 h⟩

/-! ## Any directories in front -/

/-- `**/` takes nothing, or everything up to a slash. -/
theorem mem_rests_leadingDirs {s : List Char} {r : List UInt8} :
    r ∈ Token.leadingDirs.rests (bytes s) ↔
      ∃ t, r = bytes t ∧ (s = t ∨ ∃ x, s = x ++ '/' :: t) := by
  rw [Token.rests, List.mem_cons, mem_runsPast]
  constructor
  · rintro (rfl | ⟨u, hu, -⟩)
    · exact ⟨s, rfl, .inl rfl⟩
    · obtain ⟨as, bs, rfl, -, hbs⟩ := bytes_eq_append hu (by decide)
      obtain ⟨ds, rfl, rfl⟩ := eq_slash_cons_of_bytes hbs
      exact ⟨ds, rfl, .inr ⟨as, rfl⟩⟩
  · rintro ⟨t, rfl, rfl | ⟨x, rfl⟩⟩
    · exact .inl rfl
    · exact .inr ⟨bytes x, by rw [bytes_append]; rfl, by simp⟩

/-! ## Tokens in a row -/

theorem seqRests_append (ts ts' : List Token) (s : List UInt8) :
    seqRests (ts ++ ts') s = (seqRests ts s).flatMap (seqRests ts') := by
  induction ts generalizing s with
  | nil => simp [seqRests]
  | cons t ts ih =>
    have hrest : seqRests (ts ++ ts') = fun r => (seqRests ts r).flatMap (seqRests ts') := funext ih
    rw [List.cons_append, seqRests, seqRests, List.flatMap_assoc, hrest]

/-- `/**` takes a slash and everything behind it. -/
theorem nil_mem_allBelow_iff {cs : List Char} :
    [] ∈ seqRests [.allBelow] (bytes cs) ↔ ∃ ds, cs = '/' :: ds := by
  rw [seqRests, List.mem_flatMap]
  constructor
  · rintro ⟨r, hr, -⟩
    rw [Token.rests, List.mem_flatMap] at hr
    obtain ⟨s, hs, -⟩ := hr
    cases hbytes : bytes cs with
    | nil => simp [hbytes, single] at hs
    | cons b s' =>
      rw [hbytes, single] at hs
      split at hs
      · rename_i hb
        obtain rfl : b = slashByte := by simpa using hb
        obtain ⟨ds, hds, -⟩ := eq_slash_cons_of_bytes hbytes
        exact ⟨ds, hds⟩
      · cases hs
  · rintro ⟨ds, rfl⟩
    have hsingle : single (· == slashByte) (bytes ('/' :: ds)) = [bytes ds] := rfl
    refine ⟨[], ?_, by simp [seqRests]⟩
    rw [Token.rests, hsingle, List.flatMap_singleton]
    exact mem_runs.2 ⟨bytes ds, by simp, fun _ _ => rfl⟩

/-- Characters that stand for themselves take a text that differs in the case of ASCII letters
only. -/
theorem mem_seqRests_wrapped {special : List Char} (hspecial : ∀ c ∈ special, c.utf8Size = 1)
    (hstar : special.contains '*' = true) {t s : List Char} {r : List UInt8} :
    r ∈ seqRests (t.map (wrappedToken special)) (bytes s) ↔
      ∃ u v, s = u ++ v ∧ u.map asciiLower = t.map asciiLower ∧ r = bytes v := by
  induction t generalizing s with
  | nil =>
    rw [List.map_nil, seqRests, List.mem_singleton]
    constructor
    · rintro rfl
      exact ⟨[], s, rfl, rfl, rfl⟩
    · rintro ⟨u, v, rfl, hu, rfl⟩
      rw [List.map_nil, List.map_eq_nil_iff] at hu
      rw [hu, List.nil_append]
  | cons c t ih =>
    have hc : special.contains c = true ∨ c ≠ '*' := by
      by_cases h : c = '*'
      · exact .inl (h ▸ hstar)
      · exact .inr h
    rw [List.map_cons, seqRests, rests_wrappedToken hspecial hc, List.mem_flatMap]
    constructor
    · rintro ⟨r', hr', hr⟩
      obtain ⟨d, ds, rfl, hd, rfl⟩ := mem_rest_char.1 hr'
      obtain ⟨u, v, rfl, hu, rfl⟩ := ih.1 hr
      exact ⟨d :: u, v, rfl, by rw [List.map_cons, List.map_cons, hd, hu], rfl⟩
    · rintro ⟨u, v, rfl, hu, rfl⟩
      obtain ⟨d, u, rfl, hd, hu⟩ := List.map_eq_cons_iff.1 hu
      exact ⟨_, mem_rest_char.2 ⟨d, u ++ v, rfl, hd, rfl⟩, ih.2 ⟨u, v, rfl, hu, rfl⟩⟩

end ComponentScan.Glob
