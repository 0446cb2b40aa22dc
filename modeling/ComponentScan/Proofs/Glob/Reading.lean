import ComponentScan.Anchor

/-!
# Reading a glob

How single lexemes become tokens, and what an escaped text is read as. A character in a class of
its own stands for itself, so the glob of an anchor without backslashes is read without fault
(`readTokens_globText`).
-/

namespace ComponentScan.Glob

/-! ## Lexemes -/

/-- Whether a character outside of any class is a lexeme without a role. -/
def IsPlain (c : Char) : Prop :=
  c ≠ '?' ∧ c ≠ '*' ∧ c ≠ '\x7b' ∧ c ≠ '\x7d' ∧ c ≠ ',' ∧ c ≠ '\\' ∧ c ≠ '['

instance (c : Char) : Decidable (IsPlain c) := inferInstanceAs (Decidable (_ ∧ _))

theorem lex_plain {c : Char} (h : IsPlain c) (cs : List Char) : lex (c :: cs) = .char c :: lex cs := by
  obtain ⟨h1, h2, h3, h4, h5, h6, h7⟩ := h
  rw [lex] <;> simp_all

/-- A character in a class of its own. -/
theorem lex_single {c : Char} (h : c ≠ '!') (h' : c ≠ '^') (cs : List Char) :
    lex ('[' :: c :: ']' :: cs) = .oneOf false [(c, c)] :: lex cs := by
  have hnext : ClassState.next ⟨false, [], false⟩ c = .ok ⟨false, [(c, c)], false⟩ := by
    simp [ClassState.next, ClassState.add]
  rw [lex, lexClass]
  · simp [hnext, lexClass, ClassState.close]
  · simp_all
  · simp_all

theorem wrap_cons (special : List Char) (c : Char) (cs : List Char) :
    wrap special (c :: cs) =
      (if special.contains c then ['[', c, ']'] else [c]) ++ wrap special cs :=
  rfl

/-- The lexeme that a character becomes in a text whose `special` characters are wrapped. -/
def wrappedLexeme (special : List Char) (c : Char) : Lexeme :=
  if special.contains c then .oneOf false [(c, c)]
  else if c = '*' then .star
  else if c = ',' then .comma
  else .char c

/-- The characters with a role in globs other than the star and the comma, which have one only
beside a second star and inside braces. -/
def strictSpecials : List Char := ['?', '[', ']', '\x7b', '\x7d']

theorem strictSpecials_utf8Size : ∀ c ∈ strictSpecials, c.utf8Size = 1 := by
  intro c hc
  rw [strictSpecials] at hc
  simp only [List.mem_cons, List.not_mem_nil, or_false] at hc
  rcases hc with rfl | rfl | rfl | rfl | rfl <;> rfl

/-- A wrapped text in front of another one is read on its own. -/
theorem lex_wrap_append {special cs : List Char} (hspecial : ∀ c ∈ strictSpecials, c ∈ special)
    (hclass : '!' ∉ special ∧ '^' ∉ special) (hcs : '\\' ∉ cs) (rest : List Char) :
    lex (wrap special cs ++ rest) = cs.map (wrappedLexeme special) ++ lex rest := by
  induction cs with
  | nil => rfl
  | cons c cs ih =>
    have hc : c ≠ '\\' := fun h => hcs (by simp [h])
    have ih := ih (fun h => hcs (List.mem_cons_of_mem c h))
    rw [wrap_cons, List.map_cons, wrappedLexeme, List.append_assoc, List.cons_append]
    by_cases hmem : special.contains c = true
    · have hne : c ≠ '!' ∧ c ≠ '^' := by
        rw [List.contains_iff_mem] at hmem
        exact ⟨fun h => hclass.1 (h ▸ hmem), fun h => hclass.2 (h ▸ hmem)⟩
      rw [if_pos hmem, if_pos hmem, ← ih]
      exact lex_single hne.1 hne.2 _
    · rw [if_neg hmem, if_neg hmem, List.singleton_append]
      have hrole : ∀ d ∈ strictSpecials, c ≠ d := by
        rintro d hd rfl
        exact hmem (List.contains_iff_mem.2 (hspecial c hd))
      by_cases hstar : c = '*'
      · subst hstar
        rw [lex, ih]
        rfl
      · by_cases hcomma : c = ','
        · subst hcomma
          rw [lex, ih]
          rfl
        · have hplain : IsPlain c :=
            ⟨hrole _ (by decide), hstar, hrole _ (by decide), hrole _ (by decide), hcomma, hc,
              hrole _ (by decide)⟩
          rw [lex_plain hplain, ih, if_neg hstar, if_neg hcomma]

theorem lex_wrap {special cs : List Char} (hspecial : ∀ c ∈ strictSpecials, c ∈ special)
    (hclass : '!' ∉ special ∧ '^' ∉ special) (hcs : '\\' ∉ cs) :
    lex (wrap special cs) = cs.map (wrappedLexeme special) := by
  have h := lex_wrap_append hspecial hclass hcs []
  rwa [List.append_nil, show lex [] = [] from rfl, List.append_nil] at h

/-! ## Tokens -/

/-- The token that a wrapped character stands for outside of any group, unless it is one of two
stars in a row. -/
def wrappedToken (special : List Char) (c : Char) : Token :=
  if special.contains c then .oneOf false [(c, c)]
  else if c = '*' then .run
  else .literal c

theorem tokensFrom_star (before : Option Char) (n : Nesting) {ls : List Lexeme}
    (h : ls.head? ≠ some .star) :
    tokensFrom before n (.star :: ls) = tokensFrom (some '*') (n.push .run) ls := by
  rw [tokensFrom]
  · rfl
  all_goals
    intro _ _ hls
    rw [hls] at h
    simp at h

theorem tokensFrom_wrapped (special : List Char) (before : Option Char) {branch : List Token}
    {c : Char} {ls : List Lexeme}
    (h : c = '*' → special.contains c = false → ls.head? ≠ some .star) :
    ∃ before', tokensFrom before ⟨branch, []⟩ (wrappedLexeme special c :: ls) =
      tokensFrom before' ⟨wrappedToken special c :: branch, []⟩ ls := by
  rw [wrappedLexeme, wrappedToken]
  by_cases hmem : special.contains c = true
  · rw [if_pos hmem, if_pos hmem]
    exact ⟨_, rfl⟩
  · rw [if_neg hmem, if_neg hmem]
    by_cases hstar : c = '*'
    · rw [if_pos hstar, if_pos hstar]
      exact ⟨_, tokensFrom_star before _ (h hstar (Bool.eq_false_iff.2 hmem))⟩
    · rw [if_neg hstar, if_neg hstar]
      by_cases hcomma : c = ','
      · rw [if_pos hcomma, hcomma]
        exact ⟨_, rfl⟩
      · rw [if_neg hcomma]
        exact ⟨_, rfl⟩

/-- A wrapped text without two stars in a row is read character by character. -/
theorem tokensFrom_wrap (special : List Char) {cs : List Char} (h : ¬ ['*', '*'] <:+: cs)
    (before : Option Char) (branch : List Token) :
    tokensFrom before ⟨branch, []⟩ (cs.map (wrappedLexeme special)) =
      .ok (branch.reverse ++ cs.map (wrappedToken special)) := by
  induction cs generalizing before branch with
  | nil => simp [tokensFrom]
  | cons c cs ih =>
    have hcs : ¬ ['*', '*'] <:+: cs := fun h' => h (h'.trans (List.suffix_cons c cs).isInfix)
    have hnext : c = '*' → (cs.map (wrappedLexeme special)).head? ≠ some .star := by
      rintro rfl
      cases cs with
      | nil => simp
      | cons d ds =>
        have hd : d ≠ '*' := by
          rintro rfl
          exact h ⟨[], ds, rfl⟩
        rw [List.map_cons, List.head?_cons, wrappedLexeme]
        split
        · simp
        · split <;> simp
    obtain ⟨before', hstep⟩ := tokensFrom_wrapped special before fun h _ => hnext h
    rw [List.map_cons, hstep, ih hcs]
    simp

/-- A text whose stars are wrapped too is read character by character, whatever follows. -/
theorem tokensFrom_wrap_append {special : List Char} (hstar : special.contains '*' = true)
    (cs : List Char) (before : Option Char) (branch : List Token) (ls : List Lexeme) :
    ∃ before', tokensFrom before ⟨branch, []⟩ (cs.map (wrappedLexeme special) ++ ls) =
      tokensFrom before' ⟨(cs.map (wrappedToken special)).reverse ++ branch, []⟩ ls := by
  induction cs generalizing before branch with
  | nil => exact ⟨before, rfl⟩
  | cons c cs ih =>
    have hwrapped : c = '*' → special.contains c = false →
        (cs.map (wrappedLexeme special) ++ ls).head? ≠ some .star := by
      rintro rfl hstar'
      rw [hstar] at hstar'
      cases hstar'
    obtain ⟨b, hstep⟩ := tokensFrom_wrapped special before hwrapped
    obtain ⟨before', hrest⟩ := ih b (wrappedToken special c :: branch)
    refine ⟨before', ?_⟩
    rw [List.map_cons, List.cons_append, hstep, hrest]
    simp

/-- A glob that compiles keeps its text. -/
theorem compile_eq_ok_iff {text : String} {g : Glob} :
    Glob.compile text = .ok g ↔ ∃ ts, readTokens text.toList = .ok ts ∧ g = ⟨text, ts⟩ := by
  rw [Glob.compile, Glob.parse]
  cases readTokens text.toList <;> simp [Except.map, eq_comm]

end ComponentScan.Glob

namespace ComponentScan.AnchorPattern

open ComponentScan.Glob

/-- The tokens of an anchor: any directories in front, and then its characters. -/
def tokens (anchor : List Char) : List Token :=
  .leadingDirs :: anchor.map (wrappedToken strictSpecials)

theorem readTokens_globText {anchor : List Char} (hslash : '\\' ∉ anchor)
    (hstars : ¬ ['*', '*'] <:+: anchor) :
    readTokens (globText anchor).toList = .ok (tokens anchor) := by
  have hlex : lex (globText anchor).toList =
      .star :: .star :: .char '/' :: anchor.map (wrappedLexeme strictSpecials) := by
    rw [← lex_wrap (fun c hc => hc) (by decide) hslash, globText, String.toList_ofList]
    show lex ('*' :: '*' :: '/' :: wrap strictSpecials anchor) = _
    rw [lex, lex, lex_plain (by decide)]
  rw [readTokens, hlex, tokensFrom]
  exact tokensFrom_wrap strictSpecials hstars (some '/') [.leadingDirs]

/-- An anchor that passed its check and was normalized compiles. -/
theorem compile_globText {anchor : List Char} (hslash : '\\' ∉ anchor)
    (hstars : ¬ ['*', '*'] <:+: anchor) :
    Glob.compile (globText anchor) = .ok ⟨globText anchor, tokens anchor⟩ := by
  exact compile_eq_ok_iff.2 ⟨_, readTokens_globText hslash hstars, rfl⟩

end ComponentScan.AnchorPattern
