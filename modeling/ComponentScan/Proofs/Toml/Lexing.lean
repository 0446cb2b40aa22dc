import ComponentScan.Toml.Token

/-!
# Reading the units of a text

What the lexer makes of a text is told unit by unit. A unit may end only where the next one begins,
so what is said of a unit depends on the character that follows it (`Reads`). A line ends with a
character of its own, and nothing that follows makes a difference to it (`ReadsLines`). Nor does
anything that follows repair a text that has gone wrong (`lex_of_lost`).
-/

namespace ComponentScan.Toml

namespace Lexer

variable {cs ds : List Char} {ts us : List Token} {c d : Char}

/-- The characters `cs` are the units `ts` if the character `c` follows. -/
def Reads (cs : List Char) (ts : List Token) (c : Char) : Prop :=
  ∀ before, step (cs.foldl step ⟨before, .between⟩) c = step ⟨ts.reverse ++ before, .between⟩ c

/-- The characters `cs` are the units `ts`, whatever follows. -/
def ReadsLines (cs : List Char) (ts : List Token) : Prop :=
  ∀ before, cs.foldl step ⟨before, .between⟩ = ⟨ts.reverse ++ before, .between⟩

theorem Reads.append (h : Reads cs ts d) (h' : Reads (d :: ds) us c) :
    Reads (cs ++ d :: ds) (ts ++ us) c := by
  intro before
  rw [List.foldl_append, List.foldl_cons, h before, ← List.foldl_cons, h', List.reverse_append,
    List.append_assoc]

theorem ReadsLines.append (h : ReadsLines cs ts) (h' : ReadsLines ds us) :
    ReadsLines (cs ++ ds) (ts ++ us) := by
  intro before
  rw [List.foldl_append, h before, h', List.reverse_append, List.append_assoc]

theorem Reads.line (h : Reads cs ts '\n') : ReadsLines (cs ++ ['\n']) (ts ++ [.newline]) := by
  intro before
  rw [List.foldl_append, List.foldl_cons, List.foldl_nil, h before, List.reverse_append]
  rfl

theorem readsLines_newline : ReadsLines ['\n'] [.newline] :=
  fun _ => rfl

/-- The tokens of a text without a byte order mark. -/
theorem lex_of_readsLines (h : ReadsLines cs ts) (hmark : cs.head? ≠ some '\uFEFF') :
    lex cs = ts := by
  have hread : cs.foldl step {} = ⟨ts.reverse, .between⟩ := by
    simpa using h []
  unfold lex
  split
  · exact absurd rfl hmark
  · dsimp only
    rw [hread, close, List.reverse_reverse]

theorem foldl_step_lost (before : List Token) (cs : List Char) :
    cs.foldl step ⟨before, .lost⟩ = ⟨before, .lost⟩ := by
  induction cs with
  | nil => rfl
  | cons c cs ih => exact ih

/-- The tokens of a text that goes wrong after the characters `cs`. -/
theorem lex_of_lost {before : List Token} (h : cs.foldl step {} = ⟨before, .lost⟩)
    (hmark : cs.head? ≠ some '\uFEFF') (rest : List Char) : lex (cs ++ rest) = before.reverse := by
  have hread : (cs ++ rest).foldl step {} = ⟨before, .lost⟩ := by
    rw [List.foldl_append, h, foldl_step_lost]
  have hhead : (cs ++ rest).head? ≠ some '\uFEFF' := by
    cases cs with
    | nil => cases h
    | cons c cs => exact hmark
  unfold lex
  split
  · rename_i hcs
    rw [hcs] at hhead
    exact absurd rfl hhead
  · dsimp only
    rw [hread, close]

/-! ## Punctuation and words -/

theorem reads_openBracket (c : Char) : Reads ['['] [.openBracket] c :=
  fun _ => rfl

theorem reads_closeBracket (c : Char) : Reads [']'] [.closeBracket] c :=
  fun _ => rfl

theorem reads_equals (c : Char) : Reads ['='] [.equals] c :=
  fun _ => rfl

theorem reads_space (hspace : c ≠ ' ') (htab : c ≠ '\t') : Reads [' '] [.gap true] c := by
  intro before
  show step ⟨before, .gap true⟩ c = _
  simp only [step]
  rw [if_neg (by simp [hspace, htab])]
  rfl

theorem foldl_step_word (h : cs.all isWordChar = true) (before : List Token)
    (read : List Char) :
    cs.foldl step ⟨before, .word read⟩ = ⟨before, .word (cs.reverse ++ read)⟩ := by
  induction cs generalizing read with
  | nil => rfl
  | cons x cs ih =>
    rw [List.all_cons, Bool.and_eq_true] at h
    have hx : step ⟨before, .word read⟩ x = ⟨before, .word (x :: read)⟩ := by
      simp only [step]
      rw [if_pos h.1, enter]
    rw [List.foldl_cons, hx, ih h.2, List.reverse_cons, List.append_assoc]
    rfl

theorem reads_word (hne : cs ≠ []) (h : cs.all isWordChar = true) (hc : isWordChar c = false) :
    Reads cs [.word cs] c := by
  intro before
  obtain ⟨x, cs, rfl⟩ := List.exists_cons_of_ne_nil hne
  rw [List.all_cons, Bool.and_eq_true] at h
  have hx : step ⟨before, .between⟩ x = ⟨before, .word [x]⟩ := by
    simp only [step, begin]
    rw [if_pos h.1, enter]
  rw [List.foldl_cons, hx, foldl_step_word h.2]
  simp only [step]
  rw [if_neg (by simp [hc])]
  simp [emit]

end Lexer

end ComponentScan.Toml
