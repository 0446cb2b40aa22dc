import ComponentScan.Proofs.Toml.Lexing
import ComponentScan.Toml.Write

/-!
# Strings are read back

Whatever form is chosen for a string, reading it gives the string (`reads_write`). A string between
double marks is read back in any form, since what the form does not hold is escaped
(`spells_escapeFrom`). Between single marks every character stands for itself, and the form is
chosen only for a text that allows it (`formOf_single`).

Over several lines a quotation mark is part of the string or of its end, which shows later. So what
has been read of a string comes with the number of marks at its end (`InString`), and the induction
over a text carries a bound on this number (`markLimit`).
-/

namespace ComponentScan.Toml

/-! ## Hexadecimal digits -/

theorem hexValue?_upperHexDigit {n : Nat} (h : n < 16) :
    Json.hexValue? (upperHexDigit n) = some n := by
  have hall : ∀ n < 16, Json.hexValue? (upperHexDigit n) = some n := by decide
  exact hall n h

theorem toNat_of_isControl {c : Char} (h : isControl c = true) : c.toNat < 128 := by
  simp only [isControl, Bool.or_eq_true, Bool.and_eq_true, decide_eq_true_eq, beq_iff_eq] at h
  rcases h with ⟨hlt, -⟩ | rfl
  · have hspace : c.toNat < ' '.toNat := hlt
    exact Nat.lt_trans hspace (by decide)
  · decide

/-! ## Quotation marks in a row -/

/-- How many quotation marks in a row may stand for themselves in a string. -/
def markLimit (multiline : Bool) : Nat := if multiline then 2 else 0

theorem lt_three_of_le_markLimit {multiline : Bool} {run : Nat} (h : run ≤ markLimit multiline) :
    run < 3 := by
  have hle : markLimit multiline ≤ 2 := by cases multiline <;> decide
  omega

theorem le_longestRun (mark : Char) (run : Nat) (cs : List Char) :
    run ≤ longestRun mark run cs := by
  induction cs generalizing run with
  | nil => exact Nat.le_refl run
  | cons c cs ih =>
    rw [longestRun]
    split
    · exact Nat.le_of_succ_le (ih (run + 1))
    · exact Nat.le_max_left _ _

theorem longestRun_of_not_mem {mark : Char} {cs : List Char} (h : mark ∉ cs) :
    longestRun mark 0 cs = 0 := by
  induction cs with
  | nil => rfl
  | cons c cs ih =>
    rw [longestRun, if_neg (Ne.symm (List.ne_of_not_mem_cons h)),
      ih (List.not_mem_of_not_mem_cons h), Nat.max_self]

/-! ## Inside a string -/

namespace Lexer

variable {before : List Token} {q : Quote} {multiline : Bool} {run : Nat} {read cs body : List Char}
  {l : Lexer} {c d : Char}

/-- The lexer is inside a string of which it has read `read`, the last character first, with `run`
quotation marks at the end of it. -/
def InString (before : List Token) (q : Quote) (multiline : Bool) (run : Nat) (read : List Char)
    (l : Lexer) : Prop :=
  ∃ sure, read = List.replicate run q.mark ++ sure ∧ l = ⟨before, .string q multiline sure run⟩

/-- The characters `body` inside a string stand for the text `cs`. -/
def Spells (q : Quote) (multiline : Bool) (body cs : List Char) : Prop :=
  ∀ before l, InString before q multiline 0 [] l →
    ∃ run, run ≤ markLimit multiline ∧
      InString before q multiline run cs.reverse (body.foldl step l)

theorem inString_nil (before : List Token) (q : Quote) (multiline : Bool) :
    InString before q multiline 0 [] ⟨before, .string q multiline [] 0⟩ :=
  ⟨[], rfl, rfl⟩

theorem InString.mark (h : InString before q true run read l) :
    InString before q true (run + 1) (q.mark :: read) (l.step q.mark) := by
  obtain ⟨sure, rfl, rfl⟩ := h
  exact ⟨sure, rfl, by simp [step, inString, enter]⟩

/-- A character that stands for itself. -/
theorem InString.plain (h : InString before q multiline run read l)
    (hrun : run ≤ markLimit multiline) (hmark : c ≠ q.mark) (hescape : ¬ (c = '\\' ∧ q = .double))
    (hcontrol : isControl c = true → c = '\n' ∧ multiline = true) :
    InString before q multiline 0 (c :: read) (l.step c) := by
  obtain ⟨sure, rfl, rfl⟩ := h
  refine ⟨_, rfl, ?_⟩
  simp only [step, inString]
  rw [if_neg hmark, if_pos (lt_three_of_le_markLimit hrun), stringChar, if_neg hescape]
  split
  · rfl
  rename_i hline
  have hnot : isControl c = false := by
    rw [← Bool.not_eq_true]
    exact fun hc => hline (hcontrol hc)
  rw [if_neg, if_neg (by simp [hnot])]
  · rfl
  · rintro ⟨rfl, -⟩
    exact absurd hnot (by decide)

theorem InString.backslash (h : InString before .double multiline run read l)
    (hrun : run ≤ markLimit multiline) : l.step '\\' = ⟨before, .escape multiline read⟩ := by
  obtain ⟨sure, rfl, rfl⟩ := h
  simp only [step, inString]
  rw [if_neg (by decide), if_pos (lt_three_of_le_markLimit hrun), stringChar,
    if_pos ⟨rfl, rfl⟩, enter]

/-- A character that is escaped by a letter. -/
theorem InString.letter (h : InString before .double multiline run read l)
    (hrun : run ≤ markLimit multiline) (hd : unescape? d = some c) :
    InString before .double multiline 0 (c :: read) (['\\', d].foldl step l) := by
  rw [List.foldl_cons, h.backslash hrun]
  refine ⟨_, rfl, ?_⟩
  simp only [List.foldl_cons, List.foldl_nil, step, inEscape, hd, enter]

theorem step_unit {digits value n : Nat} (h : Json.hexValue? c = some n) :
    step ⟨before, .unit multiline read (digits + 1) value⟩ c =
      ⟨before, .unit multiline read digits (value * 16 + n)⟩ := by
  simp only [step, inUnit, h, enter]

theorem step_lastUnit {value n : Nat} (h : Json.hexValue? c = some n)
    (hvalid : (value * 16 + n).isValidChar) :
    step ⟨before, .unit multiline read 0 value⟩ c =
      ⟨before, .string .double multiline (Char.ofNat (value * 16 + n) :: read) 0⟩ := by
  simp only [step, inUnit, h, if_pos hvalid, enter]

/-- A character that is escaped by its number. -/
theorem InString.number (h : InString before .double multiline run read l)
    (hrun : run ≤ markLimit multiline) (hc : isControl c = true) :
    InString before .double multiline 0 (c :: read) (['\\', 'u', '0', '0',
      upperHexDigit (c.toNat / 16), upperHexDigit (c.toNat % 16)].foldl step l) := by
  have hlt := toNat_of_isControl hc
  have hhigh := hexValue?_upperHexDigit (n := c.toNat / 16) (by omega)
  have hlow := hexValue?_upperHexDigit (n := c.toNat % 16) (by omega)
  have hu : step ⟨before, .escape multiline read⟩ 'u' = ⟨before, .unit multiline read 3 0⟩ := rfl
  have hnumber : (((0 * 16 + 0) * 16 + 0) * 16 + c.toNat / 16) * 16 + c.toNat % 16 = c.toNat := by
    omega
  refine ⟨_, rfl, ?_⟩
  rw [List.foldl_cons, h.backslash hrun, List.foldl_cons, hu, List.foldl_cons,
    step_unit (n := 0) (by decide), List.foldl_cons, step_unit (n := 0) (by decide),
    List.foldl_cons, step_unit hhigh, List.foldl_cons,
    step_lastUnit hlow (hnumber ▸ Or.inl (by omega)), hnumber, Char.ofNat_toNat]
  rfl

theorem InString.escaped (h : InString before .double multiline run read l)
    (hrun : run ≤ markLimit multiline) (hmark : c ≠ '"') :
    InString before .double multiline 0 (c :: read) ((Toml.escaped c).foldl step l) := by
  unfold Toml.escaped
  iterate 6
    split
    · subst c
      exact h.letter hrun rfl
  split
  · rename_i hcontrol
    exact h.number hrun hcontrol
  · rename_i hbackslash hcontrol
    exact h.plain hrun hmark (fun hc => hbackslash hc.1) fun hc => absurd hc hcontrol

/-! ## Between double marks -/

/-- The induction of `spells_escapeFrom`, behind some text. -/
theorem InString.foldl_escapeFrom (h : InString before .double multiline run read l)
    (hrun : run ≤ markLimit multiline) (cs : List Char) :
    ∃ run', run' ≤ markLimit multiline ∧ InString before .double multiline run' (cs.reverse ++ read)
      ((escapeFrom multiline run cs).foldl step l) := by
  induction cs generalizing run read l with
  | nil => exact ⟨run, hrun, h⟩
  | cons c cs ih =>
    rw [List.reverse_cons, List.append_assoc, List.singleton_append, escapeFrom]
    split
    · subst c
      split
      · rename_i hroom
        obtain ⟨rfl, hfew⟩ : multiline = true ∧ run < 2 := by simpa using hroom
        exact ih h.mark (Nat.succ_le_of_lt hfew)
      · exact ih (h.letter hrun rfl) (Nat.zero_le _)
    rename_i hmark
    split
    · rename_i hline
      obtain ⟨rfl, rfl⟩ : c = '\n' ∧ multiline = true := by simpa using hline
      exact ih (h.plain hrun (by decide) (by decide) fun _ => ⟨rfl, rfl⟩) (Nat.zero_le _)
    · rw [List.foldl_append]
      exact ih (h.escaped hrun hmark) (Nat.zero_le _)

theorem spells_escapeFrom (multiline : Bool) (cs : List Char) :
    Spells .double multiline (escapeFrom multiline 0 cs) cs := by
  intro before l h
  simpa using h.foldl_escapeFrom (Nat.zero_le _) cs

/-! ## Between single marks -/

/-- The induction of `spells_self`, behind some text. -/
theorem InString.foldl_self (h : InString before .single multiline run read l)
    (hplain : ∀ c ∈ cs, needsEscape c = false) (hline : multiline = false → '\n' ∉ cs)
    (hruns : longestRun '\'' run cs ≤ markLimit multiline) :
    ∃ run', run' ≤ markLimit multiline ∧
      InString before .single multiline run' (cs.reverse ++ read) (cs.foldl step l) := by
  induction cs generalizing run read l with
  | nil => exact ⟨run, hruns, h⟩
  | cons c cs ih =>
    have hrun : run ≤ markLimit multiline := Nat.le_trans (le_longestRun _ _ _) hruns
    have hplain' : ∀ d ∈ cs, needsEscape d = false :=
      fun d hd => hplain d (List.mem_cons_of_mem c hd)
    have hline' : multiline = false → '\n' ∉ cs :=
      fun hm => List.not_mem_of_not_mem_cons (hline hm)
    rw [List.reverse_cons, List.append_assoc, List.singleton_append, List.foldl_cons]
    rw [longestRun] at hruns
    split at hruns
    · subst c
      -- on one line there is no room for a mark
      have hpos : 0 < markLimit multiline :=
        Nat.lt_of_lt_of_le (Nat.succ_pos run) (Nat.le_trans (le_longestRun _ _ _) hruns)
      obtain rfl : multiline = true := by
        cases multiline
        · exact absurd hpos (by decide)
        · rfl
      exact ih h.mark hplain' hline' hruns
    · rename_i hmark
      have hcontrol : isControl c = true → c = '\n' ∧ multiline = true := by
        intro hc
        have hnewline : c = '\n' := by
          have hneeds := hplain c List.mem_cons_self
          simpa [needsEscape, hc] using hneeds
        refine ⟨hnewline, ?_⟩
        rw [← Bool.not_eq_false]
        exact fun hm => hline hm (hnewline ▸ List.mem_cons_self)
      exact ih (h.plain hrun hmark (by simp) hcontrol) hplain' hline'
        (Nat.le_trans (Nat.le_max_right _ _) hruns)

theorem spells_self (hplain : ∀ c ∈ cs, needsEscape c = false)
    (hline : multiline = false → '\n' ∉ cs)
    (hruns : longestRun '\'' 0 cs ≤ markLimit multiline) : Spells .single multiline cs cs := by
  intro before l h
  simpa using h.foldl_self hplain hline hruns

/-! ## Beginning and end -/

theorem step_mark (before : List Token) (q : Quote) :
    step ⟨before, .between⟩ q.mark = ⟨before, .opening q false⟩ := by
  cases q <;> rfl

theorem step_opening (h : d ≠ q.mark) (before : List Token) :
    step ⟨before, .opening q false⟩ d = step ⟨before, .string q false [] 0⟩ d := by
  simp only [step, inString]
  rw [if_neg h, if_neg h, if_pos (by decide)]
  rfl

theorem step_firstLine (hline : d ≠ '\n') (hcarriage : d ≠ '\r') (before : List Token) :
    step ⟨before, .firstLine q⟩ d = step ⟨before, .string q true [] 0⟩ d := by
  simp only [step]
  rw [if_neg hline, if_neg hcarriage]
  rfl

/-- The end of a string on one line. -/
theorem InString.closeLine (h : InString before q false 0 read l) :
    l.step q.mark = ⟨.text (String.ofList read.reverse) false :: before, .between⟩ := by
  obtain ⟨sure, rfl, rfl⟩ := h
  simp [step, inString, emitText, emit]

/-- The end of a string over several lines. Up to two marks in front of the end belong to it. -/
theorem InString.closeLines (h : InString before q true run read l) (hrun : run ≤ 2)
    (hc : c ≠ q.mark) :
    step ((List.replicate 3 q.mark).foldl step l) c =
      step ⟨.text (String.ofList read.reverse) true :: before, .between⟩ c := by
  obtain ⟨sure, hread, hl⟩ := h.mark.mark.mark
  have hread : read = List.replicate run q.mark ++ sure := by
    simpa [List.replicate_succ] using hread
  have hends : endsText (run + 1 + 1 + 1) = true := by simp [endsText]; omega
  have hmany : ¬ run + 1 + 1 + 1 < 3 := by omega
  show step (step (step (step l q.mark) q.mark) q.mark) c = _
  rw [hl]
  simp only [step, inString]
  rw [if_neg hc, if_neg hmany, if_pos hends, hread]
  rfl

/-- A string on one line. -/
theorem Spells.reads_line (h : Spells q false body cs) (hbody : body.head? ≠ some q.mark)
    (hc : c ≠ q.mark) :
    Reads (q.mark :: body ++ [q.mark]) [.text (String.ofList cs) false] c := by
  intro before
  obtain ⟨run, hrun, hread⟩ := h before _ (inString_nil before q false)
  obtain rfl : run = 0 := Nat.le_zero.1 hrun
  rw [List.cons_append, List.foldl_cons, step_mark, List.foldl_append]
  cases body with
  | nil =>
    -- the second mark already is the end
    obtain ⟨sure, hcs, hsure⟩ := hread
    obtain rfl : [] = sure := by simpa using hsure
    obtain rfl : cs = [] := by simpa using hcs
    have hsecond : step ⟨before, .opening q false⟩ q.mark = ⟨before, .opening q true⟩ := by
      simp [step, enter]
    rw [List.foldl_nil, List.foldl_cons, hsecond, List.foldl_nil]
    simp only [step]
    rw [if_neg hc]
    rfl
  | cons d body =>
    have hd : d ≠ q.mark := by simpa using hbody
    have hfirst : (d :: body).foldl step ⟨before, .opening q false⟩ =
        (d :: body).foldl step ⟨before, .string q false [] 0⟩ := by
      rw [List.foldl_cons, step_opening hd, List.foldl_cons]
    rw [hfirst, List.foldl_cons, List.foldl_nil, hread.closeLine, List.reverse_reverse]
    rfl

/-- A string over several lines. A line end right after the first marks is not part of it. -/
theorem Spells.reads_lines (h : Spells q true body cs) {start : List Char}
    (hstart : start = ['\n'] ∨ start = [] ∧ ∀ d ∈ body.head?, isControl d = false)
    (hc : c ≠ q.mark) :
    Reads (List.replicate 3 q.mark ++ start ++ body ++ List.replicate 3 q.mark)
      [.text (String.ofList cs) true] c := by
  intro before
  obtain ⟨run, hrun, hread⟩ := h before _ (inString_nil before q true)
  have hmarks : (List.replicate 3 q.mark).foldl step ⟨before, .between⟩ =
      ⟨before, .firstLine q⟩ := by
    cases q <;> rfl
  have hfirst : (start ++ (body ++ List.replicate 3 q.mark)).foldl step ⟨before, .firstLine q⟩ =
      (body ++ List.replicate 3 q.mark).foldl step ⟨before, .string q true [] 0⟩ := by
    rcases hstart with rfl | ⟨rfl, hhead⟩
    · rfl
    · obtain ⟨d, rest, hrest, hd⟩ : ∃ d rest, body ++ List.replicate 3 q.mark = d :: rest ∧
          isControl d = false := by
        cases body with
        | nil => exact ⟨q.mark, _, rfl, by cases q <;> decide⟩
        | cons d body => exact ⟨d, _, rfl, hhead d rfl⟩
      have hline : d ≠ '\n' := by
        rintro rfl
        exact absurd hd (by decide)
      have hcarriage : d ≠ '\r' := by
        rintro rfl
        exact absurd hd (by decide)
      rw [List.nil_append, hrest, List.foldl_cons, step_firstLine hline hcarriage]
      rfl
  rw [List.append_assoc, List.append_assoc, List.foldl_append, hmarks, hfirst, List.foldl_append,
    hread.closeLines hrun hc, List.reverse_reverse]
  rfl

end Lexer

/-! ## All forms -/

theorem exists_head_escaped (c : Char) :
    ∃ d ds, escaped c = d :: ds ∧ (d = '\\' ∨ d = c ∧ isControl c = false) := by
  unfold escaped
  repeat' split
  all_goals first | exact ⟨_, _, rfl, .inl rfl⟩ | exact ⟨_, _, rfl, .inr ⟨rfl, by simp_all⟩⟩

/-- No text begins with a control character when it is escaped, unless it begins with a line end. -/
theorem isControl_head_escapeFrom {multiline : Bool} {cs : List Char}
    (h : multiline = true → '\n' ∉ cs) :
    ∀ d ∈ (escapeFrom multiline 0 cs).head?, isControl d = false := by
  intro d hd
  cases cs with
  | nil => cases hd
  | cons c cs =>
    rw [escapeFrom] at hd
    split at hd
    · split at hd <;> cases hd <;> decide
    split at hd
    · rename_i hline
      obtain ⟨rfl, hm⟩ : c = '\n' ∧ multiline = true := by simpa using hline
      exact absurd List.mem_cons_self (h hm)
    · obtain ⟨e, es, hes, he⟩ := exists_head_escaped c
      rw [hes] at hd
      cases hd
      rcases he with rfl | ⟨rfl, hc⟩
      · decide
      · exact hc

theorem head?_escapeFrom_ne (cs : List Char) : (escapeFrom false 0 cs).head? ≠ some '"' := by
  cases cs with
  | nil => simp [escapeFrom]
  | cons c cs =>
    rw [escapeFrom]
    split
    · simp
    rename_i hmark
    obtain ⟨e, es, hes, he⟩ := exists_head_escaped c
    rw [if_neg (by simp), hes]
    rcases he with rfl | ⟨rfl, -⟩
    · simp
    · simpa using hmark

/-- A text between single marks holds nothing that is to be escaped and not too many marks. -/
theorem formOf_single {cs : List Char} {multiline : Bool} (h : formOf cs = ⟨.single, multiline⟩) :
    (∀ c ∈ cs, needsEscape c = false) ∧ (multiline = false → '\n' ∉ cs) ∧
      longestRun '\'' 0 cs ≤ markLimit multiline := by
  unfold formOf at h
  dsimp only at h
  split at h
  · cases h
  split at h
  · rename_i hplain
    cases h
    obtain ⟨⟨hplain, hmark⟩, hline⟩ :
        ((∀ c ∈ cs, needsEscape c = false) ∧ '\'' ∉ cs) ∧ '\n' ∉ cs := by
      simpa using hplain
    refine ⟨hplain, fun _ => hline, ?_⟩
    rw [longestRun_of_not_mem hmark]
    exact Nat.zero_le _
  split at h
  · cases h
  split at h
  · rename_i hplain
    cases h
    obtain ⟨hplain, hruns⟩ : (∀ c ∈ cs, needsEscape c = false) ∧ longestRun '\'' 0 cs ≤ 2 := by
      simpa using hplain
    exact ⟨hplain, by simp, hruns⟩
  · cases h

/-- What stands behind the first marks of a text over several lines. -/
theorem start_eq (cs : List Char) :
    (if true && cs.contains '\n' then ['\n'] else []) = ['\n'] ∨
      (if true && cs.contains '\n' then ['\n'] else []) = [] ∧ '\n' ∉ cs := by
  by_cases h : '\n' ∈ cs <;> simp [h]

/-- Between double marks a text is read back in any form. -/
theorem reads_double (multiline : Bool) (cs : List Char) {c : Char} (hc : c ≠ '"') :
    Lexer.Reads (StringForm.write ⟨.double, multiline⟩ cs)
      [.text (String.ofList cs) multiline] c := by
  have hspells := Lexer.spells_escapeFrom multiline cs
  cases multiline with
  | false => exact hspells.reads_line (head?_escapeFrom_ne cs) hc
  | true =>
    refine hspells.reads_lines ((start_eq cs).imp_right fun ⟨hstart, hline⟩ => ?_) hc
    exact ⟨hstart, isControl_head_escapeFrom fun _ => hline⟩

/-- Between single marks a text is read back in the form that is chosen for it. -/
theorem reads_single {multiline : Bool} {cs : List Char} {c : Char}
    (h : formOf cs = ⟨.single, multiline⟩) (hc : c ≠ '\'') :
    Lexer.Reads (StringForm.write ⟨.single, multiline⟩ cs)
      [.text (String.ofList cs) multiline] c := by
  obtain ⟨hplain, hline, hruns⟩ := formOf_single h
  have hspells := Lexer.spells_self hplain hline hruns
  cases multiline with
  | false =>
    refine hspells.reads_line (fun hhead => ?_) hc
    -- a mark in front would be one too many
    obtain ⟨ds, rfl⟩ : ∃ ds, cs = '\'' :: ds := List.head?_eq_some_iff.1 hhead
    rw [longestRun, if_pos rfl] at hruns
    exact absurd (Nat.le_trans (le_longestRun _ _ ds) hruns) (by decide)
  | true =>
    refine hspells.reads_lines ((start_eq cs).imp_right fun ⟨hstart, hline⟩ => ?_) hc
    refine ⟨hstart, fun d hd => ?_⟩
    have hmem : d ∈ cs := List.mem_of_mem_head? hd
    have hneeds := hplain d hmem
    rw [← Bool.not_eq_true]
    intro hcontrol
    rw [needsEscape, hcontrol] at hneeds
    exact hline ((by simpa using hneeds : d = '\n') ▸ hmem)

/-- A string is read back from the form that is chosen for it, if no quotation mark follows. -/
theorem reads_write (cs : List Char) {c : Char} (hdouble : c ≠ '"') (hsingle : c ≠ '\'') :
    Lexer.Reads ((formOf cs).write cs) [.text (String.ofList cs) (formOf cs).multiline] c := by
  cases h : formOf cs with
  | mk q multiline =>
    cases q with
    | double => exact reads_double multiline cs hdouble
    | single => exact reads_single h hsingle

end ComponentScan.Toml
