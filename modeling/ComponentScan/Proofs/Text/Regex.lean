/-!
# Regular expressions

A part of the language of regular expressions: its syntax, how an expression is read from its text,
and what an expression finds in a text. A text outside this part is refused.
-/

namespace ComponentScan

inductive Regex where
  | empty
  | char (c : Char)
  /-- Any character but one: `[^c]`, or `.` if the one is a line break. -/
  | noneOf (c : Char)
  /-- `^` -/
  | textStart
  /-- `$` -/
  | textEnd
  | cat (r q : Regex)
  /-- `r|q` -/
  | either (r q : Regex)
  /-- `r*` -/
  | many (r : Regex)
  /-- `r?` -/
  | maybe (r : Regex)
  deriving Repr, DecidableEq

namespace Regex

variable {r q : Regex} {front u back : List Char}

/-! ## What an expression takes -/

/-- An expression can take the middle one of three texts: it sees the others, but does not
take them. -/
inductive Takes : Regex → List Char → List Char → List Char → Prop
  | empty {front back : List Char} : Takes .empty front [] back
  | char {c : Char} {front back : List Char} : Takes (.char c) front [c] back
  | noneOf {c d : Char} {front back : List Char} (h : c ≠ d) : Takes (.noneOf d) front [c] back
  | textStart {back : List Char} : Takes .textStart [] [] back
  | textEnd {front : List Char} : Takes .textEnd front [] []
  | cat {r q : Regex} {front u v back : List Char} (hr : Takes r front u (v ++ back))
      (hq : Takes q (front ++ u) v back) : Takes (.cat r q) front (u ++ v) back
  | left {r q : Regex} {front u back : List Char} (h : Takes r front u back) :
      Takes (.either r q) front u back
  | right {r q : Regex} {front u back : List Char} (h : Takes q front u back) :
      Takes (.either r q) front u back
  | never {r : Regex} {front back : List Char} : Takes (.many r) front [] back
  | again {r : Regex} {front u v back : List Char} (hr : Takes r front u (v ++ back))
      (h : Takes (.many r) (front ++ u) v back) : Takes (.many r) front (u ++ v) back
  | skip {r : Regex} {front back : List Char} : Takes (.maybe r) front [] back
  | once {r : Regex} {front u back : List Char} (h : Takes r front u back) :
      Takes (.maybe r) front u back

/-- A search finds the expression somewhere in a text. -/
def FoundIn (r : Regex) (text : List Char) : Prop :=
  ∃ front u back, text = front ++ u ++ back ∧ r.Takes front u back

@[simp]
theorem takes_empty_iff : Regex.empty.Takes front u back ↔ u = [] := by
  constructor
  · rintro ⟨⟩
    rfl
  · rintro rfl
    exact .empty

@[simp]
theorem takes_char_iff {c : Char} : (char c).Takes front u back ↔ u = [c] := by
  constructor
  · rintro ⟨⟩
    rfl
  · rintro rfl
    exact .char

theorem takes_noneOf_iff {d : Char} : (noneOf d).Takes front u back ↔ ∃ c, u = [c] ∧ c ≠ d := by
  constructor
  · rintro ⟨⟩
    exact ⟨_, rfl, ‹_›⟩
  · rintro ⟨c, rfl, hc⟩
    exact .noneOf hc

@[simp]
theorem takes_textStart_iff : textStart.Takes front u back ↔ front = [] ∧ u = [] := by
  constructor
  · rintro ⟨⟩
    exact ⟨rfl, rfl⟩
  · rintro ⟨rfl, rfl⟩
    exact .textStart

@[simp]
theorem takes_textEnd_iff : textEnd.Takes front u back ↔ u = [] ∧ back = [] := by
  constructor
  · rintro ⟨⟩
    exact ⟨rfl, rfl⟩
  · rintro ⟨rfl, rfl⟩
    exact .textEnd

theorem takes_cat_iff {w : List Char} :
    (cat r q).Takes front w back ↔
      ∃ u v, w = u ++ v ∧ r.Takes front u (v ++ back) ∧ q.Takes (front ++ u) v back := by
  constructor
  · rintro ⟨⟩
    exact ⟨_, _, rfl, ‹_›, ‹_›⟩
  · rintro ⟨u, v, rfl, hr, hq⟩
    exact .cat hr hq

@[simp]
theorem takes_either_iff :
    (either r q).Takes front u back ↔ r.Takes front u back ∨ q.Takes front u back := by
  constructor
  · rintro (_ | _)
    · exact .inl ‹_›
    · exact .inr ‹_›
  · rintro (h | h)
    · exact .left h
    · exact .right h

@[simp]
theorem takes_maybe_iff : (maybe r).Takes front u back ↔ u = [] ∨ r.Takes front u back := by
  constructor
  · rintro (_ | _)
    · exact .inl rfl
    · exact .inr ‹_›
  · rintro (rfl | h)
    · exact .skip
    · exact .once h

@[simp]
theorem takes_many_noneOf_iff {d : Char} : (many (noneOf d)).Takes front u back ↔ d ∉ u := by
  constructor
  · intro h
    generalize hr : many (noneOf d) = r at h
    induction h with
    | never => exact List.not_mem_nil
    | again hu _ _ ih =>
      cases hr
      obtain ⟨c, rfl, hc⟩ := takes_noneOf_iff.1 hu
      exact List.not_mem_cons_of_ne_of_not_mem hc.symm (ih rfl)
    | _ => cases hr
  · intro hu
    induction u generalizing front with
    | nil => exact .never
    | cons c u ih =>
      have hc : c ≠ d := (List.ne_of_not_mem_cons hu).symm
      exact .again (.noneOf hc) (ih (List.not_mem_of_not_mem_cons hu))

/-- Expressions in a row. -/
def seq : List Regex → Regex
  | [] => .empty
  | r :: rs => .cat r (seq rs)

@[simp]
theorem takes_seq_singleton_iff : (seq [r]).Takes front u back ↔ r.Takes front u back := by
  rw [seq, takes_cat_iff]
  constructor
  · rintro ⟨u, _, rfl, hu, ⟨⟩⟩
    simpa using hu
  · intro hu
    exact ⟨u, [], by simp, by simpa using hu, .empty⟩

/-! ## Reading an expression -/

/-- Characters that do not stand for themselves. -/
def syntaxChars : List Char :=
  ['\\', '.', '+', '*', '?', '(', ')', '|', '[', ']', '\x7b', '\x7d', '^', '$']

/-- Whether a character behind a backslash stands for itself. -/
def escapable (c : Char) : Bool :=
  c.toNat < 128 && !c.isAlphanum && c != '<' && c != '>'

/-- A group that is being read. -/
structure Group where
  /-- What stands in front of the last bar. -/
  before : Option Regex
  /-- The items behind the last bar, the last one first. -/
  items : List Regex

namespace Group

def start : Group := ⟨none, []⟩

def add (g : Group) (r : Regex) : Group := { g with items := r :: g.items }

def regex (g : Group) : Regex :=
  match g.before with
  | none => seq g.items.reverse
  | some r => .either r (seq g.items.reverse)

/-- A bar ends a branch. -/
def bar (g : Group) : Group := ⟨some g.regex, []⟩

/-- A sign of repetition changes the last item, which must not be a repetition itself. -/
def onLast (op : Regex → Regex) (g : Group) : Option Group :=
  match g.items with
  | [] | .many _ :: _ | .maybe _ :: _ => none
  | r :: items => some { g with items := op r :: items }

end Group

/-- Reads the rest of an expression inside a group, which stands inside the groups of `outer`. -/
def readFrom : List Char → Group → List Group → Option Regex
  | [], g, [] => some g.regex
  | [], _, _ :: _ => none
  | '\\' :: c :: cs, g, outer => if escapable c then readFrom cs (g.add (.char c)) outer else none
  | '[' :: '^' :: c :: ']' :: cs, g, outer =>
    if c ∈ syntaxChars then none else readFrom cs (g.add (.noneOf c)) outer
  | '(' :: '?' :: ':' :: cs, g, outer => readFrom cs .start (g :: outer)
  | ')' :: _, _, [] => none
  | ')' :: cs, g, g' :: outer => readFrom cs (g'.add g.regex) outer
  | '|' :: cs, g, outer => readFrom cs g.bar outer
  | '.' :: cs, g, outer => readFrom cs (g.add (.noneOf '\n')) outer
  | '^' :: cs, g, outer => readFrom cs (g.add .textStart) outer
  | '$' :: cs, g, outer => readFrom cs (g.add .textEnd) outer
  | '*' :: cs, g, outer => (g.onLast .many).bind fun g => readFrom cs g outer
  | '?' :: cs, g, outer => (g.onLast .maybe).bind fun g => readFrom cs g outer
  | c :: cs, g, outer => if c ∈ syntaxChars then none else readFrom cs (g.add (.char c)) outer

/-- The expression that a text writes down. -/
def read? (text : List Char) : Option Regex := readFrom text .start []

theorem readFrom_escaped {c : Char} {cs : List Char} {g : Group} {outer : List Group}
    (hc : escapable c = true) :
    readFrom ('\\' :: c :: cs) g outer = readFrom cs (g.add (.char c)) outer := by
  rw [readFrom, if_pos hc]

theorem readFrom_plain {c : Char} {cs : List Char} {g : Group} {outer : List Group}
    (hc : c ∉ syntaxChars) :
    readFrom (c :: cs) g outer = readFrom cs (g.add (.char c)) outer := by
  -- each earlier line of the definition is about a character of the syntax
  rw [readFrom, if_neg hc] <;> intros <;> subst_vars <;> exact absurd (by decide) hc

end Regex

end ComponentScan
