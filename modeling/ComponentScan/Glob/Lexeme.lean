import ComponentScan.Glob.Error

/-!
# Glob lexemes

The units a glob is written in. A character class is one unit, so a comma or a brace inside it is
no lexeme of its own. A text that goes wrong ends in the lexeme that says how, which keeps the
faults of a glob in the order in which they are met.
-/

namespace ComponentScan.Glob

/-- A unit of a glob's text. -/
inductive Lexeme where
  /-- A character without a role. -/
  | char (c : Char)
  /-- A character after a backslash. -/
  | escaped (c : Char)
  | question
  | star
  | openBrace
  | closeBrace
  | comma
  /-- A character class: its ranges, ends included. -/
  | oneOf (negated : Bool) (ranges : List (Char × Char))
  /-- The text goes wrong here. -/
  | fault (e : GlobError)
  deriving Repr, DecidableEq

/-- The last character of a lexeme's text. -/
def Lexeme.lastChar : Lexeme → Option Char
  | .char c | .escaped c => some c
  | .question => some '?'
  | .star => some '*'
  | .openBrace => some '\x7b'
  | .closeBrace => some '\x7d'
  | .comma => some ','
  | .oneOf _ _ => some ']'
  | .fault _ => none

/-- A character class that is being read. The first character after the opening stands for
itself, whatever it is. -/
structure ClassState where
  negated : Bool
  /-- The ranges so far, the last one first. -/
  ranges : List (Char × Char) := []
  /-- A dash has been read that may join the last range to the next character. -/
  joining : Bool := false

namespace ClassState

def add (st : ClassState) (c : Char) : ClassState :=
  { st with ranges := (c, c) :: st.ranges, joining := false }

/-- Ends the last range at `c`. -/
def join (st : ClassState) (c : Char) : Except GlobError ClassState :=
  match st.ranges with
  | [] => .ok (st.add c)
  | (first, _) :: ranges =>
    if c < first then .error (.invalidRange first c)
    else .ok { st with ranges := (first, c) :: ranges, joining := false }

/-- Reads a character of the class that does not close it. -/
def next (st : ClassState) (c : Char) : Except GlobError ClassState :=
  if st.joining then st.join c
  else if c = '-' ∧ st.ranges ≠ [] then .ok { st with joining := true }
  else .ok (st.add c)

/-- The class at its closing bracket; a dash in front of the bracket stands for itself. -/
def close (st : ClassState) : Lexeme :=
  let st := if st.joining then st.add '-' else st
  .oneOf st.negated st.ranges.reverse

end ClassState

mutual

/-- The lexemes of a text. -/
def lex : List Char → List Lexeme
  | [] => []
  | '?' :: cs => .question :: lex cs
  | '*' :: cs => .star :: lex cs
  | '\x7b' :: cs => .openBrace :: lex cs
  | '\x7d' :: cs => .closeBrace :: lex cs
  | ',' :: cs => .comma :: lex cs
  | ['\\'] => [.fault .danglingEscape]
  | '\\' :: c :: cs => .escaped c :: lex cs
  | '[' :: '!' :: cs | '[' :: '^' :: cs => lexClass { negated := true } cs
  | '[' :: cs => lexClass { negated := false } cs
  | c :: cs => .char c :: lex cs

/-- The lexemes of a text that stands inside a character class. -/
def lexClass (st : ClassState) : List Char → List Lexeme
  | [] => [.fault .unclosedClass]
  | c :: cs =>
    if c = ']' ∧ st.ranges ≠ [] then st.close :: lex cs
    else
      match st.next c with
      | .ok st => lexClass st cs
      | .error e => [.fault e]

end

end ComponentScan.Glob
