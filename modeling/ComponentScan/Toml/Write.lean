import ComponentScan.Toml.Token

/-!
# Writing TOML

Strings are written in the plainest form that holds them: between double marks, between single
marks, and then over several lines. Only a text that no form holds as it stands is escaped.
-/

namespace ComponentScan.Toml

/-! ## Choosing a form -/

/-- The form in which a string is written. -/
structure StringForm where
  quote : Quote
  multiline : Bool
  deriving Repr, DecidableEq

/-- A character that only an escape can stand for. A tab and a line end have other ways. -/
def needsEscape (c : Char) : Bool :=
  isControl c && c != '\n'

/-- The greatest number of characters `mark` in a row, where so many have just been read. -/
def longestRun (mark : Char) : Nat → List Char → Nat
  | run, [] => run
  | run, c :: cs => if c = mark then longestRun mark (run + 1) cs else max run (longestRun mark 0 cs)

/-- The plainest form that holds a text. -/
def formOf (cs : List Char) : StringForm :=
  let controls := cs.any needsEscape
  let lines := cs.contains '\n'
  let backslash := cs.contains '\\'
  if !controls && !backslash && !cs.contains '"' && !lines then ⟨.double, false⟩
  else if !controls && !cs.contains '\'' && !lines then ⟨.single, false⟩
  else if !controls && !backslash && longestRun '"' 0 cs ≤ 2 then ⟨.double, true⟩
  else if !controls && longestRun '\'' 0 cs ≤ 2 then ⟨.single, true⟩
  else ⟨.double, lines⟩

/-! ## Strings -/

def upperHexDigit (n : Nat) : Char :=
  (Nat.digitChar n).toUpper

/-- How a character is escaped between double marks. -/
def escaped (c : Char) : List Char :=
  if c = '\x08' then ['\\', 'b']
  else if c = '\t' then ['\\', 't']
  else if c = '\n' then ['\\', 'n']
  else if c = '\x0c' then ['\\', 'f']
  else if c = '\r' then ['\\', 'r']
  else if c = '\\' then ['\\', '\\']
  else if isControl c then
    ['\\', 'u', '0', '0', upperHexDigit (c.toNat / 16), upperHexDigit (c.toNat % 16)]
  else [c]

/-- A text between double marks, behind so many marks in a row. Over several lines, two marks in
a row stand for themselves. -/
def escapeFrom (multiline : Bool) : Nat → List Char → List Char
  | _, [] => []
  | run, c :: cs =>
    if c = '"' then
      if multiline && run < 2 then '"' :: escapeFrom multiline (run + 1) cs
      else '\\' :: '"' :: escapeFrom multiline 0 cs
    else if c = '\n' && multiline then '\n' :: escapeFrom multiline 0 cs
    else escaped c ++ escapeFrom multiline 0 cs

/-- A text in the given form. A text with line ends starts on a line of its own. -/
def StringForm.write (f : StringForm) (cs : List Char) : List Char :=
  let marks := List.replicate (if f.multiline then 3 else 1) f.quote.mark
  let body := match f.quote with
    | .double => escapeFrom f.multiline 0 cs
    | .single => cs
  let start := if f.multiline && cs.contains '\n' then ['\n'] else []
  marks ++ start ++ body ++ marks

/-- A string. -/
def writeString (s : String) : String :=
  String.ofList ((formOf s.toList).write s.toList)

/-! ## Tables -/

/-- A value that stands on one line. -/
inductive Plain where
  | string (s : String)
  | nat (n : Nat)
  | bool (b : Bool)
  deriving Repr, DecidableEq

def Plain.write : Plain → String
  | string s => writeString s
  | nat n => toString n
  | bool b => if b then "true" else "false"

/-- The lines of a table's entries. -/
def writeEntries (entries : List (String × Plain)) : String :=
  String.join (entries.map fun e => e.1 ++ " = " ++ e.2.write ++ "\n")

/-- Tables under their headers, with a blank line between them. -/
def writeTables (tables : List (String × List (String × Plain))) : String :=
  String.intercalate "\n" (tables.map fun t => "[" ++ t.1 ++ "]\n" ++ writeEntries t.2)

end ComponentScan.Toml
