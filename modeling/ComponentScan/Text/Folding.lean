import ComponentScan.Text.CaseTable

/-!
# Case folding

The full lower-case mapping of Unicode, independent of language. Two letters are not mapped on
their own: `İ` becomes two characters, and a capital sigma becomes a final sigma at the end of a
word. Whether a sigma ends a word is read off its nearest neighbours that are not
case-ignorable, so a character that is neither cased nor case-ignorable, such as `/`, separates
what is folded before it from what is folded after it.
-/

namespace ComponentScan.Text

def isCased (c : Char) : Bool :=
  inRanges casedRanges c.toNat

def isCaseIgnorable (c : Char) : Bool :=
  inRanges caseIgnorableRanges c.toNat

/-! ## One character -/

/-- The lower case of a code point by the first run that reaches it. -/
def lowerCode : List CaseRun → Nat → Nat
  | [], n => n
  | r :: rs, n =>
    if n < r.first then n
    else if n ≤ r.last && (n - r.first) % r.step == 0 then r.target + (n - r.first)
    else lowerCode rs n

/-- The lower case of a character that has a single one; any other character is kept. -/
def lowerChar (c : Char) : Char :=
  Char.ofNat (lowerCode lowerRuns c.toNat)

/-! ## A text -/

/-- Whether the nearest character that is not case-ignorable is cased. -/
def meetsCased (cs : List Char) : Bool :=
  match cs.dropWhile isCaseIgnorable with
  | [] => false
  | c :: _ => isCased c

/-- The lower case of `c` between the characters `before` it, nearest first, and those `after`
it. -/
def lowerBetween (before : List Char) (c : Char) (after : List Char) : List Char :=
  if c = 'Σ' then [if meetsCased before && !meetsCased after then 'ς' else 'σ']
  else if c = 'İ' then ['i', '\u0307']
  else [lowerChar c]

/-- Folds a text that stands after the characters `before`, nearest first. -/
def foldAfter (before : List Char) : List Char → List Char
  | [] => []
  | c :: cs => lowerBetween before c cs ++ foldAfter (c :: before) cs

/-- The lower case of a text. -/
def foldChars (cs : List Char) : List Char :=
  foldAfter [] cs

/-- The lower case of a text. -/
def fold (s : String) : String :=
  String.ofList (foldChars s.toList)

/-! ## ASCII -/

/-- The lower case of an ASCII capital; any other character is kept. -/
def asciiLower (c : Char) : Char :=
  c.toLower

/-- Equality of texts up to the case of ASCII letters. -/
def asciiCaseEq (a b : String) : Bool :=
  a.toList.map asciiLower == b.toList.map asciiLower

end ComponentScan.Text
