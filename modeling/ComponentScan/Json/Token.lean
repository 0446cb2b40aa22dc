import ComponentScan.Json.Value

/-!
# JSON tokens

The units of a JSON text: brackets, separators and the values without parts. A text that goes
wrong ends in a fault.
-/

namespace ComponentScan.Json

/-- A unit of a JSON text. -/
inductive Token where
  | openArray
  | closeArray
  | openObject
  | closeObject
  | comma
  | colon
  | null
  | bool (b : Bool)
  | number (n : JsonNumber)
  /-- A string, or `none` for one with half a surrogate pair. -/
  | string (s : Option String)
  | fault
  deriving Repr, DecidableEq

/-! ## Strings -/

/-- A character of a string, or a UTF-16 unit that is written by its number. -/
inductive StringPart where
  | char (c : Char)
  | unit (n : Nat)

/-- The text of a string. Two units may stand for one character; a half that lacks the other
stands for none. -/
def textOf : List StringPart → Option (List Char)
  | [] => some []
  | .char c :: ps => (textOf ps).map (c :: ·)
  | .unit n :: ps =>
    if 0xD800 ≤ n ∧ n < 0xDC00 then
      match ps with
      | .unit m :: ps =>
        if 0xDC00 ≤ m ∧ m < 0xE000 then
          (textOf ps).map (Char.ofNat (0x10000 + (n - 0xD800) * 0x400 + (m - 0xDC00)) :: ·)
        else none
      | _ => none
    else if 0xDC00 ≤ n ∧ n < 0xE000 then none
    else (textOf ps).map (Char.ofNat n :: ·)

/-- The value of a digit in base sixteen. -/
def hexValue? (c : Char) : Option Nat :=
  if '0' ≤ c ∧ c ≤ '9' then some (c.toNat - '0'.toNat)
  else if 'a' ≤ c ∧ c ≤ 'f' then some (c.toNat - 'a'.toNat + 10)
  else if 'A' ≤ c ∧ c ≤ 'F' then some (c.toNat - 'A'.toNat + 10)
  else none

/-- What a backslash makes of a letter. -/
def unescape? : Char → Option Char
  | '"' => some '"'
  | '\\' => some '\\'
  | '/' => some '/'
  | 'b' => some '\x08'
  | 'f' => some '\x0c'
  | 'n' => some '\n'
  | 'r' => some '\r'
  | 't' => some '\t'
  | _ => none

/-! ## Numbers and words -/

def isNumberChar (c : Char) : Bool :=
  c.isDigit || c == '-' || c == '+' || c == '.' || c == 'e' || c == 'E'

/-- Digits, without a zero in front of others. -/
def isWhole (cs : List Char) : Bool :=
  !cs.isEmpty && cs.all Char.isDigit && (cs.head? != some '0' || cs.length == 1)

/-- Whether a text is the exponent of a number, or empty. -/
def isExponent : List Char → Bool
  | [] => true
  | 'e' :: '+' :: cs | 'E' :: '+' :: cs | 'e' :: '-' :: cs | 'E' :: '-' :: cs
  | 'e' :: cs | 'E' :: cs => !cs.isEmpty && cs.all Char.isDigit
  | _ => false

/-- Whether a text is the fraction and the exponent of a number, or empty. -/
def isFraction : List Char → Bool
  | '.' :: cs =>
    (cs.head?.any Char.isDigit) && isExponent (cs.dropWhile Char.isDigit)
  | cs => isExponent cs

/-- The number a text of number characters stands for. -/
def numberOf? (cs : List Char) : Option JsonNumber :=
  let unsigned := match cs with
    | '-' :: rest => rest
    | _ => cs
  let whole := unsigned.takeWhile Char.isDigit
  if isWhole cs then
    some (.natural (cs.foldl (fun n c => n * 10 + (c.toNat - '0'.toNat)) 0))
  else if isWhole whole && isFraction (unsigned.dropWhile Char.isDigit) then
    some (.other (String.ofList cs))
  else none

def numberToken (reversed : List Char) : Token :=
  match numberOf? reversed.reverse with
  | some n => .number n
  | none => .fault

def wordToken (reversed : List Char) : Token :=
  match String.ofList reversed.reverse with
  | "null" => .null
  | "true" => .bool true
  | "false" => .bool false
  | _ => .fault

/-- The token of a character that is one on its own. -/
def punctuation? : Char → Option Token
  | '[' => some .openArray
  | ']' => some .closeArray
  | '\x7b' => some .openObject
  | '\x7d' => some .closeObject
  | ',' => some .comma
  | ':' => some .colon
  | _ => none

def isSpace (c : Char) : Bool :=
  c == ' ' || c == '\n' || c == '\t' || c == '\r'

/-! ## Lexing -/

/-- What the lexer is in the middle of. What has been read of it stands last first. -/
inductive LexState where
  | between
  | number (read : List Char)
  | word (read : List Char)
  | string (read : List StringPart)
  /-- Behind a backslash in a string. -/
  | escape (read : List StringPart)
  /-- Inside the number of a UTF-16 unit, with so many digits to come. -/
  | unit (read : List StringPart) (digits : Nat) (value : Nat)
  /-- The text has gone wrong. -/
  | lost

/-- A lexer: the tokens read so far, the last one first, and what it is in the middle of. -/
structure Lexer where
  tokens : List Token := []
  state : LexState := .between

namespace Lexer

def emit (l : Lexer) (t : Token) : Lexer :=
  { l with tokens := t :: l.tokens, state := .between }

def lose (l : Lexer) : Lexer :=
  { l with tokens := .fault :: l.tokens, state := .lost }

/-- Ends a number or a word. -/
def close (l : Lexer) : Lexer :=
  match l.state with
  | .number read => l.emit (numberToken read)
  | .word read => l.emit (wordToken read)
  | _ => l

/-- Reads a character that does not continue a number, a word or a string. -/
def begin (l : Lexer) (c : Char) : Lexer :=
  if c.isAlpha then { l with state := .word [c] }
  else if isNumberChar c then { l with state := .number [c] }
  else if c = '"' then { l with state := .string [] }
  else if isSpace c then l
  else
    match punctuation? c with
    | some t => l.emit t
    | none => l.lose

/-- Reads a character. -/
def step (l : Lexer) (c : Char) : Lexer :=
  match l.state with
  | .between => l.begin c
  | .number read =>
    if isNumberChar c then { l with state := .number (c :: read) } else l.close.begin c
  | .word read => if c.isAlpha then { l with state := .word (c :: read) } else l.close.begin c
  | .string read =>
    if c = '"' then l.emit (.string ((textOf read.reverse).map String.ofList))
    else if c = '\\' then { l with state := .escape read }
    else if c < ' ' then l.lose
    else { l with state := .string (.char c :: read) }
  | .escape read =>
    if c = 'u' then { l with state := .unit read 3 0 }
    else
      match unescape? c with
      | some c => { l with state := .string (.char c :: read) }
      | none => l.lose
  | .unit read digits value =>
    match hexValue? c, digits with
    | none, _ => l.lose
    | some d, 0 => { l with state := .string (.unit (value * 16 + d) :: read) }
    | some d, digits + 1 => { l with state := .unit read digits (value * 16 + d) }
  | .lost => l

/-- The tokens of the text that ends here. -/
def finish (l : Lexer) : List Token :=
  match l.state with
  | .string _ | .escape _ | .unit _ _ _ => l.lose.tokens.reverse
  | _ => l.close.tokens.reverse

end Lexer

/-- The tokens of a text. -/
def lex (text : List Char) : List Token :=
  (text.foldl Lexer.step {}).finish

end ComponentScan.Json
