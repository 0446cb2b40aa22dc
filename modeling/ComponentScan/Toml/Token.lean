import ComponentScan.Json.Token

/-!
# TOML tokens

The units of a TOML text: line ends, the white space between units, bare words, strings and
punctuation. Comments leave no token. A text that goes wrong ends in a fault.
-/

namespace ComponentScan.Toml

/-- A unit of a TOML text. -/
inductive Token where
  | newline
  /-- White space inside a line; `single` if it is one space. -/
  | gap (single : Bool)
  /-- Characters of names, numbers and dates in a row. -/
  | word (chars : List Char)
  /-- A string, which is written over several lines or on one. -/
  | text (s : String) (multiline : Bool)
  | openBracket
  | closeBracket
  | openBrace
  | closeBrace
  | equals
  | comma
  | fault
  deriving Repr, DecidableEq

/-- The two kinds of quotation marks. Only double ones allow escapes. -/
inductive Quote where
  | double
  | single
  deriving Repr, DecidableEq

def Quote.mark : Quote → Char
  | double => '"'
  | single => '\''

/-- A character of names, numbers and dates. -/
def isWordChar (c : Char) : Bool :=
  c.isAlphanum || c == '_' || c == '-' || c == '+' || c == '.' || c == ':'

/-- A character that may not be written as itself. -/
def isControl (c : Char) : Bool :=
  (c < ' ' && c != '\t') || c == '\x7f'

/-- What a backslash makes of a letter. -/
def unescape? : Char → Option Char
  | 'b' => some '\x08'
  | 't' => some '\t'
  | 'n' => some '\n'
  | 'f' => some '\x0c'
  | 'r' => some '\r'
  | 'e' => some '\x1b'
  | '"' => some '"'
  | '\\' => some '\\'
  | _ => none

/-- The number of digits of a character that is written by its number. -/
def unitDigits? : Char → Option Nat
  | 'x' => some 2
  | 'u' => some 4
  | 'U' => some 8
  | _ => none

/-- The token of a character that is one on its own. -/
def punctuation? : Char → Option Token
  | '[' => some .openBracket
  | ']' => some .closeBracket
  | '\x7b' => some .openBrace
  | '\x7d' => some .closeBrace
  | '=' => some .equals
  | ',' => some .comma
  | '\n' => some .newline
  | _ => none

/-! ## Lexing -/

/-- What the lexer is in the middle of. What has been read of it stands last first. -/
inductive LexState where
  | between
  | gap (single : Bool)
  /-- Behind a carriage return, which belongs to a line end. -/
  | carriage
  | comment
  | word (read : List Char)
  /-- Behind the first quotation mark, or the second one. -/
  | opening (q : Quote) (second : Bool)
  /-- Behind the third quotation mark, where a line end is dropped. -/
  | firstLine (q : Quote)
  | firstCarriage (q : Quote)
  /-- Inside a string, behind so many quotation marks in a row. -/
  | string (q : Quote) (multiline : Bool) (read : List Char) (marks : Nat)
  | stringCarriage (q : Quote) (read : List Char)
  /-- Behind a backslash. -/
  | escape (multiline : Bool) (read : List Char)
  /-- Inside the number of a character, with so many digits to come after the next one. -/
  | unit (multiline : Bool) (read : List Char) (digits value : Nat)
  /-- Behind a backslash and white space, which a line end has to follow. -/
  | lineEnd (read : List Char)
  /-- In the white space that a backslash at a line end removes. -/
  | skip (read : List Char)
  | skipCarriage (read : List Char)
  /-- The text has gone wrong. -/
  | lost

/-- A lexer: the tokens read so far, the last one first, and what it is in the middle of. -/
structure Lexer where
  tokens : List Token := []
  state : LexState := .between

namespace Lexer

def emit (l : Lexer) (t : Token) : Lexer :=
  { l with tokens := t :: l.tokens, state := .between }

def enter (l : Lexer) (s : LexState) : Lexer := { l with state := s }

def lose (l : Lexer) : Lexer :=
  { l with tokens := .fault :: l.tokens, state := .lost }

/-- Reads a character that does not continue anything. -/
def begin (l : Lexer) (c : Char) : Lexer :=
  if isWordChar c then l.enter (.word [c])
  else if c = ' ' then l.enter (.gap true)
  else if c = '\t' then l.enter (.gap false)
  else if c = '#' then l.enter .comment
  else if c = '"' then l.enter (.opening .double false)
  else if c = '\'' then l.enter (.opening .single false)
  else if c = '\r' then l.enter .carriage
  else
    match punctuation? c with
    | some t => l.emit t
    | none => l.lose

/-- Ends a string. -/
def emitText (l : Lexer) (multiline : Bool) (read : List Char) : Lexer :=
  l.emit (.text (String.ofList read.reverse) multiline)

/-- Whether so many quotation marks in a row end a string over several lines. The last three do,
and up to two more are part of it. -/
def endsText (marks : Nat) : Bool := 3 ≤ marks && marks ≤ 5

/-- Reads a character of a string, other than its quotation mark. -/
def stringChar (l : Lexer) (q : Quote) (multiline : Bool) (read : List Char) (c : Char) : Lexer :=
  if c = '\\' ∧ q = .double then l.enter (.escape multiline read)
  else if c = '\n' ∧ multiline then l.enter (.string q multiline (c :: read) 0)
  else if c = '\r' ∧ multiline then l.enter (.stringCarriage q read)
  else if isControl c then l.lose
  else l.enter (.string q multiline (c :: read) 0)

/-- Reads a character inside a string, behind so many quotation marks in a row. -/
def inString (l : Lexer) (q : Quote) (multiline : Bool) (read : List Char) (marks : Nat)
    (c : Char) : Lexer :=
  if c = q.mark then
    if multiline then l.enter (.string q multiline read (marks + 1)) else l.emitText false read
  else if marks < 3 then
    l.stringChar q multiline (List.replicate marks q.mark ++ read) c
  else if endsText marks then
    (l.emitText true (List.replicate (marks - 3) q.mark ++ read)).begin c
  else l.lose

/-- Reads a character behind a backslash. -/
def inEscape (l : Lexer) (multiline : Bool) (read : List Char) (c : Char) : Lexer :=
  match unescape? c, unitDigits? c with
  | some d, _ => l.enter (.string .double multiline (d :: read) 0)
  | none, some digits => l.enter (.unit multiline read (digits - 1) 0)
  | none, none =>
    if !multiline then l.lose
    else if c = ' ' ∨ c = '\t' then l.enter (.lineEnd read)
    else if c = '\n' then l.enter (.skip read)
    else if c = '\r' then l.enter (.skipCarriage read)
    else l.lose

/-- Reads a digit of the number of a character. -/
def inUnit (l : Lexer) (multiline : Bool) (read : List Char) (digits value : Nat) (c : Char) :
    Lexer :=
  match Json.hexValue? c with
  | none => l.lose
  | some d =>
    let value := value * 16 + d
    match digits with
    | digits + 1 => l.enter (.unit multiline read digits value)
    | 0 =>
      if value.isValidChar then
        l.enter (.string .double multiline (Char.ofNat value :: read) 0)
      else l.lose

/-- Reads a character. -/
def step (l : Lexer) (c : Char) : Lexer :=
  match l.state with
  | .between => l.begin c
  | .gap single =>
    if c = ' ' ∨ c = '\t' then l.enter (.gap false) else (l.emit (.gap single)).begin c
  | .carriage => if c = '\n' then l.emit .newline else l.lose
  | .comment =>
    if c = '\n' then l.emit .newline
    else if c = '\r' then l.enter .carriage
    else if isControl c then l.lose
    else l
  | .word read =>
    if isWordChar c then l.enter (.word (c :: read)) else (l.emit (.word read.reverse)).begin c
  | .opening q false =>
    if c = q.mark then l.enter (.opening q true) else l.stringChar q false [] c
  | .opening q true =>
    if c = q.mark then l.enter (.firstLine q) else (l.emitText false []).begin c
  | .firstLine q =>
    if c = '\n' then l.enter (.string q true [] 0)
    else if c = '\r' then l.enter (.firstCarriage q)
    else l.inString q true [] 0 c
  | .firstCarriage q => if c = '\n' then l.enter (.string q true [] 0) else l.lose
  | .string q multiline read marks => l.inString q multiline read marks c
  | .stringCarriage q read =>
    if c = '\n' then l.enter (.string q true ('\n' :: '\r' :: read) 0) else l.lose
  | .escape multiline read => l.inEscape multiline read c
  | .unit multiline read digits value => l.inUnit multiline read digits value c
  | .lineEnd read =>
    if c = ' ' ∨ c = '\t' then l
    else if c = '\n' then l.enter (.skip read)
    else if c = '\r' then l.enter (.skipCarriage read)
    else l.lose
  | .skip read =>
    if c = ' ' ∨ c = '\t' ∨ c = '\n' then l
    else if c = '\r' then l.enter (.skipCarriage read)
    else l.inString .double true read 0 c
  | .skipCarriage read => if c = '\n' then l.enter (.skip read) else l.lose
  | .lost => l

/-- The lexer of the text that ends here. -/
def close (l : Lexer) : Lexer :=
  match l.state with
  | .between | .comment | .lost => l
  | .gap single => l.emit (.gap single)
  | .word read => l.emit (.word read.reverse)
  | .opening _ true => l.emitText false []
  | .string q true read marks =>
    if endsText marks then l.emitText true (List.replicate (marks - 3) q.mark ++ read)
    else l.lose
  | _ => l.lose

end Lexer

/-- The tokens of a text. A byte order mark in front of it is passed over. -/
def lex (text : List Char) : List Token :=
  let text := match text with
    | '\uFEFF' :: rest => rest
    | _ => text
  (text.foldl Lexer.step {}).close.tokens.reverse

end ComponentScan.Toml
