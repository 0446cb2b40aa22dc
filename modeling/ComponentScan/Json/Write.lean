import ComponentScan.Json.Value

/-!
# Writing JSON

A value on one line, or with its items and members on lines of their own, indented by two spaces.
-/

namespace ComponentScan.Json

/-! ## Strings -/

def lowerHexDigit (n : Nat) : Char :=
  (Nat.digitChar n)

/-- How a character is written inside a string. -/
def stringChar (c : Char) : List Char :=
  if c = '"' then ['\\', '"']
  else if c = '\\' then ['\\', '\\']
  else if c = '\x08' then ['\\', 'b']
  else if c = '\x0c' then ['\\', 'f']
  else if c = '\n' then ['\\', 'n']
  else if c = '\r' then ['\\', 'r']
  else if c = '\t' then ['\\', 't']
  else if c < ' ' then
    ['\\', 'u', '0', '0', lowerHexDigit (c.toNat / 16), lowerHexDigit (c.toNat % 16)]
  else [c]

def writeString (s : String) : String :=
  String.ofList ('"' :: s.toList.flatMap stringChar ++ ['"'])

def writeNumber : JsonNumber → String
  | .natural n => toString n
  | .other text => text

/-! ## Values -/

mutual

/-- A value on one line. -/
def compact : Json → String
  | .null => "null"
  | .bool b => if b then "true" else "false"
  | .number n => writeNumber n
  | .string s => writeString s
  | .unpaired => writeString ""
  | .array items => "[" ++ String.intercalate "," (compactItems items) ++ "]"
  | .object members => "\x7b" ++ String.intercalate "," (compactMembers members) ++ "\x7d"

def compactItems : List Json → List String
  | [] => []
  | v :: vs => compact v :: compactItems vs

def compactMembers : List (String × Json) → List String
  | [] => []
  | (name, v) :: ms => (writeString name ++ ":" ++ compact v) :: compactMembers ms

end

/-- Entries on lines of their own, each after the given indentation. -/
def indented (indent : String) (entries : List String) : String :=
  String.intercalate "," (entries.map fun e => "\n" ++ indent ++ "  " ++ e) ++ "\n" ++ indent

mutual

/-- A value whose lines after the first start with the given indentation. -/
def prettyAt (indent : String) : Json → String
  | .array (v :: vs) =>
    "[" ++ indented indent (prettyAt (indent ++ "  ") v :: prettyItems (indent ++ "  ") vs) ++ "]"
  | .object (m :: ms) =>
    "\x7b" ++ indented indent
      ((writeString m.1 ++ ": " ++ prettyAt (indent ++ "  ") m.2) ::
        prettyMembers (indent ++ "  ") ms) ++ "\x7d"
  | v => compact v

def prettyItems (indent : String) : List Json → List String
  | [] => []
  | v :: vs => prettyAt indent v :: prettyItems indent vs

def prettyMembers (indent : String) : List (String × Json) → List String
  | [] => []
  | (name, v) :: ms => (writeString name ++ ": " ++ prettyAt indent v) :: prettyMembers indent ms

end

/-- A value on several lines. -/
def pretty (v : Json) : String :=
  prettyAt "" v

end ComponentScan.Json
