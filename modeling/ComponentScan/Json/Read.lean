import ComponentScan.Json.Token

/-!
# Reading JSON

The value a token list stands for. Tokens are taken one by one; the arrays and objects that are
still open lie on a stack.
-/

namespace ComponentScan.Json

/-- An array or object that is still open. What it holds stands last first. -/
inductive Frame where
  | array (items : List Json)
  /-- An object, in the middle of the member of this name. A name may be without a text. -/
  | object (members : List (Option String × Json)) (name : Option String)

/-- What may come next. -/
inductive Reader where
  /-- A value. -/
  | value (open_ : List Frame)
  /-- A value, or the end of the array that has just been opened. -/
  | firstItem (open_ : List Frame)
  /-- The name of a member. Only the first one may be the end of the object instead. -/
  | name (open_ : List Frame) (members : List (Option String × Json))
  /-- The colon after a name. -/
  | colon (open_ : List Frame) (members : List (Option String × Json)) (name : Option String)
  /-- A comma or the end of the innermost array or object, whose latest part is this value. -/
  | after (open_ : List Frame) (v : Json)
  /-- Nothing: the text is no value. -/
  | lost

/-- The object of some members, if each of their names has a text. -/
def ofMembers (members : List (Option String × Json)) : Json :=
  match members.mapM fun m => m.1.map fun name => (name, m.2) with
  | some members => .object members
  | none => .unpaired

namespace Reader

/-- Begins a value. -/
def begin (open_ : List Frame) : Token → Reader
  | .null => after open_ .null
  | .bool b => after open_ (.bool b)
  | .number n => after open_ (.number n)
  | .string (some s) => after open_ (.string s)
  | .string none => after open_ .unpaired
  | .openArray => firstItem open_
  | .openObject => name open_ []
  | _ => lost

/-- Reads a token. -/
def step : Reader → Token → Reader
  | value fs, t => begin fs t
  | firstItem fs, .closeArray => after fs (.array [])
  | firstItem fs, t => begin (.array [] :: fs) t
  | name fs [], .closeObject => after fs (.object [])
  | name fs ms, .string n => colon fs ms n
  | colon fs ms n, .colon => value (.object ms n :: fs)
  | after (.array vs :: fs) v, .comma => value (.array (v :: vs) :: fs)
  | after (.array vs :: fs) v, .closeArray => after fs (.array (v :: vs).reverse)
  | after (.object ms n :: fs) v, .comma => name fs ((n, v) :: ms)
  | after (.object ms n :: fs) v, .closeObject => after fs (ofMembers ((n, v) :: ms).reverse)
  | _, _ => lost

end Reader

/-- The value a token list stands for. -/
def ofTokens? (ts : List Token) : Option Json :=
  match ts.foldl Reader.step (.value []) with
  | .after [] v => some v
  | _ => none

/-- The value a text stands for. -/
def parse? (text : String) : Option Json :=
  ofTokens? (lex text.toList)

end ComponentScan.Json
