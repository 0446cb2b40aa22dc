import ComponentScan.Toml.Scalar
import ComponentScan.Toml.Table
import ComponentScan.Toml.Token

/-!
# Reading TOML

The value a TOML document stands for, as an object. Tokens are taken one by one; the arrays and
tables in brackets and braces that are still open lie on a stack.
-/

namespace ComponentScan.Toml

/-! ## Names -/

/-- A dotted name that is being read, the last part first. -/
structure DottedName where
  parts : List String := []
  /-- Whether a part has been read, so that a dot or the end has to follow. -/
  closed : Bool := false

namespace DottedName

def addPart (n : DottedName) (part : String) : Option DottedName :=
  if n.closed then none else some ⟨part :: n.parts, true⟩

def addDot (n : DottedName) : Option DottedName :=
  if n.closed then some { n with closed := false } else none

def isNameChar (c : Char) : Bool :=
  c.isAlphanum || c == '_' || c == '-'

/-- Adds the part of a word in front of a dot, which may be missing. -/
def addBare (n : DottedName) (chars : List Char) : Option DottedName :=
  if chars = [] then some n
  else if chars.all isNameChar then n.addPart (String.ofList chars)
  else none

/-- Adds a word, which may hold dots. -/
def addWord (n : DottedName) (chars : List Char) : Option DottedName :=
  match chars.splitOn '.' with
  | [] => none
  | first :: rest => rest.foldlM (fun n part => do (← n.addDot).addBare part) =<< n.addBare first

/-- Adds what a token says about a name. -/
def add (n : DottedName) : Token → Option DottedName
  | .gap _ => some n
  | .word chars => n.addWord chars
  | .text s false => n.addPart s
  | _ => none

/-- The path and the last part of a name that is complete. -/
def complete? (n : DottedName) : Option (List String × String) :=
  match n.parts with
  | last :: before => if n.closed then some (before.reverse, last) else none
  | [] => none

end DottedName

/-! ## Documents -/

/-- What has been entered so far, and the header the next entries stand under. -/
structure Document where
  root : Entries := []
  header : List String := []

namespace Document

def enter (d : Document) (path : List String) (name : String) (v : Json) : Option Document :=
  (d.root.descend false (fun _ es => es.insert path name v) .header d.header).map fun root =>
    { d with root }

def openTable (d : Document) (path : List String) (name : String) : Option Document :=
  (d.root.openTable path name).map fun root => ⟨root, path ++ [name]⟩

def openItem (d : Document) (path : List String) (name : String) : Option Document :=
  (d.root.openItem path name).map fun root => ⟨root, path ++ [name]⟩

end Document

/-! ## Reading -/

/-- What is still open around a value. -/
inductive Frame where
  /-- A line, with the name that stands in it. -/
  | line (path : List String) (name : String)
  /-- An array. Its items stand last first. -/
  | array (items : List Json)
  /-- A table in braces, in the middle of the member of this name. -/
  | braces (entries : Entries) (path : List String) (name : String)

/-- What may come next. -/
inductive State where
  /-- A line. -/
  | line
  /-- The rest of a line without content. -/
  | lineEnd
  /-- The name in front of a value. -/
  | name (n : DottedName)
  /-- A further bracket or a name, behind the bracket of a header. -/
  | bracket
  /-- The name in a header. -/
  | header (n : DottedName) (isItem : Bool)
  /-- The second closing bracket of a header. -/
  | secondBracket (path : List String) (name : String)
  /-- A value. -/
  | value (open_ : List Frame)
  /-- A value or the end of an array. -/
  | item (open_ : List Frame)
  /-- A member or the end of a table in braces. -/
  | member (entries : Entries) (open_ : List Frame)
  /-- The name of a member. -/
  | memberName (n : DottedName) (entries : Entries) (open_ : List Frame)
  /-- What follows a value. -/
  | after (open_ : List Frame) (v : Json)
  /-- What follows a date: possibly a space and a time. -/
  | afterDate (open_ : List Frame) (v : Json) (spaced : Bool)
  /-- Nothing: the text is no document. -/
  | lost

/-- How many arrays and tables may be open in a value. -/
def depthLimit : Nat := 80

structure Reader where
  document : Document := {}
  state : State := .line

namespace Reader

def enter (r : Reader) (s : State) : Reader := { r with state := s }

def lose (r : Reader) : Reader := r.enter .lost

def orLose (r : Reader) (s : Option State) : Reader := r.enter (s.getD .lost)

/-- Begins a value. -/
def beginValue (r : Reader) (fs : List Frame) : Token → Reader
  | .text s _ => r.enter (.after fs (.string s))
  | .word cs =>
    match scalar? cs with
    | none => r.lose
    | some v => r.enter (if isDate cs then .afterDate fs v false else .after fs v)
  | .openBracket => if fs.length ≤ depthLimit then r.enter (.item (.array [] :: fs)) else r.lose
  | .openBrace => if fs.length ≤ depthLimit then r.enter (.member [] fs) else r.lose
  | _ => r.lose

/-- Reads what follows a value. -/
def afterValue (r : Reader) (fs : List Frame) (v : Json) (t : Token) : Reader :=
  match fs, t with
  | _, .gap _ => r.enter (.after fs v)
  | [.line path name], .newline =>
    match r.document.enter path name v with
    | none => r.lose
    | some document => { document, state := .line }
  | .array _ :: _, .newline | .braces .. :: _, .newline => r.enter (.after fs v)
  | .array vs :: fs, .comma => r.enter (.item (.array (v :: vs) :: fs))
  | .array vs :: fs, .closeBracket => r.enter (.after fs (.array (v :: vs).reverse))
  | .braces es path name :: fs, .comma =>
    r.orLose ((es.insert path name v).map fun es => .member es fs)
  | .braces es path name :: fs, .closeBrace =>
    r.orLose ((es.insert path name v).map fun es => .after fs es.toJson)
  | _, _ => r.lose

/-- Reads a header to its end. -/
def closeHeader (r : Reader) (document : Option Document) : Reader :=
  match document with
  | none => r.lose
  | some document => { document, state := .lineEnd }

/-- Reads a token. -/
def step (r : Reader) (t : Token) : Reader :=
  match r.state with
  | .line =>
    match t with
    | .newline | .gap _ => r
    | .openBracket => r.enter .bracket
    | t => r.orLose ((DottedName.add {} t).map .name)
  | .lineEnd =>
    match t with
    | .gap _ => r
    | .newline => r.enter .line
    | _ => r.lose
  | .name n =>
    match t, n.complete? with
    | .equals, some (path, name) => r.enter (.value [.line path name])
    | t, _ => r.orLose ((n.add t).map .name)
  | .bracket =>
    match t with
    | .openBracket => r.enter (.header {} true)
    | t => r.orLose ((DottedName.add {} t).map (.header · false))
  | .header n isItem =>
    match t, n.complete? with
    | .closeBracket, some (path, name) =>
      if isItem then r.enter (.secondBracket path name)
      else r.closeHeader (r.document.openTable path name)
    | t, _ => r.orLose ((n.add t).map (.header · isItem))
  | .secondBracket path name =>
    match t with
    | .closeBracket => r.closeHeader (r.document.openItem path name)
    | _ => r.lose
  | .value fs =>
    match t with
    | .gap _ => r
    | t => r.beginValue fs t
  | .item fs =>
    match fs, t with
    | _, .gap _ | _, .newline => r
    | .array vs :: fs, .closeBracket => r.enter (.after fs (.array vs.reverse))
    | fs, t => r.beginValue fs t
  | .member es fs =>
    match t with
    | .gap _ | .newline => r
    | .closeBrace => r.enter (.after fs es.toJson)
    | t => r.orLose ((DottedName.add {} t).map (.memberName · es fs))
  | .memberName n es fs =>
    match t, n.complete? with
    | .equals, some (path, name) => r.enter (.value (.braces es path name :: fs))
    | t, _ => r.orLose ((n.add t).map (.memberName · es fs))
  | .after fs v => r.afterValue fs v t
  | .afterDate fs v spaced =>
    match t, spaced with
    | .gap true, false => r.enter (.afterDate fs v true)
    | .word cs, true => if isTime cs then r.enter (.after fs v) else r.lose
    | t, _ => r.afterValue fs v t
  | .lost => r

end Reader

/-- The document a token list stands for. -/
def ofTokens? (ts : List Token) : Option Json :=
  let r := (ts ++ [Token.newline]).foldl Reader.step {}
  match r.state with
  | .line => some r.document.root.toJson
  | _ => none

/-- The document a text stands for. -/
def parse? (text : String) : Option Json :=
  ofTokens? (lex text.toList)

end ComponentScan.Toml
