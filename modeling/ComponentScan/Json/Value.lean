/-!
# JSON values

A value as it is written: the members of an object in their order, repeated names included, and
a number by its kind.
-/

namespace ComponentScan

/-- A number as far as a reader of whole numbers can tell. -/
inductive JsonNumber where
  /-- A number written with digits alone. -/
  | natural (n : Nat)
  /-- Any other number, as written. -/
  | other (text : String)
  deriving Repr, DecidableEq

/-- A JSON value. -/
inductive Json where
  | null
  | bool (b : Bool)
  | number (n : JsonNumber)
  | string (s : String)
  /-- A string with half a surrogate pair, or an object with such a name. It is well formed, so it
  can be passed over, and it has no text. -/
  | unpaired
  | array (items : List Json)
  | object (members : List (String × Json))
  deriving Repr, Inhabited

namespace Json

def nat (n : Nat) : Json := number (.natural n)

/-- The string, or `null` for none. -/
def ofOption : Option String → Json
  | none => null
  | some s => string s

def strings (xs : List String) : Json := array (xs.map string)

end Json

end ComponentScan
