import ComponentScan.Json.Value
import ComponentScan.StringMap

/-!
# Decoding records

Values of the library's own types are read from JSON values. A record is written as an object,
whose unknown members are ignored, or as the array of its fields in their order. A choice is
written as its name, or as an object with one member, named for the choice and without content.
Notations that share the value type differ in two points, which a `Dialect` states.
-/

namespace ComponentScan

/-- How a notation writes records and choices. -/
structure Dialect where
  /-- Whether an array that stands for a record may be longer than the record. -/
  allowsSurplus : Bool
  /-- Whether a value is without content. -/
  isUnit : Json → Bool

namespace Dialect

/-- JSON itself: an array has no more items than the record has fields, and `null` is without
content. -/
def json : Dialect where
  allowsSurplus := false
  isUnit
    | .null => true
    | _ => false

/-- A notation of tables, without a null. -/
def tables : Dialect where
  allowsSurplus := true
  isUnit
    | .object members => members.isEmpty
    | .array items => items.isEmpty
    | _ => false

end Dialect

/-- A way to read values of a type. -/
abbrev Decoder (α : Type) := Dialect → Json → Option α

namespace Decoder

/-! ## Single values -/

def string : Decoder String
  | _, .string s => some s
  | _, _ => none

def bool : Decoder Bool
  | _, .bool b => some b
  | _, _ => none

/-- A whole number up to `max`. -/
def upTo (max : Nat) : Decoder Nat
  | _, .number (.natural n) => if n ≤ max then some n else none
  | _, _ => none

/-- A whole number of 32 bits. -/
def word : Decoder Nat := upTo 0xFFFFFFFF

/-- A whole number of 64 bits. -/
def size : Decoder Nat := upTo 0xFFFFFFFFFFFFFFFF

/-- A value, or none written as `null`. -/
def option {α : Type} (item : Decoder α) : Decoder (Option α)
  | _, .null => some none
  | d, v => (item d v).map some

/-- One of several named choices. -/
def choice {α : Type} (names : List (String × α)) : Decoder α
  | _, .string s => names.lookup s
  | d, .object [(s, v)] => if d.isUnit v then names.lookup s else none
  | _, _ => none

/-! ## Collections -/

def list {α : Type} (item : Decoder α) : Decoder (List α)
  | d, .array items => items.mapM (item d)
  | _, _ => none

/-- A set, written as a list in which texts may repeat. -/
def stringSet : Decoder StringSet := fun d v =>
  (list string d v).map StringSet.ofList

/-- A map, written as an object in which a later member takes the place of an earlier one. -/
def map {α : Type} (item : Decoder α) : Decoder (StringMap α)
  | d, .object members =>
    (members.mapM fun m => (item d m.2).map fun v => (m.1, v)).map StringMap.ofList
  | _, _ => none

/-! ## Records -/

/-- The fields of a record that are written, by name. -/
structure Fields where
  dialect : Dialect
  values : List (String × Json)

/-- The fields of a record whose fields have the given names. A field that is written twice is
no record. -/
def fields? (names : List String) : Decoder Fields
  | d, .object members =>
    let known := members.filter fun m => names.contains m.1
    if (known.map (·.1)).Nodup then some ⟨d, known⟩ else none
  | d, .array items =>
    if d.allowsSurplus ∨ items.length ≤ names.length then some ⟨d, names.zip items⟩ else none
  | _, _ => none

namespace Fields

variable {α : Type}

/-- The value of a field that has to be written. -/
def required (f : Fields) (name : String) (decode : Decoder α) : Option α :=
  (f.values.lookup name).bind (decode f.dialect)

/-- The value of a field, or `default` where it is not written. -/
def getD (f : Fields) (name : String) (decode : Decoder α) (default : α) : Option α :=
  match f.values.lookup name with
  | none => some default
  | some v => decode f.dialect v

end Fields

end Decoder

end ComponentScan
