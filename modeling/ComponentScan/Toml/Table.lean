import ComponentScan.Json.Value

/-!
# TOML tables

A table under construction. How a table came about decides whether it may be continued: a table
is opened once by a header, tables on the way to it may be opened later, and a table that dotted
names have made is continued by dotted names only.
-/

namespace ComponentScan.Toml

/-- How a table came about. -/
inductive Origin where
  /-- It has a header of its own, or it stands in braces. -/
  | header
  /-- It lies on the way to a header. -/
  | path
  /-- It lies on the way of a dotted name. -/
  | dotted
  deriving Repr, DecidableEq

/-- An entry of a table under construction. -/
inductive Node where
  | value (v : Json)
  | table (origin : Origin) (entries : List (String × Node))
  /-- A list of tables with headers, the last one first. -/
  | tables (items : List (List (String × Node)))

/-- What a table holds. -/
abbrev Entries := List (String × Node)

namespace Node

mutual

/-- The value of an entry. -/
def toJson : Node → Json
  | value v => v
  | table _ entries => .object (entriesToJson entries)
  | tables items => .array (itemsToJson items).reverse

def entriesToJson : List (String × Node) → List (String × Json)
  | [] => []
  | (name, n) :: rest => (name, n.toJson) :: entriesToJson rest

def itemsToJson : List (List (String × Node)) → List Json
  | [] => []
  | es :: rest => .object (entriesToJson es) :: itemsToJson rest

end

end Node

namespace Entries

def toJson (es : Entries) : Json := .object (Node.entriesToJson es)

/-- Puts `f` of what stands under `name` in its place. -/
def alter (name : String) (f : Option Node → Option Node) : Entries → Option Entries
  | [] => (f none).map fun n => [(name, n)]
  | (k, n) :: rest =>
    if k = name then (f (some n)).map fun n => (k, n) :: rest
    else (alter name f rest).map ((k, n) :: ·)

/-- Enters a new value. -/
def insertNew (name : String) (v : Json) : Entries → Option Entries :=
  alter name fun
    | none => some (.value v)
    | some _ => none

/-- Changes the table that a path leads to from a table of the given origin. Tables that are
missing are made, and in a list of tables the last one counts. Dotted names do not lead into
tables with headers of their own. -/
def descend (dotted : Bool) (f : Origin → Entries → Option Entries) :
    Origin → List String → Entries → Option Entries
  | origin, [], es => f origin es
  | _, name :: path, es =>
    alter name (fun
      | none =>
        let origin := if dotted then Origin.dotted else .path
        (descend dotted f origin path []).map (.table origin)
      | some (.table origin sub) =>
        if dotted ∧ origin = .header then none
        else (descend dotted f origin path sub).map (.table origin)
      | some (.tables (last :: before)) =>
        (descend dotted f .header path last).map fun last => .tables (last :: before)
      | some _ => none) es

/-- Enters a value under a dotted name, given as its path and its last part. -/
def insert (path : List String) (name : String) (v : Json) (es : Entries) : Option Entries :=
  descend true (fun origin es =>
    if path ≠ [] ∧ origin ≠ .dotted then none else insertNew name v es) .header path es

/-- Opens a table by its header. -/
def openTable (path : List String) (name : String) (es : Entries) : Option Entries :=
  descend false (fun _ => alter name fun
    | none => some (.table .header [])
    | some (.table .path sub) => some (.table .header sub)
    | some _ => none) .header path es

/-- Opens a further table of a list by its header. -/
def openItem (path : List String) (name : String) (es : Entries) : Option Entries :=
  descend false (fun _ => alter name fun
    | none => some (.tables [[]])
    | some (.tables items) => some (.tables ([] :: items))
    | some _ => none) .header path es

end Entries

end ComponentScan.Toml
