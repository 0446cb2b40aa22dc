import ComponentScan.Contributor.Basic

/-!
# Expansions

A component may have an inventory of its own, which a supplier knows. A supplier is called at
most once, however many components refer to it.
-/

namespace ComponentScan

/-- The inventory of a component. -/
structure Expansion where
  artifacts : List Artifact := []
  assets : List Asset := []
  /-- Whether the artifacts come with their markers. -/
  managesAssetIds : Bool := false
  deriving Repr, DecidableEq

/-- What each supplier answers. -/
abbrev Suppliers := SupplierId → Except ContributorError Expansion

namespace Expansion

/-- The artifacts as they enter the inventory of the scan, owned by the given assets. -/
def artifactsOf (x : Expansion) (owners : List String) : List Artifact :=
  x.artifacts.map fun a =>
    let a := { a with kind := .expanded }
    if x.managesAssetIds then a else a.markAll owners .contains

end Expansion

/-- The suppliers that have been called. -/
structure Ledger where
  called : List SupplierId := []
  deriving Repr, DecidableEq

namespace Ledger

def size (l : Ledger) : Nat := l.called.length

def isEmpty (l : Ledger) : Bool := l.called.isEmpty

/-- Whether a supplier is met for the first time, and the ledger with it. -/
def enter (l : Ledger) (s : SupplierId) : Bool × Ledger :=
  if l.called.contains s then (false, l) else (true, ⟨l.called ++ [s]⟩)

end Ledger

end ComponentScan
