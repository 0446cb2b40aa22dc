import ComponentScan.Text.Folding
import ComponentScan.Text.Blank

/-!
# Descriptors

How one component is recognised and what it owns. An *anchor* with a checksum says at which files
the component stands, and two glob lists say which files belong to it.
-/

namespace ComponentScan

/-- The pass in which a descriptor is matched. -/
inductive Mode where
  /-- The first pass. -/
  | immediate
  /-- The pass after it. -/
  | deferred
  deriving Repr, DecidableEq

namespace Mode

def names : List (String × Mode) :=
  [("immediate", immediate), ("deferred", deferred)]

def name : Mode → String
  | immediate => "immediate"
  | deferred => "deferred"

def ofDeferred (isDeferred : Bool) : Mode :=
  if isDeferred then deferred else immediate

end Mode

/-- The checksum that accepts any content. -/
def anyChecksum : String := "*"

/-- The version of a component whose version is not known yet. -/
def unspecificVersion : String := "unspecific"

/-- Whether an anchor stands for the whole scan. -/
def isRootAnchor (anchor : String) : Bool :=
  Text.trim anchor == "*" || Text.trim anchor == "."

/-- Identifies a supplier of inventories. -/
abbrev SupplierId := Nat

/-- How one component is recognised and what it owns. -/
structure Descriptor where
  name : String
  version : String
  /-- The id of the component, from its name and its version unless set otherwise. -/
  part : String := name ++ "-" ++ version
  /-- A glob list of what belongs to the component. -/
  includes : String := ""
  /-- A glob list of what does not. -/
  excludes : String := ""
  anchor : Option String := none
  anchorChecksum : Option String := none
  mode : Mode := .immediate
  /-- The contributor that made the descriptor. -/
  provenance : String := ""
  /-- Whether the component is there even when no file belongs to it. -/
  needsNoFiles : Bool := false
  componentType : Option String := none
  supplier : Option SupplierId := none
  deriving Repr, DecidableEq

namespace Descriptor

/-- The anchor, unless it is empty. -/
def effectiveAnchor (d : Descriptor) : Option String :=
  d.anchor.filter (· ≠ "")

/-- The checksum of the anchor, unless it is empty. -/
def effectiveChecksum (d : Descriptor) : Option String :=
  d.anchorChecksum.filter (· ≠ "")

def hasRootAnchor (d : Descriptor) : Bool :=
  d.effectiveAnchor.any isRootAnchor

def acceptsAnyChecksum (d : Descriptor) : Bool :=
  d.effectiveChecksum == some anyChecksum

def isUnspecific (d : Descriptor) : Bool :=
  d.version == unspecificVersion

/-- The text that tells descriptors apart: name, version, folded anchor and checksum. -/
def qualifier (d : Descriptor) : String :=
  d.name ++ ":" ++ d.version ++ ":" ++ Text.fold (d.effectiveAnchor.getD "") ++ ":" ++
    d.effectiveChecksum.getD ""

/-- The descriptor in words. -/
def display (d : Descriptor) : String :=
  d.part ++ " [" ++ d.mode.name ++ "] anchor=" ++ d.effectiveAnchor.getD "-"

end Descriptor

end ComponentScan
