import ComponentScan.Anchor
import ComponentScan.Context.Basic
import ComponentScan.Descriptor.Check
import ComponentScan.Ownership

/-!
# Anchor matches

The places where components stand: a descriptor together with a file that satisfies its anchor
and its checksum. An anchor for the whole scan stands at the scan root, whatever the files are.
-/

namespace ComponentScan

/-- A descriptor and a place that satisfies its anchor. -/
structure AnchorMatch where
  descriptor : Descriptor
  /-- The file that satisfies the anchor; none for an anchor for the whole scan. -/
  path : Option String
  checksum : String
  /-- Where the scan took place. -/
  scanRoot : String
  ownership : Ownership
  /-- The assets around the scan, the outermost first. -/
  assetIdChain : List String
  /-- The root paths of the file. -/
  rootPaths : StringSet
  deriving Repr, DecidableEq

namespace AnchorMatch

/-- A file at which a component may stand. -/
structure Candidate where
  path : String
  folded : String
  checksum : Option String
  rootPaths : StringSet
  deriving Repr, DecidableEq

def Candidate.ofArtifact? (a : Artifact) : Option Candidate :=
  a.normalizedPath.map fun path =>
    { path, folded := Text.fold path, checksum := a.checksum, rootPaths := a.rootPaths }

def candidates (context : ScanContext) : List Candidate :=
  context.files.filterMap Candidate.ofArtifact?

/-- The checksum that is recorded for a file of which `expected` is required, if the file has
it. A file without a checksum satisfies only the requirement that any content does. -/
def acceptChecksum (expected : String) (actual : Option String) : Option String :=
  if expected = anyChecksum then some (actual.getD anyChecksum)
  else
    match actual with
    | none => none
    | some checksum => if Text.asciiCaseEq checksum expected then some expected else none

/-- The match of an anchor for the whole scan. -/
def whole (context : ScanContext) (d : Descriptor) : AnchorMatch :=
  { descriptor := d
    path := none
    checksum := anyChecksum
    scanRoot := context.baseDir
    ownership := .scanRoot
    assetIdChain := context.assetIdChain
    rootPaths := .empty }

/-- The match of an anchor of `count` segments at a file. -/
def at? (context : ScanContext) (d : Descriptor) (p : AnchorPattern) (count : Nat)
    (expected : String) (c : Candidate) : Option AnchorMatch :=
  if p.accepts c.folded then
    (acceptChecksum expected c.checksum).map fun checksum =>
      { descriptor := d
        path := some c.path
        checksum
        scanRoot := context.baseDir
        ownership := .ofPath c.path count
        assetIdChain := context.assetIdChain
        rootPaths := c.rootPaths }
  else none

/-- The matches of one descriptor. -/
def ofDescriptor (context : ScanContext) (candidates : List Candidate) (d : Descriptor) :
    Except EngineError (List AnchorMatch) := do
  let (anchor, expected) ← d.check
  if d.hasRootAnchor then return [whole context d]
  else
    let anchor := Path.normalize anchor
    let p ← AnchorPattern.compile anchor
    return candidates.filterMap (at? context d p (Ownership.segmentCount anchor) expected)

/-- The matches of the descriptors of one pass, in their order. A descriptor that cannot be
matched ends the pass. -/
def all (descriptors : List Descriptor) (context : ScanContext) (mode : Mode) :
    Except EngineError (List AnchorMatch) :=
  return ((← (descriptors.filter (·.mode == mode)).mapM
    (ofDescriptor context (candidates context))).flatten)

/-- What is reported of matching. -/
def journal (descriptors : List Descriptor) (mode : Mode) :
    Except EngineError (List AnchorMatch) → Journal
  | .ok found =>
    { measures := [{ metric := .matchesFound, label := mode.name, amount := found.length }] }
  | .error _ =>
    { notices := ((descriptors.filter (·.mode == mode)).findSome? Descriptor.checkNotice?).toList }

end AnchorMatch

end ComponentScan
