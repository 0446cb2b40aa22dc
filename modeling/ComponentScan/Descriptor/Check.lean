import ComponentScan.Descriptor.Basic
import ComponentScan.Glob.Listing
import ComponentScan.Journal.Basic
import ComponentScan.Text.Replace

/-!
# Checking descriptors

A descriptor can be matched if it has an anchor and a checksum, the anchor has no two stars in a
row, an anchor for the whole scan accepts any content, and both glob lists compile.
-/

namespace ComponentScan.Descriptor

/-- The anchor of a descriptor and its checksum, if they can be matched. -/
def checkAnchor (d : Descriptor) : Except EngineError (String × String) :=
  match d.effectiveAnchor with
  | none => .error (.missingVersionAnchor d.name d.provenance)
  | some anchor =>
    match d.effectiveChecksum with
    | none => .error (.missingAnchorChecksum d.name anchor)
    | some checksum =>
      if Text.contains anchor "**" then .error (.recursiveWildcardInAnchor d.name anchor)
      else if d.hasRootAnchor ∧ checksum ≠ anyChecksum then
        .error (.rootAnchorRequiresWildcardChecksum d.name checksum)
      else .ok (anchor, checksum)

/-- The anchor of a descriptor and its checksum, if the descriptor can be matched and applied. -/
def check (d : Descriptor) : Except EngineError (String × String) := do
  let anchor ← d.checkAnchor
  let _ ← GlobList.parse d.includes
  let _ ← GlobList.parse d.excludes
  return anchor

/-- The notice of a descriptor that fails its check. -/
def checkNotice? (d : Descriptor) : Option Notice :=
  match d.check with
  | .ok _ => none
  | .error e => some (.invalidDescriptor d.name d.provenance e)

end ComponentScan.Descriptor
