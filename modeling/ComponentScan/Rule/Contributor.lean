import ComponentScan.Contributor.Basic
import ComponentScan.Glob.Listing
import ComponentScan.Rule.Basic

/-!
# Rules as contributors

A rule makes one descriptor of every file of its interest. Names that get into a glob list stand
for themselves there. A path whose names would give an anchor that cannot be matched is refused,
so that one odd file does not end the scan.
-/

namespace ComponentScan.Rule

/-- The placeholder for the name of the directory a file lies in. -/
def dirPlaceholder : String := "\x7bdir\x7d"

/-- The placeholder for the name of a file. -/
def filePlaceholder : String := "\x7bfile\x7d"

/-- Fills in a template. -/
def fill (template dir file : String) : String :=
  Text.replace (Text.replace template dirPlaceholder dir) filePlaceholder file

/-- Whether a folded path contains the required text. -/
def applies (r : Rule) (folded : String) : Bool :=
  match r.requiredPath with
  | none => true
  | some required => Text.contains folded (Text.fold required)

/-- The anchor a rule gives to a file with these segments. -/
def anchorFor (r : Rule) (segments : List String) (dir file : String) : String :=
  match r.anchor with
  | some template => fill template dir file
  | none => Path.ofSegments (segments.drop (segments.length - r.anchorSegments))

/-- The descriptor a rule makes of a file. -/
def contribute (r : Rule) (q : Inquiry) : Except ContributorError (List Descriptor) :=
  let segments := Path.segments q.path
  match segments.reverse with
  | [] => .error (.malformed q.path "empty path")
  | file :: parents =>
    let dir := parents.headD ""
    let anchor := r.anchorFor segments dir file
    if Text.contains anchor "**" ∨ (r.pinChecksum ∧ isRootAnchor anchor) then
      .error (.malformed q.path ("path yields unusable anchor '" ++ anchor ++ "'"))
    else
      .ok [{
        name := fill r.component dir file
        version := fill r.version dir file
        anchor := some anchor
        anchorChecksum := some (if r.pinChecksum then q.checksum else anyChecksum)
        includes := fill r.includes (Glob.escape dir) (Glob.escape file)
        excludes := fill r.excludes (Glob.escape dir) (Glob.escape file)
        mode := r.mode
        needsNoFiles := r.needsNoFiles
        componentType := r.componentType }]

/-- The contributor that a rule is. -/
def toContributor (r : Rule) : Contributor where
  id := r.id
  phase := r.phase
  suffixes := r.suffixes
  applies := r.applies
  contribute := r.contribute

end ComponentScan.Rule
