import ComponentScan.Context.Basic
import ComponentScan.Descriptor.Basic
import ComponentScan.Error.Io

/-!
# Contributors

A contributor looks at the files of its interest and makes descriptors of the components it
recognises there. It is a pure function of the file and the inventory.
-/

namespace ComponentScan

/-- Why a contributor made nothing of a file. -/
inductive ContributorError where
  | malformed (path reason : String)
  | unreadable (path : String) (error : IoError)
  | other (text : String)
  deriving Repr, DecidableEq

def ContributorError.message : ContributorError → String
  | malformed path reason => "malformed anchor file '" ++ path ++ "': " ++ reason
  | unreadable path e => "cannot read '" ++ path ++ "': " ++ e.message
  | other text => text

/-- What a contributor is asked about. -/
structure Inquiry where
  /-- The path from the scan root, in its own case. -/
  path : String
  checksum : String
  context : ScanContext

/-- The phase of a contributor that does not state one. -/
def defaultPhase : Nat := 100

structure Contributor where
  id : String
  /-- A lower phase comes first. -/
  phase : Nat := defaultPhase
  /-- The ends of the paths it is interested in. -/
  suffixes : List String
  /-- A cheap test of the folded path, before the suffixes are looked at. -/
  applies : String → Bool := fun _ => true
  contribute : Inquiry → Except ContributorError (List Descriptor)

end ComponentScan
