import ComponentScan.Path
import ComponentScan.StringMap

/-!
# Artifacts

What an inventory holds: scanned files, components that were found in them, and artifacts that a
component's own inventory names. A file that belongs to a component is *absorbed*: it is marked
as contained in the component and leaves the inventory when the inventory is purged.
-/

namespace ComponentScan

/-- A file found by the scan, as the scan reports it. -/
structure ScannedFile where
  path : String
  checksum : Option String := none
  rootPaths : StringSet := .empty
  deriving Repr, DecidableEq

inductive ArtifactKind where
  /-- A scanned file. -/
  | file
  /-- A component that was found. -/
  | component
  /-- An artifact named by the inventory of a component. -/
  | expanded
  deriving Repr, DecidableEq

/-- How an asset is related to an artifact. -/
inductive AssetMarker where
  | describes
  | contains
  | developmentDependency
  | delete
  deriving Repr, DecidableEq

/-- An entry of an inventory. -/
structure Artifact where
  /-- The file name of a file, and `name-version` for a component. -/
  id : String
  kind : ArtifactKind
  component : Option String := none
  version : Option String := none
  checksum : Option String := none
  /-- The path from the scan root. -/
  path : Option String := none
  rootPaths : StringSet := .empty
  /-- The asset that a component describes. -/
  assetId : Option String := none
  /-- How assets are related to the artifact, by their ids. -/
  markers : StringMap AssetMarker := .empty
  /-- Whether a component has absorbed the artifact. -/
  absorbed : Bool := false
  attributes : StringMap String := .empty
  deriving Repr, DecidableEq

/-! ## Names -/

namespace ArtifactKind

/-- Every kind with its name. -/
def names : List (String × ArtifactKind) :=
  [("file", file), ("component", component), ("expanded", expanded)]

def name : ArtifactKind → String
  | file => "file"
  | component => "component"
  | expanded => "expanded"

end ArtifactKind

namespace AssetMarker

/-- Every marker with its name. -/
def names : List (String × AssetMarker) :=
  [("describes", describes), ("contains", contains),
    ("development-dependency", developmentDependency), ("delete", delete)]

def name : AssetMarker → String
  | describes => "describes"
  | contains => "contains"
  | developmentDependency => "development-dependency"
  | delete => "delete"

end AssetMarker

/-! ## Operations -/

namespace Artifact

/-- The artifact of a scanned file, under its file name and its normalized path. -/
def ofScanned (f : ScannedFile) : Artifact :=
  let path := Path.normalize f.path
  { id := Path.fileName path
    kind := .file
    checksum := f.checksum
    path := some path
    rootPaths := f.rootPaths }

def isFile (a : Artifact) : Bool := a.kind == .file

/-- Marks the artifact under each of the ids. A marker that is there already is kept. -/
def markAll (a : Artifact) (assetIds : List String) (marker : AssetMarker) : Artifact :=
  { a with markers := assetIds.foldl (fun m id => m.putNew id marker) a.markers }

/-- Absorbs the artifact into the assets with the given ids. -/
def absorb (a : Artifact) (assetIds : List String) : Artifact :=
  { a.markAll assetIds .contains with absorbed := true }

def normalizedPath (a : Artifact) : Option String :=
  a.path.map Path.normalize

/-- The artifact in words: its id, its version, its kind and its path. -/
def display (a : Artifact) : String :=
  let version := match a.version with
    | some v => "@" ++ v
    | none => ""
  let path := match a.path with
    | some p => ", " ++ p
    | none => ""
  a.id ++ version ++ " (" ++ a.kind.name ++ path ++ ")"

end Artifact

end ComponentScan
