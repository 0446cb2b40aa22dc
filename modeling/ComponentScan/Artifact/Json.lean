import ComponentScan.Artifact.Basic
import ComponentScan.Json.Decode

/-!
# Artifacts in JSON

Fields without a value are left out of an artifact; its root paths, markers and attributes are
always written. A scanned file is written with all its fields.
-/

namespace ComponentScan

namespace StringSet

def toJson (s : StringSet) : Json := .strings s.toList

end StringSet

namespace StringMap

def toJson {β : Type} (value : β → Json) (m : StringMap β) : Json :=
  .object (m.entries.map fun e => (e.1, value e.2))

end StringMap

namespace ScannedFile

def decode : Decoder ScannedFile := fun d v => do
  let f ← Decoder.fields? ["path", "checksum", "root_paths"] d v
  return {
    path := ← f.required "path" .string
    checksum := ← f.getD "checksum" (.option .string) none
    rootPaths := ← f.getD "root_paths" .stringSet .empty }

def toJson (f : ScannedFile) : Json :=
  .object
    [("path", .string f.path), ("checksum", .ofOption f.checksum),
      ("root_paths", f.rootPaths.toJson)]

end ScannedFile

def ArtifactKind.decode : Decoder ArtifactKind := .choice names

def ArtifactKind.toJson (k : ArtifactKind) : Json := .string k.name

def AssetMarker.decode : Decoder AssetMarker := .choice names

def AssetMarker.toJson (m : AssetMarker) : Json := .string m.name

namespace Artifact

/-- The one directive there is: to remove an absorbed artifact. -/
def directiveName : String := "delete"

def decodeDirective : Decoder Unit := .choice [(directiveName, ())]

def fieldNames : List String :=
  ["id", "kind", "component", "version", "checksum", "path_in_asset", "root_paths", "asset_id",
    "markers", "scan_directive", "attributes"]

def decode : Decoder Artifact := fun d v => do
  let f ← Decoder.fields? fieldNames d v
  return {
    id := ← f.required "id" .string
    kind := ← f.required "kind" ArtifactKind.decode
    component := ← f.getD "component" (.option .string) none
    version := ← f.getD "version" (.option .string) none
    checksum := ← f.getD "checksum" (.option .string) none
    path := ← f.getD "path_in_asset" (.option .string) none
    rootPaths := ← f.getD "root_paths" .stringSet .empty
    assetId := ← f.getD "asset_id" (.option .string) none
    markers := ← f.getD "markers" (.map AssetMarker.decode) .empty
    absorbed := (← f.getD "scan_directive" (.option decodeDirective) none).isSome
    attributes := ← f.getD "attributes" (.map .string) .empty }

/-- A member for a value, if there is one. -/
def member? (name : String) (value : Option String) : List (String × Json) :=
  value.toList.map fun v => (name, .string v)

def toJson (a : Artifact) : Json :=
  .object
    ([("id", .string a.id), ("kind", a.kind.toJson)] ++ member? "component" a.component ++
      member? "version" a.version ++ member? "checksum" a.checksum ++
      member? "path_in_asset" a.path ++ [("root_paths", a.rootPaths.toJson)] ++
      member? "asset_id" a.assetId ++ [("markers", a.markers.toJson AssetMarker.toJson)] ++
      member? "scan_directive" (if a.absorbed then some directiveName else none) ++
      [("attributes", a.attributes.toJson .string)])

end Artifact

end ComponentScan
