import ComponentScan.Json.Decode
import ComponentScan.Rule.Basic

/-!
# Rules in JSON

Only the id, the suffixes and the component of a rule have to be written.
-/

namespace ComponentScan

def Mode.decode : Decoder Mode := .choice names

def Mode.toJson (m : Mode) : Json := .string m.name

namespace Rule

def fieldNames : List String :=
  ["id", "phase", "suffixes", "component", "version", "include", "exclude", "anchor",
    "anchor_segments", "pin_checksum", "mode", "no_file_match_required", "component_type",
    "require_path"]

def decode : Decoder Rule := fun d v => do
  let f ← Decoder.fields? fieldNames d v
  return {
    id := ← f.required "id" .string
    phase := ← f.getD "phase" .word 100
    suffixes := ← f.required "suffixes" (.list .string)
    component := ← f.required "component" .string
    version := ← f.getD "version" .string unspecificVersion
    includes := ← f.getD "include" .string ""
    excludes := ← f.getD "exclude" .string ""
    anchor := ← f.getD "anchor" (.option .string) none
    anchorSegments := ← f.getD "anchor_segments" .size 2
    pinChecksum := ← f.getD "pin_checksum" .bool false
    mode := ← f.getD "mode" Mode.decode .immediate
    needsNoFiles := ← f.getD "no_file_match_required" .bool false
    componentType := ← f.getD "component_type" (.option .string) none
    requiredPath := ← f.getD "require_path" (.option .string) none }

def toJson (r : Rule) : Json :=
  .object
    [("id", .string r.id), ("phase", .nat r.phase), ("suffixes", .strings r.suffixes),
      ("component", .string r.component), ("version", .string r.version),
      ("include", .string r.includes), ("exclude", .string r.excludes),
      ("anchor", .ofOption r.anchor), ("anchor_segments", .nat r.anchorSegments),
      ("pin_checksum", .bool r.pinChecksum), ("mode", r.mode.toJson),
      ("no_file_match_required", .bool r.needsNoFiles),
      ("component_type", .ofOption r.componentType),
      ("require_path", .ofOption r.requiredPath)]

end Rule

end ComponentScan
