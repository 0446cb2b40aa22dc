import ComponentScan.Artifact.Json
import ComponentScan.Context.Basic

/-!
# Assets in JSON
-/

namespace ComponentScan.Asset

def decode : Decoder Asset := fun d v => do
  let f ← Decoder.fields? ["asset_id", "attributes"] d v
  return {
    id := ← f.required "asset_id" .string
    attributes := ← f.getD "attributes" (.map .string) .empty }

def toJson (a : Asset) : Json :=
  .object [("asset_id", .string a.id), ("attributes", a.attributes.toJson .string)]

end ComponentScan.Asset
