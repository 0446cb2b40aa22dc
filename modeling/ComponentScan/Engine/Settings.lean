import ComponentScan.Error.Engine
import ComponentScan.Json.Decode
import ComponentScan.Text.Quoted

/-!
# Engine settings

The settings an engine runs with, and the limits they have to keep.
-/

namespace ComponentScan

structure EngineSettings where
  enabled : Bool := true
  /-- Whether the deferred pass runs after the immediate one. -/
  runDeferredPass : Bool := true
  /-- Whether suppliers are called. -/
  expandInventories : Bool := true
  /-- Whether absorbed artifacts are removed after a pass. -/
  purgeAbsorbed : Bool := true
  /-- The directory of rule files. -/
  rulesDir : String := "/etc/compscan/contributors"
  /-- The greatest number of files in a scan. -/
  maxScannedFiles : Nat := 1000000
  deriving Repr, DecidableEq

namespace EngineSettings

/-- The greatest limit on the number of files. -/
def fileLimit : Nat := 50000000

/-- The greatest length of a path, in bytes. -/
def pathLimit : Nat := 4096

/-- Whether a path leaves a directory upwards. -/
def goesUp (path : String) : Bool :=
  (path.toList.splitOn '/').contains ['.', '.']

/-- Refuses settings outside the limits. -/
def validate (s : EngineSettings) : Except EngineError Unit :=
  if s.maxScannedFiles = 0 ∨ fileLimit < s.maxScannedFiles then
    .error (.config "max_scanned_files" ("must be 1-" ++ toString fileLimit))
  else if goesUp s.rulesDir then
    .error (.config "rules_dir"
      ("rules directory '" ++ s.rulesDir ++ "' contains path traversal pattern '..'"))
  else if pathLimit < s.rulesDir.utf8ByteSize then
    .error (.config "rules_dir" ("rules_dir exceeds maximum length " ++ toString pathLimit))
  else .ok ()

/-! ## As text and JSON -/

def fieldNames : List String :=
  ["enabled", "run_deferred_pass", "expand_inventories", "purge_absorbed", "rules_dir",
    "max_scanned_files"]

/-- Reads settings of which every one has to be written. -/
def decode : Decoder EngineSettings := fun d v => do
  let f ← Decoder.fields? fieldNames d v
  return {
    enabled := ← f.required "enabled" .bool
    runDeferredPass := ← f.required "run_deferred_pass" .bool
    expandInventories := ← f.required "expand_inventories" .bool
    purgeAbsorbed := ← f.required "purge_absorbed" .bool
    rulesDir := ← f.required "rules_dir" .string
    maxScannedFiles := ← f.required "max_scanned_files" .size }

/-- Reads settings of which those that are not written have their defaults. -/
def decodePartial : Decoder EngineSettings := fun d v => do
  let f ← Decoder.fields? fieldNames d v
  let s : EngineSettings := {}
  return {
    enabled := ← f.getD "enabled" .bool s.enabled
    runDeferredPass := ← f.getD "run_deferred_pass" .bool s.runDeferredPass
    expandInventories := ← f.getD "expand_inventories" .bool s.expandInventories
    purgeAbsorbed := ← f.getD "purge_absorbed" .bool s.purgeAbsorbed
    rulesDir := ← f.getD "rules_dir" .string s.rulesDir
    maxScannedFiles := ← f.getD "max_scanned_files" .size s.maxScannedFiles }

def toJson (s : EngineSettings) : Json :=
  .object
    [("enabled", .bool s.enabled), ("run_deferred_pass", .bool s.runDeferredPass),
      ("expand_inventories", .bool s.expandInventories),
      ("purge_absorbed", .bool s.purgeAbsorbed), ("rules_dir", .string s.rulesDir),
      ("max_scanned_files", .nat s.maxScannedFiles)]

/-- The settings in words. -/
def display (s : EngineSettings) : String :=
  "PatternEngineConfig \x7b enabled: " ++ toString s.enabled ++ ", run_deferred_pass: " ++
    toString s.runDeferredPass ++ ", expand_inventories: " ++ toString s.expandInventories ++
    ", purge_absorbed: " ++ toString s.purgeAbsorbed ++ ", rules_dir: " ++
    Text.quoted s.rulesDir ++ ", max_scanned_files: " ++ toString s.maxScannedFiles ++ " \x7d"

end EngineSettings

end ComponentScan
