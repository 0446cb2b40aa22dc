import ComponentScan.Config.Basic
import ComponentScan.Toml.Read
import ComponentScan.Toml.Write

/-!
# Configurations as text

A configuration is a TOML document with a table for each group of settings. Settings that are not
written have their defaults.
-/

namespace ComponentScan

namespace GeneralSettings

def decode : Decoder GeneralSettings := fun d v => do
  let f ← Decoder.fields? ["log_level", "log_format"] d v
  let s : GeneralSettings := {}
  return {
    logLevel := ← f.getD "log_level" .string s.logLevel
    logFormat := ← f.getD "log_format" .string s.logFormat }

def toJson (s : GeneralSettings) : Json :=
  .object [("log_level", .string s.logLevel), ("log_format", .string s.logFormat)]

/-- The settings as entries of a table. -/
def entries (s : GeneralSettings) : List (String × Toml.Plain) :=
  [("log_level", .string s.logLevel), ("log_format", .string s.logFormat)]

end GeneralSettings

/-- The settings as entries of a table. -/
def EngineSettings.entries (s : EngineSettings) : List (String × Toml.Plain) :=
  [("enabled", .bool s.enabled), ("run_deferred_pass", .bool s.runDeferredPass),
    ("expand_inventories", .bool s.expandInventories),
    ("purge_absorbed", .bool s.purgeAbsorbed), ("rules_dir", .string s.rulesDir),
    ("max_scanned_files", .nat s.maxScannedFiles)]

namespace Config

def decode : Decoder Config := fun d v => do
  let f ← Decoder.fields? ["general", "matcher"] d v
  return {
    general := ← f.getD "general" GeneralSettings.decode {}
    matcher := ← f.getD "matcher" EngineSettings.decodePartial {} }

def toJson (c : Config) : Json :=
  .object [("general", c.general.toJson), ("matcher", c.matcher.toJson)]

/-- Reads a configuration. Its settings are not checked. -/
def parse (text : String) : Except ConfigError Config :=
  match (Toml.parse? text).bind (decode .tables) with
  | some c => .ok c
  | none => .error (.parseFailed "TOML parse error")

/-- The whole configuration as text. -/
def render (c : Config) : String :=
  Toml.writeTables [("general", c.general.entries), ("matcher", c.matcher.entries)]

end Config

end ComponentScan
