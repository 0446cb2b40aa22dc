import ComponentScan.Engine.Settings
import ComponentScan.Error.Scan

/-!
# Configurations

The settings of a scan: how it reports on itself, and what its engine runs with.
-/

namespace ComponentScan

/-- How a scan reports on itself. -/
structure GeneralSettings where
  logLevel : String := "info"
  logFormat : String := "json"
  deriving Repr, DecidableEq

/-- What is wrong with the format in which a scan is to report on itself. -/
def GeneralSettings.formatFault? (s : GeneralSettings) : Option String :=
  if s.logFormat = "json" ∨ s.logFormat = "pretty" then none
  else some ("unknown log format '" ++ s.logFormat ++ "', expected 'json' or 'pretty'")

structure Config where
  general : GeneralSettings := {}
  matcher : EngineSettings := {}
  deriving Repr, DecidableEq

namespace Config

def logLevels : List String := ["trace", "debug", "info", "warn", "error"]

def logFormats : List String := ["json", "pretty"]

/-- Refuses a setting that is not one of the given words. -/
def checkWord (field : String) (words : List String) (value : String) :
    Except ConfigError Unit :=
  if words.contains value then .ok ()
  else .error (.invalidValue field ("must be one of: " ++ String.intercalate ", " words))

/-- Refuses settings that an engine cannot work with. -/
def checkMatcher (s : EngineSettings) : Except ConfigError Unit :=
  if !s.enabled then .ok ()
  else if s.maxScannedFiles = 0 then
    .error (.invalidValue "matcher.max_scanned_files"
      "must be greater than 0 when matcher is enabled")
  else if s.rulesDir = "" then
    .error (.invalidValue "matcher.rules_dir"
      "rules_dir must not be empty when matcher is enabled")
  else .ok ()

/-- Refuses settings that are out of range. The first such setting is the error. -/
def validate (c : Config) : Except ConfigError Unit := do
  checkWord "general.log_level" logLevels c.general.logLevel
  checkWord "general.log_format" logFormats c.general.logFormat
  checkMatcher c.matcher

end Config

end ComponentScan
