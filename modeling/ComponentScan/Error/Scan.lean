import ComponentScan.Error.Engine
import ComponentScan.Error.Io

/-!
# Scan errors

The errors of a scan as its callers see them: by the part of the input that is at fault.
-/

namespace ComponentScan

/-- What is wrong with a configuration. -/
inductive ConfigError where
  | fileNotFound (path : String)
  | parseFailed (reason : String)
  | invalidValue (field reason : String)
  deriving Repr, DecidableEq

def ConfigError.message : ConfigError → String
  | fileNotFound path => "config file not found: " ++ path
  | parseFailed reason => "failed to parse config: " ++ reason
  | invalidValue field reason => "invalid config value for '" ++ field ++ "': " ++ reason

/-- What went wrong in component pattern matching. -/
inductive PatternError where
  | descriptor (text : String)
  | rule (text : String)
  | engine (text : String)
  deriving Repr, DecidableEq

def PatternError.message : PatternError → String
  | descriptor text => "descriptor configuration error: " ++ text
  | rule text => "contributor rule error: " ++ text
  | engine text => "engine failure: " ++ text

/-- What is wrong with an inventory. -/
inductive InventoryError where
  | unsupportedFormat (text : String)
  | failed (source reason : String)
  | tooLarge (size max : Nat)
  deriving Repr, DecidableEq

def InventoryError.message : InventoryError → String
  | unsupportedFormat text => "unsupported format: " ++ text
  | failed source reason => "parse failed: " ++ source ++ ": " ++ reason
  | tooLarge size max =>
    "inventory too large: " ++ toString size ++ " files (max: " ++ toString max ++ ")"

/-- An error of a scan. -/
inductive ScanError where
  | config (e : ConfigError)
  | pattern (e : PatternError)
  | inventory (e : InventoryError)
  | io (e : IoError)
  deriving Repr, DecidableEq

namespace ScanError

def message : ScanError → String
  | config e => "config error: " ++ e.message
  | pattern e => "pattern error: " ++ e.message
  | inventory e => "inventory error: " ++ e.message
  | io e => "io error: " ++ e.message

/-- An engine error by the part of the input that is at fault. -/
def ofEngine : EngineError → ScanError
  | .config field reason => config (.invalidValue field reason)
  | e@(.ruleLoad ..) => pattern (.rule e.message)
  | e@(.contributor ..) | e@(.expansion ..) => pattern (.engine e.message)
  | e => pattern (.descriptor e.message)

end ScanError

end ComponentScan
