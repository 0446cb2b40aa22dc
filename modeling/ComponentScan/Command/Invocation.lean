import ComponentScan.Command.Line
import ComponentScan.Report.Basic

/-!
# Invocations

What a command line asks for.
-/

namespace ComponentScan

/-- What a scan is to be made of. -/
structure ScanRequest where
  /-- The path of the inventory. -/
  inventory : String
  /-- The directory of rule files, in the place of that of the settings. -/
  rules : Option String := none
  /-- Whether the deferred pass is left out. -/
  noDeferred : Bool := false
  /-- The assets around the scan, the outermost first. -/
  assetIds : List String := []
  deriving Repr, DecidableEq

inductive Command where
  | scan (request : ScanRequest)
  /-- Checks the rule files in a directory. -/
  | validateRules (dir : String)
  | validateConfig
  /-- Shows the configuration or the part of the given name. -/
  | showConfig (part : Option String)
  deriving Repr, DecidableEq

structure Invocation where
  /-- The path of the configuration. -/
  config : String := "compscan.toml"
  logLevel : Option String := none
  output : OutputFormat := .text
  command : Command
  deriving Repr, DecidableEq

namespace Invocation

/-- The directory of rule files that is checked unless another is given. -/
def defaultRules : String := "/etc/compscan/contributors"

/-- The command that a command line asks for, if its last level is one. -/
def command? (l : CommandLine) : Option Command :=
  match l.level with
  | .scan => (l.value? .inventory).map fun inventory =>
    .scan {
      inventory
      rules := l.value? .rules
      noDeferred := (l.value? .noDeferred).isSome
      assetIds := l.values .assetId }
  | .rulesValidate => some (.validateRules ((l.value? .directory).getD defaultRules))
  | .configValidate => some .validateConfig
  | .configShow => some (.showConfig (l.value? .part))
  | .root | .rules | .config => none

/-- What a list of arguments asks for. -/
def ofArguments (args : List String) : Except UsageError Invocation := do
  let l ← CommandLine.ofArguments args
  match command? l with
  | none => throw .missingCommand
  | some command =>
    return {
      config := (l.value? .config).getD "compscan.toml"
      logLevel := l.value? .logLevel
      output := if l.value? .output = some "json" then .json else .text
      command }

end Invocation

end ComponentScan
