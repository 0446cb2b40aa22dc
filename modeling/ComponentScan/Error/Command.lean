import ComponentScan.Error.Scan

/-!
# Command errors

The errors that end a command, with the exit code each of them stands for.
-/

namespace ComponentScan

/-- An error that ends a command. -/
inductive CommandError where
  | config (text : String)
  | failed (text : String)
  | descriptor (text : String)
  | rule (text : String)
  | json (text : String)
  | io (e : IoError)
  | scan (e : ScanError)
  deriving Repr, DecidableEq

namespace CommandError

def message : CommandError → String
  | config text => "configuration error: " ++ text
  | failed text => text
  | descriptor text => "descriptor configuration error: " ++ text
  | rule text => "rule error: " ++ text
  | json text => "json output error: " ++ text
  | io e => "io error: " ++ e.message
  | scan e => e.message

/-- The exit code: 2 for a configuration error, 4 for a fault of a descriptor, 10 for an input
error, and 1 otherwise. -/
def exitCode : CommandError → Nat
  | config _ => 2
  | descriptor _ => 4
  | io _ => 10
  | scan (.config _) => 2
  | scan (.pattern (.descriptor _)) => 4
  | scan (.io _) => 10
  | json _ | failed _ | rule _ | scan _ => 1

/-- A scan error as the end of a command; an input error stays one. -/
def ofScan : ScanError → CommandError
  | .io e => io e
  | e => scan e

/-- An engine error as the end of a command. -/
def ofEngine (e : EngineError) : CommandError :=
  if e.isDescriptorFault then descriptor e.message
  else
    match e with
    | .config .. => config e.message
    | .ruleLoad .. => rule e.message
    | _ => failed e.message

end CommandError

end ComponentScan
