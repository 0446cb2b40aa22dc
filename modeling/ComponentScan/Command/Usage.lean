/-!
# Usage

The levels of the command line, the arguments of each level, and what can be wrong with them.
-/

namespace ComponentScan

/-- Why a command line is not carried out. -/
inductive UsageError where
  | displayHelp
  | displayVersion
  /-- Nothing is given where a command has to follow. -/
  | helpOnMissingCommand
  /-- Options are given, and no command follows them. -/
  | missingCommand
  | missingArgument
  | unknownArgument
  | unknownCommand
  | invalidValue
  /-- An argument that may be given once is given again. -/
  | repeatedArgument
  /-- A value is attached to an argument that has none. -/
  | unneededValue
  deriving Repr, DecidableEq

/-- Help and version are asked for; everything else is a mistake. -/
def UsageError.exitCode : UsageError → Nat
  | displayHelp | displayVersion => 0
  | _ => 2

/-- How the program is called. -/
def usage : String := String.intercalate "\n"
  ["Usage: compscan [OPTIONS] <COMMAND>",
    "",
    "Commands:",
    "  scan <INVENTORY> [--rules <DIR>] [--no-deferred] [--asset-id <ID>]...",
    "  rules validate [DIR]",
    "  config validate",
    "  config show [--section <NAME>]",
    "",
    "Options:",
    "  -c, --config <FILE>",
    "      --log-level <LEVEL>",
    "      --output <text|json>",
    "  -h, --help",
    "  -V, --version"]

/-- What is printed instead of carrying out a command line. -/
def UsageError.message : UsageError → String
  | displayHelp | helpOnMissingCommand => usage
  | displayVersion => "compscan 0.1.0"
  | missingCommand => "error: a command is missing\n\n" ++ usage
  | missingArgument => "error: an argument is missing\n\n" ++ usage
  | unknownArgument => "error: unexpected argument\n\n" ++ usage
  | unknownCommand => "error: unrecognized command\n\n" ++ usage
  | invalidValue => "error: invalid value for an argument\n\n" ++ usage
  | repeatedArgument => "error: an argument is given more than once\n\n" ++ usage
  | unneededValue => "error: a value is given to an argument that takes none\n\n" ++ usage

/-- A level of the command line. -/
inductive Level where
  | root
  | scan
  | rules
  | rulesValidate
  | config
  | configValidate
  | configShow
  deriving Repr, DecidableEq

/-- An argument. -/
inductive Argument where
  | help
  | version
  | config
  | logLevel
  | output
  | rules
  | noDeferred
  | assetId
  | part
  /-- The inventory of a scan, given by its position. -/
  | inventory
  /-- A directory of rule files, given by its position. -/
  | directory
  deriving Repr, DecidableEq

namespace Level

/-- The commands that may follow at a level. -/
def commands : Level → List (String × Level)
  | root => [("scan", scan), ("rules", rules), ("config", config)]
  | rules => [("validate", rulesValidate)]
  | config => [("validate", configValidate), ("show", configShow)]
  | _ => []

/-- The options of a level, by their long names. -/
def options : Level → List (String × Argument)
  | root =>
    [("config", .config), ("version", .version)] ++ everywhere
  | scan =>
    [("rules", .rules), ("no-deferred", .noDeferred), ("asset-id", .assetId)] ++ everywhere
  | configShow => [("section", .part)] ++ everywhere
  | _ => everywhere
where
  everywhere : List (String × Argument) :=
    [("help", .help), ("log-level", .logLevel), ("output", .output)]

/-- The options of a level, by their letters. -/
def letters : Level → List (Char × Argument)
  | root => [('c', .config), ('V', .version), ('h', .help)]
  | _ => [('h', .help)]

/-- The argument that is given by its position. -/
def positional? : Level → Option Argument
  | scan => some .inventory
  | rulesValidate => some .directory
  | _ => none

/-- The level that a list of commands leads to. -/
def follow (l : Level) : List String → Option Level
  | [] => some l
  | name :: rest => (l.commands.lookup name).bind fun l => l.follow rest

end Level

namespace Argument

def takesValue : Argument → Bool
  | help | version | noDeferred => false
  | _ => true

def mayRepeat (a : Argument) : Bool := a == assetId

/-- Whether an argument can have a value. -/
def accepts : Argument → String → Bool
  | config, v | rules, v | inventory, v | directory, v => v != ""
  | output, v => v == "text" || v == "json"
  | _, _ => true

end Argument

end ComponentScan
