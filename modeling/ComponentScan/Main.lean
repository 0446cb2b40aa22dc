import ComponentScan.Command.Run
import ComponentScan.Command.ScanId

/-!
# The command line

Carries out the command that the arguments ask for. The files that the command is going to look
at are read first; what it makes of them is decided elsewhere.
-/

namespace ComponentScan.Main

/-- Paths that were looked at, each with what stands there. -/
abbrev Seen := List (String × Except IoError FileEntry)

/-- The files as far as they were looked at. -/
def Seen.files (seen : Seen) : Files := fun path =>
  (seen.lookup path).getD (.error .notFound)

def inputError : IO.Error → IoError
  | .noFileOrDirectory .. => .notFound
  | .inappropriateType .. => .notADirectory
  | e => .other (toString e)

/-- Looks at a path. -/
def look (path : String) : IO (String × Except IoError FileEntry) := do
  try
    let place ← IO.FS.realPath path
    if ← place.isDir then
      let names := (← place.readDir).toList.map fun entry => entry.fileName
      return (path, .ok (.directory names))
    else return (path, .ok (.file (← IO.FS.readBinFile path)))
  catch e => return (path, .error (inputError e))

/-- The paths besides the configuration that a command looks at first, the directory of rule
files the last. -/
def firstPaths (seen : Seen) (env : Environment) (i : Invocation) : List String :=
  match i.command with
  | .scan r =>
    match (Config.loadOrDefault seen.files env i.config).result with
    | .ok c => [r.inventory, r.rulesDir c]
    | .error _ => []
  | .validateRules dir => [dir]
  | .validateConfig | .showConfig _ => []

/-- Looks at the paths that a command is going to look at. -/
def survey (env : Environment) (i : Invocation) : IO Seen := do
  let config ← look i.config
  let first ← (firstPaths [config] env i).mapM look
  let ruleFiles := match first.getLast? with
    | none => []
    | some (dir, _) => (Rule.filesIn (Seen.files first) dir).toOption.getD []
  return config :: first ++ (← ruleFiles.mapM look)

/-- The variables that are looked at. -/
def environment : IO Environment := do
  let names := Setting.all.map Setting.variableName ++ ["CLICOLOR", "CLICOLOR_FORCE", "NO_COLOR"]
  let values ← names.mapM fun name => return (name, ← IO.getEnv name)
  return values.filterMap fun (name, value) => value.map fun v => (name, v)

def noticeLine (n : Notice) : String :=
  "[" ++ n.severity.name ++ "] " ++ n.message ++
    String.join (n.fields.map fun (name, value) => " " ++ name ++ "=" ++ value)

/-- Carries out what the arguments ask for. -/
def run (i : Invocation) : IO UInt32 := do
  let env ← environment
  let outcome := Surroundings.run
    { files := (← survey env i).files
      env
      scanId := ScanId.ofBytes (← IO.getRandomBytes 16).toList
      isTerminal := ← (← IO.getStdout).isTty } i
  outcome.journal.notices.forM fun n => IO.eprintln (noticeLine n)
  IO.print outcome.output
  if let some e := outcome.error then IO.eprintln ("error: " ++ e.message)
  return outcome.exitCode.toUInt32

end ComponentScan.Main

def main (args : List String) : IO UInt32 := do
  match ComponentScan.Invocation.ofArguments args with
  | .ok i => ComponentScan.Main.run i
  | .error e =>
    if e.exitCode = 0 then IO.println e.message else IO.eprintln e.message
    return e.exitCode.toUInt32
