import ComponentScan.Command.Scan
import ComponentScan.Report.Config
import ComponentScan.Report.Rules

/-!
# Running commands

What a command prints and how it ends, as a function of the files and the environment it sees.
-/

namespace ComponentScan

/-- What a command sees. -/
structure Surroundings where
  files : Files
  env : Environment
  /-- The id of the scan, if one is made. -/
  scanId : String
  /-- Whether the command prints to a terminal. -/
  isTerminal : Bool := false

/-- What a command leaves. -/
structure CommandOutcome where
  output : String := ""
  error : Option CommandError := none
  journal : Journal := {}

namespace CommandOutcome

def exitCode (o : CommandOutcome) : Nat :=
  (o.error.map CommandError.exitCode).getD 0

def failed (e : CommandError) (journal : Journal) : CommandOutcome :=
  { error := some e, journal }

end CommandOutcome

namespace Surroundings

def colors (s : Surroundings) : Bool := Style.colorsFor s.env s.isTerminal

def configIn (s : Surroundings) (path : String) : Reported ScanError Config :=
  Config.load s.files s.env path

/-- The configuration that is shown: all of it, or the part of the given name. -/
def view (s : Surroundings) (path : String) (part : Option String) :
    Reported CommandError ConfigView := do
  let c ← (s.configIn path).mapError .ofScan
  match part with
  | none => return .ofConfig path none c
  | some name =>
    match ConfigSection.ofName? name with
    | some p => return .ofConfig path (some p) c
    | none => Reported.ofExcept (.error (.failed ("unknown section: " ++ name ++ " (expected: " ++
        String.intercalate ", " (ConfigSection.all.map ConfigSection.name) ++ ")")))

/-- Carries out a scan with the configuration at a path. -/
def scan (s : Surroundings) (config : String) (r : ScanRequest) :
    Reported CommandError ScanReport := do
  let c ← (Config.loadOrDefault s.files s.env config).mapError .ofScan
  r.run s.files c s.scanId

/-- Prints a report, and fails afterwards if there is something to complain of. -/
def print (s : Surroundings) (format : OutputFormat) (journal : Journal) (r : Report)
    (complaint : Option CommandError) : CommandOutcome :=
  { output := r.render format s.colors, error := complaint, journal }

/-- Prints what a step reports, unless it fails. -/
def printReported {α : Type} (s : Surroundings) (format : OutputFormat) (toReport : α → Report)
    (x : Reported CommandError α) : CommandOutcome :=
  match x.result with
  | .error e => .failed e x.journal
  | .ok a => s.print format x.journal (toReport a) none

/-- Carries out a command. -/
def run (s : Surroundings) (i : Invocation) : CommandOutcome :=
  match i.command with
  | .scan r => s.printReported i.output ScanReport.toReport (s.scan i.config r)
  | .showConfig part => s.printReported i.output ConfigView.toReport (s.view i.config part)
  | .validateConfig =>
    let (v, journal) := ConfigValidity.ofFile s.files s.env i.config
    s.print i.output journal v.toReport
      (if v.isValid then none else some (.config "configuration is invalid"))
  | .validateRules dir =>
    match RuleValidity.ofDirectory s.files dir with
    | .error e => .failed (.io e) {}
    | .ok v =>
      s.print i.output {} v.toReport
        (if v.invalid = 0 then none
        else some (.rule (toString v.invalid ++ " invalid rule files")))

end Surroundings

end ComponentScan
