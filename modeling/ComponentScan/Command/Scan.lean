import ComponentScan.Artifact.Json
import ComponentScan.Command.Invocation
import ComponentScan.Config.Load
import ComponentScan.Error.Command
import ComponentScan.Json.Read
import ComponentScan.Report.Scan
import ComponentScan.Rule.File

/-!
# Scans

A scan reads an inventory and rules, lets an engine find the components, and reports on them.
-/

namespace ComponentScan

namespace Inventory

/-- The scanned files that a text lists. -/
def parse? (text : String) : Option (List ScannedFile) :=
  (Json.parse? text).bind (Decoder.list ScannedFile.decode .json)

/-- The scanned files that a file lists, if they are not too many. -/
def read (files : Files) (path : String) (max : Nat) :
    Except CommandError (List ScannedFile) :=
  match files.readText path with
  | .error e => .error (.io e)
  | .ok text =>
    match parse? text with
    | none => .error (.scan (.inventory (.failed path "not a list of scanned files")))
    | some listed =>
      if max < listed.length then
        .error (.scan (.inventory (.tooLarge listed.length max)))
      else .ok listed

end Inventory

namespace Reported

variable {ε ε' α : Type}

/-- A step whose error is seen as another one. -/
def mapError (f : ε → ε') (x : Reported ε α) : Reported ε' α :=
  ⟨x.result.mapError f, x.journal⟩

end Reported

namespace ScanRequest

/-- The directory that holds the inventory. -/
def root (r : ScanRequest) : String :=
  Files.parent r.inventory

def rulesDir (r : ScanRequest) (c : Config) : String :=
  r.rules.getD c.matcher.rulesDir

def settings (r : ScanRequest) (c : Config) : EngineSettings :=
  if r.noDeferred then { c.matcher with runDeferredPass := false } else c.matcher

/-- The engine of a scan. Rules have no suppliers. -/
def engine (r : ScanRequest) (files : Files) (c : Config) : Reported CommandError Engine := do
  let rules ← (Rule.loadDirectory files (r.rulesDir c)).mapError .ofEngine
  (Engine.build (r.settings c) [] rules).mapError .ofEngine

/-- The answer of a supplier that does not exist. -/
def noSuppliers : Suppliers := fun _ => .ok {}

/-- Runs a scan. -/
def run (r : ScanRequest) (files : Files) (c : Config) (scanId : String) :
    Reported CommandError ScanReport := do
  let listed ← Reported.ofExcept (Inventory.read files r.inventory c.matcher.maxScannedFiles)
  let engine ← r.engine files c
  let (result, s) := Session.runAll
    { engine, context := ScanContext.ofScanned r.root listed r.assetIds } noSuppliers
  Reported.report s.journal
  let summary ← Reported.ofExcept (result.mapError .ofEngine)
  return ScanReport.ofContext scanId r.inventory listed.length s.store.size summary s.context

end ScanRequest

end ComponentScan
