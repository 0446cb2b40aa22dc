import ComponentScan.Engine.Json
import ComponentScan.Report.Basic

/-!
# Reports on scans

The components that were found, the artifacts of their inventories, and the files that belong to
none of them.
-/

namespace ComponentScan

/-- A component in a report. -/
structure ComponentEntry where
  name : String
  version : String
  assetId : String
  anchor : Option String
  componentType : Option String
  provenance : String
  deriving Repr, DecidableEq

namespace ComponentEntry

def ofArtifact (a : Artifact) : ComponentEntry where
  name := a.component.getD a.id
  version := a.version.getD ""
  assetId := a.assetId.getD ""
  anchor := a.path
  componentType := a.attributes.get? "component_type"
  provenance := (a.attributes.get? "provenance").getD ""

def toJson (c : ComponentEntry) : Json :=
  .object
    ([("name", .string c.name), ("version", .string c.version),
      ("asset_id", .string c.assetId)] ++
      (c.anchor.toList.map fun s => ("anchor", .string s)) ++
      (c.componentType.toList.map fun s => ("component_type", .string s)) ++
      [("provenance", .string c.provenance)])

/-- The line of a component in the table of components. -/
def line (colors : Bool) (c : ComponentEntry) : String :=
  Report.line
    [Style.green.applyWide colors 30 c.name, " ", Style.padded 15 c.version, " ",
      Style.padded 40 c.assetId, " ", c.anchor.getD "(root)"]

end ComponentEntry

structure ScanReport where
  scanId : String
  inventory : String
  filesScanned : Nat
  descriptors : Nat
  components : List ComponentEntry
  /-- The ids of the artifacts that inventories of components name. -/
  expanded : List String
  /-- The paths of the files that belong to no component. -/
  looseFiles : List String
  summary : RunSummary
  deriving Repr, DecidableEq

namespace ScanReport

/-- The report on what a scan leaves in its context. -/
def ofContext (scanId inventory : String) (filesScanned descriptors : Nat)
    (summary : RunSummary) (context : ScanContext) : ScanReport where
  scanId := scanId
  inventory := inventory
  filesScanned := filesScanned
  descriptors := descriptors
  components :=
    (context.artifacts.filter (·.kind == .component)).map ComponentEntry.ofArtifact
  expanded := (context.artifacts.filter (·.kind == .expanded)).map fun a => a.id
  looseFiles := (context.files.filter (!·.absorbed)).map fun a => a.path.getD a.id
  summary := summary

/-! ## As text -/

def heading (r : ScanReport) (colors : Bool) : String :=
  let total := r.summary.total
  Report.line ["Component Scan: ", Style.bold.apply colors r.inventory] ++
    Report.line ["  Scan ID: ", r.scanId] ++
    Report.line ["  Files: ", toString r.filesScanned, " scanned, ", toString total.absorbed,
      " absorbed, ", toString r.looseFiles.length, " loose"] ++
    Report.line ["  Descriptors: ", toString r.descriptors, " (",
      toString r.summary.extraction.unspecific, " unspecific skipped)"] ++
    (if r.summary.deferred.isNone then
      Report.line ["  Deferred pass: ", Style.yellow.apply colors "skipped"]
    else "")

def componentTable (r : ScanReport) (colors : Bool) : String :=
  Report.line ["Components (", Style.bold.apply colors (toString r.components.length), ")"] ++
    if r.components.isEmpty then ""
    else
      Report.line [Style.padded 30 "Name", " ", Style.padded 15 "Version", " ",
        Style.padded 40 "Asset ID", " Anchor"] ++
        Report.line [String.ofList (List.replicate 100 '-')] ++
        String.join (r.components.map (ComponentEntry.line colors))

def expandedList (r : ScanReport) : String :=
  if r.expanded.isEmpty then ""
  else
    "\n" ++ Report.line ["Expanded (", toString r.expanded.length, ")"] ++
      String.join (r.expanded.map fun id => Report.line ["  ", id])

def looseList (r : ScanReport) (colors : Bool) : String :=
  Report.line ["Loose files (", toString r.looseFiles.length, ")"] ++
    String.join (r.looseFiles.map fun p => Report.line ["  ", Style.dimmed.apply colors p])

def text (r : ScanReport) (colors : Bool) : String :=
  r.heading colors ++ "\n" ++ r.componentTable colors ++ r.expandedList ++ "\n" ++
    r.looseList colors

def toReport (r : ScanReport) : Report where
  text := r.text
  json := .object
    [("scan_id", .string r.scanId), ("inventory", .string r.inventory),
      ("files_scanned", .nat r.filesScanned), ("descriptors", .nat r.descriptors),
      ("components", .array (r.components.map ComponentEntry.toJson)),
      ("expanded", .strings r.expanded), ("loose_files", .strings r.looseFiles),
      ("summary", r.summary.toJson)]

end ScanReport

end ComponentScan
