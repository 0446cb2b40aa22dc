import ComponentScan.Report.Basic
import ComponentScan.Rule.File

/-!
# Reports on rules

What loading a directory of rule files would make of each file. A file that is refused is listed
with its error, and a rule whose id was seen before with its id.
-/

namespace ComponentScan

structure RuleValidity where
  path : String
  files : Nat
  valid : Nat := 0
  invalid : Nat := 0
  /-- The rules that would be loaded. -/
  collection : Rule.Collection := {}
  /-- The ids of the rules that would be passed over. -/
  duplicates : List String := []
  /-- The files that are refused, each with its error. -/
  errors : List (String × String) := []
  deriving Repr, DecidableEq

namespace RuleValidity

/-- The report with one file more. -/
def addFile (files : Files) (v : RuleValidity) (path : String) : RuleValidity :=
  match Rule.loadFile files path with
  | .error e => { v with invalid := v.invalid + 1, errors := v.errors ++ [(path, e.message)] }
  | .ok rules =>
    let (collection, seen) := v.collection.addAll rules
    { v with valid := v.valid + 1, collection, duplicates := v.duplicates ++ seen }

/-- The report on a directory. -/
def ofDirectory (files : Files) (dir : String) : Except IoError RuleValidity := do
  let paths ← Rule.filesIn files dir
  return paths.foldl (addFile files) { path := dir, files := paths.length }

/-- The ids of the rules that would be loaded. -/
def contributors (v : RuleValidity) : List String :=
  v.collection.rules.map fun r => r.id

def text (v : RuleValidity) (colors : Bool) : String :=
  Report.line ["Rule Validation: ", Style.bold.apply colors v.path] ++
    Report.line ["  Files: ", toString v.files, " total, ",
      Style.green.apply colors (toString v.valid), " valid, ",
      Style.red.apply colors (toString v.invalid), " invalid"] ++
    Report.line ["  Contributors: ", toString v.contributors.length] ++
    String.join (v.contributors.map fun id => Report.line ["    - ", id]) ++
    String.join (v.duplicates.map fun id => Report.line
      ["  ", Style.yellow.apply colors "Warning:", " duplicate id '", id, "' skipped"]) ++
    String.join (v.errors.map fun e => Report.line
      ["  ", Style.boldRed.apply colors "Error:", " ", e.1, ": ", e.2])

def toReport (v : RuleValidity) : Report where
  text := v.text
  json := .object
    [("path", .string v.path), ("total_files", .nat v.files), ("valid", .nat v.valid),
      ("invalid", .nat v.invalid), ("contributors", .strings v.contributors),
      ("duplicates", .strings v.duplicates),
      ("errors", .array (v.errors.map fun e =>
        .object [("file", .string e.1), ("error", .string e.2)]))]

end RuleValidity

end ComponentScan
