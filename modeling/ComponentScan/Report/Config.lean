import ComponentScan.Config.Load
import ComponentScan.Report.Basic

/-!
# Reports on configurations

Whether a configuration can be used, and what it says.
-/

namespace ComponentScan

/-! ## Validity -/

structure ConfigValidity where
  source : String
  /-- Why the configuration cannot be used. -/
  errors : List String
  deriving Repr, DecidableEq

namespace ConfigValidity

def isValid (v : ConfigValidity) : Bool := v.errors.isEmpty

/-- Whether the configuration in a file can be used. -/
def ofFile (files : Files) (env : Environment) (path : String) : ConfigValidity × Journal :=
  let loaded := Config.load files env path
  let errors := match loaded.result with
    | .ok _ => []
    | .error e => [e.message]
  (⟨path, errors⟩, loaded.journal)

def text (v : ConfigValidity) (colors : Bool) : String :=
  let verdict :=
    if v.isValid then Style.boldGreen.apply colors "VALID" else Style.boldRed.apply colors "INVALID"
  Report.line ["Config Validation: ", Style.bold.apply colors v.source] ++
    Report.line ["  Result: ", verdict] ++
    String.join (v.errors.map fun e => Report.line ["  Error: ", Style.red.apply colors e])

def toReport (v : ConfigValidity) : Report where
  text := v.text
  json := .object
    [("source", .string v.source), ("valid", .bool v.isValid), ("errors", .strings v.errors)]

end ConfigValidity

/-! ## Content -/

/-- A part of a configuration that can be shown alone. -/
inductive ConfigSection where
  | general
  | matcher
  deriving Repr, DecidableEq

namespace ConfigSection

def all : List ConfigSection := [general, matcher]

def name : ConfigSection → String
  | general => "general"
  | matcher => "matcher"

/-- The part of a name. -/
def ofName? (name : String) : Option ConfigSection :=
  all.find? fun s => s.name == name

/-- The entries of a part of a configuration. -/
def render (c : Config) : ConfigSection → String
  | general => Toml.writeEntries c.general.entries
  | matcher => Toml.writeEntries c.matcher.entries

end ConfigSection

structure ConfigView where
  source : String
  part : Option ConfigSection
  body : String
  deriving Repr, DecidableEq

namespace ConfigView

def ofConfig (source : String) (part : Option ConfigSection) (c : Config) : ConfigView :=
  { source
    part
    body := match part with
      | none => c.render
      | some p => p.render c }

def text (v : ConfigView) (colors : Bool) : String :=
  let title := match v.part with
    | some p =>
      ["Configuration ", Style.bold.apply colors ("[" ++ p.name ++ "]"), " (source: ", v.source,
        ")"]
    | none => ["Configuration (source: ", Style.bold.apply colors v.source, ")"]
  Report.line title ++ "\n" ++ v.body

def toReport (v : ConfigView) : Report where
  text := v.text
  json := .object
    ([("source", .string v.source)] ++ v.part.toList.map fun p => ("section", .string p.name))

end ConfigView

end ComponentScan
