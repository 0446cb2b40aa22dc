import ComponentScan.Files.Basic
import ComponentScan.Journal.Basic
import ComponentScan.Rule.Json
import ComponentScan.Toml.Read

/-!
# Rule files

A rule file is a TOML document with a list of rules. It is refused as a whole if one of them is.
A directory of rule files is read in the order of the file names; a file that is refused and a
rule whose id was seen before are passed over.
-/

namespace ComponentScan.Rule

/-- The greatest size of a rule file in bytes. -/
def sizeLimit : Nat := 1048576

/-- The greatest number of rules in a directory. -/
def countLimit : Nat := 10000

/-! ## One file -/

/-- The rules in a document. -/
def decodeFile : Decoder (List Rule) := fun d v => do
  (← Decoder.fields? ["contributor"] d v).getD "contributor" (.list decode) []

/-- The rules in a text. -/
def parseFile (text source : String) : Except EngineError (List Rule) :=
  match (Toml.parse? text).bind (decodeFile .tables) with
  | none => .error (.ruleLoad source "TOML parse error")
  | some rules =>
    match rules.findSome? fun r => r.fault?.map fun f => EngineError.ruleLoad r.id f.reason with
    | none => .ok rules
    | some e => .error (.ruleLoad source e.message)

/-- The rules in a file. -/
def loadFile (files : Files) (path : String) : Except EngineError (List Rule) :=
  match files.size path with
  | .error e => .error (.ruleLoad path ("failed to read file metadata: " ++ e.message))
  | .ok size =>
    if sizeLimit < size then
      .error (.ruleLoad path ("file too large: " ++ toString size ++ " bytes (max: " ++
        toString sizeLimit ++ ")"))
    else
      match files.readText path with
      | .error e => .error (.ruleLoad path ("failed to read file: " ++ e.message))
      | .ok text => parseFile text path

/-! ## Directories -/

/-- The paths of the rule files in a directory, in the order of their names. -/
def filesIn (files : Files) (dir : String) : Except IoError (List String) := do
  let names := (← files.list dir).filter fun name => Files.extension? name == some "toml"
  return (names.mergeSort fun a b => decide (a ≤ b)).map (Files.join dir)

/-- Rules that are being collected, no two with one id. -/
structure Collection where
  /-- The rules, the last one first. -/
  latest : List Rule := []
  deriving Repr, DecidableEq

namespace Collection

/-- The rules in their order. -/
def rules (c : Collection) : List Rule := c.latest.reverse

def contains (c : Collection) (id : String) : Bool :=
  c.latest.any fun r => r.id == id

/-- The collection with the rules of a file that are new, and the ids of those that are not. -/
def addAll (c : Collection) : List Rule → Collection × List String
  | [] => (c, [])
  | r :: rest =>
    if c.contains r.id then
      let (c, seen) := c.addAll rest
      (c, r.id :: seen)
    else addAll ⟨r :: c.latest⟩ rest

end Collection

/-- Adds the rules of a file to a collection. -/
def collect (files : Files) (dir : String) (c : Collection) (path : String) :
    Reported EngineError Collection := do
  match loadFile files path with
  | .error e =>
    Reported.report { notices := [.ruleFileSkipped path e] }
    return c
  | .ok rules =>
    let (c, seen) := c.addAll rules
    Reported.report { notices := seen.map fun id => .ruleSkipped id path }
    if countLimit < c.latest.length then
      Reported.ofExcept (.error (.ruleLoad dir ("too many rules: max " ++ toString countLimit)))
    else return c

/-- The rules in a directory. -/
def loadDirectory (files : Files) (dir : String) : Reported EngineError (List Rule) := do
  match filesIn files dir with
  | .error e =>
    Reported.ofExcept (.error (.ruleLoad dir ("failed to read directory: " ++ e.message)))
  | .ok paths => return (← paths.foldlM (collect files dir) {}).rules

end ComponentScan.Rule
