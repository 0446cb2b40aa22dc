import ComponentScan.Descriptor.Basic
import ComponentScan.Error.Engine
import ComponentScan.Text.Replace

/-!
# Rules

A rule makes descriptors from paths and checksums alone. Its texts are templates, in which a
placeholder stands for the name of a file or of the directory it lies in.
-/

namespace ComponentScan

structure Rule where
  id : String
  /-- A lower phase comes first. -/
  phase : Nat := 100
  /-- The ends of the paths the rule is about. -/
  suffixes : List String
  /-- A template for the name of the component. -/
  component : String
  /-- A template for its version. -/
  version : String := unspecificVersion
  /-- A template for the glob list of what belongs to the component. -/
  includes : String := ""
  /-- A template for the glob list of what does not. -/
  excludes : String := ""
  /-- A template for the anchor. Without one, the anchor is the end of the path. -/
  anchor : Option String := none
  /-- The number of segments of an anchor that is the end of the path. -/
  anchorSegments : Nat := 2
  /-- Whether the anchor is found at files of the same content only. -/
  pinChecksum : Bool := false
  mode : Mode := .immediate
  /-- Whether the component is there even when no file belongs to it. -/
  needsNoFiles : Bool := false
  componentType : Option String := none
  /-- A text that the path has to contain, up to case. -/
  requiredPath : Option String := none
  deriving Repr, DecidableEq

namespace Rule

/-- What is wrong with a rule. -/
inductive Fault where
  | blankId
  | noSuffix
  | blankComponent
  | noAnchorSegments
  | recursiveAnchor (anchor : String)
  | pinnedRootAnchor (anchor : String)
  deriving Repr, DecidableEq

def Fault.reason : Fault → String
  | blankId => "rule id must not be empty"
  | noSuffix => "at least one suffix is required"
  | blankComponent => "component must not be empty"
  | noAnchorSegments => "anchor_segments must be at least 1"
  | recursiveAnchor anchor => "anchor '" ++ anchor ++ "' must not contain '**'"
  | pinnedRootAnchor anchor =>
    "root anchor '" ++ anchor ++ "' cannot be combined with pin_checksum"

def isBlank (s : String) : Bool := Text.trim s == ""

/-- What is wrong with the anchor of a rule. -/
def anchorFault? (r : Rule) : Option Fault :=
  match r.anchor with
  | none => none
  | some anchor =>
    if Text.contains anchor "**" then some (.recursiveAnchor anchor)
    else if r.pinChecksum && isRootAnchor anchor then some (.pinnedRootAnchor anchor)
    else none

/-- The first thing that is wrong with a rule. -/
def fault? (r : Rule) : Option Fault :=
  if isBlank r.id then some .blankId
  else if r.suffixes.all isBlank then some .noSuffix
  else if isBlank r.component then some .blankComponent
  else if r.anchorSegments = 0 then some .noAnchorSegments
  else r.anchorFault?

/-- Refuses a rule with which something is wrong. -/
def validate (r : Rule) : Except EngineError Unit :=
  match r.fault? with
  | none => .ok ()
  | some f => .error (.ruleLoad r.id f.reason)

end Rule

end ComponentScan
