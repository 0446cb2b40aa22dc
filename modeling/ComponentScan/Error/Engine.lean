/-!
# Engine errors

What can go wrong while rules are loaded, descriptors are produced and matches are applied. A
fault of a descriptor aborts a whole pass; a contributor or a supplier that fails is reported and
left out.
-/

namespace ComponentScan

/-- An error of the pattern engine. -/
inductive EngineError where
  | missingVersionAnchor (component provenance : String)
  | missingAnchorChecksum (component anchor : String)
  | recursiveWildcardInAnchor (component anchor : String)
  | rootAnchorRequiresWildcardChecksum (component checksum : String)
  | invalidPattern (pattern reason : String)
  | contributor (id path reason : String)
  | expansion (component reason : String)
  | ruleLoad (path reason : String)
  | config (field reason : String)
  deriving Repr, DecidableEq

namespace EngineError

def message : EngineError → String
  | missingVersionAnchor component provenance =>
    "descriptor '" ++ component ++ "' from '" ++ provenance ++ "' has no version anchor"
  | missingAnchorChecksum component anchor =>
    "descriptor '" ++ component ++ "' has no checksum for anchor '" ++ anchor ++ "'"
  | recursiveWildcardInAnchor component anchor =>
    "descriptor '" ++ component ++ "' uses recursive wildcard in anchor '" ++ anchor ++ "'"
  | rootAnchorRequiresWildcardChecksum component checksum =>
    "descriptor '" ++ component ++ "' uses root anchor with checksum '" ++ checksum ++
      "', expected '*'"
  | invalidPattern pattern reason => "invalid pattern '" ++ pattern ++ "': " ++ reason
  | contributor id path reason =>
    "contributor '" ++ id ++ "' failed on '" ++ path ++ "': " ++ reason
  | expansion component reason =>
    "expansion inventory for '" ++ component ++ "' failed: " ++ reason
  | ruleLoad path reason => "rule load error: " ++ path ++ ": " ++ reason
  | config field reason => "config error: " ++ field ++ ": " ++ reason

/-- Whether the error is a fault of a descriptor, which aborts a whole pass. -/
def isDescriptorFault : EngineError → Bool
  | missingVersionAnchor .. | missingAnchorChecksum .. | recursiveWildcardInAnchor ..
  | rootAnchorRequiresWildcardChecksum .. | invalidPattern .. => true
  | contributor .. | expansion .. | ruleLoad .. | config .. => false

end EngineError

end ComponentScan
