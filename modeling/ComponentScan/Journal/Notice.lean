import ComponentScan.Error.Engine

/-!
# Notices

What a scan reports besides its result: faults that it leaves out or passes over, and the fault
of a descriptor that ends it.
-/

namespace ComponentScan

inductive Severity where
  | warn
  | error
  deriving Repr, DecidableEq

def Severity.name : Severity → String
  | warn => "warn"
  | error => "error"

/-- The type of a setting, as far as its text goes. -/
inductive SettingType where
  | boolean
  | size
  deriving Repr, DecidableEq

inductive Notice where
  /-- A contributor without suffixes is not registered. -/
  | contributorWithoutSuffixes (id : String)
  /-- A contributor failed on a file and is left out for it. -/
  | contributorFailed (id path reason : String)
  /-- A descriptor ends the pass. -/
  | invalidDescriptor (component provenance : String) (error : EngineError)
  /-- The inventory of a component could not be supplied. -/
  | expansionFailed (component provenance : String) (error : EngineError)
  /-- A variable does not hold a value of the type of its setting. -/
  | overrideIgnored (setting value : String) (type : SettingType)
  /-- A rule file is passed over. -/
  | ruleFileSkipped (path : String) (error : EngineError)
  /-- A rule whose id was seen before is passed over. -/
  | ruleSkipped (id path : String)
  deriving Repr, DecidableEq

namespace Notice

def severity : Notice → Severity
  | invalidDescriptor .. => .error
  | _ => .warn

def message : Notice → String
  | contributorWithoutSuffixes _ => "contributor declares no suffixes, not registered"
  | contributorFailed .. => "contributor failed, skipping"
  | invalidDescriptor .. => "invalid component pattern descriptor"
  | expansionFailed .. => "expansion inventory failed"
  | overrideIgnored _ _ .boolean => "failed to parse bool from env var, ignoring"
  | overrideIgnored _ _ .size => "failed to parse usize from env var, ignoring"
  | ruleFileSkipped .. => "failed to load rule file, skipping"
  | ruleSkipped .. => "duplicate contributor id, skipping"

/-- The named details. -/
def fields : Notice → List (String × String)
  | contributorWithoutSuffixes id => [("contributor", id)]
  | contributorFailed id path reason =>
    [("contributor", id), ("path", path), ("error", reason)]
  | invalidDescriptor component provenance e | expansionFailed component provenance e =>
    [("component", component), ("provenance", provenance), ("error", e.message)]
  | overrideIgnored setting value _ => [("env_key", setting), ("value", value)]
  | ruleFileSkipped path e => [("path", path), ("error", e.message)]
  | ruleSkipped id path => [("rule_id", id), ("path", path)]

end Notice

end ComponentScan
