import ComponentScan.Config.Basic
import ComponentScan.Journal.Basic

/-!
# Overrides

Variables of the environment take the place of settings. A variable that does not hold a value of
its setting's type is ignored, which is reported.
-/

namespace ComponentScan

/-- The variables of the environment. -/
abbrev Environment := List (String × String)

/-- A setting that a variable can take the place of. -/
inductive Setting where
  | logLevel
  | logFormat
  | enabled
  | runDeferredPass
  | expandInventories
  | purgeAbsorbed
  | rulesDir
  | maxScannedFiles
  deriving Repr, DecidableEq

namespace Setting

/-- The settings in the order in which their variables are looked at. -/
def all : List Setting :=
  [logLevel, logFormat, enabled, runDeferredPass, expandInventories, purgeAbsorbed, rulesDir,
    maxScannedFiles]

/-- The variable of a setting. -/
def variableName : Setting → String
  | logLevel => "COMPSCAN_GENERAL_LOG_LEVEL"
  | logFormat => "COMPSCAN_GENERAL_LOG_FORMAT"
  | enabled => "COMPSCAN_MATCHER_ENABLED"
  | runDeferredPass => "COMPSCAN_MATCHER_RUN_DEFERRED_PASS"
  | expandInventories => "COMPSCAN_MATCHER_EXPAND_INVENTORIES"
  | purgeAbsorbed => "COMPSCAN_MATCHER_PURGE_ABSORBED"
  | rulesDir => "COMPSCAN_MATCHER_RULES_DIR"
  | maxScannedFiles => "COMPSCAN_MATCHER_MAX_SCANNED_FILES"

/-- The type of a setting that does not hold just any text. -/
def type? : Setting → Option SettingType
  | logLevel | logFormat | rulesDir => none
  | enabled | runDeferredPass | expandInventories | purgeAbsorbed => some .boolean
  | maxScannedFiles => some .size

/-- The truth value a text stands for. -/
def readBool? : String → Option Bool
  | "true" => some true
  | "false" => some false
  | _ => none

/-- The number of 64 bits a text stands for. It may have a plus sign. -/
def readSize? (s : String) : Option Nat :=
  let ds := match s.toList with
    | '+' :: ds => ds
    | ds => ds
  if ds.isEmpty || !ds.all Char.isDigit then none
  else
    let n := ds.foldl (fun n c => n * 10 + (c.toNat - '0'.toNat)) 0
    if n < Nat.pow 2 64 then some n else none

/-- Gives a setting the value of a text, if that is a value of its type. -/
def set? (setting : Setting) (value : String) (c : Config) : Option Config :=
  match setting with
  | logLevel => some { c with general := { c.general with logLevel := value } }
  | logFormat => some { c with general := { c.general with logFormat := value } }
  | rulesDir => some { c with matcher := { c.matcher with rulesDir := value } }
  | enabled => (readBool? value).map fun b => { c with matcher := { c.matcher with enabled := b } }
  | runDeferredPass =>
    (readBool? value).map fun b => { c with matcher := { c.matcher with runDeferredPass := b } }
  | expandInventories =>
    (readBool? value).map fun b => { c with matcher := { c.matcher with expandInventories := b } }
  | purgeAbsorbed =>
    (readBool? value).map fun b => { c with matcher := { c.matcher with purgeAbsorbed := b } }
  | maxScannedFiles =>
    (readSize? value).map fun n => { c with matcher := { c.matcher with maxScannedFiles := n } }

/-- Gives a setting the value of its variable, if there is one of its type. -/
def override (env : Environment) (c : Config) (setting : Setting) : Config :=
  match env.lookup setting.variableName with
  | none => c
  | some value => (setting.set? value c).getD c

/-- The notice of a variable that is ignored. -/
def overrideNotice? (env : Environment) (c : Config) (setting : Setting) : Option Notice :=
  match env.lookup setting.variableName, setting.type? with
  | some value, some type =>
    if (setting.set? value c).isNone then
      some (.overrideIgnored setting.variableName value type)
    else none
  | _, _ => none

end Setting

namespace Config

/-- The configuration with the variables of an environment in the place of its settings. -/
def override (c : Config) (env : Environment) : Config :=
  Setting.all.foldl (Setting.override env) c

/-- What is reported of the variables that are ignored. -/
def overrideJournal (c : Config) (env : Environment) : Journal where
  notices := Setting.all.filterMap (Setting.overrideNotice? env c)

end Config

end ComponentScan
