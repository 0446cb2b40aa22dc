import ComponentScan.Absorption.Expansion
import ComponentScan.Engine.Settings
import ComponentScan.Contributor.Registry
import ComponentScan.Rule.Contributor

/-!
# Engines

An engine has settings, a registry of contributors and a ledger of the suppliers it has called.
-/

namespace ComponentScan

structure Engine where
  settings : EngineSettings
  registry : Registry
  ledger : Ledger := {}

namespace Engine

/-- Builds an engine from contributors and rules, which are registered after them. -/
def build (settings : EngineSettings) (contributors : List Contributor) (rules : List Rule) :
    Reported EngineError Engine := do
  Reported.ofExcept settings.validate
  Reported.report (Registry.journal contributors)
  rules.forM fun r => Reported.ofExcept r.validate
  return {
    settings
    registry := Registry.empty.registerAll (contributors ++ rules.map Rule.toContributor) }

/-- Forgets the suppliers that were called. -/
def reset (e : Engine) : Engine := { e with ledger := {} }

/-- The engine in words. -/
def display (e : Engine) : String :=
  "ComponentPatternEngine \x7b config: " ++ e.settings.display ++ ", contributors: " ++
    toString e.registry.size ++ ", expansions: " ++ toString e.ledger.size ++ " \x7d"

end Engine

end ComponentScan
