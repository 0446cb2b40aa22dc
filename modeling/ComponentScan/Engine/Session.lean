import ComponentScan.Absorption.Pass
import ComponentScan.Engine.Basic
import ComponentScan.Extraction

/-!
# Sessions

An engine at work on one context and one store. It extracts descriptors and applies them in one
or two passes. A pass that fails leaves the context, the store and the ledger as they were; what
earlier passes did stays done.
-/

namespace ComponentScan

/-- What happened in a whole run, in numbers. -/
structure RunSummary where
  extraction : ExtractionSummary := {}
  immediate : AbsorptionSummary := {}
  /-- None if the deferred pass did not run. -/
  deferred : Option AbsorptionSummary := none
  deriving Repr, DecidableEq

/-- Both passes together. -/
def RunSummary.total (s : RunSummary) : AbsorptionSummary :=
  match s.deferred with
  | none => s.immediate
  | some d => s.immediate + d

structure Session where
  engine : Engine
  context : ScanContext
  store : DescriptorStore := {}
  /-- The suppliers that were called, in order. -/
  calls : List SupplierId := []
  journal : Journal := {}

namespace Session

def record (s : Session) (j : Journal) : Session :=
  { s with journal := s.journal ++ j }

/-- Forgets which suppliers the engine has called. -/
def reset (s : Session) : Session :=
  { s with engine := s.engine.reset }

/-- Extracts the descriptors of the context into the store. -/
def extract (s : Session) : ExtractionSummary × Session :=
  let x := Extraction.run s.engine.registry s.context s.store
  (x.summary, { s with store := x.store, journal := s.journal ++ x.journal })

def options (s : Session) : AbsorptionOptions :=
  { expandInventories := s.engine.settings.expandInventories
    purgeAbsorbed := s.engine.settings.purgeAbsorbed }

/-- The places of the descriptors of one pass. -/
def sightings (s : Session) (mode : Mode) : Except EngineError (List AnchorMatch) :=
  AnchorMatch.all s.store.descriptors s.context mode

/-- Keeps what a pass leaves. -/
def keep (s : Session) (mode : Mode) (a : Absorbed) : Session :=
  { s with
    engine := { s.engine with ledger := a.ledger }
    context := a.context
    calls := s.calls ++ a.calls
    journal := s.journal ++ a.journal ++
      { measures := [{ metric := .matchingSeconds, label := mode.name, amount := 1 }] } }

/-- Applies the descriptors of one mode. -/
def absorb (s : Session) (suppliers : Suppliers) (mode : Mode) :
    Except EngineError AbsorptionSummary × Session :=
  let found := s.sightings mode
  let reported := s.record (AnchorMatch.journal s.store.descriptors mode found)
  match found.bind (Absorbed.ofMatches · s.context s.options suppliers s.engine.ledger) with
  | .error e => (.error e, reported)
  | .ok a => (.ok a.summary, reported.keep mode a)

/-- Applies the deferred descriptors, if the settings ask for it. -/
def absorbDeferred (s : Session) (suppliers : Suppliers) :
    Except EngineError (Option AbsorptionSummary) × Session :=
  if s.engine.settings.runDeferredPass then
    let (done, s) := s.absorb suppliers .deferred
    (done.map some, s)
  else (.ok none, s)

/-- Extracts descriptors and applies them. An engine that is not enabled does nothing, and one
that is given too many files fails before it begins. -/
def runAll (s : Session) (suppliers : Suppliers) : Except EngineError RunSummary × Session :=
  let settings := s.engine.settings
  let files := s.context.files.length
  if !settings.enabled then (.ok {}, s)
  else if settings.maxScannedFiles < files then
    (.error (.config "max_scanned_files" ("scan has " ++ toString files ++ " files, limit is " ++
      toString settings.maxScannedFiles)), s)
  else
    let (extraction, s) := s.reset.extract
    match s.absorb suppliers .immediate with
    | (.error e, s) => (.error e, s)
    | (.ok immediate, s) =>
      match s.absorbDeferred suppliers with
      | (.error e, s) => (.error e, s)
      | (.ok deferred, s) => (.ok { extraction, immediate, deferred }, s)

end Session

end ComponentScan
