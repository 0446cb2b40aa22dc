import ComponentScan.Absorption.Coverage
import ComponentScan.Absorption.Expansion

/-!
# Absorption

Matches are applied one after the other. Each absorbs the files it covers, of those that were
there before the first match; if there are any, or if it needs none, its component enters the
inventory, followed by the component's own inventory. In the end, absorbed artifacts are removed.
-/

namespace ComponentScan

/-- The id of the asset that a component is. -/
def componentAssetId (part checksum : String) : String :=
  if checksum = anyChecksum then "AID-" ++ part else "AID-" ++ part ++ "-" ++ checksum

structure AbsorptionOptions where
  /-- Whether suppliers are called. -/
  expandInventories : Bool := true
  /-- Whether absorbed artifacts are removed in the end. -/
  purgeAbsorbed : Bool := true
  deriving Repr, DecidableEq

/-- What happened in an absorption, in numbers. -/
structure AbsorptionSummary where
  found : Nat := 0
  /-- Matches that covered no file and needed one. -/
  dropped : Nat := 0
  /-- Files that were covered, counted for each match that covers them. -/
  absorbed : Nat := 0
  components : Nat := 0
  expansions : Nat := 0
  removed : Nat := 0
  deriving Repr, DecidableEq

namespace AbsorptionSummary

def add (a b : AbsorptionSummary) : AbsorptionSummary :=
  { found := a.found + b.found
    dropped := a.dropped + b.dropped
    absorbed := a.absorbed + b.absorbed
    components := a.components + b.components
    expansions := a.expansions + b.expansions
    removed := a.removed + b.removed }

instance : Add AbsorptionSummary := ⟨add⟩

end AbsorptionSummary

/-! ## Matches that are ready to be applied -/

/-- A match with what its application needs. -/
structure Claimant where
  hit : AnchorMatch
  coverage : Coverage
  /-- The directories of the match, folded. -/
  folded : Ownership
  deriving Repr

namespace Claimant

def ofMatch (hit : AnchorMatch) : Except EngineError Claimant :=
  return { hit, coverage := ← Coverage.ofDescriptor hit.descriptor, folded := hit.ownership.fold }

def assetId (c : Claimant) : String :=
  componentAssetId c.hit.descriptor.part c.hit.checksum

/-- The assets that own what the component absorbs. -/
def owners (c : Claimant) : List String :=
  c.hit.assetIdChain ++ [c.assetId]

def covers (c : Claimant) (path : String) : Bool :=
  c.coverage.covers c.folded path

/-- What the component's artifact says about its descriptor. -/
def attributes (c : Claimant) : StringMap String :=
  let d := c.hit.descriptor
  .ofList
    ([("provenance", d.provenance)] ++
      (d.componentType.toList.map fun t => ("component_type", t)) ++
      (d.effectiveAnchor.toList.map fun a => ("version_anchor", a)))

/-- The artifact of the component. -/
def artifact (c : Claimant) : Artifact :=
  let d := c.hit.descriptor
  let a : Artifact :=
    { id := d.part
      kind := .component
      component := some d.name
      version := some d.version
      checksum := some c.hit.checksum
      path := c.hit.path
      rootPaths := c.hit.rootPaths
      assetId := some c.assetId
      attributes := c.attributes }
  (a.markAll c.hit.assetIdChain .contains).markAll [c.assetId] .describes

end Claimant

/-! ## Applying them -/

/-- A failed call of a supplier. -/
structure ExpansionFailure where
  component : String
  provenance : String
  error : EngineError
  deriving Repr, DecidableEq

/-- An artifact that was there before the first match, with its folded path if it can be
absorbed. -/
structure Resident where
  artifact : Artifact
  path : Option String
  deriving Repr, DecidableEq

def Resident.ofArtifact (a : Artifact) : Resident :=
  ⟨a, if a.isFile then a.normalizedPath.map Text.fold else none⟩

/-- Whether a component covers the artifact. -/
def Resident.coveredBy (r : Resident) (c : Claimant) : Bool :=
  r.path.any c.covers

/-- Whether the component covers the artifact, and the artifact after the component has been
applied to it. -/
def Resident.claim (r : Resident) (c : Claimant) : Bool × Resident :=
  if r.coveredBy c then (true, { r with artifact := r.artifact.absorb c.owners }) else (false, r)

/-- An absorption that is under way. -/
structure Absorption where
  residents : List Resident
  /-- The artifacts that have entered since, in their order. -/
  arrivals : List Artifact := []
  assets : List Asset
  ledger : Ledger
  summary : AbsorptionSummary := {}
  /-- The suppliers that were called, in order. -/
  calls : List SupplierId := []
  failures : List ExpansionFailure := []
  deriving Repr, DecidableEq

namespace Absorption

/-- Calls a supplier for a component. -/
def call (suppliers : Suppliers) (c : Claimant) (s : SupplierId) (x : Absorption) : Absorption :=
  let x := { x with
    calls := x.calls ++ [s]
    summary := { x.summary with expansions := x.summary.expansions + 1 } }
  match suppliers s with
  | .ok inventory =>
    { x with
      arrivals := x.arrivals ++ inventory.artifactsOf c.owners
      assets := inventory.assets.foldl ScanContext.mergeAsset x.assets }
  | .error e =>
    let d := c.hit.descriptor
    { x with failures :=
        x.failures ++ [⟨d.part, d.provenance, .expansion d.part e.message⟩] }

/-- Expands a component that has entered the inventory. -/
def expand (suppliers : Suppliers) (c : Claimant) (x : Absorption) : Absorption :=
  match c.hit.descriptor.supplier with
  | none => x
  | some s =>
    match x.ledger.enter s with
    | (true, ledger) => call suppliers c s { x with ledger }
    | (false, _) => x

/-- Applies a match. -/
def apply (options : AbsorptionOptions) (suppliers : Suppliers) (x : Absorption) (c : Claimant) :
    Absorption :=
  let claimed := x.residents.map fun r : Resident => r.claim c
  let covered := claimed.countP Prod.fst
  let x := { x with
    residents := claimed.map Prod.snd
    summary := { x.summary with absorbed := x.summary.absorbed + covered } }
  if covered = 0 ∧ !c.hit.descriptor.needsNoFiles then
    { x with summary := { x.summary with dropped := x.summary.dropped + 1 } }
  else
    let x := { x with
      arrivals := x.arrivals ++ [c.artifact]
      summary := { x.summary with components := x.summary.components + 1 } }
    if options.expandInventories then x.expand suppliers c else x

end Absorption

/-- What an absorption leaves. -/
structure Absorbed where
  context : ScanContext
  ledger : Ledger
  summary : AbsorptionSummary
  /-- The suppliers that were called, in order. -/
  calls : List SupplierId
  failures : List ExpansionFailure
  deriving Repr, DecidableEq

namespace Absorbed

/-- Applies matches to a context. A glob list that does not compile ends the pass before the
first match is applied. -/
def ofMatches (found : List AnchorMatch) (context : ScanContext) (options : AbsorptionOptions)
    (suppliers : Suppliers) (ledger : Ledger) : Except EngineError Absorbed := do
  let claimants ← found.mapM Claimant.ofMatch
  let start : Absorption :=
    { residents := context.artifacts.map .ofArtifact
      assets := context.assets
      ledger
      summary := { found := found.length } }
  let x := claimants.foldl (Absorption.apply options suppliers) start
  let context := { context with
    artifacts := x.residents.map (·.artifact) ++ x.arrivals
    assets := x.assets }
  let removed := if options.purgeAbsorbed then context.absorbedCount else 0
  return {
    context := if options.purgeAbsorbed then context.purge else context
    ledger := x.ledger
    summary := { x.summary with removed }
    calls := x.calls
    failures := x.failures }

/-- What is reported of an absorption. -/
def journal (a : Absorbed) : Journal where
  notices := a.failures.map fun f => .expansionFailed f.component f.provenance f.error
  measures :=
    [{ metric := .artifactsAbsorbed, amount := a.summary.absorbed },
      { metric := .matchesDropped, amount := a.summary.dropped },
      { metric := .expansions, amount := a.summary.expansions }]

end Absorbed

end ComponentScan
