import ComponentScan.Contributor.Findings
import ComponentScan.Descriptor.Store

/-!
# Extraction

Every file with a checksum is shown to the contributors, the shortest path first, and what they
find is stored. So of two descriptors with one qualifier the one found higher up stays.
-/

namespace ComponentScan

/-- What happened in an extraction, in numbers. -/
structure ExtractionSummary where
  filesVisited : Nat := 0
  /-- Files on which a contributor failed. -/
  filesFailed : Nat := 0
  accepted : Nat := 0
  duplicate : Nat := 0
  /-- Descriptors left out because their version is not known. -/
  unspecific : Nat := 0
  deriving Repr, DecidableEq

/-- An extraction that is under way. -/
structure Extraction where
  store : DescriptorStore
  cache : SuffixCache := {}
  summary : ExtractionSummary := {}
  failures : List EngineError := []
  deriving Repr, DecidableEq

namespace Extraction

/-- A file that is shown to the contributors. -/
structure Candidate where
  path : String
  checksum : String
  /-- The folded path, which decides between paths of one length. -/
  folded : String
  deriving Repr, DecidableEq

/-- The candidate a file is, if it has a checksum and a path. -/
def Candidate.ofArtifact? (a : Artifact) : Option Candidate :=
  match a.checksum, a.normalizedPath with
  | some checksum, some path => some { path, checksum, folded := Text.fold path }
  | _, _ => none

/-- Shorter paths come first, measured in bytes; of one length, in the order of the folded
paths. -/
def Candidate.notAfter (a b : Candidate) : Bool :=
  a.path.utf8ByteSize < b.path.utf8ByteSize ||
    (a.path.utf8ByteSize == b.path.utf8ByteSize && decide (a.folded ≤ b.folded))

/-- The files that are shown to the contributors, in their order. -/
def candidates (context : ScanContext) : List Candidate :=
  (context.files.filterMap Candidate.ofArtifact?).mergeSort Candidate.notAfter

/-- Stores a descriptor. -/
def take (x : Extraction) (d : Descriptor) : Extraction :=
  if d.isUnspecific then
    { x with summary := { x.summary with unspecific := x.summary.unspecific + 1 } }
  else
    match x.store.insert d with
    | (true, store) =>
      { x with store, summary := { x.summary with accepted := x.summary.accepted + 1 } }
    | (false, _) =>
      { x with summary := { x.summary with duplicate := x.summary.duplicate + 1 } }

/-- Shows a file to the contributors. -/
def visit (r : Registry) (context : ScanContext) (x : Extraction) (c : Candidate) : Extraction :=
  let (found, cache) := Findings.ofRegistry r x.cache ⟨c.path, c.checksum, context⟩
  let x : Extraction := { x with
    cache
    summary := { x.summary with
      filesVisited := x.summary.filesVisited + 1
      filesFailed := x.summary.filesFailed + if found.hasFailures then 1 else 0 }
    failures := x.failures ++ found.failures }
  found.descriptors.foldl take x

/-- Extracts the descriptors of a context into a store. -/
def run (r : Registry) (context : ScanContext) (store : DescriptorStore) : Extraction :=
  (candidates context).foldl (visit r context) { store }

/-- What is reported of an extraction. -/
def journal (x : Extraction) : Journal :=
  .ofFailures x.failures ++
    { measures :=
        [{ metric := .filesDispatched, amount := x.summary.filesVisited },
          { metric := .descriptorsAccepted, amount := x.summary.accepted },
          { metric := .extractionSeconds, amount := 1 }] }

end Extraction

end ComponentScan
