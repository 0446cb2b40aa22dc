import ComponentScan.Contributor.Registry
import ComponentScan.Suffix.Cache

/-!
# Findings

What the contributors of a registry make of one file. They are asked phase by phase and group by
group. A contributor that fails is noted, and the others are asked all the same.
-/

namespace ComponentScan

/-- What contributors made of a file. -/
structure Findings where
  descriptors : List Descriptor := []
  failures : List EngineError := []
  deriving Repr, DecidableEq

namespace Findings

def append (a b : Findings) : Findings :=
  ⟨a.descriptors ++ b.descriptors, a.failures ++ b.failures⟩

instance : Append Findings := ⟨append⟩

/-- What one contributor makes of a file. Its descriptors bear its id. -/
def ofContributor (q : Inquiry) (c : Contributor) : Findings :=
  match c.contribute q with
  | .ok ds => { descriptors := ds.map fun d => { d with provenance := c.id } }
  | .error e => { failures := [.contributor c.id q.path e.message] }

/-- What contributors make of a file, one after the other. -/
def ofContributors (q : Inquiry) (cs : List Contributor) : Findings :=
  cs.foldl (fun f c => f ++ ofContributor q c) {}

/-- What the contributors of a group make of a file. The suffix is looked at only if one of them
is interested in the file. -/
def ofGroup (q : Inquiry) (folded : String) (cache : SuffixCache) (g : SuffixGroup) :
    Findings × SuffixCache :=
  match g.contributors.filter (·.applies folded) with
  | [] => ({}, cache)
  | interested =>
    let (hit, cache) := cache.ask g.suffix folded
    (if hit then ofContributors q interested else {}, cache)

/-- What the contributors of a registry make of a file. -/
def ofRegistry (r : Registry) (cache : SuffixCache) (q : Inquiry) : Findings × SuffixCache :=
  let folded := Text.fold q.path
  (r.phases.flatMap (·.2)).foldl
    (fun (found, cache) g =>
      let (more, cache) := ofGroup q folded cache g
      (found ++ more, cache))
    ({}, cache)

def hasFailures (f : Findings) : Bool := !f.failures.isEmpty

end Findings

/-- What is reported of failures that are passed over. -/
def Journal.ofFailures (failures : List EngineError) : Journal where
  notices := failures.filterMap fun
    | .contributor id path reason => some (.contributorFailed id path reason)
    | _ => none
  measures := failures.filterMap fun
    | .contributor id _ _ => some { metric := .contributorFailures, label := id, amount := 1 }
    | _ => none

end ComponentScan
