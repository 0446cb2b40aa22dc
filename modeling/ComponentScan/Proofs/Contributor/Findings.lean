import ComponentScan.Contributor.Findings
import ComponentScan.Proofs.Suffix.Cache

/-!
# Findings told by a plain loop

A registry is read as one list, the declarations of its contributors: phase by phase, group by
group. A plain loop over this list calls every contributor that is interested in the file and has
declared a suffix of its path. It collects what a registry finds, whatever the cache was asked
before (`ofRegistry_eq_plain`), and a call that fails takes nothing away from the others.
-/

namespace ComponentScan

/-- A contributor under one of the suffixes it declares. -/
structure Declaration where
  suffix : String
  contributor : Contributor

namespace Declaration

/-- Whether the contributor is called for a folded path: it is interested in the path, and the
path has the suffix. -/
def isCalled (folded : String) (d : Declaration) : Bool :=
  d.contributor.applies folded && (SuffixPattern.compile d.suffix).accepts folded.toList

/-- The descriptors of a call. They bear the id of the contributor. -/
def descriptors (q : Inquiry) (d : Declaration) : List Descriptor :=
  match d.contributor.contribute q with
  | .ok made => made.map fun x => { x with provenance := d.contributor.id }
  | .error _ => []

/-- The failure of a call, if it fails. -/
def failures (q : Inquiry) (d : Declaration) : List EngineError :=
  match d.contributor.contribute q with
  | .ok _ => []
  | .error e => [.contributor d.contributor.id q.path e.message]

end Declaration

/-- The declarations a group stands for. -/
def SuffixGroup.declarations (g : SuffixGroup) : List Declaration :=
  g.contributors.map fun c => ⟨g.suffix, c⟩

/-- The declarations in a registry: phase by phase, group by group. -/
def Registry.declarations (r : Registry) : List Declaration :=
  r.phases.flatMap fun p => p.2.flatMap SuffixGroup.declarations

namespace Findings

/-- What some calls make of a file. -/
def ofCalls (q : Inquiry) (ds : List Declaration) : Findings :=
  { descriptors := ds.flatMap (·.descriptors q), failures := ds.flatMap (·.failures q) }

/-- What a plain loop over the declarations of a registry makes of a file. -/
def plain (r : Registry) (q : Inquiry) : Findings :=
  ofCalls q (r.declarations.filter (·.isCalled (Text.fold q.path)))

/-! ## Calls -/

variable {q : Inquiry}

theorem append_eq (a b : Findings) :
    a ++ b = ⟨a.descriptors ++ b.descriptors, a.failures ++ b.failures⟩ :=
  rfl

theorem append_assoc (a b c : Findings) : a ++ b ++ c = a ++ (b ++ c) := by
  simp [append_eq]

theorem append_empty (a : Findings) : a ++ ({} : Findings) = a := by
  simp [append_eq]

theorem empty_append (a : Findings) : ({} : Findings) ++ a = a := by
  simp [append_eq]

theorem ofCalls_nil : ofCalls q [] = {} :=
  rfl

theorem ofCalls_append (ds ds' : List Declaration) :
    ofCalls q (ds ++ ds') = ofCalls q ds ++ ofCalls q ds' := by
  simp [ofCalls, append_eq]

theorem ofContributor_eq (suffix : String) (c : Contributor) :
    ofContributor q c = ofCalls q [⟨suffix, c⟩] := by
  rw [ofContributor]
  cases h : c.contribute q with
  | ok made => simp [ofCalls, Declaration.descriptors, Declaration.failures, h]
  | error e => simp [ofCalls, Declaration.descriptors, Declaration.failures, h]

theorem ofContributors_eq (suffix : String) (cs : List Contributor) :
    ofContributors q cs = ofCalls q (cs.map fun c => ⟨suffix, c⟩) := by
  suffices h : ∀ f : Findings, cs.foldl (fun f c => f ++ ofContributor q c) f =
      f ++ ofCalls q (cs.map fun c => ⟨suffix, c⟩) by
    rw [ofContributors, h, empty_append]
  induction cs with
  | nil => exact fun f => (append_empty f).symm
  | cons c cs ih =>
    intro f
    rw [List.foldl_cons, ih, ofContributor_eq suffix, append_assoc, ← ofCalls_append]
    rfl

/-! ## Groups -/

theorem filter_isCalled (folded : String) (g : SuffixGroup) :
    g.declarations.filter (·.isCalled folded) =
      if (SuffixPattern.compile g.suffix).accepts folded.toList then
        (g.contributors.filter (·.applies folded)).map fun c => ⟨g.suffix, c⟩
      else [] := by
  rw [SuffixGroup.declarations, List.filter_map]
  split
  · rename_i h
    simp [Function.comp_def, Declaration.isCalled, h]
  · rename_i h
    simp [Function.comp_def, Declaration.isCalled, h]

/-- That the suffix of a group is looked at only when somebody is interested makes no
difference. -/
theorem ofGroup_spec {cache : SuffixCache} (h : cache.Sound) (folded : String) (g : SuffixGroup) :
    (ofGroup q folded cache g).1 = ofCalls q (g.declarations.filter (·.isCalled folded)) ∧
      (ofGroup q folded cache g).2.Sound := by
  rw [ofGroup, filter_isCalled]
  split
  · rename_i hnone
    rw [hnone, List.map_nil, ite_self, ofCalls_nil]
    exact ⟨rfl, h⟩
  · refine ⟨?_, h.ask_snd⟩
    dsimp only
    rw [h.ask_fst, ofContributors_eq g.suffix]
    split <;> rfl

theorem foldl_ofGroup {cache : SuffixCache} (h : cache.Sound) (folded : String)
    (groups : List SuffixGroup) (found : Findings) :
    (groups.foldl (fun (found, cache) g =>
        let (more, cache) := ofGroup q folded cache g
        (found ++ more, cache)) (found, cache)).1 =
      found ++ ofCalls q
        ((groups.flatMap SuffixGroup.declarations).filter (·.isCalled folded)) := by
  induction groups generalizing cache found with
  | nil => exact (append_empty found).symm
  | cons g groups ih =>
    obtain ⟨hfound, hcache⟩ := ofGroup_spec (q := q) h folded g
    rw [List.foldl_cons, ih hcache, hfound, append_assoc, ← ofCalls_append, ← List.filter_append,
      ← List.flatMap_cons]

theorem ofRegistry_fst {cache : SuffixCache} (h : cache.Sound) (r : Registry) (q : Inquiry) :
    (ofRegistry r cache q).1 = plain r q := by
  rw [ofRegistry, foldl_ofGroup h, empty_append, plain, Registry.declarations, List.flatMap_assoc]

/-- A cache that tells the truth still does after a file. -/
theorem ofRegistry_snd {cache : SuffixCache} (h : cache.Sound) (r : Registry) (q : Inquiry) :
    (ofRegistry r cache q).2.Sound := by
  rw [ofRegistry]
  generalize r.phases.flatMap (·.2) = groups
  suffices hfold : ∀ found : Findings, (groups.foldl (fun (found, cache) g =>
      let (more, cache) := ofGroup q (Text.fold q.path) cache g
      (found ++ more, cache)) (found, cache)).2.Sound from hfold {}
  induction groups generalizing cache with
  | nil => exact fun _ => h
  | cons g groups ih =>
    intro found
    rw [List.foldl_cons]
    exact ih (ofGroup_spec h (Text.fold q.path) g).2 _

end Findings

end ComponentScan
