import ComponentScan.Proofs.Contributor.Registration

/-!
# The calls of a registry

Which contributors are called for a file, in which order, and what a call that fails changes. A
registry finds what the plain loop over its declarations finds, and a failure costs nothing but its
own entry (`ofRegistry_eq_plain`). The calls come by ascending phase; within a phase they come by
suffix, which is the order of registration only as long as no suffix is taken up again
(`ofRegistry_order`).
-/

namespace ComponentScan

/-! ## Contributors that are silenced -/

/-- The contributor that answers in place of another and finds nothing. -/
def Contributor.silent (c : Contributor) : Contributor :=
  { c with contribute := fun _ => .ok [] }

def Declaration.silent (d : Declaration) : Declaration :=
  { d with contributor := d.contributor.silent }

namespace Registry

/-- Where a declaration stands: the numbers of its phase, of its group there and of its contributor
in the group. -/
structure Place where
  phase : Nat
  group : Nat
  member : Nat

/-- The declaration that stands at a place. -/
def declarationAt? (r : Registry) (place : Place) : Option Declaration := do
  let p ← r.phases[place.phase]?
  let g ← p.2[place.group]?
  let c ← g.contributors[place.member]?
  return ⟨g.suffix, c⟩

/-- The registry with the contributor at a place silenced, there and nowhere else. -/
def silence (r : Registry) (place : Place) : Registry :=
  { r with
    phases := r.phases.modify place.phase fun p =>
      (p.1, p.2.modify place.group fun g =>
        { g with contributors := g.contributors.modify place.member Contributor.silent }) }

theorem modify_eq_append {α : Type} {l : List α} {i : Nat} {a : α} (h : l[i]? = some a)
    (f : α → α) :
    ∃ before after, l = before ++ a :: after ∧ l.modify i f = before ++ f a :: after := by
  obtain ⟨hi, rfl⟩ := List.getElem?_eq_some_iff.1 h
  refine ⟨l.take i, l.drop (i + 1), ?_, List.modify_eq_take_cons_drop hi⟩
  rw [List.getElem_cons_drop, List.take_append_drop]

theorem declarations_silence {r : Registry} {place : Place} {d : Declaration}
    (h : r.declarationAt? place = some d) :
    ∃ before after, r.declarations = before ++ d :: after ∧
      (r.silence place).declarations = before ++ d.silent :: after := by
  simp only [declarationAt?, Option.bind_eq_bind, Option.bind_eq_some_iff] at h
  obtain ⟨p, hp, g, hg, c, hc, hd⟩ := h
  obtain rfl := Option.some.inj hd
  obtain ⟨earlier, later, hphases, hphases'⟩ := modify_eq_append hp fun p =>
    (p.1, p.2.modify place.group fun g =>
      { g with contributors := g.contributors.modify place.member Contributor.silent })
  obtain ⟨front, back, hgroups, hgroups'⟩ := modify_eq_append hg fun g =>
    { g with contributors := g.contributors.modify place.member Contributor.silent }
  obtain ⟨before, after, hmembers, hmembers'⟩ := modify_eq_append hc Contributor.silent
  -- what stands around the place, outermost first
  let outside (ps : List (Nat × List SuffixGroup)) : List Declaration :=
    ps.flatMap fun p => p.2.flatMap SuffixGroup.declarations
  let beside (gs : List SuffixGroup) : List Declaration := gs.flatMap SuffixGroup.declarations
  let within (cs : List Contributor) : List Declaration := cs.map fun c => ⟨g.suffix, c⟩
  refine ⟨outside earlier ++ beside front ++ within before,
    within after ++ beside back ++ outside later, ?_, ?_⟩
  · rw [declarations, hphases, List.flatMap_append, List.flatMap_cons, hgroups,
      List.flatMap_append, List.flatMap_cons, SuffixGroup.declarations, hmembers]
    simp [outside, beside, within]
  · rw [declarations, silence, hphases', List.flatMap_append, List.flatMap_cons, hgroups',
      List.flatMap_append, List.flatMap_cons, SuffixGroup.declarations, hmembers']
    simp [outside, beside, within, Declaration.silent]

end Registry

namespace Findings

variable {q : Inquiry} {d : Declaration} {e : ContributorError}

theorem ofCalls_append_cons (before after : List Declaration) :
    ofCalls q (before ++ d :: after) =
      ⟨(ofCalls q before).descriptors ++ (d.descriptors q ++ (ofCalls q after).descriptors),
        (ofCalls q before).failures ++ (d.failures q ++ (ofCalls q after).failures)⟩ := by
  simp [ofCalls]

theorem filter_append_called {folded : String} (h : d.isCalled folded = true)
    (before after : List Declaration) :
    (before ++ d :: after).filter (·.isCalled folded) =
      before.filter (·.isCalled folded) ++ d :: after.filter (·.isCalled folded) := by
  rw [List.filter_append, List.filter_cons_of_pos h]

theorem mem_descriptors_ofCalls {ds : List Declaration} {x : Descriptor} :
    x ∈ (ofCalls q ds).descriptors ↔
      ∃ d ∈ ds, ∃ made, d.contributor.contribute q = .ok made ∧
        ∃ y ∈ made, x = { y with provenance := d.contributor.id } := by
  simp only [ofCalls, List.mem_flatMap]
  refine exists_congr fun d => and_congr_right fun _ => ?_
  rw [Declaration.descriptors]
  cases d.contributor.contribute q with
  | ok made => simp [eq_comm]
  | error e => simp

/-- Silencing a call that fails takes away its failure and nothing else. -/
theorem ofCalls_silent (h : d.contributor.contribute q = .error e)
    (before after : List Declaration) :
    (ofCalls q (before ++ d.silent :: after)).descriptors =
        (ofCalls q (before ++ d :: after)).descriptors ∧
      (ofCalls q (before ++ d :: after)).failures = (ofCalls q before).failures ++
        .contributor d.contributor.id q.path e.message :: (ofCalls q after).failures ∧
      (ofCalls q (before ++ d.silent :: after)).failures =
        (ofCalls q before).failures ++ (ofCalls q after).failures := by
  rw [ofCalls_append_cons, ofCalls_append_cons]
  simp [Declaration.descriptors, Declaration.failures, h, Declaration.silent, Contributor.silent]

/-- A registry finds what the plain loop finds, whatever the cache was asked before. The phases of
a registry that contributors were registered in ascend. Every descriptor bears the id of the
contributor that made it. When a call that fails is silenced, the same descriptors are found, and
of the failures its own is gone. -/
theorem ofRegistry_eq_plain (r : Registry) (asked : List (String × String)) (q : Inquiry) :
    let cache := SuffixCache.empty.askAll asked
    let found := (ofRegistry r cache q).1
    let called (ds : List Declaration) := ds.filter (·.isCalled (Text.fold q.path))
    found = plain r q ∧
    (∀ cs, r = Registry.empty.registerAll cs → (r.phases.map (·.1)).Pairwise (· < ·)) ∧
    (∀ x ∈ found.descriptors, ∃ d ∈ called r.declarations, x.provenance = d.contributor.id ∧
      ∃ made, d.contributor.contribute q = .ok made ∧
        ∃ y ∈ made, x = { y with provenance := d.contributor.id }) ∧
    ∀ place d e, r.declarationAt? place = some d → d.isCalled (Text.fold q.path) = true →
      d.contributor.contribute q = .error e →
      let found' := (ofRegistry (r.silence place) cache q).1
      ∃ before after, r.declarations = before ++ d :: after ∧
        (r.silence place).declarations = before ++ d.silent :: after ∧
        found'.descriptors = found.descriptors ∧
        found.failures = (ofCalls q (called before)).failures ++
          .contributor d.contributor.id q.path e.message ::
            (ofCalls q (called after)).failures ∧
        found'.failures =
          (ofCalls q (called before)).failures ++ (ofCalls q (called after)).failures := by
  intro cache found called
  have hsound : cache.Sound := SuffixCache.Sound.empty.askAll asked
  have hplain : found = plain r q := ofRegistry_fst hsound r q
  refine ⟨hplain, ?_, ?_, ?_⟩
  · rintro cs rfl
    rw [Declaration.phases_registerAll Declaration.phases_empty, Declaration.filed, List.map_map]
    exact (List.map_id _).symm ▸ Declaration.phases_ascending _
  · intro x hx
    rw [hplain] at hx
    obtain ⟨d, hd, made, hmade, y, hy, rfl⟩ := mem_descriptors_ofCalls.1 hx
    exact ⟨d, hd, rfl, made, hmade, y, hy, rfl⟩
  · intro place d e hplace hcalled hfails found'
    obtain ⟨before, after, hbefore, hafter⟩ := Registry.declarations_silence hplace
    have hfound : found = ofCalls q (called before ++ d :: called after) := by
      rw [hplain, plain, hbefore, filter_append_called hcalled]
    have hfound' : found' = ofCalls q (called before ++ d.silent :: called after) := by
      rw [show found' = plain (r.silence place) q from ofRegistry_fst hsound _ q, plain, hafter,
        filter_append_called (d := d.silent) hcalled]
    rw [hfound, hfound']
    exact ⟨before, after, hbefore, hafter, ofCalls_silent hfails _ _⟩

/-- Of two contributors with one suffix the first fails. -/
theorem ofRegistry_eq_plain_failing :
    let bad : Contributor :=
      { id := "bad", suffixes := [".json"]
        contribute := fun q => .error (.malformed q.path "no object") }
    let good : Contributor :=
      { id := "good", suffixes := [".json"]
        contribute := fun _ => .ok [{ name := "lib", version := "1", provenance := "none" }] }
    let r : Registry := ⟨[(defaultPhase, [⟨".json", [bad, good]⟩])], ["bad", "good"]⟩
    let cache := SuffixCache.empty.askAll [(".json", "a"), ("*", "b")]
    let q : Inquiry := ⟨"lib/Package.json", "H", { baseDir := "/scan" }⟩
    let found := (ofRegistry r cache q).1
    let found' := (ofRegistry (r.silence ⟨0, 0, 0⟩) cache q).1
    r.declarationAt? ⟨0, 0, 0⟩ = some ⟨".json", bad⟩ ∧
      found.descriptors.map (·.provenance) = ["good"] ∧
      found'.descriptors = found.descriptors ∧
      found.failures = [.contributor "bad" "lib/Package.json"
        "malformed anchor file 'lib/Package.json': no object"] ∧
      found'.failures = [] := by
  intro bad good r cache q found found'
  obtain ⟨-, -, -, hsilence⟩ := ofRegistry_eq_plain r [(".json", "a"), ("*", "b")] q
  obtain ⟨_, _, -, -, hdescriptors, -⟩ :=
    hsilence ⟨0, 0, 0⟩ ⟨".json", bad⟩ (.malformed q.path "no object") rfl (by decide +kernel) rfl
  exact ⟨rfl, by decide +kernel, hdescriptors, by decide +kernel, by decide +kernel⟩

/-- Contributors are called by ascending phase, and within a phase by suffix, the suffix declared
first before the others. That is the order of registration exactly if no other suffix comes
between two declarations of one suffix. -/
theorem ofRegistry_order (cs : List Contributor) (asked : List (String × String)) (q : Inquiry) :
    let ds := cs.flatMap (·.declarations)
    (ofRegistry (Registry.empty.registerAll cs) (SuffixCache.empty.askAll asked) q).1 =
      ofCalls q ((Declaration.byPhaseAndSuffix ds).filter (·.isCalled (Text.fold q.path))) ∧
    (Declaration.byPhaseAndSuffix ds).Pairwise (fun d d' => d.phase ≤ d'.phase) ∧
    (Declaration.byPhaseAndSuffix ds = Declaration.byPhase ds ↔
      ∀ p, Declaration.Contiguous (ds.filter (·.phase = p))) := by
  intro ds
  refine ⟨?_, Declaration.pairwise_byPhaseAndSuffix ds,
    Declaration.byPhaseAndSuffix_eq_byPhase_iff⟩
  rw [ofRegistry_fst (SuffixCache.Sound.empty.askAll asked), plain,
    Declaration.declarations_registerAll, Declaration.byPhaseAndSuffix]

/-- A suffix that is taken up again: the third contributor of a phase is called before the
second. -/
theorem ofRegistry_against_registration :
    let contributor (id suffix : String) : Contributor :=
      { id, suffixes := [suffix], contribute := fun _ => .ok [{ name := id, version := "1" }] }
    let cs := [contributor "a" "x.json", contributor "b" ".json", contributor "c" "x.json"]
    let q : Inquiry := ⟨"lib/x.json", "H", { baseDir := "/scan" }⟩
    let found := (ofRegistry (Registry.empty.registerAll cs) .empty q).1
    (∀ c ∈ cs, c.phase = defaultPhase) ∧ cs.map (·.id) = ["a", "b", "c"] ∧
      found.descriptors.map (·.provenance) = ["a", "c", "b"] := by
  intro contributor cs q found
  exact ⟨by simp [cs, contributor], rfl, by decide +kernel⟩

end Findings

end ComponentScan
