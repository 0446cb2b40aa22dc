import ComponentScan.Proofs.Contributor.Registration
import ComponentScan.Proofs.Text.Trimmed

/-!
# What a registry stands for

A registry is told by the registrations it was made of, one phase at a time: the suffixes in the
order in which they were declared first, and for each suffix the registrations that declare it, as
often as they do (`registerAll_represents`). Suffixes that agree up to blanks around them and up to
case are one suffix; a registration that declares only blanks is left out.
-/

namespace ComponentScan

open ComponentScan.Text

namespace Contributor

/-- How often a contributor declares a suffix, in whatever spelling. -/
def timesDeclared (c : Contributor) (suffix : String) : Nat :=
  c.suffixes.countP fun s => fold (trim s) = suffix

/-- Whether a contributor declares a suffix that is not blank. -/
def declaresSuffix (c : Contributor) : Bool :=
  c.suffixes.any fun s => trim s ≠ ""

variable {c : Contributor} {suffix : String}

theorem mem_registeredSuffixes :
    suffix ∈ c.registeredSuffixes ↔ ∃ s ∈ c.suffixes, trim s ≠ "" ∧ suffix = fold (trim s) := by
  simp only [registeredSuffixes, List.mem_filter, List.mem_map, decide_eq_true_eq]
  constructor
  · rintro ⟨⟨s, hs, rfl⟩, hne⟩
    exact ⟨s, hs, mt fold_eq_empty_iff.2 hne, rfl⟩
  · rintro ⟨s, hs, hne, rfl⟩
    exact ⟨⟨s, hs, rfl⟩, mt fold_eq_empty_iff.1 hne⟩

theorem registeredSuffixes_ne_nil_iff : c.registeredSuffixes ≠ [] ↔ c.declaresSuffix = true := by
  simp only [declaresSuffix, List.any_eq_true, decide_eq_true_eq]
  constructor
  · intro h
    obtain ⟨suffix, hsuffix⟩ := List.exists_mem_of_ne_nil _ h
    obtain ⟨s, hs, hne, -⟩ := mem_registeredSuffixes.1 hsuffix
    exact ⟨s, hs, hne⟩
  · rintro ⟨s, hs, hne⟩
    exact List.ne_nil_of_mem (mem_registeredSuffixes.2 ⟨s, hs, hne, rfl⟩)

theorem count_registeredSuffixes (h : suffix ≠ "") :
    c.registeredSuffixes.count suffix = c.timesDeclared suffix := by
  rw [registeredSuffixes, List.count_filter (by simpa using h), List.count, List.countP_map,
    timesDeclared]
  refine List.countP_congr fun s _ => ?_
  simp

/-- The declarations of one suffix are the contributor, as often as it declares the suffix. -/
theorem members_declarations (c : Contributor) (h : suffix ≠ "") :
    (c.declarations.filter (·.suffix = suffix)).map (·.contributor) =
      List.replicate (c.timesDeclared suffix) c := by
  rw [← count_registeredSuffixes h, List.eq_replicate_iff]
  constructor
  · rw [List.length_map, declarations, List.filter_map, List.length_map, List.count,
      List.countP_eq_length_filter]
    rfl
  · intro c' hc'
    obtain ⟨d, hd, rfl⟩ := List.mem_map.1 hc'
    obtain ⟨s, -, rfl⟩ := List.mem_map.1 (List.mem_filter.1 hd).1
    rfl

end Contributor

/-! ## The declarations of a phase -/

/-- The registrations of one phase. -/
def registrationsOf (cs : List Contributor) (phase : Nat) : List Contributor :=
  cs.filter (·.phase = phase)

namespace Declaration

theorem filter_phase_flatMap (cs : List Contributor) (phase : Nat) :
    (cs.flatMap (·.declarations)).filter (·.phase = phase) =
      (registrationsOf cs phase).flatMap (·.declarations) := by
  induction cs with
  | nil => rfl
  | cons c cs ih =>
    rw [List.flatMap_cons, List.filter_append, ih, filter_phase_declarations, registrationsOf,
      registrationsOf, List.filter_cons]
    by_cases hc : c.phase = phase
    · simp [hc]
    · simp [hc, Ne.symm hc]

theorem suffixes_flatMap (cs : List Contributor) :
    suffixes (cs.flatMap (·.declarations)) = (cs.flatMap (·.registeredSuffixes)).eraseDups := by
  rw [suffixes, List.map_flatMap]
  congr 1
  refine List.flatMap_congr fun c _ => ?_
  rw [Contributor.declarations, List.map_map]
  exact List.map_id _

theorem members_flatMap (cs : List Contributor) {suffix : String} (h : suffix ≠ "") :
    ((cs.flatMap (·.declarations)).filter (·.suffix = suffix)).map (·.contributor) =
      cs.flatMap fun c => List.replicate (c.timesDeclared suffix) c := by
  rw [List.filter_flatMap, List.map_flatMap]
  exact List.flatMap_congr fun c _ => c.members_declarations h

end Declaration

/-! ## Registries -/

/-- The groups of one phase of a registry made of the registrations `cs`. -/
structure Registry.HoldsPhase (cs : List Contributor) (phase : Nat) (groups : List SuffixGroup) :
    Prop where
  nonempty : groups ≠ []
  order : groups.map (·.suffix) =
    ((registrationsOf cs phase).flatMap (·.registeredSuffixes)).eraseDups
  distinct : (groups.map (·.suffix)).Nodup
  normal : ∀ g ∈ groups, g.suffix ≠ "" ∧ trim g.suffix = g.suffix ∧ fold g.suffix = g.suffix
  members : ∀ g ∈ groups, g.contributors ≠ [] ∧
    g.contributors = (registrationsOf cs phase).flatMap fun c =>
      List.replicate (c.timesDeclared g.suffix) c

/-- A registry that is made of the registrations `cs`. -/
structure Registry.Represents (cs : List Contributor) (r : Registry) : Prop where
  ascending : (r.phases.map (·.1)).Pairwise (· < ·)
  mem_phases : ∀ phase, phase ∈ r.phases.map (·.1) ↔
    ∃ c ∈ cs, c.phase = phase ∧ c.declaresSuffix = true
  holds : ∀ p ∈ r.phases, Registry.HoldsPhase cs p.1 p.2
  ids : r.ids = (cs.filter (·.declaresSuffix)).map (·.id)

namespace Declaration

/-- A declared suffix is neither blank nor spelled in another way. -/
theorem normal_of_mem_suffixes {cs : List Contributor} {suffix : String}
    (h : suffix ∈ suffixes (cs.flatMap (·.declarations))) :
    suffix ≠ "" ∧ trim suffix = suffix ∧ fold suffix = suffix := by
  rw [suffixes_flatMap, List.mem_eraseDups] at h
  obtain ⟨c, -, hc⟩ := List.mem_flatMap.1 h
  obtain ⟨s, -, hne, rfl⟩ := Contributor.mem_registeredSuffixes.1 hc
  exact ⟨mt fold_eq_empty_iff.1 hne, trim_fold_trim s, fold_fold (trim s)⟩

theorem exists_declaration_iff {cs : List Contributor} {phase : Nat} :
    (∃ d ∈ cs.flatMap (·.declarations), d.phase = phase) ↔
      ∃ c ∈ cs, c.phase = phase ∧ c.declaresSuffix = true := by
  simp only [← Contributor.registeredSuffixes_ne_nil_iff]
  constructor
  · rintro ⟨d, hd, rfl⟩
    obtain ⟨c, hc, hd⟩ := List.mem_flatMap.1 hd
    obtain ⟨suffix, hsuffix, rfl⟩ := List.mem_map.1 hd
    exact ⟨c, hc, rfl, List.ne_nil_of_mem hsuffix⟩
  · rintro ⟨c, hc, rfl, hne⟩
    obtain ⟨suffix, hsuffix⟩ := List.exists_mem_of_ne_nil _ hne
    exact ⟨⟨suffix, c⟩, List.mem_flatMap.2 ⟨c, hc, List.mem_map.2 ⟨suffix, hsuffix, rfl⟩⟩, rfl⟩

theorem map_suffix_groups (ds : List Declaration) : (groups ds).map (·.suffix) = suffixes ds := by
  rw [groups, List.map_map]
  exact List.map_id _

theorem holdsPhase_groups {cs : List Contributor} {phase : Nat}
    (h : ∃ d ∈ cs.flatMap (·.declarations), d.phase = phase) :
    Registry.HoldsPhase cs phase
      (groups ((cs.flatMap (·.declarations)).filter (·.phase = phase))) := by
  obtain ⟨d, hd, hphase⟩ := h
  have hmem : d ∈ (registrationsOf cs phase).flatMap (·.declarations) := by
    rw [← filter_phase_flatMap]
    exact List.mem_filter.2 ⟨hd, decide_eq_true hphase⟩
  rw [filter_phase_flatMap]
  generalize hds : (registrationsOf cs phase).flatMap (·.declarations) = ds at hmem
  constructor
  · have hsuffix : d.suffix ∈ (groups ds).map (·.suffix) := by
      rw [map_suffix_groups]
      exact mem_suffixes.2 ⟨d, hmem, rfl⟩
    rintro hnil
    rw [hnil] at hsuffix
    cases hsuffix
  · rw [map_suffix_groups, ← hds, suffixes_flatMap]
  · rw [map_suffix_groups]
    exact nodup_eraseDups _
  · intro g hg
    obtain ⟨suffix, hsuffix, rfl⟩ := List.mem_map.1 hg
    exact normal_of_mem_suffixes (hds ▸ hsuffix)
  · intro g hg
    obtain ⟨suffix, hsuffix, rfl⟩ := List.mem_map.1 hg
    constructor
    · obtain ⟨d', hd', rfl⟩ := mem_suffixes.1 hsuffix
      exact List.ne_nil_of_mem
        (List.mem_map_of_mem (List.mem_filter.2 ⟨hd', decide_eq_true rfl⟩))
    · have hne : suffix ≠ "" := (normal_of_mem_suffixes (hds ▸ hsuffix)).1
      rw [← members_flatMap _ hne, hds]

end Declaration

namespace Registry

theorem ids_register (r : Registry) (c : Contributor) :
    (r.register c).ids = r.ids ++ ([c].filter (·.declaresSuffix)).map (·.id) := by
  rw [register]
  split
  · rename_i hnone
    have hnot : ¬ c.declaresSuffix = true := fun h =>
      Contributor.registeredSuffixes_ne_nil_iff.2 h hnone
    simp [hnot]
  · rename_i hsome
    simp [Contributor.registeredSuffixes_ne_nil_iff.1 hsome]

theorem ids_registerAll (r : Registry) (cs : List Contributor) :
    (r.registerAll cs).ids = r.ids ++ (cs.filter (·.declaresSuffix)).map (·.id) := by
  induction cs generalizing r with
  | nil => exact (List.append_nil _).symm
  | cons c cs ih =>
    have hrest := ih (r.register c)
    rw [ids_register, List.append_assoc, ← List.map_append, ← List.filter_append] at hrest
    exact hrest

/-- A registry that contributors were registered in one after the other represents these
registrations: its phases ascend and none is empty; in a phase the suffixes stand in the order of
their first declaration, without repetitions, blanks around them or capitals; a group holds the
registrations of its phase in their order, each as often as it declares the suffix; and the ids are
those of the registrations that declare a suffix that is not blank. -/
theorem registerAll_represents (cs : List Contributor) :
    (Registry.empty.registerAll cs).Represents cs := by
  have hphases := Declaration.phases_registerAll Declaration.phases_empty cs
  rw [List.nil_append] at hphases
  have hmap : (Registry.empty.registerAll cs).phases.map (·.1) =
      Declaration.phases (cs.flatMap (·.declarations)) := by
    rw [hphases, Declaration.filed, List.map_map]
    exact List.map_id _
  constructor
  · rw [hmap]
    exact Declaration.phases_ascending _
  · intro phase
    rw [hmap, Declaration.mem_phases, Declaration.exists_declaration_iff]
  · intro p hp
    rw [hphases] at hp
    obtain ⟨phase, hphase, rfl⟩ := List.mem_map.1 hp
    exact Declaration.holdsPhase_groups (Declaration.mem_phases.1 hphase)
  · exact ids_registerAll _ cs

/-- Suffixes in several spellings, one of them declared twice by one contributor, a later phase that
is registered first, and a contributor that declares blanks only. -/
theorem registerAll_represents_spellings :
    let contributor (id : String) (phase : Nat) (suffixes : List String) : Contributor :=
      { id, phase, suffixes, contribute := fun _ => .ok [] }
    let cs := [contributor "late" 200 [".json"],
      contributor "twice" 100 [" X.json", "/y", "x.JSON\t"],
      contributor "blank" 100 ["", " \u3000"], contributor "again" 100 ["/Y", "x.json"]]
    let r := Registry.empty.registerAll cs
    r.Represents cs ∧ r.ids = ["late", "twice", "again"] ∧
      r.phases.map (fun p => (p.1, p.2.map fun g => (g.suffix, g.contributors.map (·.id)))) =
        [(100, [("x.json", ["twice", "twice", "again"]), ("/y", ["twice", "again"])]),
          (200, [(".json", ["late"])])] := by
  intro contributor cs r
  exact ⟨registerAll_represents cs, by decide +kernel, by decide +kernel⟩

end Registry

end ComponentScan
