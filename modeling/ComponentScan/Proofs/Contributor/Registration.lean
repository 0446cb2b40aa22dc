import Mathlib.Data.Finset.Sort
import ComponentScan.Proofs.Contributor.Findings
import ComponentScan.Proofs.Occurrences

/-!
# What a registry holds

Registering contributors is told by one list: their declarations, in the order in which they are
made. The registry holds these declarations by ascending phase. Within a phase, those of one suffix
stand together, where the suffix was declared first (`declarations_registerAll`). That is the order
of registration exactly if no other suffix comes between two declarations of one suffix
(`bySuffix_eq_self_iff`).
-/

namespace ComponentScan

/-- The declarations of a contributor, in its own order. -/
def Contributor.declarations (c : Contributor) : List Declaration :=
  c.registeredSuffixes.map fun suffix => ⟨suffix, c⟩

namespace Declaration

def phase (d : Declaration) : Nat := d.contributor.phase

/-- The phases of declarations, in ascending order. -/
def phases (ds : List Declaration) : List Nat :=
  (ds.map (·.phase)).toFinset.sort

/-- The suffixes of declarations, in the order in which each was declared first. -/
def suffixes (ds : List Declaration) : List String :=
  (ds.map (·.suffix)).eraseDups

/-- The declarations of each suffix, where the suffix was declared first. -/
def bySuffix (ds : List Declaration) : List Declaration :=
  (suffixes ds).flatMap fun suffix => ds.filter (·.suffix = suffix)

/-- The groups of the declarations of one phase. -/
def groups (ds : List Declaration) : List SuffixGroup :=
  (suffixes ds).map fun suffix =>
    ⟨suffix, (ds.filter (·.suffix = suffix)).map (·.contributor)⟩

/-- Declarations by phase and suffix. -/
def filed (ds : List Declaration) : List (Nat × List SuffixGroup) :=
  (phases ds).map fun phase => (phase, groups (ds.filter (·.phase = phase)))

/-- No other suffix comes between two declarations of one suffix. -/
def Contiguous (ds : List Declaration) : Prop :=
  ∀ suffix other, [suffix, other, suffix].Sublist (ds.map (·.suffix)) → other = suffix

variable {ds : List Declaration} {d : Declaration} {c : Contributor}

/-! ## Phases and suffixes -/

theorem mem_suffixes {suffix : String} : suffix ∈ suffixes ds ↔ ∃ d ∈ ds, d.suffix = suffix := by
  simp [suffixes]

theorem mem_phases {phase : Nat} : phase ∈ phases ds ↔ ∃ d ∈ ds, d.phase = phase := by
  simp [phases]

theorem phases_ascending (ds : List Declaration) : (phases ds).Pairwise (· < ·) :=
  (Finset.sortedLT_sort _).pairwise

/-! ## Groups -/

theorem addToGroup_map {names : List String} (h : names.Nodup) (suffix : String)
    (members : String → List Contributor) :
    Registry.addToGroup c suffix (names.map fun s => ⟨s, members s⟩) =
      if suffix ∈ names then
        names.map fun s => ⟨s, if s = suffix then members s ++ [c] else members s⟩
      else names.map (fun s => ⟨s, members s⟩) ++ [⟨suffix, [c]⟩] := by
  induction names with
  | nil => rfl
  | cons s names ih =>
    obtain ⟨hs, h⟩ := List.nodup_cons.1 h
    rw [List.map_cons, Registry.addToGroup]
    by_cases heq : s = suffix
    · -- the suffix does not come again
      subst heq
      rw [if_pos rfl, if_pos List.mem_cons_self, List.map_cons, if_pos rfl]
      congr 1
      refine List.map_congr_left fun s' hs' => ?_
      have hne : s' ≠ s := fun h' => hs (h' ▸ hs')
      rw [if_neg hne]
    · rw [if_neg heq, ih h]
      have hmem : suffix ∈ s :: names ↔ suffix ∈ names := by
        simp [Ne.symm heq]
      by_cases hin : suffix ∈ names
      · rw [if_pos hin, if_pos (hmem.2 hin), List.map_cons, if_neg heq]
      · rw [if_neg hin, if_neg fun h' => hin (hmem.1 h'), List.cons_append]

theorem addToGroup_groups (ds : List Declaration) (d : Declaration) :
    Registry.addToGroup d.contributor d.suffix (groups ds) = groups (ds ++ [d]) := by
  have hsuffixes : suffixes (ds ++ [d]) =
      if d.suffix ∈ suffixes ds then suffixes ds else suffixes ds ++ [d.suffix] := by
    rw [suffixes, List.map_append, List.map_singleton, eraseDups_concat]
    simp [suffixes]
  -- a group takes the declaration in if it is that of its suffix
  have hmembers (s : String) : ((ds ++ [d]).filter (·.suffix = s)).map (·.contributor) =
      if s = d.suffix then (ds.filter (·.suffix = s)).map (·.contributor) ++ [d.contributor]
      else (ds.filter (·.suffix = s)).map (·.contributor) := by
    rw [List.filter_append, List.map_append]
    by_cases hs : s = d.suffix
    · simp [hs]
    · simp [hs, Ne.symm hs]
  have hnodup : (suffixes ds).Nodup := nodup_eraseDups _
  rw [groups, addToGroup_map hnodup, groups, hsuffixes]
  simp only [hmembers]
  split
  · rfl
  · rename_i hnew
    have hnone : ds.filter (·.suffix = d.suffix) = [] := by
      simpa [mem_suffixes] using hnew
    rw [List.map_append, List.map_singleton, if_pos rfl, hnone]
    congr 1
    refine List.map_congr_left fun s hs => ?_
    have hne : s ≠ d.suffix := fun h' => hnew (h' ▸ hs)
    rw [if_neg hne]

theorem addToGroups_groups (c : Contributor) (ds : List Declaration) :
    Registry.addToGroups c (groups ds) = groups (ds ++ c.declarations) := by
  rw [Registry.addToGroups, Contributor.declarations]
  induction c.registeredSuffixes generalizing ds with
  | nil => simp
  | cons suffix rest ih =>
    rw [List.foldl_cons, addToGroup_groups ds ⟨suffix, c⟩, ih, List.map_cons, List.append_assoc]
    rfl

/-! ## Phases -/

/-- A contributor gets into its phase, which is put in its place if it is new. -/
theorem addToPhases_map (c : Contributor) {ps : List Nat} (h : ps.Pairwise (· < ·))
    (held : Nat → List SuffixGroup) (hnew : c.phase ∉ ps → held c.phase = []) :
    ∃ ps' : List Nat, ps'.Pairwise (· < ·) ∧ (∀ p, p ∈ ps' ↔ p = c.phase ∨ p ∈ ps) ∧
      Registry.addToPhases c (ps.map fun p => (p, held p)) =
        ps'.map fun p => (p, if p = c.phase then Registry.addToGroups c (held p) else held p) := by
  induction ps with
  | nil => exact ⟨[c.phase], by simp, by simp, by simp [Registry.addToPhases, hnew]⟩
  | cons p ps ih =>
    obtain ⟨hp, h⟩ := List.pairwise_cons.1 h
    have hrest (hle : c.phase ≤ p) : (ps.map fun p => (p, held p)) =
        ps.map fun p => (p, if p = c.phase then Registry.addToGroups c (held p) else held p) := by
      refine List.map_congr_left fun p' hp' => ?_
      have hlt : p < p' := hp p' hp'
      rw [if_neg (by omega)]
    rw [List.map_cons, Registry.addToPhases]
    rcases Nat.lt_trichotomy c.phase p with hlt | heq | hgt
    · -- no phase from here on is that of the contributor
      have hnone : c.phase ∉ p :: ps := by
        intro hmem
        rcases List.mem_cons.1 hmem with heq | hmem
        · omega
        · have hlt' : p < c.phase := hp _ hmem
          omega
      refine ⟨c.phase :: p :: ps, ?_, by simp, ?_⟩
      · refine List.pairwise_cons.2 ⟨fun p' hp' => ?_, List.pairwise_cons.2 ⟨hp, h⟩⟩
        rcases List.mem_cons.1 hp' with rfl | hp'
        · exact hlt
        · exact hlt.trans (hp p' hp')
      · rw [if_pos hlt, hrest hlt.le, List.map_cons, List.map_cons, if_pos rfl, hnew hnone,
          if_neg hlt.ne']
    · refine ⟨p :: ps, List.pairwise_cons.2 ⟨hp, h⟩, by simp [heq], ?_⟩
      rw [if_neg (by omega), if_pos heq, hrest heq.le, List.map_cons, if_pos heq.symm]
    · have hne : c.phase ≠ p := hgt.ne'
      obtain ⟨ps', hasc, hmem, heq⟩ := ih h fun h' => hnew (by simp [h', hne])
      refine ⟨p :: ps', ?_, ?_, ?_⟩
      · refine List.pairwise_cons.2 ⟨fun p' hp' => ?_, hasc⟩
        rcases (hmem p').1 hp' with rfl | hp'
        · exact hgt
        · exact hp p' hp'
      · intro p'
        rw [List.mem_cons, List.mem_cons, hmem]
        exact or_left_comm
      · rw [if_neg (by omega), if_neg hne, heq, List.map_cons, if_neg hne.symm]

theorem filter_phase_declarations (c : Contributor) (p : Nat) :
    c.declarations.filter (·.phase = p) = if p = c.phase then c.declarations else [] := by
  have hphase : ∀ d ∈ c.declarations, d.phase = c.phase := by
    intro d hd
    obtain ⟨suffix, -, rfl⟩ := List.mem_map.1 hd
    rfl
  split
  · rename_i hp
    rw [List.filter_eq_self]
    intro d hd
    simp [hphase d hd, hp]
  · rename_i hp
    rw [List.filter_eq_nil_iff]
    intro d hd
    simp [hphase d hd, Ne.symm hp]

theorem addToPhases_filed {c : Contributor} (h : c.registeredSuffixes ≠ [])
    (ds : List Declaration) :
    Registry.addToPhases c (filed ds) = filed (ds ++ c.declarations) := by
  have hnew : c.phase ∉ phases ds → groups (ds.filter (·.phase = c.phase)) = [] := by
    intro hnone
    have hnil : ds.filter (·.phase = c.phase) = [] := by
      simpa [mem_phases] using hnone
    rw [hnil]
    rfl
  obtain ⟨phases', hasc, hmem, heq⟩ := addToPhases_map c (phases_ascending ds)
    (fun p => groups (ds.filter (·.phase = p))) hnew
  have hphases : phases' = phases (ds ++ c.declarations) := by
    refine hasc.eq_of_mem_iff (phases_ascending _) fun p => ?_
    obtain ⟨suffix, hsuffix⟩ := List.exists_mem_of_ne_nil _ h
    have hown : (∃ d ∈ c.declarations, d.phase = p) ↔ p = c.phase := by
      constructor
      · rintro ⟨d, hd, rfl⟩
        obtain ⟨s, -, rfl⟩ := List.mem_map.1 hd
        rfl
      · rintro rfl
        exact ⟨⟨suffix, c⟩, List.mem_map.2 ⟨suffix, hsuffix, rfl⟩, rfl⟩
    rw [hmem, mem_phases, mem_phases, ← hown]
    simp only [List.mem_append, or_and_right, exists_or]
    exact or_comm
  rw [filed, heq, filed, hphases]
  refine List.map_congr_left fun p _ => ?_
  rw [List.filter_append, filter_phase_declarations]
  split
  · rw [addToGroups_groups]
  · rw [List.append_nil]

/-! ## Registries -/

theorem phases_register {r : Registry} (h : r.phases = filed ds) (c : Contributor) :
    (r.register c).phases = filed (ds ++ c.declarations) := by
  rw [Registry.register]
  split
  · rename_i hnone
    rw [h, Contributor.declarations, hnone, List.map_nil, List.append_nil]
  · rename_i hsome
    rw [h, addToPhases_filed hsome]

theorem phases_registerAll {r : Registry} (h : r.phases = filed ds) (cs : List Contributor) :
    (r.registerAll cs).phases = filed (ds ++ cs.flatMap (·.declarations)) := by
  induction cs generalizing r ds with
  | nil => simpa [Registry.registerAll] using h
  | cons c cs ih =>
    have hrest := ih (phases_register h c)
    rw [List.append_assoc] at hrest
    exact hrest

/-! ## By suffix -/

theorem declarations_groups (ds : List Declaration) :
    (groups ds).flatMap SuffixGroup.declarations = bySuffix ds := by
  rw [groups, bySuffix, List.flatMap_map]
  refine List.flatMap_congr fun suffix _ => ?_
  have hsame : ∀ d ∈ ds.filter (·.suffix = suffix),
      (⟨suffix, d.contributor⟩ : Declaration) = d := by
    intro d hd
    have hd : d.suffix = suffix := by simpa using (List.mem_filter.1 hd).2
    rw [← hd]
  rw [SuffixGroup.declarations, List.map_map]
  exact (List.map_congr_left hsame).trans (List.map_id _)

theorem phases_empty : Registry.empty.phases = filed [] := by
  simp [filed, phases, Registry.empty]

/-- The registry holds what was registered by ascending phase, and in a phase by suffix. -/
theorem declarations_registerAll (cs : List Contributor) :
    (Registry.empty.registerAll cs).declarations =
      (phases (cs.flatMap (·.declarations))).flatMap fun p =>
        bySuffix ((cs.flatMap (·.declarations)).filter (·.phase = p)) := by
  rw [Registry.declarations, phases_registerAll phases_empty, List.nil_append, filed,
    List.flatMap_map]
  simp only [declarations_groups]

/-- The first suffix comes first. -/
theorem bySuffix_cons (d : Declaration) (ds : List Declaration) :
    bySuffix (d :: ds) = d :: ds.filter (·.suffix = d.suffix) ++
      bySuffix (ds.filter (·.suffix ≠ d.suffix)) := by
  have hrest : (ds.map (·.suffix)).filter (fun s => !s == d.suffix) =
      (ds.filter (·.suffix ≠ d.suffix)).map (·.suffix) := by
    rw [List.filter_map]
    congr 1
    refine List.filter_congr fun d' _ => ?_
    by_cases hd' : d'.suffix = d.suffix <;> simp [hd']
  rw [bySuffix, suffixes, List.map_cons, List.eraseDups_cons, List.flatMap_cons, hrest]
  congr 1
  · simp
  · refine List.flatMap_congr fun s hs => ?_
    have hne : s ≠ d.suffix := by
      obtain ⟨d', hd', rfl⟩ := mem_suffixes.1 hs
      simpa using (List.mem_filter.1 hd').2
    rw [List.filter_cons_of_neg (by simpa using hne.symm), List.filter_filter]
    refine List.filter_congr fun d' _ => ?_
    by_cases hs' : d'.suffix = s <;> simp [hs', hne]

/-- The recursion of `bySuffix`: the declarations of the first suffix leave the list together. -/
theorem suffix_induction {motive : List Declaration → Prop} (nil : motive [])
    (cons : ∀ d ds, motive (ds.filter (·.suffix ≠ d.suffix)) → motive (d :: ds))
    (ds : List Declaration) : motive ds := by
  induction h : ds.length using Nat.strong_induction_on generalizing ds with
  | _ n ih =>
    cases ds with
    | nil => exact nil
    | cons d ds =>
      refine cons d ds (ih _ ?_ _ rfl)
      rw [← h]
      exact Nat.lt_succ_of_le (List.length_filter_le _ _)

theorem perm_bySuffix (ds : List Declaration) : (bySuffix ds).Perm ds := by
  induction ds using suffix_induction with
  | nil => exact .nil
  | cons d ds ih =>
    rw [bySuffix_cons, List.cons_append]
    refine .cons d (((List.Perm.append_left _ ih).trans ?_))
    simpa using List.filter_append_perm (·.suffix = d.suffix) ds

/-! ## In the order of registration -/

theorem Contiguous.sublist {ds' : List Declaration} (h : Contiguous ds) (hs : ds'.Sublist ds) :
    Contiguous ds' :=
  fun suffix other hsub => h suffix other (hsub.trans (hs.map _))

theorem contiguous_bySuffix (ds : List Declaration) : Contiguous (bySuffix ds) := by
  induction ds using suffix_induction with
  | nil =>
    intro suffix other h
    cases h
  | cons d ds ih =>
    intro suffix other h
    rw [bySuffix_cons, List.map_append, List.sublist_append_iff] at h
    obtain ⟨front, back, hsplit, hfront, hback⟩ := h
    have hfirst : ∀ s ∈ front, s = d.suffix := by
      intro s hs
      obtain ⟨d', hd', rfl⟩ := List.mem_map.1 (hfront.subset hs)
      rcases List.mem_cons.1 hd' with rfl | hd'
      · rfl
      · simpa using (List.mem_filter.1 hd').2
    have hothers : ∀ s ∈ back, s ≠ d.suffix := by
      intro s hs
      obtain ⟨d', hd', rfl⟩ := List.mem_map.1 (hback.subset hs)
      simpa using (List.mem_filter.1 ((perm_bySuffix _).mem_iff.1 hd')).2
    -- if the first of the three suffixes stands in front, so do the others
    rcases front with _ | ⟨s, front⟩
    · rw [List.nil_append] at hsplit
      exact ih suffix other (hsplit ▸ hback)
    · obtain ⟨hs, hrest⟩ := List.cons.inj hsplit
      have hsuffix : suffix = d.suffix := hs ▸ hfirst s (by simp)
      rcases front with _ | ⟨s', front⟩
      · have hrest : [other, suffix] = back := hrest
        exact absurd hsuffix (hothers suffix (by simp [← hrest]))
      · obtain ⟨hs', -⟩ := List.cons.inj hrest
        rw [hsuffix, hs', hfirst s' (by simp)]

/-- Nothing moves when a list is split into what satisfies `p` and the rest, if nothing that
satisfies `p` comes after the rest. -/
theorem filter_append_filter_not {α : Type} {p : α → Prop} [DecidablePred p] {l : List α}
    (h : ∀ x y, [x, y].Sublist l → p y → p x) :
    l.filter (p ·) ++ l.filter (¬ p ·) = l := by
  induction l with
  | nil => rfl
  | cons a l ih =>
    have hrest := ih fun x y hxy => h x y (hxy.cons a)
    by_cases ha : p a
    · rw [List.filter_cons_of_pos (by simpa using ha), List.filter_cons_of_neg (by simpa using ha),
        List.cons_append, hrest]
    · have hnone : ∀ y ∈ l, ¬ p y := by
        intro y hy hpy
        exact ha (h a y ((List.singleton_sublist.2 hy).cons_cons a) hpy)
      rw [List.filter_cons_of_neg (by simpa using ha), List.filter_cons_of_pos (by simpa using ha),
        List.filter_eq_nil_iff.2 (by simpa using hnone),
        List.filter_eq_self.2 (by simpa using hnone), List.nil_append]

/-- Sorting by suffix moves no declaration exactly if the suffixes are contiguous. -/
theorem bySuffix_eq_self_iff : bySuffix ds = ds ↔ Contiguous ds := by
  refine ⟨fun h => h ▸ contiguous_bySuffix ds, fun h => ?_⟩
  induction ds using suffix_induction with
  | nil => rfl
  | cons d ds ih =>
    have hrest : Contiguous (ds.filter (·.suffix ≠ d.suffix)) :=
      h.sublist (List.filter_sublist.trans (List.sublist_cons_self d ds))
    have hfront : ∀ x y : Declaration, [x, y].Sublist ds → y.suffix = d.suffix →
        x.suffix = d.suffix := by
      intro x y hxy hy
      have hsub := (hxy.cons_cons d).map (·.suffix)
      rw [List.map_cons, List.map_cons, List.map_cons, List.map_nil, hy] at hsub
      exact h d.suffix x.suffix hsub
    rw [bySuffix_cons, ih hrest, List.cons_append]
    exact congrArg (d :: ·) (filter_append_filter_not hfront)

theorem flatMap_eq_flatMap_iff {α β : Type} {l : List α} {f g : α → List β}
    (h : ∀ a ∈ l, (f a).length = (g a).length) :
    l.flatMap f = l.flatMap g ↔ ∀ a ∈ l, f a = g a := by
  induction l with
  | nil => simp
  | cons a l ih =>
    rw [List.flatMap_cons, List.flatMap_cons, List.forall_mem_cons,
      ← ih fun a' ha' => h a' (List.mem_cons_of_mem a ha')]
    constructor
    · exact fun heq => List.append_inj heq (h a List.mem_cons_self)
    · rintro ⟨ha, hl⟩
      rw [ha, hl]

/-- Declarations by ascending phase, in the order of registration within a phase. -/
def byPhase (ds : List Declaration) : List Declaration :=
  (phases ds).flatMap fun p => ds.filter (·.phase = p)

/-- Declarations by ascending phase, and within a phase by suffix. -/
def byPhaseAndSuffix (ds : List Declaration) : List Declaration :=
  (phases ds).flatMap fun p => bySuffix (ds.filter (·.phase = p))

theorem byPhaseAndSuffix_eq_byPhase_iff :
    byPhaseAndSuffix ds = byPhase ds ↔ ∀ p, Contiguous (ds.filter (·.phase = p)) := by
  rw [byPhaseAndSuffix, byPhase, flatMap_eq_flatMap_iff fun p _ => (perm_bySuffix _).length_eq]
  simp only [bySuffix_eq_self_iff]
  refine ⟨fun h p => ?_, fun h p _ => h p⟩
  by_cases hp : p ∈ phases ds
  · exact h p hp
  · -- a phase without declarations
    have hnone : ds.filter (·.phase = p) = [] := by
      simpa [mem_phases] using hp
    rw [hnone]
    exact contiguous_bySuffix []

theorem pairwise_byPhaseAndSuffix (ds : List Declaration) :
    (byPhaseAndSuffix ds).Pairwise fun d d' => d.phase ≤ d'.phase := by
  have hphase {p : Nat} {d : Declaration} (h : d ∈ bySuffix (ds.filter (·.phase = p))) :
      d.phase = p := by
    simpa using (List.mem_filter.1 ((perm_bySuffix _).mem_iff.1 h)).2
  rw [byPhaseAndSuffix, List.pairwise_flatMap]
  constructor
  · intro p _
    refine List.pairwise_iff_forall_sublist.2 fun {d d'} h => ?_
    rw [hphase (h.subset (by simp)), hphase (h.subset (by simp))]
  · refine (phases_ascending ds).imp fun hlt d hd d' hd' => ?_
    rw [hphase hd, hphase hd']
    exact hlt.le

end Declaration

end ComponentScan
