import ComponentScan.Proofs.Absorption.Accounting
import ComponentScan.Proofs.Absorption.Consistency

/-!
# Loose files and components

What an absorption does to the two things a scan is about: the files that no component has
absorbed, and the components. Neither depends on suppliers or on whether absorbed artifacts are
removed: the loose files afterwards are those that no match covers (`loose_final`), and the
components are followed by those of the matches that enter (`components_final`).
-/

namespace ComponentScan

namespace ScanContext

/-- The files that no component has absorbed, in their order. -/
def loose (c : ScanContext) : List Artifact :=
  c.artifacts.filter fun a => a.isFile && !a.absorbed

/-- The components that were found, in their order. -/
def components (c : ScanContext) : List Artifact :=
  c.artifacts.filter (·.kind == .component)

variable {c : ScanContext} {a : Artifact}

theorem mem_loose_iff : a ∈ c.loose ↔ a ∈ c.artifacts ∧ a.kind = .file ∧ a.absorbed = false := by
  simp [loose, Artifact.isFile]

theorem loose_eq_filter_files (c : ScanContext) : c.loose = c.files.filter (!·.absorbed) := by
  rw [loose, files, List.filter_filter]
  simp only [Bool.and_comm]

theorem mem_components_iff : a ∈ c.components ↔ a ∈ c.artifacts ∧ a.kind = .component := by
  simp [components]

end ScanContext

namespace Outcome

open ScanContext

variable {context : ScanContext} {options : AbsorptionOptions} {suppliers : Suppliers}
  {ledger : Ledger} {found : List AnchorMatch}

/-! ## Loose files -/

/-- A match covers a file whose path is included and not excluded, in one of the two forms. -/
theorem covers_iff {m : AnchorMatch} {a : Artifact} {includes excludes : GlobList}
    (hi : GlobList.parse m.descriptor.includes = .ok includes)
    (he : GlobList.parse m.descriptor.excludes = .ok excludes) :
    m.covers a = true ↔ a.kind = .file ∧ ∃ path, a.normalizedPath = some path ∧
      excludes.accepts (Text.fold path) = false ∧
      (includes.accepts (Text.fold path) = true ∨
        Path.within (Text.fold path) (Text.fold m.ownership.baseDir) = true ∧
          let seen := Path.relativeTo (Text.fold path) (Text.fold m.ownership.anchorRoot)
          excludes.accepts seen = false ∧ includes.accepts seen = true) := by
  rw [AnchorMatch.covers, hi, he, Artifact.normalizedPath]
  cases a.path with
  | none => cases a.kind <;> simp
  | some path => cases a.kind <;> simp [and_assoc]

/-- Only files are covered. -/
theorem isFile_and_covers (m : AnchorMatch) (a : Artifact) :
    (a.isFile && m.covers a) = m.covers a := by
  cases hm : m.covers a with
  | false => simp
  | true => simp [Artifact.isFile, covers_file hm]

theorem countP_covers_files (c : ScanContext) (m : AnchorMatch) :
    c.files.countP m.covers = c.artifacts.countP m.covers := by
  rw [files, List.countP_filter]
  simp only [Bool.and_comm (m.covers _), isFile_and_covers]

theorem any_covers_files (c : ScanContext) (m : AnchorMatch) :
    c.artifacts.any m.covers = c.files.any m.covers := by
  rw [files, List.any_filter]
  simp only [isFile_and_covers]

/-- What a match covers is decided by the kind of the artifact and its normalized path. -/
theorem covers_congr {a b : Artifact} (hkind : a.kind = b.kind)
    (hpath : a.normalizedPath = b.normalizedPath) (m : AnchorMatch) : m.covers a = m.covers b := by
  cases hi : GlobList.parse m.descriptor.includes with
  | error e => simp [AnchorMatch.covers, hi]
  | ok includes =>
    cases he : GlobList.parse m.descriptor.excludes with
    | error e => simp [AnchorMatch.covers, he]
    | ok excludes =>
      rw [Bool.eq_iff_iff, covers_iff hi he, covers_iff hi he, hkind, hpath]

/-- An artifact that no match covers stays as it is. -/
theorem settle_of_uncovered {a : Artifact} (h : found.any (·.covers a) = false) :
    settle found a = a := by
  have hnone : found.filter (·.covers a) = [] := by
    simpa [List.filter_eq_nil_iff] using h
  rw [settle, hnone]
  simp [StringMap.putNewAll]

theorem absorbed_settle (found : List AnchorMatch) (a : Artifact) :
    (settle found a).absorbed = (a.absorbed || found.any (·.covers a)) := by
  rw [Bool.eq_iff_iff, settle_absorbed_iff]
  simp

/-- What enters is no file, whatever the suppliers hand out. -/
theorem isFile_of_mem_arrivals {earlier : List AnchorMatch} {a : Artifact}
    (h : a ∈ arrivals (entrants context options suppliers ledger earlier found)) :
    a.isFile = false := by
  obtain ⟨e, -, ha⟩ := List.mem_flatMap.1 h
  rcases List.mem_cons.1 ha with rfl | ha
  · rfl
  · cases hx : e.2 with
    | none => simp [hx] at ha
    | some x =>
      rw [hx, Option.elim_some, Expansion.artifactsOf] at ha
      obtain ⟨b, -, rfl⟩ := List.mem_map.1 ha
      split <;> rfl

/-- The files afterwards: those that were there, after all matches, and stay. -/
theorem files_final :
    (final context options suppliers ledger found).files =
      (context.files.map (settle found)).filter (keeps options) := by
  have harrivals : (arrivals (entrants context options suppliers ledger [] found)).filter
      Artifact.isFile = [] := by
    rw [List.filter_eq_nil_iff]
    intro a ha
    simp [isFile_of_mem_arrivals ha]
  have hkind : Artifact.isFile ∘ settle found = Artifact.isFile := rfl
  rw [files, artifacts_final, List.filter_comm, unpurged, List.filter_append, harrivals,
    List.append_nil, List.filter_map, hkind, ← files]

/-- The loose files afterwards are those that no match covers. -/
theorem loose_final :
    (final context options suppliers ledger found).loose =
      context.loose.filter fun a => !found.any (·.covers a) := by
  have hkeeps : (fun a : Artifact => !a.absorbed && keeps options a) = (!·.absorbed) := by
    funext a
    cases h : a.absorbed <;> simp [keeps, h]
  have hsettle : (fun a : Artifact => !a.absorbed) ∘ settle found =
      fun a => (!found.any (·.covers a)) && !a.absorbed := by
    funext a
    rw [Function.comp_apply, absorbed_settle, Bool.not_or, Bool.and_comm]
  have hloose : (context.files.map (settle found)).filter (!·.absorbed) =
      (context.loose.filter fun a => !found.any (·.covers a)).map (settle found) := by
    rw [List.filter_map, hsettle, ← List.filter_filter, ← loose_eq_filter_files]
  have hstay : ∀ a ∈ context.loose.filter fun a => !found.any (·.covers a), settle found a = a :=
    fun a ha => settle_of_uncovered (by simpa using (List.mem_filter.1 ha).2)
  rw [loose_eq_filter_files, files_final, List.filter_filter, hkeeps, hloose,
    List.map_congr_left hstay, List.map_id']

/-- A loose file stays loose unless a match covers it. -/
theorem mem_loose_final_iff {a : Artifact} :
    a ∈ (final context options suppliers ledger found).loose ↔
      a ∈ context.loose ∧ ∀ m ∈ found, m.covers a = false := by
  rw [loose_final, List.mem_filter]
  simp

theorem exists_covers_of_not_loose {a : Artifact} (h : a ∈ context.loose)
    (h' : a ∉ (final context options suppliers ledger found).loose) :
    ∃ m ∈ found, m.covers a = true := by
  rw [mem_loose_final_iff, not_and] at h'
  simpa using h' h

/-- Without removal, an artifact keeps its place. -/
theorem getElem?_final (hpurge : options.purgeAbsorbed = false) {i : Nat} {a : Artifact}
    (h : context.artifacts[i]? = some a) :
    (final context options suppliers ledger found).artifacts[i]? = some (settle found a) := by
  have hlength : i < (context.artifacts.map (settle found)).length := by
    rw [List.length_map]
    exact (List.getElem?_eq_some_iff.1 h).1
  rw [artifacts_final, keeps_of_not_purge hpurge, List.filter_true, unpurged, List.getElem?_append_left hlength,
    List.getElem?_map, h]
  rfl

/-! ## Components -/

theorem components_arrivals (earlier : List AnchorMatch) :
    (arrivals (entrants context options suppliers ledger earlier found)).filter
        (·.kind == .component) =
      (found.filter (·.enters context)).map AnchorMatch.component := by
  induction found generalizing earlier with
  | nil => rfl
  | cons m found ih =>
    rw [entrants, arrivals, List.flatMap_append, List.filter_append, ← arrivals, ← arrivals, ih]
    by_cases henters : m.enters context = true
    · have hbrought (x : Expansion) (owners : List String) :
          (x.artifactsOf owners).filter (·.kind == .component) = [] := by
        rw [List.filter_eq_nil_iff, Expansion.artifactsOf]
        intro a ha
        obtain ⟨b, -, rfl⟩ := List.mem_map.1 ha
        split <;> simp [Artifact.markAll]
      rw [if_pos henters, List.filter_cons_of_pos (by simpa using henters), arrivals,
        List.flatMap_singleton]
      cases inventory? context options suppliers ledger earlier m with
      | none => rfl
      | some x => simp [AnchorMatch.component, hbrought]
    · rw [if_neg henters, List.filter_cons_of_neg (by simpa using henters)]
      rfl

/-- The components afterwards: those that were there and stay, and those of the matches that enter,
which are not absorbed. -/
theorem components_final_of_keeps :
    (final context options suppliers ledger found).components =
      context.components.filter (keeps options) ++
        (found.filter (·.enters context)).map AnchorMatch.component := by
  have hstay : (context.artifacts.map (settle found)).filter (·.kind == .component) =
      context.components := by
    rw [List.filter_map]
    have hkind : (fun a : Artifact => a.kind == .component) ∘ settle found =
        fun a => a.kind == .component := rfl
    rw [hkind, ← components, List.map_congr_left (g := id), List.map_id]
    intro a ha
    have hcomponent := (mem_components_iff.1 ha).2
    exact settle_of_not_file (by simp [hcomponent])
  have hall : (unpurged context options suppliers ledger found).filter (·.kind == .component) =
      context.components ++ (found.filter (·.enters context)).map AnchorMatch.component := by
    rw [unpurged, List.filter_append, hstay, components_arrivals]
  have hentered : ((found.filter (·.enters context)).map AnchorMatch.component).filter
      (keeps options) = (found.filter (·.enters context)).map AnchorMatch.component := by
    rw [List.filter_eq_self]
    intro a ha
    obtain ⟨m, -, rfl⟩ := List.mem_map.1 ha
    simp [keeps, AnchorMatch.component]
  rw [components, artifacts_final, List.filter_comm, hall, List.filter_append, hentered]

/-- The components afterwards, when none of those that were there is absorbed. -/
theorem components_final (h : ∀ a ∈ context.components, a.absorbed = false) :
    (final context options suppliers ledger found).components =
      context.components ++ (found.filter (·.enters context)).map AnchorMatch.component := by
  have hstay : context.components.filter (keeps options) = context.components := by
    rw [List.filter_eq_self]
    intro a ha
    simp [keeps, h a ha]
  rw [components_final_of_keeps, hstay]

theorem absorbed_of_mem_components_final (h : ∀ a ∈ context.components, a.absorbed = false) :
    ∀ a ∈ (final context options suppliers ledger found).components, a.absorbed = false := by
  rw [components_final h]
  intro a ha
  rcases List.mem_append.1 ha with ha | ha
  · exact h a ha
  · obtain ⟨m, -, rfl⟩ := List.mem_map.1 ha
    rfl

end Outcome

end ComponentScan
