import ComponentScan.Proofs.Engine.Atomicity
import ComponentScan.Proofs.Path.Subtrees

/-!
# Spellings of the anchor for the whole scan

An anchor stands for the whole scan when it is written `*` or `.`, and it is then seen once. This is
asked of the anchor as it is written, while files are compared with what normalization leaves of it.
So another spelling of the same path is an anchor like any other: a star between slashes is seen at
every file, and an anchor of which nothing is left is seen only at a file in the place of the scan
root (`all_of_root_spelling`).
-/

namespace ComponentScan

open ComponentScan.Path ComponentScan.Text

namespace Path

/-- The directory that a path lies in. -/
def parent (path : String) : String :=
  ofSegments (directories path)

theorem parent_normalize (path : String) :
    parent (normalize path) = String.ofList (ofNames (properNames path.toList).dropLast) := by
  rw [parent, directories, segments_normalize, ← List.map_dropLast, ofSegments_map_ofList]

/-- A folded path does not end with a slash. -/
theorem getLast?_foldedSegments_eq_nil_iff {path : String} :
    (foldedSegments path).getLast? = some [] ↔ normalize path = "" := by
  rw [normalize_eq_empty_iff]
  constructor
  · intro h
    by_contra hne
    rw [foldedSegments_eq_map hne, List.getLast?_map, Option.map_eq_some_iff] at h
    obtain ⟨n, hn, hnil⟩ := h
    exact (isProperName_of_mem (List.mem_of_getLast? hn)).ne_nil (foldChars_eq_nil_iff.1 hnil)
  · intro h
    rw [foldedSegments, normalizeChars, h]
    rfl

end Path

/-! ## One segment of any text, and no segment -/

namespace AnchorPattern

theorem segmentsFit_star {path : List (List Char)} (h : path ≠ []) :
    segmentsFit [['*']] path = true := by
  obtain ⟨front, last, rfl⟩ := (List.eq_nil_or_concat path).resolve_left h
  have hlast : nameFits ['*'] last = true :=
    nameFits_star.2 ⟨last, [], (List.append_nil last).symm, rfl⟩
  exact segmentsFit_iff.2
    ⟨[last], ⟨front, List.concat_eq_append.symm⟩, namesFit_cons.2 ⟨hlast, rfl⟩⟩

/-- An anchor of which nothing is left. -/
theorem accepts_empty_iff {path : String} :
    (literal "").accepts (fold (Path.normalize path)) = true ↔ Path.normalize path = "" := by
  rw [← getLast?_foldedSegments_eq_nil_iff, ← splitOn_fold_normalize, accepts]
  show endsAtBoundary [] _ = true ↔ _
  rw [endsAtBoundary_iff, ← splitOn_suffix_iff, List.splitOn_nil, List.getLast?_eq_some_iff]
  exact exists_congr fun _ => eq_comm

end AnchorPattern

namespace AnchorMatch

open AnchorPattern

variable {context : ScanContext} {d : Descriptor} {anchor : String}

/-- The match of a descriptor at any file, in the directory of the file. -/
def inDirectory? (context : ScanContext) (d : Descriptor) (a : Artifact) : Option AnchorMatch :=
  a.normalizedPath.map fun path =>
    { descriptor := d
      path := some path
      checksum := a.checksum.getD "*"
      scanRoot := context.baseDir
      ownership := ⟨parent path, parent path⟩
      assetIdChain := context.assetIdChain
      rootPaths := a.rootPaths }

/-- A star between slashes is seen at every file. -/
theorem all_of_star (hcheck : d.check = .ok (anchor, "*")) (hroot : isRootAnchor anchor = false)
    (hnormal : Path.normalize anchor = "*") :
    all [d] context d.mode = .ok (context.files.filterMap (inDirectory? context d)) := by
  have hanchored := (Descriptor.check_eq_ok_iff.1 hcheck).1
  have hchars : normalizeChars anchor.toList = ['*'] := by
    rw [← toList_normalize, hnormal]
    rfl
  have hnames : properNames anchor.toList = [['*']] := by
    rw [← properNames_normalizeChars, hchars]
    rfl
  have hfolded : foldedSegments anchor = [['*']] := by
    rw [foldedSegments, hchars]
    decide +kernel
  have hseen : ofDescriptor context (candidates context) d = .ok (seenOf context d) :=
    ofDescriptor_eq_seenOf hanchored hcheck fun _ => by simp [hnames]
  rw [← Descriptor.hasRootAnchor_eq hanchored.hasAnchor] at hroot
  rw [all_singleton hseen, seenOf_of_notRoot hanchored hroot]
  refine congrArg Except.ok (List.filterMap_congr fun a _ => ?_)
  rw [seenAt?, inDirectory?, Artifact.normalizedPath]
  cases a.path with
  | none => rfl
  | some path =>
    have hfit : segmentsFit (foldedSegments anchor) (foldedSegments path) = true := by
      rw [hfolded]
      exact segmentsFit_star (List.splitOn_ne_nil '/' _)
    have hparent : Ownership.ofProperNames (properNames path.toList) 1 =
        ⟨parent (Path.normalize path), parent (Path.normalize path)⟩ := by
      rw [parent_normalize, List.dropLast_eq_take]
      rfl
    simp [hfit, hnames, hparent, hasContent]

/-- An anchor of which nothing is left is seen at files in the place of the scan root. -/
theorem all_of_empty (hcheck : d.check = .ok (anchor, "*")) (hroot : isRootAnchor anchor = false)
    (hnormal : Path.normalize anchor = "") :
    all [d] context d.mode = .ok
      ((context.files.filter (·.normalizedPath = some "")).filterMap (inDirectory? context d)) := by
  have hanchored := (Descriptor.check_eq_ok_iff.1 hcheck).1
  rw [← Descriptor.hasRootAnchor_eq hanchored.hasAnchor] at hroot
  obtain ⟨p, hp, hfound⟩ := ofDescriptor_of_notRoot hcheck hroot context (candidates context)
  obtain rfl : literal "" = p := by
    rw [hnormal] at hp
    exact Except.ok.inj hp
  rw [all_singleton hfound, candidates, List.filterMap_filterMap, List.filterMap_filter]
  refine congrArg Except.ok (List.filterMap_congr fun a _ => ?_)
  rw [hnormal, inDirectory?, Candidate.ofArtifact?, Artifact.normalizedPath]
  cases a.path with
  | none => simp
  | some path =>
    have hcount : Ownership.segmentCount "" = 0 := rfl
    have hparent : parent "" = "" := rfl
    by_cases hempty : Path.normalize path = ""
    · have haccepts := accepts_empty_iff.2 hempty
      rw [hempty] at haccepts
      simp [hempty, at?, haccepts, acceptChecksum, anyChecksum, hcount, hparent, Ownership.ofPath,
        Ownership.scanRoot]
    · have haccepts := mt accepts_empty_iff.1 hempty
      simp [hempty, at?, haccepts]

/-- The matches of one descriptor that asks for no content. An anchor written for the whole scan is
matched once, with no path and no directory. Another anchor that is normalized to a star or to
nothing is matched at files. -/
theorem all_of_root_spelling (context : ScanContext) (d : Descriptor) (anchor : String)
    (hcheck : d.check = .ok (anchor, "*")) :
    (isRootAnchor anchor = true →
      ∃ m, all [d] context d.mode = .ok [m] ∧ m.path = none ∧ m.ownership = ⟨"", ""⟩) ∧
    (isRootAnchor anchor = false → Path.normalize anchor = "*" →
      all [d] context d.mode = .ok (context.files.filterMap (inDirectory? context d))) ∧
    (isRootAnchor anchor = false → Path.normalize anchor = "" →
      all [d] context d.mode = .ok
        ((context.files.filter (·.normalizedPath = some "")).filterMap
          (inDirectory? context d))) := by
  refine ⟨fun hroot => ?_, fun hroot hstar => all_of_star hcheck hroot hstar,
    fun hroot hempty => all_of_empty hcheck hroot hempty⟩
  have hanchored := (Descriptor.check_eq_ok_iff.1 hcheck).1
  rw [← Descriptor.hasRootAnchor_eq hanchored.hasAnchor] at hroot
  exact ⟨whole context d, all_singleton (ofDescriptor_of_root hcheck hroot context _), rfl, rfl⟩

/-- Three spellings at a scan of two files. -/
theorem all_of_root_spelling_slashes :
    let spelled (anchor : String) : Descriptor :=
      { name := "image", version := "1", anchor := some anchor, anchorChecksum := some "*" }
    let context : ScanContext :=
      .ofScanned "/scan" [{ path := "lib/a.json" }, { path := "b.json" }] []
    (∃ m, all [spelled "."] context .immediate = .ok [m] ∧ m.path = none ∧
      m.ownership = ⟨"", ""⟩) ∧
    all [spelled "./*"] context .immediate =
      .ok (context.files.filterMap (inDirectory? context (spelled "./*"))) ∧
    all [spelled "/"] context .immediate = .ok [] := by
  intro spelled context
  have hdot := all_of_root_spelling context (spelled ".") "." rfl
  have hstar := all_of_root_spelling context (spelled "./*") "./*" rfl
  have hslash := all_of_root_spelling context (spelled "/") "/" rfl
  refine ⟨hdot.1 (by decide +kernel), hstar.2.1 (by decide +kernel) (by decide +kernel), ?_⟩
  have hnone : context.files.filter (·.normalizedPath = some "") = [] := by decide +kernel
  rw [hslash.2.2 (by decide +kernel) (by decide +kernel), hnone, List.filterMap_nil]

/-- A star behind a slash is seen at both files of a scan, in the directory of each, and a dot in
front of a slash at none. -/
theorem all_finds_root_spellings :
    let spelled (anchor : String) : Descriptor :=
      { name := "image", version := "1", anchor := some anchor, anchorChecksum := some "*" }
    let context : ScanContext :=
      .ofScanned "/scan" [{ path := "lib/a.json" }, { path := "b.json" }] []
    (spelled "/*").check = .ok ("/*", "*") ∧ Path.normalize "/*" = "*" ∧
      (all [spelled "/*"] context .immediate).map
          (fun found => found.map fun m => (m.path, m.ownership)) =
        .ok [(some "lib/a.json", ⟨"lib", "lib"⟩), (some "b.json", ⟨"", ""⟩)] ∧
      (spelled "./").check = .ok ("./", "*") ∧ Path.normalize "./" = "" ∧
      all [spelled "./"] context .immediate = .ok [] := by
  intro spelled context
  exact ⟨rfl, by decide +kernel, by decide +kernel, rfl, by decide +kernel, by decide +kernel⟩

end AnchorMatch

end ComponentScan
