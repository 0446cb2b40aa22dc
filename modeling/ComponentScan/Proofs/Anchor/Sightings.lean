import ComponentScan.AnchorMatch
import ComponentScan.Proofs.Anchor.Acceptance
import ComponentScan.Proofs.Descriptor.Check

/-!
# Where components are seen

The sightings of a pass told without compiled anchors: every file of the scan is compared with the
anchor name by name. Matching finds exactly these sightings, in this order (`all_eq_seen`).
-/

namespace ComponentScan

open ComponentScan.Path ComponentScan.Text

/-! ## Segments and ownership -/

namespace Path

/-- The segments of the lower-case form of a normalized path. -/
def foldedSegments (path : String) : List (List Char) :=
  (foldChars (normalizeChars path.toList)).splitOn '/'

theorem splitOn_fold_normalize (path : String) :
    (fold (normalize path)).toList.splitOn '/' = foldedSegments path := by
  rw [foldedSegments, toList_fold, toList_normalize]

/-- The segments are folded one by one. -/
theorem foldedSegments_eq_map {path : String} (h : properNames path.toList ≠ []) :
    foldedSegments path = (properNames path.toList).map foldChars := by
  rw [foldedSegments, splitOn_foldChars isSeparator_slash, splitOn_normalizeChars h]

theorem foldedSegments_length {path : String} (h : properNames path.toList ≠ []) :
    (foldedSegments path).length = (properNames path.toList).length := by
  rw [foldedSegments_eq_map h, List.length_map]

end Path

/-- The directories of an anchor with `count` names at the path with the given names. -/
def Ownership.ofProperNames (names : List (List Char)) (count : Nat) : Ownership :=
  let above := names.length - count
  { anchorRoot := String.ofList (ofNames (names.take above))
    baseDir := String.ofList (ofNames (names.take (if 1 < count then above + 1 else above))) }

theorem Ownership.ofPath_normalize {path : String} {count : Nat}
    (h : 0 < count) (h' : properNames path.toList = [] ∨ count ≤ (properNames path.toList).length) :
    ofPath (Path.normalize path) count = ofProperNames (properNames path.toList) count := by
  rw [ofPath, segments_normalize, ofProperNames]
  -- a path shorter than the anchor is the scan root, where both forms give the empty directories
  by_cases hlong : (properNames path.toList).length < count
  · have hnil : properNames path.toList = [] := h'.resolve_right (by omega)
    rw [if_pos (.inr (by simpa using hlong)), hnil]
    simp only [List.take_nil]
    rfl
  · rw [if_neg (by simp only [List.length_map]; omega)]
    simp only [List.length_map, ← List.map_take, ofSegments_map_ofList]
    split <;> rfl

/-! ## Anchors that passed their check -/

namespace Descriptor.Anchored

variable {d : Descriptor} {anchor checksum : String}

theorem isReady (h : d.Anchored anchor checksum) :
    AnchorPattern.IsReady (foldChars (Path.normalize anchor).toList) := by
  rw [toList_normalize]
  exact AnchorPattern.isReady_foldChars h.noStars

theorem exists_compile (h : d.Anchored anchor checksum) :
    ∃ p, AnchorPattern.compile (Path.normalize anchor) = .ok p :=
  ⟨_, h.isReady.compile⟩

end Descriptor.Anchored

namespace AnchorMatch

open AnchorPattern

/-! ## Sightings -/

/-- Whether a file with this checksum has the content that is asked for. -/
def hasContent (expected : String) (checksum : Option String) : Bool :=
  expected == "*" || checksum.any fun c => asciiCaseEq c expected

/-- The sighting of a descriptor at a file, if its last names are instances of the anchor's and
it has the content that is asked for. -/
def seenAt? (context : ScanContext) (d : Descriptor) (anchor expected : String) (a : Artifact) :
    Option AnchorMatch :=
  match a.path with
  | none => none
  | some path =>
    if segmentsFit (foldedSegments anchor) (foldedSegments path) &&
        hasContent expected a.checksum then
      some
        { descriptor := d
          path := some (Path.normalize path)
          checksum := if expected = "*" then a.checksum.getD "*" else expected
          scanRoot := context.baseDir
          ownership := .ofProperNames (properNames path.toList) (properNames anchor.toList).length
          assetIdChain := context.assetIdChain
          rootPaths := a.rootPaths }
    else none

/-- The sightings of a descriptor. An anchor for the whole scan is seen once. -/
def seenOf (context : ScanContext) (d : Descriptor) : List AnchorMatch :=
  match d.effectiveAnchor, d.effectiveChecksum with
  | some anchor, some expected =>
    if trim anchor = "*" ∨ trim anchor = "." then
      [{ descriptor := d
         path := none
         checksum := "*"
         scanRoot := context.baseDir
         ownership := { anchorRoot := "", baseDir := "" }
         assetIdChain := context.assetIdChain
         rootPaths := .empty }]
    else context.files.filterMap (seenAt? context d anchor expected)
  | _, _ => []

/-- The sightings of the descriptors of a mode, in their order. -/
def seen (descriptors : List Descriptor) (context : ScanContext) (mode : Mode) :
    List AnchorMatch :=
  (descriptors.filter (·.mode = mode)).flatMap (seenOf context)

/-! ## Matching finds them -/

theorem acceptChecksum_eq (expected : String) (actual : Option String) :
    acceptChecksum expected actual =
      if hasContent expected actual then
        some (if expected = "*" then actual.getD "*" else expected)
      else none := by
  have hany : anyChecksum = "*" := rfl
  by_cases he : expected = "*"
  · simp [acceptChecksum, hasContent, hany, he]
  · cases actual <;> simp [acceptChecksum, hasContent, hany, he]

/-- A match at a file is of the descriptor, stands at the file and lies in the assets around the
scan. -/
theorem origin_of_at? {context : ScanContext} {d : Descriptor} {p : AnchorPattern} {count : Nat}
    {expected : String} {c : Candidate} {m : AnchorMatch}
    (h : at? context d p count expected c = some m) :
    m.descriptor = d ∧ m.path = some c.path ∧ m.assetIdChain = context.assetIdChain := by
  rw [at?] at h
  split at h
  · obtain ⟨checksum, -, rfl⟩ := Option.map_eq_some_iff.1 h
    exact ⟨rfl, rfl, rfl⟩
  · cases h

theorem at?_eq_seenAt? (context : ScanContext) (d : Descriptor) {anchor : String}
    (expected : String) (a : Artifact) (hstars : ¬ ['*', '*'] <:+: anchor.toList)
    (hnames : properNames anchor.toList ≠ []) :
    (Candidate.ofArtifact? a).bind
        (at? context d (compiled (foldChars (normalizeChars anchor.toList)))
          (properNames anchor.toList).length expected) =
      seenAt? context d anchor expected a := by
  cases hp : a.path with
  | none => simp [Candidate.ofArtifact?, Artifact.normalizedPath, seenAt?, hp]
  | some path =>
    have hcandidate : Candidate.ofArtifact? a = some
        ⟨Path.normalize path, fold (Path.normalize path), a.checksum, a.rootPaths⟩ := by
      simp [Candidate.ofArtifact?, Artifact.normalizedPath, hp]
    have hfold : fold (Path.normalize path) =
        String.ofList (foldChars (normalizeChars path.toList)) := by
      rw [fold, toList_normalize]
    rw [hcandidate, Option.bind_some, at?, hfold,
      accepts_compiled (isReady_foldChars hstars) (noCapitals_foldChars _),
      seenAt?, hp, acceptChecksum_eq]
    show (if segmentsFit (foldedSegments anchor) (foldedSegments path) = true then _ else none) = _
    by_cases hfit : segmentsFit (foldedSegments anchor) (foldedSegments path) = true
    · have hlength := segmentsFit_length hfit
      have hcount : 0 < (properNames anchor.toList).length := List.length_pos_iff.2 hnames
      -- the scan root has one empty segment, but no name
      have hpath : properNames path.toList = [] ∨
          (properNames anchor.toList).length ≤ (properNames path.toList).length := by
        by_cases hnil : properNames path.toList = []
        · exact .inl hnil
        · rw [foldedSegments_length hnames, foldedSegments_length hnil] at hlength
          exact .inr hlength
      by_cases hc : hasContent expected a.checksum = true
      · simp only [hfit, hc, Bool.and_self, if_true, Option.map_some,
          Ownership.ofPath_normalize hcount hpath]
      · simp [hc]
    · simp [hfit]

theorem seenOf_of_notRoot {context : ScanContext} {d : Descriptor} {anchor expected : String}
    (h : d.Anchored anchor expected) (hroot : d.hasRootAnchor = false) :
    seenOf context d = context.files.filterMap (seenAt? context d anchor expected) := by
  rw [Descriptor.hasRootAnchor_eq h.hasAnchor] at hroot
  have htrim : ¬ (trim anchor = "*" ∨ trim anchor = ".") := by simpa [isRootAnchor] using hroot
  simp only [seenOf, h.hasAnchor, h.hasChecksum, if_neg htrim]

theorem ofDescriptor_eq_seenOf {context : ScanContext} {d : Descriptor} {anchor expected : String}
    (h : d.Anchored anchor expected) (hcheck : d.check = .ok (anchor, expected))
    (hnames : isRootAnchor anchor = false → properNames anchor.toList ≠ []) :
    ofDescriptor context (candidates context) d = .ok (seenOf context d) := by
  have hroot : d.hasRootAnchor = isRootAnchor anchor := Descriptor.hasRootAnchor_eq h.hasAnchor
  rw [ofDescriptor, hcheck, seenOf, h.hasAnchor, h.hasChecksum]
  show (if d.hasRootAnchor then _ else _) = _
  by_cases hr : isRootAnchor anchor = true
  · have htrim : trim anchor = "*" ∨ trim anchor = "." := by simpa [isRootAnchor] using hr
    simp only [hroot, hr, if_true, if_pos htrim]
    rfl
  · have htrim : ¬ (trim anchor = "*" ∨ trim anchor = ".") := by simpa [isRootAnchor] using hr
    have hnames := hnames (by simpa using hr)
    simp only [hroot, hr, if_neg htrim, h.isReady.compile, Ownership.segmentCount_normalize]
    rw [candidates, toList_normalize]
    show Except.ok (List.filterMap _ _) = _
    rw [List.filterMap_filterMap]
    simp only [at?_eq_seenAt? context d expected _ h.noStars hnames]

/-- A single descriptor in the pass of its mode. -/
theorem all_singleton {context : ScanContext} {d : Descriptor} {found : List AnchorMatch}
    (h : ofDescriptor context (candidates context) d = .ok found) :
    all [d] context d.mode = .ok found := by
  have hmode : [d].filter (·.mode == d.mode) = [d] := by simp
  have hstep : [d].mapM (ofDescriptor context (candidates context)) = .ok [found] :=
    mapM_eq_ok_iff.2 (.cons h .nil)
  rw [all, hmode, hstep]
  show Except.ok [found].flatten = _
  rw [List.flatten_singleton]

/-- Matching finds the sightings of the descriptors of a mode, when they all pass their check and
every anchor that is not for the whole scan names something. -/
theorem all_eq_seen (descriptors : List Descriptor) (context : ScanContext) (mode : Mode)
    (hcheck : ∀ d ∈ descriptors, d.mode = mode → ∃ r, d.check = .ok r)
    (hnames : ∀ d ∈ descriptors, d.mode = mode → d.hasRootAnchor = false →
      ∀ anchor, d.effectiveAnchor = some anchor → segments (Path.normalize anchor) ≠ []) :
    all descriptors context mode = .ok (seen descriptors context mode) := by
  have hstep : ∀ d ∈ descriptors.filter (·.mode == mode),
      ofDescriptor context (candidates context) d = .ok (seenOf context d) := by
    intro d hd
    obtain ⟨hmem, hmode⟩ := List.mem_filter.1 hd
    have hmode : d.mode = mode := by simpa using hmode
    obtain ⟨⟨anchor, expected⟩, hr⟩ := hcheck d hmem hmode
    have h := (Descriptor.check_eq_ok_iff.1 hr).1
    refine ofDescriptor_eq_seenOf h hr fun hroot hnil => ?_
    rw [← Descriptor.hasRootAnchor_eq h.hasAnchor] at hroot
    apply hnames d hmem hmode hroot anchor h.hasAnchor
    rw [segments_normalize, hnil, List.map_nil]
  rw [all, mapM_eq_ok_map hstep]
  rfl

/-- Two anchors of one scan: one for the whole scan, and one with a role for globs in its name. -/
theorem all_eq_seen_bracket :
    let whole : Descriptor :=
      { name := "host", version := "1", anchor := some ".", anchorChecksum := some "*" }
    let library : Descriptor :=
      { name := "lib", version := "2", anchor := some "Lib[1]/*.json", anchorChecksum := some "ab" }
    let context : ScanContext :=
      .ofScanned "/scan" [{ path := "src\\lib[1]/p.JSON", checksum := some "AB" },
        { path := "src/lib1/p.json", checksum := some "ab" }] ["AID-image"]
    all [whole, library] context .immediate = .ok (seen [whole, library] context .immediate) ∧
      (seen [whole, library] context .immediate).map (fun m => (m.path, m.ownership)) =
        [(none, ⟨"", ""⟩), (some "src/lib[1]/p.JSON", ⟨"src", "src/lib[1]"⟩)] := by
  intro whole library context
  refine ⟨all_eq_seen [whole, library] context .immediate ?_ ?_, by decide +kernel⟩
  · intro d hd _
    rcases List.mem_pair.1 hd with rfl | rfl
    · exact ⟨(".", "*"), rfl⟩
    · exact ⟨("Lib[1]/*.json", "ab"), rfl⟩
  · intro d hd _ hroot anchor ha
    rcases List.mem_pair.1 hd with rfl | rfl
    · exact absurd hroot (by decide)
    · obtain rfl : "Lib[1]/*.json" = anchor := Option.some.inj ha
      decide +kernel

end AnchorMatch

end ComponentScan
