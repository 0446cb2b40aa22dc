import ComponentScan.Proofs.Anchor.Repetitions
import ComponentScan.Proofs.Path.Subtrees

/-!
# The directories of a match

Where an anchor of some names is found at a file, the path of the file has at least as many names,
and the directories of the match cut it in front of these last names. So a component is never cut
off from the file it was found at: the file lies below the base directory of the match, and seen
from its anchor root it is just the names that the anchor stands on (`all_roots_fit`).
-/

namespace ComponentScan

open ComponentScan.Path ComponentScan.Text

namespace AnchorMatch

variable {context : ScanContext} {d : Descriptor} {m : AnchorMatch} {mode : Mode}
  {descriptors : List Descriptor} {found : List AnchorMatch} {anchor expected path : String}
  {a : Artifact}

/-! ## What is seen at a file -/

/-- What a sighting at a file says: the path is that of the file, the anchor is not longer, and the
directories are cut at the anchor's length. -/
theorem of_seenAt? (h : seenAt? context d anchor expected a = some m) :
    ∃ raw, a.path = some raw ∧ m.path = some (Path.normalize raw) ∧
      AnchorPattern.segmentsFit (foldedSegments anchor) (foldedSegments raw) = true ∧
      m.ownership = .ofProperNames (properNames raw.toList) (properNames anchor.toList).length := by
  rw [seenAt?] at h
  split at h
  · cases h
  · rename_i raw hraw
    split at h
    · rename_i hfit
      cases h
      exact ⟨raw, hraw, rfl, (Bool.and_eq_true_iff.1 hfit).1, rfl⟩
    · cases h

/-- A match at a file is a sighting of its anchor, when the anchor has a name. -/
theorem exists_seenAt?_of_mem (h : all descriptors context mode = .ok found) (hm : m ∈ found)
    (hpath : m.path = some path) (hanchor : m.descriptor.anchor = some anchor)
    (hnames : properNames anchor.toList ≠ []) :
    ∃ expected a, seenAt? context m.descriptor anchor expected a = some m := by
  obtain ⟨hd, hmd⟩ := (mem_found_iff h).1 hm
  obtain ⟨⟨anchor', expected⟩, hcheck⟩ := check_of_all h _ hd
  have hanchored := (Descriptor.check_eq_ok_iff.1 hcheck).1
  obtain rfl : anchor' = anchor :=
    Option.some.inj ((Descriptor.effective_eq_some_iff.1 hanchored.hasAnchor).1.symm.trans hanchor)
  have hroot := notRoot_of_mem_foundOf hcheck hmd hpath
  have hseen : ofDescriptor context (candidates context) m.descriptor =
      .ok (seenOf context m.descriptor) :=
    ofDescriptor_eq_seenOf hanchored hcheck fun _ => hnames
  rw [foundOf, hseen, seenOf_of_notRoot hanchored hroot] at hmd
  obtain ⟨a, -, ha⟩ := List.mem_filterMap.1 hmd
  exact ⟨expected, a, ha⟩

/-! ## Cutting a path -/

/-- An anchor that fits the last names of a path is not longer than the path. -/
theorem length_le_of_segmentsFit {raw : String}
    (h : AnchorPattern.segmentsFit (foldedSegments anchor) (foldedSegments raw) = true)
    (hanchor : properNames anchor.toList ≠ []) (hraw : properNames raw.toList ≠ []) :
    (properNames anchor.toList).length ≤ (properNames raw.toList).length := by
  have hlength := AnchorPattern.segmentsFit_length h
  rwa [foldedSegments_length hanchor, foldedSegments_length hraw] at hlength

/-- The directories that are cut off a path lie above it, and the anchor root leaves its last
names. -/
theorem ofProperNames_fits {names : List (List Char)} {count : Nat} (h : ∀ n ∈ names, n ≠ [])
    (hpos : 0 < count) (hle : count ≤ names.length) :
    let above := names.length - count
    let path := String.ofList (ofNames names)
    let roots := Ownership.ofProperNames names count
    within (fold path) (fold roots.baseDir) = true ∧
      relativeTo (fold path) (fold roots.anchorRoot) =
        fold (String.ofList (ofNames (names.drop above))) := by
  intro above path roots
  have hbelow (i : Nat) :
      within (fold path) (fold (String.ofList (ofNames (names.take i)))) = true := by
    have hsplit := within_fold_append (names.take i) (names.drop i)
    rwa [List.take_append_drop] at hsplit
  refine ⟨hbelow _, ?_⟩
  have hlast : names.drop above ≠ [] := by
    rw [Ne, List.drop_eq_nil_iff]
    omega
  have habove : ∀ n ∈ names.take above, n ≠ [] := fun n hn => h n (List.mem_of_mem_take hn)
  have hseen := relativeTo_fold_append habove hlast
  rwa [List.take_append_drop] at hseen

/-- The directories of a match fit its file. An anchor with names is never longer than the path it
is found at, so the path is cut in front of the names that the anchor stands on, and its file is
within reach of the component in both readings of a glob list. -/
theorem all_roots_fit (descriptors : List Descriptor) (context : ScanContext) (mode : Mode)
    (found : List AnchorMatch) (h : all descriptors context mode = .ok found) (m : AnchorMatch)
    (hm : m ∈ found) (path anchor : String) (hpath : m.path = some path) (hne : path ≠ "")
    (hanchor : m.descriptor.anchor = some anchor)
    (hnames : segments (Path.normalize anchor) ≠ []) :
    let count := (segments (Path.normalize anchor)).length
    let above := (segments path).length - count
    count ≤ (segments path).length ∧
    m.ownership.anchorRoot = ofSegments ((segments path).take above) ∧
    m.ownership.baseDir =
      (if 1 < count then ofSegments ((segments path).take (above + 1))
        else m.ownership.anchorRoot) ∧
    within (fold path) (fold m.ownership.baseDir) = true ∧
    relativeTo (fold path) (fold m.ownership.anchorRoot) =
      fold (ofSegments ((segments path).drop above)) := by
  have hproper : properNames anchor.toList ≠ [] := by simpa [segments_normalize] using hnames
  obtain ⟨expected, a, ha⟩ := exists_seenAt?_of_mem h hm hpath hanchor hproper
  obtain ⟨raw, -, hraw, hfit, hownership⟩ := of_seenAt? ha
  obtain rfl : path = Path.normalize raw := Option.some.inj (hpath.symm.trans hraw)
  have hrawNames : properNames raw.toList ≠ [] := mt normalize_eq_empty_iff.2 hne
  have hle := length_le_of_segmentsFit hfit hproper hrawNames
  have hfits := ofProperNames_fits (fun n hn => (isProperName_of_mem hn).ne_nil)
    (List.length_pos_iff.2 hproper) hle
  simp only [segments_normalize, List.length_map, ← List.map_take, ← List.map_drop,
    ofSegments_map_ofList, hownership]
  refine ⟨hle, rfl, ?_, hfits⟩
  rw [Ownership.ofProperNames]
  dsimp only
  split <;> rfl

/-- Capitals, a final sigma and other spellings of the separators. -/
theorem all_roots_fit_sigma :
    let d : Descriptor :=
      { name := "lib", version := "1", anchor := some "./ΟΔΟΣ\\*.JSON"
        anchorChecksum := some "*" }
    let context : ScanContext := .ofScanned "/scan" [{ path := "SRC//Οδος/p.json" }] []
    let m : AnchorMatch :=
      { descriptor := d, path := some "SRC/Οδος/p.json", checksum := "*", scanRoot := "/scan"
        ownership := ⟨"SRC", "SRC/Οδος"⟩, assetIdChain := [], rootPaths := .empty }
    all [d] context .immediate = .ok [m] ∧
      segments (Path.normalize "./ΟΔΟΣ\\*.JSON") = ["ΟΔΟΣ", "*.JSON"] ∧
      within (fold "SRC/Οδος/p.json") (fold m.ownership.baseDir) = true ∧
      relativeTo (fold "SRC/Οδος/p.json") (fold m.ownership.anchorRoot) =
        fold (ofSegments ((segments "SRC/Οδος/p.json").drop 1)) := by
  intro d context m
  have hall : all [d] context .immediate = .ok [m] := by decide +kernel
  have hsegments : segments (Path.normalize "./ΟΔΟΣ\\*.JSON") = ["ΟΔΟΣ", "*.JSON"] := by
    decide +kernel
  have hnames : segments (Path.normalize "./ΟΔΟΣ\\*.JSON") ≠ [] := by simp [hsegments]
  obtain ⟨-, -, -, hwithin, hseen⟩ := all_roots_fit [d] context .immediate [m] hall m
    (List.mem_singleton_self m) "SRC/Οδος/p.json" _ rfl (by decide) rfl hnames
  have habove : (segments "SRC/Οδος/p.json").length - ["ΟΔΟΣ", "*.JSON"].length = 1 := by
    decide +kernel
  rw [hsegments, habove] at hseen
  exact ⟨hall, hsegments, hwithin, hseen⟩

end AnchorMatch

end ComponentScan
