import ComponentScan.Proofs.Anchor.Sightings
import ComponentScan.Proofs.Path.Folding

/-!
# Directories in paths

A path seen from a directory above it has lost the segments of that directory, and a path seen from
any other directory is kept. So what stands in front of a slash, in a path or in what is seen of
it, is a directory that the path names (`exists_directory`).
-/

namespace ComponentScan

open ComponentScan.Text

namespace Path

/-! ## Directories -/

/-- The names of the directories in a path. -/
def directories (path : String) : List String :=
  (segments path).dropLast

/-- The first piece of a text is determined. -/
theorem eq_of_append_slash {u v x y : List Char} (hu : '/' ∉ u) (hx : '/' ∉ x)
    (h : u ++ '/' :: v = x ++ '/' :: y) : u = x := by
  have hsplit := congrArg (List.splitOn '/') h
  rw [List.splitOn_append_cons_self_of_not_mem hu, List.splitOn_append_cons_self_of_not_mem hx]
    at hsplit
  exact (List.cons.inj hsplit).1

theorem mem_dropLast_splitOn {u : List Char} (hu : '/' ∉ u) (x v : List Char) :
    u ∈ ((u ++ '/' :: v).splitOn '/').dropLast ∧
      u ∈ ((x ++ '/' :: (u ++ '/' :: v)).splitOn '/').dropLast := by
  have hsplit : ((u ++ '/' :: v).splitOn '/').dropLast = u :: (v.splitOn '/').dropLast := by
    rw [List.splitOn_append_cons_self_of_not_mem hu,
      List.dropLast_cons_of_ne_nil (List.splitOn_ne_nil '/' v)]
  have hlong : (x ++ '/' :: (u ++ '/' :: v)).splitOn '/' =
      x.splitOn '/' ++ (u ++ '/' :: v).splitOn '/' := by
    generalize u ++ '/' :: v = y
    rw [List.splitOn_append_cons_self]
  rw [hlong, List.dropLast_append_of_ne_nil (List.splitOn_ne_nil '/' _), hsplit]
  exact ⟨by simp, by simp⟩

/-- What stands in front of a slash in a folded path, or in what is seen of the path from a
directory, is a folded directory of the path. -/
theorem exists_directory {path : String} (root : String) {u v : List Char} (hu : '/' ∉ u)
    (h : (fold (normalize path)).toList = u ++ '/' :: v ∨
      (relativeTo (fold (normalize path)) root).toList = u ++ '/' :: v) :
    ∃ n ∈ directories (normalize path), fold n = String.ofList u := by
  have hmem : u ∈ (foldedSegments path).dropLast := by
    rw [← splitOn_fold_normalize]
    rcases h with h | h
    · rw [h]
      exact (mem_dropLast_splitOn hu [] v).1
    · rcases relativeTo_cases (fold (normalize path)) root with hkept | hseen
      · rw [← hkept, h]
        exact (mem_dropLast_splitOn hu [] v).1
      · rw [hseen, toList_append_slash, h]
        exact (mem_dropLast_splitOn hu root.toList v).2
  -- the scan root names no directory
  have hproper : properNames path.toList ≠ [] := by
    intro hnil
    rw [foldedSegments, normalizeChars, hnil] at hmem
    simp [ofNames, foldChars, foldAfter] at hmem
  rw [foldedSegments_eq_map hproper, ← List.map_dropLast] at hmem
  obtain ⟨n, hn, rfl⟩ := List.mem_map.1 hmem
  refine ⟨String.ofList n, ?_, by rw [fold, String.toList_ofList]⟩
  rw [directories, segments_normalize, ← List.map_dropLast]
  exact List.mem_map.2 ⟨n, hn, rfl⟩

end Path

end ComponentScan
