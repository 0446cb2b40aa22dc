import ComponentScan.Absorption.Coverage
import ComponentScan.Proofs.Path.Nesting
import ComponentScan.Proofs.Text.Folded

/-!
# Folded paths

Whether a sigma ends its word is never decided across a slash, so cutting a path at its slashes and
folding its case can be exchanged. A path may be folded as a whole and its directories apart from
it, and they still fit each other (`fold_segmentwise`); and it does not matter whether a path is
normalized before it is folded or after (`fold_normalize`).
-/

namespace ComponentScan

open ComponentScan.Text

namespace Path

/-! ## Slashes -/

theorem fold_append_slash (a b : String) : fold (a ++ "/" ++ b) = fold a ++ "/" ++ fold b := by
  rw [← String.toList_inj, toList_append_slash, toList_fold, toList_fold, toList_fold,
    toList_append_slash, foldChars_append_separator isSeparator_slash]

/-- A folded path can be cut where the path can, and nowhere else. -/
theorem fold_eq_append_slash_iff {path x y : String} :
    fold path = x ++ "/" ++ y ↔ ∃ u v, path = u ++ "/" ++ v ∧ fold u = x ∧ fold v = y := by
  constructor
  · intro h
    have hchars : foldChars path.toList = x.toList ++ '/' :: y.toList := by
      rw [← toList_fold, h, toList_append_slash]
    obtain ⟨u, v, hpath, hu, hv⟩ := foldChars_eq_append_cons isSeparator_slash hchars
    refine ⟨String.ofList u, String.ofList v, ?_, ?_, ?_⟩
    · rw [← String.toList_inj, toList_append_slash, String.toList_ofList, String.toList_ofList,
        hpath]
    · rw [fold, String.toList_ofList, hu, String.ofList_toList]
    · rw [fold, String.toList_ofList, hv, String.ofList_toList]
  · rintro ⟨u, v, rfl, rfl, rfl⟩
    exact fold_append_slash u v

/-! ## Segments -/

/-- What only comes from itself may be left out of a list before folding or after. -/
theorem filter_ne_map_foldChars {x : List Char} (hx : ∀ n, foldChars n = x ↔ n = x)
    (ns : List (List Char)) :
    (ns.map foldChars).filter (· ≠ x) = (ns.filter (· ≠ x)).map foldChars := by
  have hkeeps : ((fun n => decide (n ≠ x)) ∘ foldChars) = fun n => decide (n ≠ x) := by
    funext n
    simp [hx]
  rw [List.filter_map, hkeeps]

theorem names_foldChars (cs : List Char) : names (foldChars cs) = (names cs).map foldChars := by
  rw [names, splitOn_foldChars isSeparator_slash,
    filter_ne_map_foldChars fun _ => foldChars_eq_nil_iff]
  rfl

theorem map_fold_map_ofList (ns : List (List Char)) :
    (ns.map String.ofList).map fold = (ns.map foldChars).map String.ofList := by
  rw [List.map_map, List.map_map]
  refine List.map_congr_left fun n _ => ?_
  rw [Function.comp_apply, Function.comp_apply, fold, String.toList_ofList]

theorem segments_fold (path : String) : segments (fold path) = (segments path).map fold := by
  rw [segments, toList_fold, names_foldChars, segments, map_fold_map_ofList]

theorem fold_ofSegments (ss : List String) : fold (ofSegments ss) = ofSegments (ss.map fold) := by
  induction ss with
  | nil => rfl
  | cons s ss ih =>
    by_cases hss : ss = []
    · rw [hss, List.map_singleton, ofSegments_singleton, ofSegments_singleton]
    · have hfold : ss.map fold ≠ [] := by simpa using hss
      rw [List.map_cons, ofSegments_cons s hss, ofSegments_cons (fold s) hfold, fold_append_slash,
        ih]

theorem foldChars_ofNames_append {ns ms : List (List Char)} (hn : ns ≠ []) (hm : ms ≠ []) :
    foldChars (ofNames (ns ++ ms)) = foldChars (ofNames ns) ++ '/' :: foldChars (ofNames ms) := by
  rw [ofNames, intercalate_append hn hm, foldChars_append_separator isSeparator_slash]
  rfl

/-! ## Normalization -/

theorem map_slash_foldChars (cs : List Char) :
    (foldChars cs).map slash = foldChars (cs.map slash) := by
  have hfold {u : List Char} (hu : '\\' ∉ u) : '\\' ∉ foldChars u :=
    mt (mem_foldChars_iff isSeparator_backslash.fixed u).1 hu
  induction cs using piece_induction '\\' with
  | last u hu => rw [map_slash_of_not_mem hu, map_slash_of_not_mem (hfold hu)]
  | cut u v hu ih =>
    have hslash : slash '\\' = '/' := rfl
    rw [foldChars_append_separator isSeparator_backslash, List.map_append, List.map_cons,
      List.map_append, List.map_cons, map_slash_of_not_mem hu, map_slash_of_not_mem (hfold hu),
      hslash, foldChars_append_separator isSeparator_slash, ih]

theorem properNames_foldChars (cs : List Char) :
    properNames (foldChars cs) = (properNames cs).map foldChars := by
  rw [properNames, map_slash_foldChars, names_foldChars,
    filter_ne_map_foldChars fun _ => foldChars_eq_singleton_iff (by decide)]
  rfl

/-- It does not matter whether a path is normalized before it is folded or after. -/
theorem fold_normalize (path : String) : fold (normalize path) = normalize (fold path) := by
  rw [normalize_eq_ofSegments, fold_ofSegments, map_fold_map_ofList, ← properNames_foldChars,
    ← toList_fold, ← normalize_eq_ofSegments]

/-! ## Subtrees -/

section Below

variable {path dir : String}

theorem within_fold (h : within path dir = true) : within (fold path) (fold dir) = true := by
  rcases within_iff.1 h with rfl | rfl | ⟨rest, rfl⟩
  · rfl
  · exact within_self _
  · rw [fold_append_slash]
    exact within_append _ _

/-- What is seen of a path below a directory may be folded before it is cut off or after. -/
theorem relativeTo_fold (h : within path dir = true) :
    relativeTo (fold path) (fold dir) = fold (relativeTo path dir) := by
  by_cases hdir : dir = ""
  · subst hdir
    rfl
  · rcases within_iff.1 h with hempty | rfl | ⟨rest, rfl⟩
    · exact absurd hempty hdir
    · rw [relativeTo_self, relativeTo_self]
    · rw [fold_append_slash, relativeTo_append (mt fold_eq_empty_iff.1 hdir),
        relativeTo_append hdir]

end Below

theorem within_fold_append (above last : List (List Char)) :
    within (fold (String.ofList (ofNames (above ++ last)))) (fold (String.ofList (ofNames above))) =
      true := by
  have hbelow := within_ofSegments (above.map String.ofList) (last.map String.ofList)
  rw [← List.map_append, ofSegments_map_ofList, ofSegments_map_ofList] at hbelow
  exact within_fold hbelow

/-- Seen from its first names, a folded path is the folded path of its last ones. -/
theorem relativeTo_fold_append {above last : List (List Char)} (h : ∀ n ∈ above, n ≠ [])
    (hlast : last ≠ []) :
    relativeTo (fold (String.ofList (ofNames (above ++ last))))
        (fold (String.ofList (ofNames above))) =
      fold (String.ofList (ofNames last)) := by
  have habove : ∀ s ∈ above.map String.ofList, s ≠ "" := by
    intro s hs
    obtain ⟨n, hn, rfl⟩ := List.mem_map.1 hs
    exact mt String.ofList_eq_empty_iff.1 (h n hn)
  have hnames : last.map String.ofList ≠ [] := by simpa using hlast
  have hseen := relativeTo_ofSegments habove hnames
  have hbelow := within_ofSegments (above.map String.ofList) (last.map String.ofList)
  rw [← List.map_append, ofSegments_map_ofList, ofSegments_map_ofList] at hseen hbelow
  rw [relativeTo_fold hbelow, hseen, ofSegments_map_ofList]

end Path

/-! ## Ownership roots -/

namespace Ownership

theorem segmentCount_fold (anchor : String) :
    segmentCount (Text.fold anchor) = segmentCount anchor := by
  rw [segmentCount, Path.segments_fold, List.length_map, segmentCount]

/-- The directories that are cut off a path and then folded are those of the folded path. -/
theorem fold_ofPath (path : String) (count : Nat) :
    (ofPath path count).fold = ofPath (Text.fold path) count := by
  rw [ofPath, ofPath, Path.segments_fold, List.length_map]
  by_cases h : count = 0 ∨ (Path.segments path).length < count
  · rw [if_pos h, if_pos h]
    rfl
  · rw [if_neg h, if_neg h]
    simp only [Ownership.fold, Path.fold_ofSegments, List.map_take]
    split <;> simp only [Path.fold_ofSegments, List.map_take]

end Ownership

namespace Path

/-- Folding goes segment by segment. A slash keeps apart what is folded in front of it and behind
it, nothing is folded twice, and the cuts of a folded path at its slashes are the folded cuts of
the path. So the directories that an anchor cuts off a path are, folded, those that it cuts off the
folded path; and what lies below a directory lies below it folded and is seen from there alike. -/
theorem fold_segmentwise (a b path dir anchor : String) :
    fold (a ++ "/" ++ b) = fold a ++ "/" ++ fold b ∧
    fold (fold path) = fold path ∧
    (∀ x y, fold path = x ++ "/" ++ y ↔
      ∃ u v, path = u ++ "/" ++ v ∧ fold u = x ∧ fold v = y) ∧
    segments (fold path) = (segments path).map fold ∧
    (Ownership.ofPath path (Ownership.segmentCount anchor)).fold =
      Ownership.ofPath (fold path) (Ownership.segmentCount (fold anchor)) ∧
    (within path dir = true →
      within (fold path) (fold dir) = true ∧
      relativeTo (fold path) (fold dir) = fold (relativeTo path dir)) := by
  refine ⟨fold_append_slash a b, fold_fold path, fun _ _ => fold_eq_append_slash_iff,
    segments_fold path, ?_, fun h => ⟨within_fold h, relativeTo_fold h⟩⟩
  rw [Ownership.segmentCount_fold, Ownership.fold_ofPath]

/-- A sigma in front of a slash ends its word, one in front of a point does not. -/
theorem fold_segmentwise_sigma :
    within "ΟΔΟΣ/ΣΑΣ.ΤΧΤ" "ΟΔΟΣ" = true ∧ fold "ΟΔΟΣ/ΣΑΣ.ΤΧΤ" = "οδος/σασ.τχτ" ∧
      relativeTo (fold "ΟΔΟΣ/ΣΑΣ.ΤΧΤ") (fold "ΟΔΟΣ") = fold "ΣΑΣ.ΤΧΤ" := by
  have hwithin : within "ΟΔΟΣ/ΣΑΣ.ΤΧΤ" "ΟΔΟΣ" = true := by decide +kernel
  have hkept : relativeTo "ΟΔΟΣ/ΣΑΣ.ΤΧΤ" "ΟΔΟΣ" = "ΣΑΣ.ΤΧΤ" := by decide +kernel
  obtain ⟨-, -, -, -, -, hseen⟩ :=
    fold_segmentwise "ΟΔΟΣ" "ΣΑΣ.ΤΧΤ" "ΟΔΟΣ/ΣΑΣ.ΤΧΤ" "ΟΔΟΣ" "ΣΑΣ.ΤΧΤ"
  refine ⟨hwithin, by decide +kernel, ?_⟩
  rw [(hseen hwithin).2, hkept]

end Path

end ComponentScan
