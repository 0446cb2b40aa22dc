import ComponentScan.Proofs.Path.Folding
import ComponentScan.Proofs.Text.Replacing

/-!
# Canonical paths

Normalization answers with a form of the path that holds no backslash, and no slash but those
between two segments that name something. These forms are what it keeps (`normalize_eq_self_iff`),
and two paths have the same form exactly when the same segments show in their texts
(`normalize_canonical`).
-/

namespace ComponentScan.Path

open ComponentScan.Text

/-! ## The form -/

/-- A path without backslashes, whose slashes stand between segments that name something. -/
structure IsCanonical (path : String) : Prop where
  backslash_not_mem : '\\' ∉ path.toList
  named : path = "" ∨ ∀ n ∈ path.toList.splitOn '/', n ≠ [] ∧ n ≠ ['.']

namespace IsCanonical

variable {path : String}

theorem isProperName (h : IsCanonical path) (hne : path ≠ "") {n : List Char}
    (hn : n ∈ path.toList.splitOn '/') : IsProperName n := by
  obtain ⟨hnil, hdot⟩ := h.named.resolve_left hne n hn
  exact ⟨hnil, hdot, not_mem_of_mem_splitOn hn,
    fun hback => h.backslash_not_mem ((infix_of_mem_splitOn hn).subset hback)⟩

/-- No slash begins or ends a canonical path, and no two stand together. -/
theorem slashes_apart (h : IsCanonical path) :
    ¬ ['/'] <+: path.toList ∧ ¬ ['/'] <:+ path.toList ∧ ¬ ['/', '/'] <:+: path.toList := by
  rw [← not_or, ← not_or]
  intro hslash
  have hne : path ≠ "" := by
    rintro rfl
    simp at hslash
  exact (h.isProperName hne (nil_mem_splitOn hslash)).ne_nil rfl

end IsCanonical

theorem isCanonical_normalize (path : String) : IsCanonical (normalize path) := by
  refine ⟨?_, ?_⟩
  · rw [toList_normalize]
    exact backslash_not_mem_normalizeChars _
  · rw [normalize_eq_empty_iff, toList_normalize]
    refine or_iff_not_imp_left.2 fun hne n hn => ?_
    rw [splitOn_normalizeChars hne] at hn
    exact ⟨(isProperName_of_mem hn).ne_nil, (isProperName_of_mem hn).ne_dot⟩

/-- The canonical paths are those that normalization keeps. -/
theorem normalize_eq_self_iff {path : String} : normalize path = path ↔ IsCanonical path := by
  refine ⟨fun h => h ▸ isCanonical_normalize path, fun h => ?_⟩
  by_cases hne : path = ""
  · subst hne
    rfl
  · have hnames := properNames_ofNames fun n hn => h.isProperName hne hn
    rw [ofNames_splitOn] at hnames
    rw [normalize, normalizeChars, hnames, ofNames_splitOn, String.ofList_toList]

/-! ## The segments that show -/

/-- The segments that show in the text of a path: backslashes are read as slashes, and what stands
between the slashes counts unless it is empty or a single point. -/
def shownSegments (path : String) : List String :=
  (((replace path "\\" "/").toList.splitOn '/').map String.ofList).filter
    fun s => s ≠ "" ∧ s ≠ "."

theorem shownSegments_eq (path : String) :
    shownSegments path = (properNames path.toList).map String.ofList := by
  have hslash : (replace path "\\" "/").toList = path.toList.map slash := by
    rw [replace, String.toList_ofList]
    exact replaceFrom_singleton '\\' '/' path.toList
  have hkeeps : ((fun s => decide (s ≠ "" ∧ s ≠ ".")) ∘ String.ofList) =
      fun n => decide (n ≠ ['.']) && decide (n ≠ []) := by
    funext n
    have hdot : String.ofList n = "." ↔ n = ['.'] :=
      (String.ofList_inj : String.ofList n = String.ofList ['.'] ↔ n = ['.'])
    simp [hdot, Bool.and_comm]
  rw [shownSegments, hslash, List.filter_map, hkeeps, properNames, names, List.filter_filter]

/-- Two paths are the same to the scan exactly when they show the same segments. -/
theorem normalize_eq_normalize_iff {p q : String} :
    normalize p = normalize q ↔ shownSegments p = shownSegments q := by
  rw [shownSegments_eq, shownSegments_eq]
  constructor
  · intro h
    rw [← segments_normalize, h, segments_normalize]
  · intro h
    rw [normalize_eq_ofSegments, h, ← normalize_eq_ofSegments]

/-! ## Stars -/

/-- Normalization brings no two stars together. -/
theorem stars_of_normalize {path : String} (h : contains (normalize path) "**" = true) :
    contains path "**" = true := by
  rw [contains_iff] at h ⊢
  rw [toList_normalize] at h
  exact infix_of_infix_normalizeChars (by decide) (by decide) h

/-! ## The form of a path -/

/-- Normalization is canonical: its answers are canonical paths, which it keeps; two paths have the
same answer exactly when they show the same segments; folding the case of the path or of the
answer is the same; and stars that stand apart in the path do not come together. -/
theorem normalize_canonical (p q : String) :
    IsCanonical (normalize p) ∧
    (¬ ['/'] <+: (normalize p).toList ∧ ¬ ['/'] <:+ (normalize p).toList ∧
      ¬ ['/', '/'] <:+: (normalize p).toList) ∧
    normalize (normalize p) = normalize p ∧
    (normalize p = normalize q ↔ shownSegments p = shownSegments q) ∧
    fold (normalize p) = normalize (fold p) ∧
    (contains p "**" = false → contains (normalize p) "**" = false) := by
  have hform := isCanonical_normalize p
  refine ⟨hform, hform.slashes_apart, normalize_eq_self_iff.2 hform, normalize_eq_normalize_iff,
    fold_normalize p, fun hstars => ?_⟩
  rw [← Bool.not_eq_true] at hstars ⊢
  exact mt stars_of_normalize hstars

/-- Two spellings of a path, with stars on both sides of what normalization takes out. -/
theorem normalize_canonical_spellings :
    normalize ".\\Ä*//./*ΑΣ\\" = normalize "Ä*/*ΑΣ/." ∧
      fold (normalize ".\\Ä*//./*ΑΣ\\") = normalize "./ä*//*ας" ∧
      contains (normalize ".\\Ä*//./*ΑΣ\\") "**" = false := by
  obtain ⟨-, -, -, hsame, hfold, hstars⟩ := normalize_canonical ".\\Ä*//./*ΑΣ\\" "Ä*/*ΑΣ/."
  refine ⟨hsame.2 (by decide +kernel), ?_, hstars (by decide +kernel)⟩
  rw [hfold]
  decide +kernel

end ComponentScan.Path
