import ComponentScan.Ownership
import ComponentScan.Proofs.Text.Pieces

/-!
# Segments of a normalized path

The names of a text are those in front of a slash and those behind it (`names_append_slash`). A
normalized path is the path with the proper names of the text it was made from, so its segments
are these names (`names_normalizeChars`). It holds no backslash, and every part of it without a
slash was a part of the text (`infix_of_infix_normalizeChars`).
-/

namespace ComponentScan.Path

open ComponentScan.Text

/-! ## Names -/

theorem mem_names_iff {path n : List Char} : n ∈ names path ↔ n ∈ path.splitOn '/' ∧ n ≠ [] := by
  simp [names]

/-- A slash cuts a path into two, of which each has its own names. -/
theorem names_append_slash (u v : List Char) : names (u ++ '/' :: v) = names u ++ names v := by
  rw [names, List.splitOn_append_cons_self, List.filter_append]
  rfl

theorem splitOn_ofNames {ns : List (List Char)} (h : ∀ n ∈ ns, '/' ∉ n) (hne : ns ≠ []) :
    (ofNames ns).splitOn '/' = ns :=
  List.splitOn_intercalate '/' h hne

theorem names_ofNames {ns : List (List Char)} (h : ∀ n ∈ ns, n ≠ [] ∧ '/' ∉ n) :
    names (ofNames ns) = ns := by
  by_cases hne : ns = []
  · subst hne
    rfl
  · rw [names, splitOn_ofNames (fun n hn => (h n hn).2) hne, List.filter_eq_self]
    intro n hn
    simpa using (h n hn).1

@[simp]
theorem ofNames_singleton (n : List Char) : ofNames [n] = n :=
  List.intercalate_singleton

theorem ofNames_ne_nil {ns : List (List Char)} (hne : ns ≠ []) (h : ∀ n ∈ ns, n ≠ []) :
    ofNames ns ≠ [] := by
  obtain ⟨n, rest, rfl⟩ := List.exists_cons_of_ne_nil hne
  have hn := h n (by simp)
  rw [ofNames]
  cases rest <;> simp [List.intercalate_cons_cons, hn]

/-- A text is the path with the pieces between its slashes. -/
theorem ofNames_splitOn (path : List Char) : ofNames (path.splitOn '/') = path :=
  List.intercalate_splitOn '/'

/-! ## Segments -/

@[simp]
theorem toList_ofSegments (ss : List String) :
    (ofSegments ss).toList = ofNames (ss.map String.toList) :=
  String.toList_ofList

theorem ofSegments_map_ofList (ns : List (List Char)) :
    ofSegments (ns.map String.ofList) = String.ofList (ofNames ns) := by
  simp [ofSegments, Function.comp_def]

theorem toList_append_slash (a b : String) :
    (a ++ "/" ++ b).toList = a.toList ++ '/' :: b.toList := by
  simp

theorem segments_append_slash (a b : String) :
    segments (a ++ "/" ++ b) = segments a ++ segments b := by
  rw [segments, toList_append_slash, names_append_slash, List.map_append]
  rfl

@[simp]
theorem ofSegments_singleton (s : String) : ofSegments [s] = s := by
  simp [ofSegments]

theorem ofSegments_append {ss ts : List String} (hs : ss ≠ []) (ht : ts ≠ []) :
    ofSegments (ss ++ ts) = ofSegments ss ++ "/" ++ ofSegments ts := by
  rw [← String.toList_inj, toList_append_slash, toList_ofSegments, toList_ofSegments,
    toList_ofSegments, List.map_append, ofNames, intercalate_append (by simpa) (by simpa)]
  rfl

theorem ofSegments_cons {ss : List String} (s : String) (h : ss ≠ []) :
    ofSegments (s :: ss) = s ++ "/" ++ ofSegments ss := by
  rw [← List.singleton_append, ofSegments_append (List.cons_ne_nil s []) h, ofSegments_singleton]

theorem ne_empty_of_mem_segments {path n : String} (h : n ∈ segments path) : n ≠ "" := by
  obtain ⟨n, hn, rfl⟩ := List.mem_map.1 h
  exact mt String.ofList_eq_empty_iff.1 (mem_names_iff.1 hn).2

theorem ofSegments_ne_empty {ss : List String} (hne : ss ≠ []) (h : ∀ s ∈ ss, s ≠ "") :
    ofSegments ss ≠ "" := by
  rw [ofSegments, Ne, String.ofList_eq_empty_iff]
  refine ofNames_ne_nil (by simpa using hne) fun n hn => ?_
  obtain ⟨s, hs, rfl⟩ := List.mem_map.1 hn
  exact mt String.toList_eq_nil_iff.1 (h s hs)

/-! ## Proper names -/

theorem slash_eq_self_iff {c : Char} : slash c = c ↔ c ≠ '\\' := by
  rw [slash]
  split
  · rename_i h
    simp [h]
  · rename_i h
    simp [h]

theorem slash_ne_backslash (c : Char) : slash c ≠ '\\' := by
  rw [slash]
  split
  · decide
  · assumption

/-- A text without a backslash is cut at its slashes only. -/
theorem map_slash_of_not_mem {cs : List Char} (h : '\\' ∉ cs) : cs.map slash = cs := by
  rw [List.map_congr_left (g := id), List.map_id]
  intro c hc
  rw [id, slash_eq_self_iff]
  rintro rfl
  exact h hc

theorem mem_properNames_iff {path n : List Char} :
    n ∈ properNames path ↔ n ∈ (path.map slash).splitOn '/' ∧ n ≠ [] ∧ n ≠ ['.'] := by
  simp [properNames, mem_names_iff, and_assoc]

/-- A name that normalization keeps and does not cut. -/
structure IsProperName (n : List Char) : Prop where
  ne_nil : n ≠ []
  ne_dot : n ≠ ['.']
  slash_not_mem : '/' ∉ n
  backslash_not_mem : '\\' ∉ n

theorem isProperName_of_mem {path n : List Char} (h : n ∈ properNames path) : IsProperName n := by
  obtain ⟨hmem, hne, hdot⟩ := mem_properNames_iff.1 h
  refine ⟨hne, hdot, not_mem_of_mem_splitOn hmem, fun hback => ?_⟩
  obtain ⟨c, -, hc⟩ := List.mem_map.1 ((infix_of_mem_splitOn hmem).subset hback)
  exact slash_ne_backslash c hc

/-! ## Normalization -/

@[simp]
theorem toList_normalize (path : String) :
    (normalize path).toList = normalizeChars path.toList :=
  String.toList_ofList

theorem names_normalizeChars (path : List Char) :
    names (normalizeChars path) = properNames path := by
  refine names_ofNames fun n hn => ?_
  have hproper := isProperName_of_mem hn
  exact ⟨hproper.ne_nil, hproper.slash_not_mem⟩

theorem normalize_eq_ofSegments (path : String) :
    normalize path = ofSegments ((properNames path.toList).map String.ofList) :=
  (ofSegments_map_ofList _).symm

theorem segments_normalize (path : String) :
    segments (normalize path) = (properNames path.toList).map String.ofList := by
  rw [segments, toList_normalize, names_normalizeChars]

theorem splitOn_normalizeChars {path : List Char} (h : properNames path ≠ []) :
    (normalizeChars path).splitOn '/' = properNames path :=
  splitOn_ofNames (fun _ hn => (isProperName_of_mem hn).slash_not_mem) h

/-- The scan root is the only normalized path without segments. -/
theorem splitOn_normalizeChars_of_nil {path : List Char} (h : properNames path = []) :
    (normalizeChars path).splitOn '/' = [[]] := by
  rw [normalizeChars, h]
  rfl

/-- A part of a normalized path that lies inside a segment is a part of the text it was made
from. -/
theorem infix_of_infix_normalizeChars {path x : List Char} (hs : '/' ∉ x) (hne : x ≠ [])
    (h : x <:+: normalizeChars path) : x <:+: path := by
  obtain ⟨n, hn, hx⟩ := exists_infix_piece h hs
  have hslashed : x <:+: path.map slash := by
    by_cases hp : properNames path = []
    · rw [splitOn_normalizeChars_of_nil hp, List.mem_singleton] at hn
      subst hn
      exact absurd (List.infix_nil.1 hx) hne
    · rw [splitOn_normalizeChars hp] at hn
      exact hx.trans (infix_of_mem_splitOn (mem_properNames_iff.1 hn).1)
  obtain ⟨u, v, huv⟩ := hslashed
  obtain ⟨l, t, rfl, hl, -⟩ := List.map_eq_append_iff.1 huv.symm
  obtain ⟨l', y, rfl, -, hy⟩ := List.map_eq_append_iff.1 hl
  -- a backslash would have become a slash of the part
  have hback : '\\' ∉ y := fun hmem => hs (hy ▸ List.mem_map.2 ⟨'\\', hmem, rfl⟩)
  rw [← hy, map_slash_of_not_mem hback]
  exact List.infix_append l' y t

theorem not_mem_ofNames {c : Char} (hc : c ≠ '/') {ns : List (List Char)} (h : ∀ n ∈ ns, c ∉ n) :
    c ∉ ofNames ns := by
  induction ns with
  | nil => simp [ofNames]
  | cons n ns ih =>
    have hn := h n (by simp)
    have ih := ih fun n' hn' => h n' (List.mem_cons_of_mem n hn')
    cases ns with
    | nil => simpa [ofNames] using hn
    | cons n' ns =>
      rw [ofNames, List.intercalate_cons_of_ne_nil (List.cons_ne_nil n' ns)]
      simp only [List.mem_append, List.mem_singleton, not_or]
      exact ⟨⟨hn, hc⟩, ih⟩

theorem backslash_not_mem_normalizeChars (path : List Char) : '\\' ∉ normalizeChars path :=
  not_mem_ofNames (by decide) fun _ hn => (isProperName_of_mem hn).backslash_not_mem

/-- Proper names are those of the path that is made of them. -/
theorem properNames_ofNames {ns : List (List Char)} (h : ∀ n ∈ ns, IsProperName n) :
    properNames (ofNames ns) = ns := by
  have hback : '\\' ∉ ofNames ns :=
    not_mem_ofNames (by decide) fun n hn => (h n hn).backslash_not_mem
  rw [properNames, map_slash_of_not_mem hback,
    names_ofNames fun n hn => ⟨(h n hn).ne_nil, (h n hn).slash_not_mem⟩, List.filter_eq_self]
  intro n hn
  simpa using (h n hn).ne_dot

theorem properNames_normalizeChars (path : List Char) :
    properNames (normalizeChars path) = properNames path :=
  properNames_ofNames fun _ => isProperName_of_mem

/-- A path is normalized once and for all. -/
theorem normalize_normalize (path : String) : normalize (normalize path) = normalize path := by
  rw [normalize, toList_normalize, normalizeChars, properNames_normalizeChars]
  rfl

/-- The paths of the scan root are those without a name. -/
theorem normalize_eq_empty_iff {path : String} :
    normalize path = "" ↔ properNames path.toList = [] := by
  constructor
  · intro h
    rw [← properNames_normalizeChars, ← toList_normalize, h]
    rfl
  · intro h
    rw [normalize, normalizeChars, h]
    rfl

section Normal

variable {path : String}

theorem normalizeChars_of_normal (h : normalize path = path) :
    normalizeChars path.toList = path.toList := by
  rw [← toList_normalize, h]

theorem names_of_normal (h : normalize path = path) :
    names path.toList = properNames path.toList := by
  have hnames := names_normalizeChars path.toList
  rwa [normalizeChars_of_normal h] at hnames

theorem properNames_ne_nil (h : normalize path = path) (hne : path ≠ "") :
    properNames path.toList ≠ [] :=
  fun hnil => hne (h ▸ normalize_eq_empty_iff.2 hnil)

theorem toList_of_normal (h : normalize path = path) :
    path.toList = ofNames (names path.toList) := by
  rw [names_of_normal h]
  exact (normalizeChars_of_normal h).symm

/-- A normalized path is the path with its names. -/
theorem eq_ofNames_of_normal (h : normalize path = path) {ns : List (List Char)}
    (hns : names path.toList = ns) : path = String.ofList (ofNames ns) := by
  rw [← hns, ← toList_of_normal h, String.ofList_toList]

theorem ofSegments_segments (h : normalize path = path) : ofSegments (segments path) = path := by
  rw [segments, ofSegments_map_ofList, ← toList_of_normal h, String.ofList_toList]

theorem backslash_not_mem_of_normal (h : normalize path = path) : '\\' ∉ path.toList := by
  rw [← normalizeChars_of_normal h]
  exact backslash_not_mem_normalizeChars path.toList

/-- A normalized path does not begin with a slash. -/
theorem dropWhile_slash_of_normal (h : normalize path = path) :
    path.toList.dropWhile (· = '/') = path.toList := by
  rw [← normalizeChars_of_normal h, normalizeChars]
  cases hnames : properNames path.toList with
  | nil => rfl
  | cons n ns =>
    have hn : n ∈ properNames path.toList := by simp [hnames]
    have hproper := isProperName_of_mem hn
    obtain ⟨c, cs, rfl⟩ := List.exists_cons_of_ne_nil hproper.ne_nil
    have hc : c ≠ '/' := fun h => hproper.slash_not_mem (by simp [h])
    cases ns with
    | nil => exact List.dropWhile_cons_of_neg (by simpa using hc)
    | cons m ms =>
      rw [ofNames, List.intercalate_cons_cons]
      exact List.dropWhile_cons_of_neg (by simpa using hc)

end Normal

/-! ## Fronts -/

theorem after?_eq_some_iff {front cs rest : List Char} :
    after? front cs = some rest ↔ cs = front ++ rest := by
  induction front generalizing cs with
  | nil => simp [after?]
  | cons d ds ih =>
    cases cs with
    | nil => simp [after?]
    | cons c cs =>
      rw [after?]
      by_cases hd : d = c
      · simp [hd, ih]
      · simp [hd, Ne.symm hd]

end ComponentScan.Path

namespace ComponentScan.Ownership

theorem segmentCount_normalize (anchor : String) :
    segmentCount (Path.normalize anchor) = (Path.properNames anchor.toList).length := by
  simp [segmentCount, Path.segments, Path.names_normalizeChars]

end ComponentScan.Ownership
