import ComponentScan.Proofs.Path.Segments

/-!
# Paths below directories

Whether a path lies below a directory is read off the characters of both, but it is a matter of
their segments: the directory's segments begin those of the path, so that a sibling whose name
begins alike lies outside. What is seen of a path from a directory above it are the segments that
remain (`within_relativeTo_segments`).
-/

namespace ComponentScan.Path

open ComponentScan.Text

variable {path dir : String}

/-! ## Texts -/

/-- A path lies below the scan root, below itself, and below what stands in front of one of its
slashes. -/
theorem within_iff :
    within path dir = true ↔ dir = "" ∨ path = dir ∨ ∃ rest, path = dir ++ "/" ++ rest := by
  rw [within, Bool.or_eq_true, String.isEmpty_iff]
  refine or_congr_right ⟨fun h => ?_, ?_⟩
  · cases hafter : after? dir.toList path.toList with
    | none =>
      rw [hafter] at h
      cases h
    | some rest =>
      have hpath := after?_eq_some_iff.1 hafter
      rw [hafter] at h
      cases rest with
      | nil => exact .inl (String.toList_inj.1 (hpath.trans (List.append_nil _)))
      | cons c rest =>
        obtain rfl : c = '/' := by simpa using h
        refine .inr ⟨String.ofList rest, ?_⟩
        rw [← String.toList_inj, toList_append_slash, String.toList_ofList, hpath]
  · rintro (rfl | ⟨rest, rfl⟩)
    · rw [after?_eq_some_iff.2 (List.append_nil _).symm]
      rfl
    · rw [after?_eq_some_iff.2 (toList_append_slash dir rest)]
      rfl

theorem within_self (path : String) : within path path = true :=
  within_iff.2 (.inr (.inl rfl))

theorem within_append (dir rest : String) : within (dir ++ "/" ++ rest) dir = true :=
  within_iff.2 (.inr (.inr ⟨rest, rfl⟩))

theorem relativeTo_empty (path : String) : relativeTo path "" = path :=
  if_pos rfl

theorem relativeTo_append (h : dir ≠ "") (rest : String) :
    relativeTo (dir ++ "/" ++ rest) dir = rest := by
  have hafter : after? dir.toList (dir ++ "/" ++ rest).toList = some ('/' :: rest.toList) :=
    after?_eq_some_iff.2 (toList_append_slash dir rest)
  rw [relativeTo, if_neg (by simpa using h), hafter]
  exact String.ofList_toList

/-- A path is kept, or it is seen from a directory above it. -/
theorem relativeTo_cases (path dir : String) :
    relativeTo path dir = path ∨ path = dir ++ "/" ++ relativeTo path dir := by
  rw [relativeTo]
  split
  · exact .inl rfl
  · split
    · rename_i rest hafter
      refine .inr ?_
      rw [← String.toList_inj, toList_append_slash, String.toList_ofList]
      exact after?_eq_some_iff.1 hafter
    · exact .inl rfl

theorem relativeTo_self (path : String) : relativeTo path path = path := by
  rcases relativeTo_cases path path with h | h
  · exact h
  · have hlength := congrArg (fun s : String => s.toList.length) h
    simp only [toList_append_slash, List.length_append, List.length_cons] at hlength
    omega

/-! ## Segments -/

theorem segments_prefix_of_within (h : within path dir = true) :
    segments dir <+: segments path := by
  rcases within_iff.1 h with rfl | rfl | ⟨rest, rfl⟩
  · exact List.nil_prefix
  · exact List.prefix_refl _
  · rw [segments_append_slash]
    exact List.prefix_append _ _

theorem within_ofSegments (ss ts : List String) :
    within (ofSegments (ss ++ ts)) (ofSegments ss) = true := by
  by_cases hs : ss = []
  · subst hs
    rfl
  · by_cases ht : ts = []
    · rw [ht, List.append_nil]
      exact within_self _
    · rw [ofSegments_append hs ht]
      exact within_append _ _

theorem relativeTo_ofSegments {ss ts : List String} (h : ∀ s ∈ ss, s ≠ "") (ht : ts ≠ []) :
    relativeTo (ofSegments (ss ++ ts)) (ofSegments ss) = ofSegments ts := by
  by_cases hs : ss = []
  · subst hs
    exact relativeTo_empty _
  · rw [ofSegments_append hs ht]
    exact relativeTo_append (ofSegments_ne_empty hs h) _

/-! ## Normalized paths -/

/-- A normalized path lies below the directories whose segments begin its own. -/
theorem within_iff_segments (hpath : normalize path = path) (hdir : normalize dir = dir) :
    within path dir = true ↔ segments dir <+: segments path := by
  refine ⟨segments_prefix_of_within, ?_⟩
  rintro ⟨rest, hrest⟩
  have hbelow := within_ofSegments (segments dir) rest
  rwa [hrest, ofSegments_segments hpath, ofSegments_segments hdir] at hbelow

/-- Seen from a directory above it, a normalized path keeps the segments that follow those of the
directory. -/
theorem relativeTo_of_segments (hpath : normalize path = path) (hdir : normalize dir = dir)
    {rest : List String} (h : segments path = segments dir ++ rest) (hrest : rest ≠ []) :
    relativeTo path dir = ofSegments rest := by
  have hnames : ∀ s ∈ segments dir, s ≠ "" := fun _ => ne_empty_of_mem_segments
  have hseen := relativeTo_ofSegments hnames hrest
  rwa [← h, ofSegments_segments hpath, ofSegments_segments hdir] at hseen

/-- A normalized path that does not lie properly below a directory is kept. -/
theorem relativeTo_of_not_below (hpath : normalize path = path) (hdir : normalize dir = dir)
    (h : ¬ (segments dir <+: segments path ∧ segments dir ≠ segments path)) :
    relativeTo path dir = path := by
  rcases relativeTo_cases path dir with hkept | hseen
  · exact hkept
  · by_cases heq : segments dir = segments path
    · have hself : dir = path := by
        rw [← ofSegments_segments hdir, heq, ofSegments_segments hpath]
      rw [hself, relativeTo_self]
    · have hbelow : within path dir = true := within_iff.2 (.inr (.inr ⟨_, hseen⟩))
      exact absurd ⟨segments_prefix_of_within hbelow, heq⟩ h

/-- Being below a directory goes by whole segments: a normalized path lies below a normalized
directory exactly when the directory's segments begin its own, and seen from the directory it is
the path with the segments that remain. Nothing is cut off a path that does not lie properly
below. -/
theorem within_relativeTo_segments (path dir : String) (hpath : normalize path = path)
    (hdir : normalize dir = dir) :
    (within path dir = true ↔ segments dir <+: segments path) ∧
    (∀ rest, rest ≠ [] → segments path = segments dir ++ rest →
      relativeTo path dir = ofSegments rest) ∧
    (¬ (segments dir <+: segments path ∧ segments dir ≠ segments path) →
      relativeTo path dir = path) :=
  ⟨within_iff_segments hpath hdir,
    fun _ hrest h => relativeTo_of_segments hpath hdir h hrest,
    relativeTo_of_not_below hpath hdir⟩

/-- A directory, a file below it, and a neighbour whose name begins with that of the directory. -/
theorem within_relativeTo_segments_neighbour :
    (within "lib/Foo/src/x.js" "lib/Foo" = true ∧
      relativeTo "lib/Foo/src/x.js" "lib/Foo" = "src/x.js") ∧
    (within "lib/Foobar/x.js" "lib/Foo" = false ∧
      relativeTo "lib/Foobar/x.js" "lib/Foo" = "lib/Foobar/x.js") := by
  have hdir : normalize "lib/Foo" = "lib/Foo" := by decide +kernel
  have hfile := within_relativeTo_segments "lib/Foo/src/x.js" "lib/Foo" (by decide +kernel) hdir
  have hneighbour :=
    within_relativeTo_segments "lib/Foobar/x.js" "lib/Foo" (by decide +kernel) hdir
  have hbelow : ¬ segments "lib/Foo" <+: segments "lib/Foobar/x.js" := by decide +kernel
  refine ⟨⟨hfile.1.2 (by decide +kernel), ?_⟩, ?_, hneighbour.2.2 fun h => hbelow h.1⟩
  · exact hfile.2.1 ["src", "x.js"] (by decide) (by decide +kernel)
  · exact Bool.eq_false_iff.2 fun h => hbelow (hneighbour.1.1 h)

end ComponentScan.Path
