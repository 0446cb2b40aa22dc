import Mathlib.Data.Finset.Card
import ComponentScan.Proofs.Occurrences
import ComponentScan.Proofs.Suffix.Cache
import ComponentScan.Proofs.Suffix.Expression

/-!
# What a suffix means

A suffix without stars is the end of a path. A suffix with stars is read from left to right and
must fit a path from the start of one of its segments to its end (`Met`). A cache answers by this
meaning alone, whatever it has been asked before, and a search for the regular expression of the
suffix gives the same answer (`answerAfter_spec`).
-/

namespace ComponentScan

open Text

namespace Suffix

/-- The texts that a suffix with stars stands for. Stars are taken in pairs from the left, so the
last one of an odd number is a single one. -/
inductive Fits : List Char → List Char → Prop
  | nil : Fits [] []
  | noDirs {p s : List Char} (h : Fits p s) : Fits ('*' :: '*' :: '/' :: p) s
  | dirs {p u s : List Char} (hu : '\n' ∉ u) (h : Fits p s) :
      Fits ('*' :: '*' :: '/' :: p) (u ++ '/' :: s)
  | anything {p u s : List Char} (hp : p.head? ≠ some '/') (hu : '\n' ∉ u) (h : Fits p s) :
      Fits ('*' :: '*' :: p) (u ++ s)
  | run {p u s : List Char} (hp : p.head? ≠ some '*') (hu : '/' ∉ u) (h : Fits p s) :
      Fits ('*' :: p) (u ++ s)
  | char {c : Char} {p s : List Char} (hc : c ≠ '*') (h : Fits p s) : Fits (c :: p) (c :: s)

/-- What a folded suffix asks of a path. -/
def Met (suffix path : List Char) : Prop :=
  if '*' ∈ suffix then ∃ s, Fits suffix s ∧ (s = path ∨ ∃ front, path = front ++ '/' :: s)
  else suffix <:+ path

variable {p s : List Char}

theorem head?_ne_some_iff {c : Char} : p.head? ≠ some c ↔ ∀ cs, p = c :: cs → False := by
  simp [List.head?_eq_some_iff]

theorem pieces_anything (hp : p.head? ≠ some '/') :
    pieces ('*' :: '*' :: p) = .anything :: pieces p := by
  rw [pieces]
  exact head?_ne_some_iff.1 hp

theorem pieces_run (hp : p.head? ≠ some '*') : pieces ('*' :: p) = .run :: pieces p := by
  rw [pieces]
  · exact fun cs => head?_ne_some_iff.1 hp ('/' :: cs)
  · exact head?_ne_some_iff.1 hp

theorem pieces_literal {c : Char} (hc : c ≠ '*') : pieces (c :: p) = .literal c :: pieces p := by
  rw [pieces] <;> (intros; contradiction)

/-- What a suffix stands for is what its pieces can take of a text and leave nothing. -/
theorem fits_iff : Fits p s ↔ [] ∈ seqRests (pieces p) s := by
  constructor
  · intro h
    induction h with
    | nil => simp [pieces]
    | noDirs _ ih =>
      rw [pieces, nil_mem_seqRests_cons]
      exact ⟨[], _, rfl, .inl rfl, ih⟩
    | dirs hu _ ih =>
      rw [pieces, nil_mem_seqRests_cons]
      exact ⟨_ ++ ['/'], _, by simp, .inr ⟨_, rfl, hu⟩, ih⟩
    | anything hp hu _ ih =>
      rw [pieces_anything hp, nil_mem_seqRests_cons]
      exact ⟨_, _, rfl, hu, ih⟩
    | run hp hu _ ih =>
      rw [pieces_run hp, nil_mem_seqRests_cons]
      exact ⟨_, _, rfl, hu, ih⟩
    | char hc _ ih =>
      rw [pieces_literal hc, nil_mem_seqRests_cons]
      exact ⟨_, _, rfl, rfl, ih⟩
  · intro h
    fun_induction pieces p generalizing s with
    | case1 p ih =>
      obtain ⟨u, v, rfl, rfl | ⟨u, rfl, hu⟩, hv⟩ := nil_mem_seqRests_cons.1 h
      · exact .noDirs (ih hv)
      · simpa using Fits.dirs hu (ih hv)
    | case2 p hp ih =>
      obtain ⟨u, v, rfl, hu, hv⟩ := nil_mem_seqRests_cons.1 h
      exact .anything (head?_ne_some_iff.2 hp) hu (ih hv)
    | case3 p _ hp ih =>
      obtain ⟨u, v, rfl, hu, hv⟩ := nil_mem_seqRests_cons.1 h
      exact .run (head?_ne_some_iff.2 hp) hu (ih hv)
    | case4 c p _ _ hc ih =>
      obtain ⟨_, v, rfl, rfl, hv⟩ := nil_mem_seqRests_cons.1 h
      exact .char hc (ih hv)
    | case5 =>
      obtain rfl := nil_mem_seqRests_nil.1 h
      exact .nil

end Suffix

theorem SuffixPattern.compile_accepts_iff {suffix : String} {path : List Char} :
    (compile suffix).accepts path = true ↔ Suffix.Met (foldChars suffix.toList) path := by
  simp only [compile, Suffix.Met, List.contains_iff_mem]
  split
  · simp only [accepts_wild_iff, mem_segmentStarts_iff, Suffix.fits_iff, and_comm]
  · exact accepts_ending_iff

namespace SuffixCache

/-- The suffixes that are kept. -/
def keys (c : SuffixCache) : List String := c.entries.map Prod.fst

theorem find?_eq_none_iff {c : SuffixCache} {suffix : String} :
    c.find? suffix = none ↔ suffix ∉ c.keys := by
  rw [find?, List.lookup_eq_none_iff, keys, ← List.forall_mem_ne, List.forall_mem_map]
  simp

theorem keys_ask (c : SuffixCache) (suffix path : String) :
    (c.ask suffix path).2.keys = if suffix ∈ c.keys then c.keys else c.keys ++ [suffix] := by
  rw [ask]
  split
  · rename_i p hp
    have hmem : suffix ∈ c.keys := by
      by_contra h
      rw [find?_eq_none_iff.2 h] at hp
      cases hp
    rw [if_pos hmem]
  · rename_i hnone
    rw [if_neg (find?_eq_none_iff.1 hnone)]
    simp [keys]

/-- The suffixes that are kept are the distinct ones that have been asked for. -/
theorem keys_askAll_empty (asked : List (String × String)) :
    (SuffixCache.empty.askAll asked).keys = (asked.map Prod.fst).eraseDups := by
  induction asked using List.reverseRecOn with
  | nil => rfl
  | append_singleton asked question ih =>
    rw [askAll, List.foldl_concat, ← askAll, keys_ask, ih, List.map_append, List.map_singleton,
      eraseDups_concat]
    simp only [List.mem_eraseDups]

theorem size_askAll_empty (asked : List (String × String)) :
    (SuffixCache.empty.askAll asked).size = (asked.map Prod.fst).toFinset.card := by
  have hkeys : (asked.map Prod.fst).toFinset = (asked.map Prod.fst).eraseDups.toFinset := by
    ext suffix
    simp
  rw [hkeys, List.toFinset_card_of_nodup (nodup_eraseDups _), ← keys_askAll_empty, keys,
    List.length_map, size]

/-- The answer to a question after others. -/
def answerAfter (asked : List (String × String)) (suffix path : String) : Bool :=
  ((SuffixCache.empty.askAll asked).ask suffix path).1

/-- Whatever has been asked before, the expression of a suffix is well formed and found in the path
exactly if the answer is yes, which is when the path has the suffix by its meaning. Nothing asked
before has changed the answer, and the cache has one entry for each suffix. -/
theorem answerAfter_spec (asked : List (String × String)) (suffix path : String) :
    (∃ r, Regex.read? (SuffixPattern.compile suffix).regex.toList = some r ∧
        (answerAfter asked suffix path = true ↔ r.FoundIn path.toList)) ∧
      (answerAfter asked suffix path = true ↔
        Suffix.Met (foldChars suffix.toList) path.toList) ∧
      answerAfter asked suffix path = answerAfter [] suffix path ∧
      (SuffixCache.empty.askAll asked).size = (asked.map Prod.fst).toFinset.card := by
  have hanswer (asked : List (String × String)) :
      answerAfter asked suffix path = (SuffixPattern.compile suffix).accepts path.toList :=
    (Sound.empty.askAll asked).ask_fst
  refine ⟨⟨_, SuffixPattern.read?_regex _, ?_⟩, ?_, ?_, size_askAll_empty asked⟩
  · rw [hanswer]
    exact SuffixPattern.accepts_iff_foundIn
  · rw [hanswer]
    exact SuffixPattern.compile_accepts_iff
  · rw [hanswer, hanswer]

end SuffixCache

end ComponentScan
