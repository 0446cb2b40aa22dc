import ComponentScan.Suffix.Cache

/-!
# Caches that tell the truth

A cache that starts empty holds every suffix with its own compiled form, whatever it has been
asked. So an answer depends on the suffix and the path alone (`ask_fst`).
-/

namespace ComponentScan.SuffixCache

/-- Every suffix is kept with its own compiled form. -/
def Sound (c : SuffixCache) : Prop :=
  ∀ e ∈ c.entries, e.2 = SuffixPattern.compile e.1

/-- The cache after some questions, each about a suffix and a path. -/
def askAll (c : SuffixCache) (asked : List (String × String)) : SuffixCache :=
  asked.foldl (fun c question => (c.ask question.1 question.2).2) c

namespace Sound

variable {c : SuffixCache} {suffix path : String}

theorem empty : SuffixCache.empty.Sound := by
  intro e he
  cases he

theorem find? (h : c.Sound) {p : SuffixPattern} (hp : c.find? suffix = some p) :
    p = SuffixPattern.compile suffix := by
  obtain ⟨before, after, hentries, -⟩ := List.lookup_eq_some_iff.1 hp
  exact h (suffix, p) (by simp [hentries])

/-- An answer does not depend on what was asked before. -/
theorem ask_fst (h : c.Sound) :
    (c.ask suffix path).1 = (SuffixPattern.compile suffix).accepts path.toList := by
  rw [SuffixCache.ask]
  split
  · rename_i p hp
    rw [h.find? hp]
  · rfl

theorem ask_snd (h : c.Sound) : (c.ask suffix path).2.Sound := by
  rw [SuffixCache.ask]
  split
  · exact h
  · intro e he
    rcases List.mem_append.1 he with he | he
    · exact h e he
    · rw [List.mem_singleton.1 he]

theorem askAll (h : c.Sound) (asked : List (String × String)) : (c.askAll asked).Sound := by
  induction asked generalizing c with
  | nil => exact h
  | cons question asked ih => exact ih h.ask_snd

end Sound

end ComponentScan.SuffixCache
