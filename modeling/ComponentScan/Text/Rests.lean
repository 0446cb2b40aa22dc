/-!
# Rests

A wildcard may stop at several places. A matcher is therefore a function that gives every rest
its pattern can leave of a text, and two wildcards in a row are matched by taking the rests of
each rest.
-/

namespace ComponentScan.Text

variable {α : Type}

/-- The rests after a front part whose elements all satisfy `p`, the longest rest first. -/
def runs (p : α → Bool) : List α → List (List α)
  | [] => [[]]
  | a :: s => (a :: s) :: if p a then runs p s else []

theorem mem_runs {p : α → Bool} {s r : List α} :
    r ∈ runs p s ↔ ∃ u, s = u ++ r ∧ ∀ a ∈ u, p a = true := by
  induction s with
  | nil =>
    constructor
    · intro h
      have hr : r = [] := by simpa [runs] using h
      exact ⟨[], by simp [hr], by simp⟩
    · rintro ⟨u, h, -⟩
      have hr : r = [] := (List.append_eq_nil_iff.1 h.symm).2
      simp [runs, hr]
  | cons a s ih =>
    constructor
    · intro h
      rcases List.mem_cons.1 h with rfl | h
      · exact ⟨[], rfl, by simp⟩
      · by_cases ha : p a = true
        · rw [if_pos ha] at h
          obtain ⟨u, rfl, hu⟩ := ih.1 h
          exact ⟨a :: u, rfl, by simpa [ha] using hu⟩
        · rw [if_neg ha] at h
          simp at h
    · rintro ⟨u, h, hu⟩
      cases u with
      | nil => exact List.mem_cons.2 (.inl h.symm)
      | cons b u =>
        obtain ⟨rfl, rfl⟩ := List.cons.inj h
        have hb : p a = true := hu a (by simp)
        refine List.mem_cons.2 (.inr ?_)
        rw [if_pos hb]
        exact ih.2 ⟨u, rfl, fun c hc => hu c (by simp [hc])⟩

variable [DecidableEq α]

/-- The rests after a front part that satisfies `p` up to a closing `stop`. -/
def runsPast (p : α → Bool) (stop : α) (s : List α) : List (List α) :=
  (runs p s).filterMap fun r =>
    match r with
    | [] => none
    | a :: t => if a = stop then some t else none

theorem mem_runsPast {p : α → Bool} {stop : α} {s r : List α} :
    r ∈ runsPast p stop s ↔ ∃ u, s = u ++ stop :: r ∧ ∀ a ∈ u, p a = true := by
  simp only [runsPast, List.mem_filterMap]
  constructor
  · rintro ⟨t, ht, h⟩
    split at h
    · simp at h
    · rename_i a t'
      split at h
      · rename_i ha
        obtain ⟨u, rfl, hu⟩ := mem_runs.1 ht
        exact ⟨u, by simp_all, hu⟩
      · simp at h
  · rintro ⟨u, rfl, hu⟩
    exact ⟨stop :: r, mem_runs.2 ⟨u, rfl, hu⟩, by simp⟩

/-- The rests after the one element at the front, if it satisfies `p`. -/
def single (p : α → Bool) : List α → List (List α)
  | [] => []
  | a :: s => if p a then [s] else []

/-- The rest after a given front part, read with `eq`. -/
def rest (eq : α → α → Bool) : List α → List α → List (List α)
  | [], s => [s]
  | _ :: _, [] => []
  | a :: u, b :: s => if eq a b then rest eq u s else []

end ComponentScan.Text
