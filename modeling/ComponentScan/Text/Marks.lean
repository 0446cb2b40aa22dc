import ComponentScan.Text.Rests

/-!
# Marks

A predicate on the rests of a text, as the list of its truth values from the text itself down to
its empty rest. Asked backwards, a wildcard turns the marks of the rests that are good behind it
into the marks of the rests that are good in front of it, in one pass over the text. Each such pass
agrees with the rests the wildcard can leave (`singleMarks_marks`, `runMarks_marks`,
`pastMarks_marks`, `restMarks_marks`).
-/

namespace ComponentScan.Text

variable {α : Type}

/-- The marks of a predicate. -/
def marks (q : List α → Bool) : List α → List Bool
  | [] => [q []]
  | a :: s => q (a :: s) :: marks q s

/-- The mark of the text itself. -/
def firstMark : List Bool → Bool
  | [] => false
  | m :: _ => m

@[simp]
theorem firstMark_marks (q : List α → Bool) (s : List α) : firstMark (marks q s) = q s := by
  cases s <;> rfl

/-- The rests with a marked rest after one element that satisfies `p`. -/
def singleMarks (p : α → Bool) : List α → List Bool → List Bool
  | a :: s, _ :: ms => (p a && firstMark ms) :: singleMarks p s ms
  | _, _ => [false]

/-- The rests with a marked rest after a front part whose elements all satisfy `p`. -/
def runMarks (p : α → Bool) : List α → List Bool → List Bool
  | a :: s, m :: ms =>
    let later := runMarks p s ms
    (m || (p a && firstMark later)) :: later
  | _, ms => ms

/-- The rests that are marked once or twice. -/
def eitherMarks (ms ns : List Bool) : List Bool := ms.zipWith (· || ·) ns

/-- No rest. -/
def noMarks (ms : List Bool) : List Bool := ms.map fun _ => false

variable [DecidableEq α]

/-- The rests with a marked rest after a front part that satisfies `p` up to a closing `stop`. -/
def pastMarks (p : α → Bool) (stop : α) (s : List α) (ms : List Bool) : List Bool :=
  runMarks p s (singleMarks (· == stop) s ms)

/-- The rests with a marked rest after a given front part, read with `eq`. -/
def restMarks (eq : α → α → Bool) (u s : List α) (ms : List Bool) : List Bool :=
  u.foldr (fun a ms => singleMarks (eq a) s ms) ms

omit [DecidableEq α]

theorem singleMarks_marks (p : α → Bool) (q : List α → Bool) (s : List α) :
    singleMarks p s (marks q s) = marks (fun r => (single p r).any q) s := by
  induction s with
  | nil => rfl
  | cons a s ih =>
    by_cases ha : p a = true <;> simp [singleMarks, marks, single, ih, ha]

theorem runMarks_marks (p : α → Bool) (q : List α → Bool) (s : List α) :
    runMarks p s (marks q s) = marks (fun r => (runs p r).any q) s := by
  induction s with
  | nil => simp [runMarks, marks, runs]
  | cons a s ih =>
    by_cases ha : p a = true <;> simp [runMarks, marks, runs, ih, ha]

theorem eitherMarks_marks (q q' : List α → Bool) (s : List α) :
    eitherMarks (marks q s) (marks q' s) = marks (fun r => q r || q' r) s := by
  induction s with
  | nil => rfl
  | cons a s ih => simpa [eitherMarks, marks] using ih

theorem noMarks_marks (q : List α → Bool) (s : List α) :
    noMarks (marks q s) = marks (fun _ => false) s := by
  induction s with
  | nil => rfl
  | cons a s ih => simpa [noMarks, marks] using ih

theorem restMarks_marks (eq : α → α → Bool) (q : List α → Bool) (u s : List α) :
    restMarks eq u s (marks q s) = marks (fun r => (rest eq u r).any q) s := by
  induction u with
  | nil =>
    have h : (fun r => (rest eq [] r).any q) = q := by
      funext r
      simp [rest]
    rw [h]
    rfl
  | cons a u ih =>
    have h : (fun r => (rest eq (a :: u) r).any q) =
        fun r => (single (eq a) r).any fun t => (rest eq u t).any q := by
      funext r
      cases r with
      | nil => rfl
      | cons b r => by_cases hb : eq a b = true <;> simp [rest, single, hb]
    rw [h, ← singleMarks_marks, ← ih]
    rfl

theorem pastMarks_marks [DecidableEq α] (p : α → Bool) (stop : α) (q : List α → Bool)
    (s : List α) :
    pastMarks p stop s (marks q s) = marks (fun r => (runsPast p stop r).any q) s := by
  rw [pastMarks, singleMarks_marks, runMarks_marks]
  congr 1
  funext r
  rw [runsPast, List.any_filterMap]
  congr 1
  funext t
  cases t with
  | nil => rfl
  | cons b t => by_cases hb : b = stop <;> simp [single, hb]

end ComponentScan.Text
