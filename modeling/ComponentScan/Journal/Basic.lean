import ComponentScan.Journal.Metric
import ComponentScan.Journal.Notice

/-!
# Journals

What a scan reports on the way to its result. The journal never decides anything: the result of
a step that reports does not depend on what was reported before it (`result_bind`).
-/

namespace ComponentScan

/-- An amount that was measured. A histogram counts its recordings. -/
structure Measure where
  metric : Metric
  /-- The value of the metric's label, if it has one. -/
  label : String := ""
  amount : Nat
  deriving Repr, DecidableEq

/-- The name of the series the amount belongs to. -/
def Measure.series (m : Measure) : String :=
  match m.metric.label? with
  | none => m.metric.name
  | some label => m.metric.name ++ "\x7b" ++ label ++ "=" ++ m.label ++ "\x7d"

/-- What was reported, in order. -/
structure Journal where
  notices : List Notice := []
  measures : List Measure := []
  deriving Repr, DecidableEq

namespace Journal

def append (a b : Journal) : Journal :=
  ⟨a.notices ++ b.notices, a.measures ++ b.measures⟩

instance : Append Journal := ⟨append⟩

/-- The total of each series, in the order of first measurement. -/
def totals (j : Journal) : List (String × Nat) :=
  (j.measures.map Measure.series).eraseDups.map fun s =>
    (s, ((j.measures.filter (·.series == s)).map Measure.amount).foldl Nat.add 0)

end Journal

/-- The result of a step, with what was reported on the way. -/
structure Reported (ε α : Type) where
  result : Except ε α
  journal : Journal := {}

namespace Reported

variable {ε α β : Type}

def pure (a : α) : Reported ε α := ⟨.ok a, {}⟩

/-- Reports and goes on. -/
def report (j : Journal) : Reported ε Unit := ⟨.ok (), j⟩

def bind (x : Reported ε α) (f : α → Reported ε β) : Reported ε β :=
  match x.result with
  | .ok a =>
    let y := f a
    ⟨y.result, x.journal ++ y.journal⟩
  | .error e => ⟨.error e, x.journal⟩

instance : Monad (Reported ε) where
  pure := pure
  bind := bind

/-- A step that reports nothing. -/
def ofExcept (r : Except ε α) : Reported ε α := ⟨r, {}⟩

@[simp]
theorem result_pure (a : α) : (Pure.pure a : Reported ε α).result = .ok a := rfl

@[simp]
theorem result_report (j : Journal) : (report j : Reported ε Unit).result = .ok () := rfl

@[simp]
theorem result_ofExcept (r : Except ε α) : (ofExcept r).result = r := rfl

@[simp]
theorem result_bind (x : Reported ε α) (f : α → Reported ε β) :
    (x >>= f).result = x.result >>= fun a => (f a).result := by
  change (bind x f).result = _
  unfold bind
  cases x.result <;> rfl

@[simp]
theorem journal_pure (a : α) : (Pure.pure a : Reported ε α).journal = {} := rfl

@[simp]
theorem journal_report (j : Journal) : (report j : Reported ε Unit).journal = j := rfl

/-- The second step reports after the first one. -/
theorem journal_bind {x : Reported ε α} {a : α} (h : x.result = .ok a) (f : α → Reported ε β) :
    (x >>= f).journal = x.journal ++ (f a).journal := by
  change (bind x f).journal = _
  rw [bind, h]

end Reported

end ComponentScan
