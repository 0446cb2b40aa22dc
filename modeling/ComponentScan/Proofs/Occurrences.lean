import Mathlib.Data.List.Induction
import Mathlib.Data.List.Nodup

/-!
# First occurrences

A list without its repetitions, where every element stands at its first occurrence. What counts as
a repetition may be told by a comparison.
-/

namespace ComponentScan

variable {α : Type} [DecidableEq α]

theorem eraseDups_concat (l : List α) (a : α) :
    (l ++ [a]).eraseDups = if a ∈ l then l.eraseDups else l.eraseDups ++ [a] := by
  rw [List.eraseDups_append]
  by_cases h : a ∈ l <;> simp [List.removeAll, h, List.eraseDups_cons]

theorem nodup_eraseDups (l : List α) : l.eraseDups.Nodup := by
  induction l using List.reverseRecOn with
  | nil => exact List.nodup_nil
  | append_singleton l a ih =>
    rw [eraseDups_concat]
    split
    · exact ih
    · rename_i h
      exact ih.append (List.nodup_singleton a) (by simpa using h)

/-! ## Up to a comparison -/

section Comparison

variable {β : Type} (same : β → β → Bool)

theorem eraseDupsBy_loop_append (l l' seen : List β) :
    List.eraseDupsBy.loop same (l ++ l') seen =
      List.eraseDupsBy.loop same l' (List.eraseDupsBy.loop same l seen).reverse := by
  induction l generalizing seen with
  | nil => simp [List.eraseDupsBy.loop]
  | cons a l ih =>
    rw [List.cons_append, List.eraseDupsBy.loop, List.eraseDupsBy.loop]
    split
    · exact ih seen
    · exact ih (a :: seen)

theorem eraseDupsBy_concat (l : List β) (a : β) :
    (l ++ [a]).eraseDupsBy same =
      if (l.eraseDupsBy same).any (same a) then l.eraseDupsBy same
      else l.eraseDupsBy same ++ [a] := by
  rw [List.eraseDupsBy, eraseDupsBy_loop_append, ← List.eraseDupsBy, List.eraseDupsBy.loop,
    List.any_reverse]
  cases (l.eraseDupsBy same).any (same a) <;> simp [List.eraseDupsBy.loop]

end Comparison

end ComponentScan
