import ComponentScan.Text.Replace
import Mathlib.Data.List.Infix

/-!
# Replacing inside a text

A text is read from its left end: it is empty, begins with an occurrence of the text that is
replaced, or keeps its first character (`replace_induction`). Replacing leaves nothing exactly
when the text is made of occurrences, all of them replaced by the empty text
(`replace_eq_empty_iff`). Where the text that is replaced cannot overlap itself, it is replaced
at every place where it stands (`length_replaceFrom`), and on both sides of a place separately
(`replaceFrom_around`).
-/

namespace ComponentScan.Text

variable {old new cs : List Char} {c : Char}

/-! ## From the left end -/

theorem replaceFrom_eq_drop (old new : List Char) (skip : Nat) (cs : List Char) :
    replaceFrom old new skip cs = replaceFrom old new 0 (cs.drop skip) := by
  induction skip generalizing cs with
  | zero => rfl
  | succ skip ih =>
    cases cs with
    | nil => rfl
    | cons c cs => exact ih cs

theorem replaceFrom_append (h : old ≠ []) (new cs : List Char) :
    replaceFrom old new 0 (old ++ cs) = new ++ replaceFrom old new 0 cs := by
  obtain ⟨c, rest, rfl⟩ := List.exists_cons_of_ne_nil h
  have hprefix : (c :: rest).isPrefixOf (c :: (rest ++ cs)) = true :=
    List.isPrefixOf_iff_prefix.2 (List.prefix_append _ _)
  rw [List.cons_append, replaceFrom, if_pos hprefix, replaceFrom_eq_drop]
  simp

theorem replaceFrom_cons (h : ¬ old <+: c :: cs) (new : List Char) :
    replaceFrom old new 0 (c :: cs) = c :: replaceFrom old new 0 cs := by
  rw [replaceFrom, if_neg (by rwa [List.isPrefixOf_iff_prefix])]

/-- Induction on a text along the occurrences that are replaced in it. -/
theorem replace_induction {P : List Char → Prop} (hne : old ≠ []) (nil : P [])
    (found : ∀ cs, P cs → P (old ++ cs))
    (kept : ∀ c cs, ¬ old <+: c :: cs → P cs → P (c :: cs)) (cs : List Char) : P cs := by
  induction hn : cs.length using Nat.strongRecOn generalizing cs with
  | ind n ih =>
    cases cs with
    | nil => exact nil
    | cons c cs =>
      by_cases h : old <+: c :: cs
      · obtain ⟨rest, hrest⟩ := h
        have hold := List.length_pos_iff.2 hne
        have hlength := congrArg List.length hrest
        rw [List.length_append, hn] at hlength
        exact hrest ▸ found rest (ih rest.length (by omega) rest rfl)
      · exact kept c cs h (ih cs.length (by simp [← hn]) cs rfl)

/-- A character is replaced by another wherever it stands. -/
theorem replaceFrom_singleton (a b : Char) (cs : List Char) :
    replaceFrom [a] [b] 0 cs = cs.map fun c => if c = a then b else c := by
  induction cs with
  | nil => rfl
  | cons c cs ih =>
    by_cases hc : c = a
    · subst hc
      have hfound := replaceFrom_append (List.cons_ne_nil c []) [b] cs
      rw [List.singleton_append, List.singleton_append, ih] at hfound
      rw [hfound, List.map_cons, if_pos rfl]
    · have hkept : ¬ [a] <+: c :: cs := fun h => hc (List.cons_prefix_cons.1 h).1.symm
      rw [replaceFrom_cons hkept, ih, List.map_cons, if_neg hc]

/-! ## Nothing is left -/

theorem replaceFrom_eq_nil_iff (hne : old ≠ []) :
    replaceFrom old new 0 cs = [] ↔
      ∃ n, cs = (List.replicate n old).flatten ∧ (n = 0 ∨ new = []) := by
  constructor
  · intro h
    induction cs using replace_induction hne with
    | nil => exact ⟨0, rfl, .inl rfl⟩
    | found cs ih =>
      rw [replaceFrom_append hne, List.append_eq_nil_iff] at h
      obtain ⟨n, rfl, -⟩ := ih h.2
      exact ⟨n + 1, by simp [List.replicate_succ], .inr h.1⟩
    | kept c cs hc ih =>
      rw [replaceFrom_cons hc] at h
      cases h
  · rintro ⟨n, rfl, h⟩
    induction n with
    | zero => rfl
    | succ n ih =>
      have hnew : new = [] := h.resolve_left (Nat.succ_ne_zero n)
      rw [List.replicate_succ, List.flatten_cons, replaceFrom_append hne, ih (.inr hnew), hnew]
      rfl

/-- Replacing leaves nothing of a text exactly when the text is a run of occurrences, and the run
is empty or they are replaced by nothing. -/
theorem replace_eq_empty_iff {s old new : String} (hne : old ≠ "") :
    replace s old new = "" ↔ ∃ n, s = String.join (List.replicate n old) ∧ (n = 0 ∨ new = "") := by
  rw [replace, String.ofList_eq_empty_iff,
    replaceFrom_eq_nil_iff (by simpa [String.toList_eq_nil_iff] using hne)]
  refine exists_congr fun n => and_congr ?_ (or_congr_right String.toList_eq_nil_iff)
  rw [← String.toList_inj, String.toList_join, List.flatMap_replicate]

/-! ## Texts that cannot overlap themselves -/

/-- The number of places where `part` stands in a text. -/
def places (part cs : List Char) : Nat :=
  cs.tails.countP part.isPrefixOf

/-- A text whose first character does not stand in it again. -/
def BeginsOnce (part : List Char) : Prop :=
  ∃ c rest, part = c :: rest ∧ c ∉ rest

theorem BeginsOnce.ne_nil (h : BeginsOnce old) : old ≠ [] := by
  obtain ⟨c, rest, rfl, -⟩ := h
  exact List.cons_ne_nil c rest

theorem places_nil (hne : old ≠ []) : places old [] = 0 := by
  simp [places, hne]

theorem places_cons_kept (h : ¬ old <+: c :: cs) :
    places old (c :: cs) = places old cs := by
  rw [places, List.tails_cons, List.countP_cons_of_neg (by rwa [List.isPrefixOf_iff_prefix])]
  rfl

theorem places_cons_found (h : old <+: c :: cs) :
    places old (c :: cs) = places old cs + 1 := by
  rw [places, List.tails_cons, List.countP_cons_of_pos (by rwa [List.isPrefixOf_iff_prefix])]
  rfl

/-- A text does not begin where its first character does not stand. -/
theorem places_append_of_not_mem {rest u v : List Char} (h : c ∉ u) :
    places (c :: rest) (u ++ v) = places (c :: rest) v := by
  induction u with
  | nil => rfl
  | cons x u ih =>
    rw [List.mem_cons, not_or] at h
    have hprefix : ¬ (c :: rest) <+: x :: (u ++ v) := fun hp => h.1 (List.cons_prefix_cons.1 hp).1
    rw [List.cons_append, places_cons_kept hprefix, ih h.2]

theorem places_append (h : BeginsOnce old) (cs : List Char) :
    places old (old ++ cs) = places old cs + 1 := by
  obtain ⟨c, rest, rfl, hc⟩ := h
  have hprefix : (c :: rest) <+: c :: (rest ++ cs) := List.prefix_append (c :: rest) cs
  rw [List.cons_append, places_cons_found hprefix, places_append_of_not_mem hc]

/-- In front of a place of the text, it stands as if nothing followed. -/
theorem BeginsOnce.prefix_append_iff (h : BeginsOnce old) {u : List Char} (hne : u ≠ [])
    (v : List Char) : old <+: u ++ (old ++ v) ↔ old <+: u := by
  refine ⟨fun hp => ?_, fun hp => hp.trans (List.prefix_append _ _)⟩
  rcases Nat.le_total old.length u.length with hlength | hlength
  · exact List.prefix_of_prefix_length_le hp (List.prefix_append _ _) hlength
  · -- what reaches into the place would begin a second time there
    obtain ⟨w, hw⟩ := List.prefix_of_prefix_length_le (List.prefix_append u _) hp hlength
    obtain ⟨t, ht⟩ := hp
    obtain ⟨c, rest, hold, hc⟩ := h
    cases w with
    | nil => exact ⟨[], by rw [List.append_nil, ← hw, List.append_nil]⟩
    | cons x w =>
      have hbegin : x :: (w ++ t) = old ++ v := by
        refine (List.append_right_inj u).1 ?_
        rw [← ht, ← hw, List.append_assoc, List.cons_append]
      obtain ⟨y, u, rfl⟩ := List.exists_cons_of_ne_nil hne
      rw [hold, List.cons_append] at hbegin hw
      obtain ⟨rfl, -⟩ := List.cons.inj hbegin
      obtain ⟨-, rfl⟩ := List.cons.inj hw
      exact absurd (by simp) hc

/-- Both sides of a place are replaced on their own. -/
theorem replaceFrom_around (h : BeginsOnce old) (new u v : List Char) :
    replaceFrom old new 0 (u ++ (old ++ v)) =
      replaceFrom old new 0 u ++ (new ++ replaceFrom old new 0 v) := by
  induction u using replace_induction h.ne_nil with
  | nil => exact replaceFrom_append h.ne_nil new v
  | found u ih => rw [List.append_assoc, replaceFrom_append h.ne_nil, ih,
      replaceFrom_append h.ne_nil, List.append_assoc]
  | kept c u hc ih =>
    have hc' := mt (h.prefix_append_iff (List.cons_ne_nil c u) v).1 hc
    rw [List.cons_append] at hc' ⊢
    rw [replaceFrom_cons hc', ih, replaceFrom_cons hc, List.cons_append]

theorem places_around (h : BeginsOnce old) (u v : List Char) :
    places old (u ++ (old ++ v)) = places old u + (places old v + 1) := by
  induction u with
  | nil => rw [places_nil h.ne_nil, List.nil_append, places_append h, Nat.zero_add]
  | cons c u ih =>
    have hiff := h.prefix_append_iff (List.cons_ne_nil c u) v
    rw [List.cons_append] at hiff ⊢
    by_cases hc : old <+: c :: u
    · rw [places_cons_found (hiff.2 hc), ih, places_cons_found hc]
      omega
    · rw [places_cons_kept (mt hiff.1 hc), ih, places_cons_kept hc]

/-- Every place is replaced. -/
theorem length_replaceFrom (h : BeginsOnce old) (new cs : List Char) :
    (replaceFrom old new 0 cs).length + old.length * places old cs =
      cs.length + new.length * places old cs := by
  induction cs using replace_induction h.ne_nil with
  | nil => simp [places_nil h.ne_nil, replaceFrom]
  | found cs ih =>
    rw [replaceFrom_append h.ne_nil, places_append h, List.length_append, List.length_append,
      Nat.mul_add_one, Nat.mul_add_one]
    omega
  | kept c cs hc ih =>
    rw [replaceFrom_cons hc, places_cons_kept hc, List.length_cons, List.length_cons]
    omega

/-- Replacing changes nothing exactly when there is nothing to replace, or it is replaced by
itself. -/
theorem replaceFrom_eq_self_iff (h : BeginsOnce old) :
    replaceFrom old new 0 cs = cs ↔ places old cs = 0 ∨ new = old := by
  induction cs using replace_induction h.ne_nil with
  | nil => simp [places_nil h.ne_nil, replaceFrom]
  | found cs ih =>
    rw [replaceFrom_append h.ne_nil, places_append h]
    constructor
    · intro heq
      have hlength := length_replaceFrom h new (old ++ cs)
      rw [replaceFrom_append h.ne_nil, heq, places_append h, Nat.add_left_cancel_iff] at hlength
      have hlength := Nat.eq_of_mul_eq_mul_right (Nat.succ_pos _) hlength
      exact .inr (List.append_inj heq hlength.symm).1
    · rintro (hzero | rfl)
      · cases hzero
      · rw [ih.2 (.inr rfl)]
  | kept c cs hc ih =>
    rw [replaceFrom_cons hc, places_cons_kept hc, List.cons_inj_right, ih]

end ComponentScan.Text
