import ComponentScan.Text.Replace

/-!
# Pieces of a text

What the pieces of a text between its separators say about the text: a part without a separator
lies inside one piece (`exists_infix_piece`), and the last pieces are the pieces of a text that
begins behind a separator (`splitOn_suffix_iff`).
-/

namespace ComponentScan.Text

variable {α : Type} [DecidableEq α]

/-! ## One piece -/

theorem splitOn_eq_cons (s : α) (cs : List α) : ∃ p ps, cs.splitOn s = p :: ps :=
  List.exists_cons_of_ne_nil (List.splitOn_ne_nil s cs)

theorem splitOn_cons_self (s : α) (cs : List α) : (s :: cs).splitOn s = [] :: cs.splitOn s := by
  rw [List.splitOn_cons_eq_if_modifyHead, if_pos (beq_self_eq_true s)]

theorem splitOn_cons_of_ne {s c : α} (hc : c ≠ s) {cs p : List α} {ps : List (List α)}
    (h : cs.splitOn s = p :: ps) : (c :: cs).splitOn s = (c :: p) :: ps := by
  rw [List.splitOn_cons_eq_if_modifyHead, if_neg (by simpa using hc), h]
  rfl

theorem not_mem_of_mem_splitOn {s : α} {cs l : List α} (h : l ∈ cs.splitOn s) : s ∉ l := by
  induction cs generalizing l with
  | nil =>
    rw [List.splitOn_nil, List.mem_singleton] at h
    simp [h]
  | cons c cs ih =>
    obtain ⟨p, ps, hps⟩ := splitOn_eq_cons s cs
    rw [hps] at ih
    by_cases hc : c = s
    · subst hc
      rw [splitOn_cons_self, hps] at h
      rcases List.mem_cons.1 h with rfl | h
      · simp
      · exact ih h
    · rw [splitOn_cons_of_ne hc hps] at h
      rcases List.mem_cons.1 h with rfl | h
      · have hp := ih (l := p) (by simp)
        simp [Ne.symm hc, hp]
      · exact ih (List.mem_cons_of_mem p h)

/-- Induction on a text along its pieces. -/
theorem piece_induction (s : α) {P : List α → Prop} (last : ∀ u, s ∉ u → P u)
    (cut : ∀ u v, s ∉ u → P v → P (u ++ s :: v)) (cs : List α) : P cs := by
  induction hn : cs.length using Nat.strongRecOn generalizing cs with
  | ind n ih =>
    by_cases hs : s ∈ cs
    · obtain ⟨u, v, rfl, hu⟩ := List.eq_append_cons_of_mem hs
      refine cut u v hu (ih v.length ?_ v rfl)
      rw [List.length_append, List.length_cons] at hn
      omega
    · exact last cs hs

/-- A separator at an end of a text, or next to another one, leaves an empty piece. -/
theorem nil_mem_splitOn {s : α} {cs : List α} (h : [s] <+: cs ∨ [s] <:+ cs ∨ [s, s] <:+: cs) :
    [] ∈ cs.splitOn s := by
  rcases h with ⟨v, rfl⟩ | ⟨u, rfl⟩ | ⟨u, v, rfl⟩
  · rw [List.singleton_append, splitOn_cons_self]
    simp
  · rw [List.splitOn_append_cons_self]
    simp
  · rw [List.append_assoc, List.cons_append, List.splitOn_append_cons_self, List.singleton_append,
      splitOn_cons_self]
    simp

/-! ## Parts of a piece -/

theorem infix_of_mem_splitOn {s : α} {cs l : List α} (h : l ∈ cs.splitOn s) : l <:+: cs := by
  induction cs generalizing l with
  | nil =>
    rw [List.splitOn_nil, List.mem_singleton] at h
    simp [h]
  | cons c cs ih =>
    obtain ⟨p, ps, hps⟩ := splitOn_eq_cons s cs
    have hp : p <+: cs := by
      have hcs : [s].intercalate (cs.splitOn s) = cs := List.intercalate_splitOn s
      rw [hps] at hcs
      rw [← hcs]
      cases ps with
      | nil => simp
      | cons q qs => simp [List.intercalate_cons_cons, List.append_assoc]
    by_cases hc : c = s
    · subst hc
      rw [splitOn_cons_self] at h
      rcases List.mem_cons.1 h with rfl | h
      · exact List.nil_infix
      · exact (ih h).trans (List.suffix_cons c cs).isInfix
    · rw [splitOn_cons_of_ne hc hps] at h
      rcases List.mem_cons.1 h with rfl | h
      · exact (List.prefix_cons_inj c |>.2 hp).isInfix
      · exact (ih (hps ▸ List.mem_cons_of_mem p h)).trans (List.suffix_cons c cs).isInfix

/-- A part without a separator lies inside one piece. -/
theorem exists_infix_piece {s : α} {cs x : List α} (h : x <:+: cs) (hs : s ∉ x) :
    ∃ l ∈ cs.splitOn s, x <:+: l := by
  obtain ⟨u, v, rfl⟩ := h
  induction u with
  | nil =>
    -- the part begins the text, so its characters stand in the first piece
    suffices hx : ∃ p ps, (x ++ v).splitOn s = (x ++ p) :: ps by
      obtain ⟨p, ps, hps⟩ := hx
      exact ⟨x ++ p, by simp [hps], (List.prefix_append x p).isInfix⟩
    induction x with
    | nil => exact splitOn_eq_cons s v
    | cons c x ih =>
      obtain ⟨p, ps, hps⟩ := ih (fun h' => hs (List.mem_cons_of_mem c h'))
      have hc : c ≠ s := fun h' => hs (by simp [h'])
      exact ⟨p, ps, splitOn_cons_of_ne hc hps⟩
  | cons c u ih =>
    obtain ⟨l, hl, hxl⟩ := ih
    obtain ⟨p, ps, hps⟩ := splitOn_eq_cons s (u ++ x ++ v)
    rw [List.cons_append, List.cons_append]
    by_cases hc : c = s
    · subst hc
      rw [splitOn_cons_self]
      exact ⟨l, List.mem_cons_of_mem [] hl, hxl⟩
    · rw [splitOn_cons_of_ne hc hps]
      rw [hps] at hl
      rcases List.mem_cons.1 hl with rfl | hl
      · exact ⟨c :: l, by simp, hxl.trans (List.suffix_cons c l).isInfix⟩
      · exact ⟨l, by simp [hl], hxl⟩

/-! ## The last pieces -/

omit [DecidableEq α] in
theorem intercalate_append {s : α} {ls ms : List (List α)} (hl : ls ≠ []) (hm : ms ≠ []) :
    [s].intercalate (ls ++ ms) = [s].intercalate ls ++ s :: [s].intercalate ms := by
  induction ls with
  | nil => exact absurd rfl hl
  | cons l ls ih =>
    cases ls with
    | nil =>
      rw [List.singleton_append, List.intercalate_cons_of_ne_nil hm]
      simp
    | cons l' ls =>
      rw [List.cons_append, List.intercalate_cons_of_ne_nil (by simp), ih (by simp),
        List.intercalate_cons_of_ne_nil (List.cons_ne_nil l' ls)]
      simp only [List.append_assoc]

/-- The last pieces of a text are the pieces of the whole text, or of what follows one of its
separators. -/
theorem splitOn_suffix_iff {s : α} {cs r : List α} :
    r.splitOn s <:+ cs.splitOn s ↔ cs = r ∨ ∃ x, cs = x ++ s :: r := by
  constructor
  · rintro ⟨ls, hls⟩
    have hcs : [s].intercalate (ls ++ r.splitOn s) = cs := by
      rw [hls, List.intercalate_splitOn]
    by_cases hl : ls = []
    · rw [hl, List.nil_append, List.intercalate_splitOn] at hcs
      exact .inl hcs.symm
    · rw [intercalate_append hl (List.splitOn_ne_nil s r), List.intercalate_splitOn] at hcs
      exact .inr ⟨_, hcs.symm⟩
  · rintro (rfl | ⟨x, rfl⟩)
    · exact List.suffix_refl _
    · rw [List.splitOn_append_cons_self]
      exact List.suffix_append _ _

/-! ## Searching -/

theorem occursIn_iff {part cs : List Char} : occursIn part cs = true ↔ part <:+: cs := by
  induction cs with
  | nil => simp [occursIn, List.infix_nil]
  | cons c cs ih => simp [occursIn, List.infix_cons_iff, ih]

theorem contains_iff {s part : String} :
    contains s part = true ↔ part.toList <:+: s.toList :=
  occursIn_iff

end ComponentScan.Text
