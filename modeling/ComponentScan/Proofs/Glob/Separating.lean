import ComponentScan.Glob.Listing

/-!
# Separating a list

A text that is joined to others by commas is read back as one piece exactly if no comma of its own
separates and the separator scan leaves it outside of everything. The last text may leave the scan
anywhere (`splitList_intercalate_iff`).
-/

namespace ComponentScan.Glob

variable {st st' : SplitState} {c : Char} {cs rest : List Char}

/-! ## Pieces -/

theorem splitFrom_ne_nil (st : SplitState) (cs : List Char) : splitFrom st cs ≠ [] := by
  induction cs generalizing st with
  | nil => simp [splitFrom]
  | cons c cs ih =>
    rw [splitFrom]
    split
    · simp
    · split <;> simp

/-- A character that does not separate lengthens the first piece. -/
theorem splitFrom_cons (h : ¬ (c = ',' ∧ st = .outside 0)) (cs : List Char) :
    splitFrom st (c :: cs) = (splitFrom (st.next c) cs).modifyHead (c :: ·) := by
  rw [splitFrom, if_neg h]
  split
  · rename_i hnil
    exact absurd hnil (splitFrom_ne_nil _ _)
  · rename_i hcons
    rw [hcons]
    rfl

theorem splitFrom_cons_eq_cons_iff (h : ¬ (c = ',' ∧ st = .outside 0)) {piece : List Char}
    {pieces : List (List Char)} :
    splitFrom st (c :: rest) = (c :: piece) :: pieces ↔
      splitFrom (st.next c) rest = piece :: pieces := by
  rw [splitFrom_cons h]
  obtain ⟨p, ps, hp⟩ := List.exists_cons_of_ne_nil (splitFrom_ne_nil (st.next c) rest)
  rw [hp, List.modifyHead_cons]
  simp

theorem mem_of_mem_splitFrom {piece : List Char} (h : piece ∈ splitFrom st cs) {x : Char}
    (hx : x ∈ piece) : x ∈ cs := by
  induction cs generalizing st piece with
  | nil =>
    rw [splitFrom, List.mem_singleton] at h
    exact h ▸ hx
  | cons c cs ih =>
    by_cases hc : c = ',' ∧ st = .outside 0
    · rw [splitFrom, if_pos hc] at h
      rcases List.mem_cons.1 h with rfl | h
      · cases hx
      · exact List.mem_cons_of_mem c (ih h hx)
    · obtain ⟨p, ps, hp⟩ := List.exists_cons_of_ne_nil (splitFrom_ne_nil (st.next c) cs)
      rw [splitFrom_cons hc, hp, List.modifyHead_cons] at h
      rcases List.mem_cons.1 h with rfl | h
      · rcases List.mem_cons.1 hx with rfl | hx
        · exact List.mem_cons_self
        · exact List.mem_cons_of_mem c (ih (hp ▸ List.mem_cons_self) hx)
      · exact List.mem_cons_of_mem c (ih (hp ▸ List.mem_cons_of_mem p h) hx)

theorem intercalate_splitFrom (st : SplitState) (cs : List Char) :
    [','].intercalate (splitFrom st cs) = cs := by
  induction cs generalizing st with
  | nil => rfl
  | cons c cs ih =>
    by_cases h : c = ',' ∧ st = .outside 0
    · obtain ⟨p, ps, hp⟩ := List.exists_cons_of_ne_nil (splitFrom_ne_nil st cs)
      rw [splitFrom, if_pos h, hp, List.intercalate_cons_cons, ← hp, ih, h.1]
      rfl
    · obtain ⟨p, ps, hp⟩ := List.exists_cons_of_ne_nil (splitFrom_ne_nil (st.next c) cs)
      have hcs := ih (st.next c)
      rw [hp] at hcs
      rw [splitFrom_cons h, hp, List.modifyHead_cons]
      cases ps with
      | nil => simpa using hcs
      | cons p' ps =>
        rw [List.intercalate_cons_cons] at hcs ⊢
        rw [List.cons_append, List.cons_append, hcs]

/-! ## The scan of a text -/

/-- Where a separator scan stands after a text, if no comma of the text separates. -/
def SplitState.after? (st : SplitState) : List Char → Option SplitState
  | [] => some st
  | c :: cs => if c = ',' ∧ st = .outside 0 then none else (st.next c).after? cs

theorem after?_cons (h : ¬ (c = ',' ∧ st = .outside 0)) (cs : List Char) :
    st.after? (c :: cs) = (st.next c).after? cs :=
  if_neg h

theorem after?_append (st : SplitState) (cs ds : List Char) :
    st.after? (cs ++ ds) = (st.after? cs).bind (·.after? ds) := by
  induction cs generalizing st with
  | nil => rfl
  | cons c cs ih =>
    rw [List.cons_append, SplitState.after?, SplitState.after?]
    split
    · rfl
    · exact ih _

/-- A text without separating commas stands inside one piece. -/
theorem splitFrom_append (h : st.after? cs = some st') (rest : List Char) :
    splitFrom st (cs ++ rest) = (splitFrom st' rest).modifyHead (cs ++ ·) := by
  induction cs generalizing st with
  | nil =>
    obtain rfl : st = st' := Option.some.inj h
    exact (congrFun List.modifyHead_id _).symm
  | cons c cs ih =>
    rw [SplitState.after?] at h
    split at h
    · cases h
    · rename_i hc
      rw [List.cons_append, splitFrom_cons hc, ih h, List.modifyHead_modifyHead]
      rfl

theorem splitFrom_eq_singleton_iff : splitFrom st cs = [cs] ↔ st.after? cs ≠ none := by
  induction cs generalizing st with
  | nil => simp [splitFrom, SplitState.after?]
  | cons c cs ih =>
    by_cases h : c = ',' ∧ st = .outside 0
    · simp [splitFrom, SplitState.after?, h]
    · rw [splitFrom_cons_eq_cons_iff h, ih, after?_cons h]

theorem splitFrom_comma_eq_cons_iff {pieces : List (List Char)} :
    splitFrom st (cs ++ ',' :: rest) = cs :: pieces ↔
      st.after? cs = some (.outside 0) ∧ splitFrom (.outside 0) rest = pieces := by
  induction cs generalizing st with
  | nil =>
    by_cases h : st = .outside 0
    · simp [splitFrom, SplitState.after?, h]
    · obtain ⟨p, ps, hp⟩ := List.exists_cons_of_ne_nil (splitFrom_ne_nil (st.next ',') rest)
      rw [List.nil_append, splitFrom_cons (by simp [h]), hp]
      simp [SplitState.after?, h]
  | cons c cs ih =>
    by_cases h : c = ',' ∧ st = .outside 0
    · simp [splitFrom, SplitState.after?, h]
    · rw [List.cons_append, splitFrom_cons_eq_cons_iff h, ih, after?_cons h]

/-! ## Texts in a list -/

/-- Which texts a list gives back as they were joined. -/
theorem splitList_intercalate_iff {texts : List (List Char)} (hne : texts ≠ []) :
    splitList ([','].intercalate texts) = texts ↔
      (∀ t ∈ texts.dropLast, (SplitState.outside 0).after? t = some (.outside 0)) ∧
        ∀ t ∈ texts.getLast?, (SplitState.outside 0).after? t ≠ none := by
  induction texts with
  | nil => exact absurd rfl hne
  | cons t texts ih =>
    cases texts with
    | nil =>
      rw [List.intercalate_singleton, splitList, splitFrom_eq_singleton_iff]
      simp
    | cons u texts =>
      have hrest := ih (List.cons_ne_nil u texts)
      rw [splitList] at hrest ⊢
      rw [List.intercalate_cons_cons, List.append_assoc, List.singleton_append,
        splitFrom_comma_eq_cons_iff, hrest, List.dropLast_cons_cons, List.forall_mem_cons,
        List.getLast?_cons_cons, and_assoc]

/-- Texts after which the scan is where it was are given back. -/
theorem splitList_intercalate {texts : List (List Char)} (hne : texts ≠ [])
    (h : ∀ t ∈ texts, (SplitState.outside 0).after? t = some (.outside 0)) :
    splitList ([','].intercalate texts) = texts := by
  refine (splitList_intercalate_iff hne).2 ⟨fun t ht => h t (List.dropLast_subset _ ht), ?_⟩
  intro t ht
  rw [h t (List.mem_of_getLast? ht)]
  exact Option.some_ne_none _

end ComponentScan.Glob
