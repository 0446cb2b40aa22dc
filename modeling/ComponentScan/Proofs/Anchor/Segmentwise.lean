import ComponentScan.Proofs.Glob.Matching
import ComponentScan.Proofs.Path.Segments

/-!
# Anchors segment by segment

What an anchor means, without globs: the last segments of a path are instances of the anchor's
segments, one by one. As a star stays inside a segment, a text is an instance of an anchor exactly
when this holds of all their segments (`namesFit_of_starFits`, `starFits_of_namesFit`).
-/

namespace ComponentScan.AnchorPattern

open ComponentScan.Glob ComponentScan.Path ComponentScan.Text

/-! ## The meaning of an anchor -/

/-- Whether a name is an instance of a pattern: a star stands for any text, and every other
character for itself. -/
def nameFits : List Char → List Char → Bool
  | [], name => name.isEmpty
  | c :: pattern, name =>
    if c = '*' then (List.range (name.length + 1)).any fun n => nameFits pattern (name.drop n)
    else
      match name with
      | [] => false
      | d :: rest => d == c && nameFits pattern rest

/-- Whether names are instances of patterns, one by one. -/
def namesFit : List (List Char) → List (List Char) → Bool
  | [], [] => true
  | pattern :: patterns, name :: names => nameFits pattern name && namesFit patterns names
  | _, _ => false

/-- Whether the last segments of a path are instances of the segments of an anchor. -/
def segmentsFit (anchor path : List (List Char)) : Bool :=
  anchor.length ≤ path.length && namesFit anchor (path.drop (path.length - anchor.length))

/-! ## Names -/

@[simp]
theorem nameFits_nil {name : List Char} : nameFits [] name = true ↔ name = [] := by
  simp [nameFits]

theorem nameFits_star {pattern name : List Char} :
    nameFits ('*' :: pattern) name = true ↔ ∃ u t, name = u ++ t ∧ nameFits pattern t = true := by
  simp only [nameFits, if_true, List.any_eq_true, List.mem_range]
  constructor
  · rintro ⟨n, -, h⟩
    exact ⟨name.take n, name.drop n, (List.take_append_drop n name).symm, h⟩
  · rintro ⟨u, t, rfl, h⟩
    refine ⟨u.length, ?_, by simpa using h⟩
    rw [List.length_append]
    omega

theorem nameFits_cons {c : Char} (hc : c ≠ '*') {pattern name : List Char} :
    nameFits (c :: pattern) name = true ↔
      ∃ t, name = c :: t ∧ nameFits pattern t = true := by
  cases name with
  | nil => simp [nameFits, hc]
  | cons d t =>
    simp only [nameFits, if_neg hc]
    rw [Bool.and_eq_true, beq_iff_eq]
    constructor
    · rintro ⟨rfl, h⟩
      exact ⟨t, rfl, h⟩
    · rintro ⟨t', ht, h⟩
      obtain ⟨rfl, rfl⟩ := List.cons.inj ht
      exact ⟨rfl, h⟩

/-- A pattern without a star has one instance. -/
theorem nameFits_literal {pattern name : List Char} (h : '*' ∉ pattern) :
    nameFits pattern name = true ↔ name = pattern := by
  induction pattern generalizing name with
  | nil => exact nameFits_nil
  | cons c pattern ih =>
    have hc : c ≠ '*' := fun h' => h (by simp [h'])
    rw [nameFits_cons hc]
    constructor
    · rintro ⟨t, rfl, ht⟩
      rw [(ih fun h' => h (List.mem_cons_of_mem c h')).1 ht]
    · rintro rfl
      exact ⟨pattern, rfl, (ih fun h' => h (List.mem_cons_of_mem c h')).2 rfl⟩

theorem namesFit_cons {pattern name : List Char} {patterns names : List (List Char)} :
    namesFit (pattern :: patterns) (name :: names) = true ↔
      nameFits pattern name = true ∧ namesFit patterns names = true := by
  rw [namesFit, Bool.and_eq_true]

theorem namesFit_length {patterns names : List (List Char)} (h : namesFit patterns names = true) :
    patterns.length = names.length := by
  induction patterns generalizing names with
  | nil =>
    cases names with
    | nil => rfl
    | cons => simp [namesFit] at h
  | cons p ps ih =>
    cases names with
    | nil => simp [namesFit] at h
    | cons n ns => rw [List.length_cons, List.length_cons, ih (namesFit_cons.1 h).2]

theorem namesFit_literal {patterns names : List (List Char)} (h : ∀ p ∈ patterns, '*' ∉ p) :
    namesFit patterns names = true ↔ names = patterns := by
  induction patterns generalizing names with
  | nil => cases names <;> simp [namesFit]
  | cons p ps ih =>
    cases names with
    | nil => simp [namesFit]
    | cons n ns =>
      rw [namesFit_cons, nameFits_literal (h p (by simp)),
        ih fun q hq => h q (List.mem_cons_of_mem p hq), List.cons.injEq]

/-- A name is an instance of itself: a star stands for a star too. -/
theorem nameFits_self (name : List Char) : nameFits name name = true := by
  induction name with
  | nil => rfl
  | cons c name ih =>
    by_cases hc : c = '*'
    · subst hc
      exact nameFits_star.2 ⟨['*'], name, rfl, ih⟩
    · exact (nameFits_cons hc).2 ⟨name, rfl, ih⟩

theorem namesFit_self (names : List (List Char)) : namesFit names names = true := by
  induction names with
  | nil => rfl
  | cons n ns ih => exact namesFit_cons.2 ⟨nameFits_self n, ih⟩

/-! ## Whole texts and their segments -/

/-- A text in front of another one lengthens its first segment. -/
theorem splitOn_append_of_not_mem {u s t : List Char} {ts : List (List Char)} (hu : '/' ∉ u)
    (h : s.splitOn '/' = t :: ts) : (u ++ s).splitOn '/' = (u ++ t) :: ts := by
  induction u with
  | nil => exact h
  | cons c u ih =>
    have hc : c ≠ '/' := fun h' => hu (by simp [h'])
    exact splitOn_cons_of_ne hc (ih fun h' => hu (List.mem_cons_of_mem c h'))

/-- The front of the first segment is the front of the text. -/
theorem eq_append_of_splitOn {u s t : List Char} {ts : List (List Char)}
    (h : s.splitOn '/' = (u ++ t) :: ts) : ∃ s', s = u ++ s' ∧ s'.splitOn '/' = t :: ts := by
  have hno : ∀ n ∈ t :: ts, '/' ∉ n := by
    intro n hn
    rcases List.mem_cons.1 hn with rfl | hn
    · have hut : '/' ∉ u ++ n := not_mem_of_mem_splitOn (h ▸ List.mem_cons_self)
      exact fun h' => hut (List.mem_append_right u h')
    · exact not_mem_of_mem_splitOn (h ▸ List.mem_cons_of_mem _ hn)
  refine ⟨ofNames (t :: ts), ?_, splitOn_ofNames hno (by simp)⟩
  rw [← ofNames_splitOn s, h]
  cases ts with
  | nil => simp [ofNames, List.intercalate_singleton]
  | cons t' ts => simp [ofNames, List.intercalate_cons_cons, List.append_assoc]

/-- An empty first segment that is not the only one is a slash at the front. -/
theorem eq_slash_cons_of_splitOn {s : List Char} {ts : List (List Char)}
    (h : s.splitOn '/' = [] :: ts) (hne : ts ≠ []) :
    ∃ s', s = '/' :: s' ∧ s'.splitOn '/' = ts := by
  have hno : ∀ n ∈ ts, '/' ∉ n := fun n hn =>
    not_mem_of_mem_splitOn (h ▸ List.mem_cons_of_mem _ hn)
  refine ⟨ofNames ts, ?_, splitOn_ofNames hno hne⟩
  rw [← ofNames_splitOn s, h]
  exact List.intercalate_cons_of_ne_nil hne

theorem namesFit_of_starFits {p s : List Char} (hp : NoCapitals p) (hs : NoCapitals s)
    (h : StarFits p s) : namesFit (p.splitOn '/') (s.splitOn '/') = true := by
  induction h with
  | nil => rfl
  | @star p u s hu _ ih =>
    have ih := ih hp.tail (hs.suffix (List.suffix_append u s))
    obtain ⟨q, qs, hq⟩ := splitOn_eq_cons '/' p
    obtain ⟨t, ts, ht⟩ := splitOn_eq_cons '/' s
    rw [hq, ht, namesFit_cons] at ih
    rw [splitOn_cons_of_ne (by decide) hq, splitOn_append_of_not_mem hu ht, namesFit_cons]
    exact ⟨nameFits_star.2 ⟨u, t, rfl, ih.1⟩, ih.2⟩
  | @char c d p s hc hd _ ih =>
    have ih := ih hp.tail hs.tail
    rw [asciiLower_of_not_capital hp.head, asciiLower_of_not_capital hs.head] at hd
    subst hd
    by_cases hslash : d = '/'
    · subst hslash
      rw [splitOn_cons_self, splitOn_cons_self, namesFit_cons]
      exact ⟨rfl, ih⟩
    · obtain ⟨q, qs, hq⟩ := splitOn_eq_cons '/' p
      obtain ⟨t, ts, ht⟩ := splitOn_eq_cons '/' s
      rw [hq, ht, namesFit_cons] at ih
      rw [splitOn_cons_of_ne hslash hq, splitOn_cons_of_ne hslash ht, namesFit_cons]
      exact ⟨(nameFits_cons hc).2 ⟨t, rfl, ih.1⟩, ih.2⟩

theorem starFits_of_namesFit {p s : List Char}
    (h : namesFit (p.splitOn '/') (s.splitOn '/') = true) : StarFits p s := by
  induction p generalizing s with
  | nil =>
    obtain ⟨t, ts, ht⟩ := splitOn_eq_cons '/' s
    rw [List.splitOn_nil, ht, namesFit_cons, nameFits_nil] at h
    obtain ⟨rfl, hts⟩ := h
    cases ts with
    | nil =>
      have hnil : s = [] := by rw [← ofNames_splitOn s, ht]; rfl
      exact hnil ▸ .nil
    | cons => simp [namesFit] at hts
  | cons c p ih =>
    obtain ⟨q, qs, hq⟩ := splitOn_eq_cons '/' p
    obtain ⟨t, ts, ht⟩ := splitOn_eq_cons '/' s
    by_cases hslash : c = '/'
    · -- the slash ends a name of the anchor, so it ends one of the text
      subst hslash
      rw [splitOn_cons_self, ht, namesFit_cons, nameFits_nil] at h
      obtain ⟨rfl, hts⟩ := h
      have hne : ts ≠ [] := by
        rintro rfl
        rw [hq] at hts
        simp [namesFit] at hts
      obtain ⟨s', rfl, hs'⟩ := eq_slash_cons_of_splitOn ht hne
      exact .char (by decide) rfl (ih (hs' ▸ hts))
    · rw [splitOn_cons_of_ne hslash hq, ht, namesFit_cons] at h
      by_cases hc : c = '*'
      · subst hc
        obtain ⟨u, t', rfl, ht'⟩ := nameFits_star.1 h.1
        obtain ⟨s', rfl, hs'⟩ := eq_append_of_splitOn ht
        have hu : '/' ∉ u := fun h' =>
          not_mem_of_mem_splitOn (s := '/') (ht ▸ List.mem_cons_self) (List.mem_append_left t' h')
        have hfit : namesFit (p.splitOn '/') (s'.splitOn '/') = true := by
          rw [hq, hs', namesFit_cons]
          exact ⟨ht', h.2⟩
        exact .star hu (ih hfit)
      · obtain ⟨t', rfl, ht'⟩ := (nameFits_cons hc).1 h.1
        obtain ⟨s', rfl, hs'⟩ := eq_append_of_splitOn (u := [c]) ht
        have hfit : namesFit (p.splitOn '/') (s'.splitOn '/') = true := by
          rw [hq, hs', namesFit_cons]
          exact ⟨ht', h.2⟩
        exact .char hc rfl (ih hfit)

end ComponentScan.AnchorPattern
