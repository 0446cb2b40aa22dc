import ComponentScan.Proofs.Anchor.Segmentwise

/-!
# What a compiled anchor accepts

An anchor without two stars in a row compiles once it is normalized and folded. Its filter, its
literal text and its glob then agree on one meaning: the last segments of the path are instances
of the segments of the anchor (`accepts_compiled`).
-/

namespace ComponentScan.AnchorPattern

open ComponentScan.Glob ComponentScan.Path ComponentScan.Text

/-! ## Anchors that compile -/

/-- What normalization and folding leave of an anchor that passed its check. -/
structure IsReady (anchor : List Char) : Prop where
  noBackslash : '\\' ∉ anchor
  noStars : ¬ ['*', '*'] <:+: anchor
  noCapitals : NoCapitals anchor

/-- Folding does not bring two stars together. -/
theorem stars_of_infix_foldChars {cs : List Char} (h : ['*', '*'] <:+: foldChars cs) :
    ['*', '*'] <:+: cs := by
  obtain ⟨x, y, hxy⟩ := h
  have hfirst : foldChars cs = x ++ '*' :: '*' :: y := by simp [← hxy]
  obtain ⟨u, v, rfl, -, hv⟩ := foldChars_eq_append_cons isSeparator_star hfirst
  have hsecond : foldChars v = [] ++ '*' :: y := hv
  obtain ⟨u', v', rfl, hu', -⟩ := foldChars_eq_append_cons isSeparator_star hsecond
  rw [foldChars_eq_nil_iff] at hu'
  subst hu'
  exact ⟨u, v', by simp⟩

theorem isReady_foldChars {anchor : List Char} (h : ¬ ['*', '*'] <:+: anchor) :
    IsReady (foldChars (normalizeChars anchor)) := by
  refine ⟨?_, ?_, noCapitals_foldChars _⟩
  · intro hmem
    exact backslash_not_mem_normalizeChars _ ((mem_foldChars_iff (by decide) _).1 hmem)
  · intro hstars
    exact h (infix_of_infix_normalizeChars (by decide) (by simp) (stars_of_infix_foldChars hstars))

/-- The pattern of a folded anchor. -/
def compiled (folded : List Char) : AnchorPattern :=
  if folded.contains '*' then
    .wildcard (String.ofList (longest (folded.splitOn '*'))) ⟨globText folded, tokens folded⟩
  else .literal (String.ofList folded)

theorem IsReady.compile {anchor : String} (h : IsReady (foldChars anchor.toList)) :
    compile anchor = .ok (compiled (foldChars anchor.toList)) := by
  rw [AnchorPattern.compile, compiled]
  split
  · rw [compile_globText h.noBackslash h.noStars]
    rfl
  · rfl

/-! ## The last segments -/

theorem segmentsFit_iff {anchor path : List (List Char)} :
    segmentsFit anchor path = true ↔ ∃ last, last <:+ path ∧ namesFit anchor last = true := by
  rw [segmentsFit, Bool.and_eq_true, decide_eq_true_eq]
  constructor
  · rintro ⟨-, h⟩
    exact ⟨_, List.drop_suffix _ path, h⟩
  · rintro ⟨last, hlast, h⟩
    have hlength : anchor.length = last.length := namesFit_length h
    rw [hlength]
    exact ⟨hlast.length_le, List.suffix_iff_eq_drop.1 hlast ▸ h⟩

/-- The last segments of a path are found at it, whatever characters they are made of. -/
theorem segmentsFit_of_suffix {last path : List (List Char)} (h : last <:+ path) :
    segmentsFit last path = true :=
  segmentsFit_iff.2 ⟨last, h, namesFit_self last⟩

theorem segmentsFit_length {anchor path : List (List Char)} (h : segmentsFit anchor path = true) :
    anchor.length ≤ path.length := by
  rw [segmentsFit, Bool.and_eq_true, decide_eq_true_eq] at h
  exact h.1

theorem suffix_of_last {path t : List Char} (h : path = t ∨ ∃ x, path = x ++ '/' :: t) :
    t <:+ path := by
  rcases h with rfl | ⟨x, rfl⟩
  · exact List.suffix_refl path
  · exact (List.suffix_cons '/' t).trans (List.suffix_append x _)

theorem segmentsFit_iff_starFits {anchor path : List Char} (ha : NoCapitals anchor)
    (hpath : NoCapitals path) :
    segmentsFit (anchor.splitOn '/') (path.splitOn '/') = true ↔
      ∃ t, (path = t ∨ ∃ x, path = x ++ '/' :: t) ∧ StarFits anchor t := by
  rw [segmentsFit_iff]
  constructor
  · rintro ⟨last, hlast, h⟩
    have hne : last ≠ [] := by
      rintro rfl
      have hlength := namesFit_length h
      exact List.splitOn_ne_nil '/' anchor (List.length_eq_zero_iff.1 hlength)
    -- the last segments are those of one text
    have hno : ∀ n ∈ last, '/' ∉ n := fun n hn => not_mem_of_mem_splitOn (hlast.subset hn)
    rw [← splitOn_ofNames hno hne] at hlast h
    have hpart := splitOn_suffix_iff.1 hlast
    exact ⟨ofNames last, hpart, starFits_of_namesFit h⟩
  · rintro ⟨t, hpart, h⟩
    have ht := hpath.suffix (suffix_of_last hpart)
    exact ⟨t.splitOn '/', splitOn_suffix_iff.2 hpart, namesFit_of_starFits ha ht h⟩

/-! ## Anchors without stars -/

theorem endsAtBoundary_iff {anchor path : List Char} :
    endsAtBoundary anchor path = true ↔ path = anchor ∨ ∃ x, path = x ++ '/' :: anchor := by
  have hafter (before : List Char) :
      after? anchor.reverse path.reverse = some before ↔ path = before.reverse ++ anchor := by
    rw [after?_eq_some_iff, ← List.reverse_inj]
    simp
  rw [endsAtBoundary]
  cases hcase : after? anchor.reverse path.reverse with
  | none =>
    simp only [Bool.false_eq_true, false_iff, not_or, not_exists]
    constructor
    · -- either form of the path would leave a front
      intro h
      rw [(hafter []).2 (by simpa using h)] at hcase
      simp at hcase
    · intro x h
      rw [(hafter ('/' :: x.reverse)).2 (by simpa using h)] at hcase
      simp at hcase
  | some before =>
    have hpath := (hafter before).1 hcase
    rw [hpath]
    cases before with
    | nil => simp
    | cons c before =>
      simp only [List.isEmpty_cons, List.head?_cons, Bool.false_or, beq_iff_eq,
        Option.some.injEq]
      constructor
      · rintro rfl
        exact .inr ⟨before.reverse, by simp⟩
      · rintro (h | ⟨x, h⟩)
        · have hlength := congrArg List.length h
          simp at hlength
          omega
        · rw [List.reverse_cons, List.append_assoc] at h
          have hcons : before.reverse = x ∧ [c] ++ anchor = '/' :: anchor :=
            List.append_inj' h (by simp)
          exact (List.cons.inj hcons.2).1

/-! ## The filter -/

theorem longest_mem (pieces : List (List Char)) :
    longest pieces = [] ∨ longest pieces ∈ pieces := by
  let longer (best p : List Char) : List Char :=
    if (bytes best).length ≤ (bytes p).length then p else best
  suffices h : ∀ best, pieces.foldl longer best = best ∨ pieces.foldl longer best ∈ pieces from h []
  induction pieces with
  | nil => exact fun _ => .inl rfl
  | cons p pieces ih =>
    intro best
    have hlonger : longer best p = p ∨ longer best p = best := by
      unfold longer
      split <;> simp
    rw [List.foldl_cons]
    rcases hlonger with hl | hl
    · rw [hl]
      rcases ih p with h | h
      · exact .inr (List.mem_cons.2 (.inl h))
      · exact .inr (List.mem_cons_of_mem p h)
    · rw [hl]
      exact (ih best).imp id (List.mem_cons_of_mem p)

/-- The first piece of a pattern stands at the front of its instances, and the others stand
behind it. -/
theorem pieces_of_starFits {p s : List Char} (hp : NoCapitals p) (hs : NoCapitals s)
    (h : StarFits p s) : ∃ q qs, p.splitOn '*' = q :: qs ∧ q <+: s ∧ ∀ q' ∈ qs, q' <:+: s := by
  induction h with
  | nil => exact ⟨[], [], rfl, List.prefix_refl [], by simp⟩
  | @star p u s _ _ ih =>
    have hsuffix : s <:+ u ++ s := List.suffix_append u s
    obtain ⟨q, qs, hq, hfirst, hrest⟩ := ih hp.tail (hs.suffix hsuffix)
    refine ⟨[], q :: qs, ?_, List.nil_prefix, fun l hl => ?_⟩
    · rw [splitOn_cons_self, hq]
    · rcases List.mem_cons.1 hl with rfl | hl
      · exact hfirst.isInfix.trans hsuffix.isInfix
      · exact (hrest l hl).trans hsuffix.isInfix
  | @char c d p s hc hd _ ih =>
    rw [asciiLower_of_not_capital hp.head, asciiLower_of_not_capital hs.head] at hd
    subst hd
    obtain ⟨q, qs, hq, hfirst, hrest⟩ := ih hp.tail hs.tail
    refine ⟨d :: q, qs, splitOn_cons_of_ne hc hq, (List.prefix_cons_inj d).2 hfirst, ?_⟩
    exact fun l hl => (hrest l hl).trans (List.suffix_cons d s).isInfix

/-- Every piece between the stars of a pattern stands in its instances. -/
theorem infix_of_starFits {p s piece : List Char} (hp : NoCapitals p) (hs : NoCapitals s)
    (h : StarFits p s) (hpiece : piece ∈ p.splitOn '*') : piece <:+: s := by
  obtain ⟨q, qs, hq, hfirst, hrest⟩ := pieces_of_starFits hp hs h
  rw [hq, List.mem_cons] at hpiece
  rcases hpiece with rfl | hmem
  · exact hfirst.isInfix
  · exact hrest piece hmem

/-! ## Anchors with stars -/

theorem accepts_tokens_iff {anchor path : List Char} (h : IsReady anchor) (hne : anchor ≠ []) :
    Glob.accepts ⟨globText anchor, tokens anchor⟩ (String.ofList path) = true ↔
      ∃ t, (path = t ∨ ∃ x, path = x ++ '/' :: t) ∧ StarFits anchor t := by
  have hmore : tokens anchor ≠ [.leadingDirs] := by
    rw [tokens]
    simpa using hne
  rw [Glob.accepts, String.toList_ofList, matchesBytes_iff, or_iff_right hmore, tokens, seqRests,
    List.mem_flatMap]
  constructor
  · rintro ⟨r, hr, hrest⟩
    obtain ⟨t, rfl, ht⟩ := mem_rests_leadingDirs.1 hr
    exact ⟨t, ht, (nil_mem_seqRests_iff h.noStars).1 hrest⟩
  · rintro ⟨t, ht, hfit⟩
    exact ⟨bytes t, mem_rests_leadingDirs.2 ⟨t, rfl, ht⟩, (nil_mem_seqRests_iff h.noStars).2 hfit⟩

/-- A compiled anchor accepts the paths whose last segments are instances of its own. -/
theorem accepts_compiled {anchor path : List Char} (h : IsReady anchor)
    (hpath : NoCapitals path) :
    (compiled anchor).accepts (String.ofList path) =
      segmentsFit (anchor.splitOn '/') (path.splitOn '/') := by
  rw [Bool.eq_iff_iff, compiled]
  split
  · rename_i hstar
    have hmem : '*' ∈ anchor := by simpa using hstar
    rw [accepts, Bool.and_eq_true, accepts_tokens_iff h (List.ne_nil_of_mem hmem),
      segmentsFit_iff_starFits h.noCapitals hpath, and_iff_right_iff_imp, contains_iff,
      String.toList_ofList, String.toList_ofList]
    -- the filter never rejects what the glob accepts
    rintro ⟨t, ht, hfit⟩
    have hsuffix := suffix_of_last ht
    rcases longest_mem (anchor.splitOn '*') with hl | hl
    · rw [hl]
      exact List.nil_infix
    · have hpiece := infix_of_starFits h.noCapitals (hpath.suffix hsuffix) hfit hl
      exact hpiece.trans hsuffix.isInfix
  · rename_i hstar
    have hmem : '*' ∉ anchor := by simpa using hstar
    have hpieces : ∀ p ∈ anchor.splitOn '/', '*' ∉ p :=
      fun p hp h' => hmem ((infix_of_mem_splitOn hp).subset h')
    rw [accepts, String.toList_ofList, String.toList_ofList, endsAtBoundary_iff,
      ← splitOn_suffix_iff, segmentsFit_iff]
    constructor
    · intro hlast
      exact ⟨_, hlast, (namesFit_literal hpieces).2 rfl⟩
    · rintro ⟨last, hlast, hfit⟩
      exact (namesFit_literal hpieces).1 hfit ▸ hlast

end ComponentScan.AnchorPattern
