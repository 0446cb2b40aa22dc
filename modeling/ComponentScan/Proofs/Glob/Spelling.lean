import ComponentScan.Proofs.Glob.Reading
import ComponentScan.Proofs.Glob.Separating

/-!
# How globs are spelled

A text without faults is the spelling of its lexemes, one after the other (`spelled_lex`), and in a
glob every brace is closed (`balanced_of_compile`). The separator scan knows less than a glob: it
has no escapes, and a closing bracket always closes a class unless it stands right behind the
opening one. Apart from lexemes in which this makes a difference it follows the braces of the glob
(`Spelled.after?_eq`).
-/

namespace ComponentScan.Glob

/-! ## Spellings -/

/-- The texts of a lexeme. -/
inductive Spells : Lexeme → List Char → Prop
  | char {c : Char} (h : IsPlain c) : Spells (.char c) [c]
  | escaped (c : Char) : Spells (.escaped c) ['\\', c]
  | question : Spells .question ['?']
  | star : Spells .star ['*']
  | openBrace : Spells .openBrace ['\x7b']
  | closeBrace : Spells .closeBrace ['\x7d']
  | comma : Spells .comma [',']
  /-- A class of the characters listed. -/
  | listed {first last : Char} {body : List Char} {ranges : List (Char × Char)}
      (h : ']' ∉ body) : Spells (.oneOf false ((first, last) :: ranges)) ('[' :: first :: body ++ [']'])
  /-- A class of the characters not listed. -/
  | unlisted {mark first last : Char} {body : List Char} {ranges : List (Char × Char)}
      (h : ']' ∉ body) :
      Spells (.oneOf true ((first, last) :: ranges)) ('[' :: mark :: first :: body ++ [']'])

/-- The texts of lexemes in a row. -/
inductive Spelled : List Lexeme → List Char → Prop
  | nil : Spelled [] []
  | cons {l : Lexeme} {ls : List Lexeme} {t cs : List Char} (h : Spells l t) (hs : Spelled ls cs) :
      Spelled (l :: ls) (t ++ cs)

/-! ## Classes -/

namespace ClassState

variable {st st' : ClassState} {first c : Char}

/-- The character that a class begins with, once it has been read. -/
def first? (st : ClassState) : Option Char :=
  st.ranges.getLast?.map Prod.fst

theorem ranges_ne_nil (h : st.first? = some first) : st.ranges ≠ [] := by
  intro hnil
  rw [first?, hnil] at h
  cases h

theorem first?_add (h : st.first? = some first) (c : Char) : (st.add c).first? = some first := by
  obtain ⟨range, ranges, hranges⟩ := List.exists_cons_of_ne_nil (ranges_ne_nil h)
  rw [first?, hranges] at h
  rw [first?, add, hranges, List.getLast?_cons_cons, h]

theorem join_spec (h : st.first? = some first) (hst : st.join c = .ok st') :
    st'.first? = some first ∧ st'.negated = st.negated := by
  obtain ⟨range, ranges, hranges⟩ := List.exists_cons_of_ne_nil (ranges_ne_nil h)
  rw [first?, hranges] at h
  rw [join, hranges] at hst
  dsimp only at hst
  split at hst
  · cases hst
  · cases hst
    refine ⟨?_, rfl⟩
    cases ranges with
    | nil => exact h
    | cons range' ranges =>
      rw [List.getLast?_cons_cons] at h
      rw [first?, List.getLast?_cons_cons, h]

/-- A class keeps the character it begins with. -/
theorem next_spec (h : st.first? = some first) (hst : st.next c = .ok st') :
    st'.first? = some first ∧ st'.negated = st.negated := by
  rw [next] at hst
  split at hst
  · exact join_spec h hst
  · split at hst
    · cases hst
      exact ⟨h, rfl⟩
    · cases hst
      exact ⟨first?_add h c, rfl⟩

theorem close_eq (h : st.first? = some first) :
    ∃ last ranges, st.close = .oneOf st.negated ((first, last) :: ranges) := by
  obtain ⟨st', hst', hnegated, hclose⟩ : ∃ st' : ClassState, st'.first? = some first ∧
      st'.negated = st.negated ∧ st.close = .oneOf st'.negated st'.ranges.reverse := by
    rw [close]
    by_cases hjoining : st.joining = true
    · exact ⟨st.add '-', first?_add h '-', rfl, by rw [if_pos hjoining]⟩
    · exact ⟨st, h, rfl, by rw [if_neg hjoining]⟩
  rw [first?, ← List.head?_reverse, Option.map_eq_some_iff] at hst'
  obtain ⟨⟨first', last⟩, hhead, rfl⟩ := hst'
  obtain ⟨ranges, hranges⟩ := List.head?_eq_some_iff.1 hhead
  exact ⟨last, ranges, by rw [hclose, hnegated, hranges]⟩

end ClassState

/-- A class that has been begun goes on to the next closing bracket. -/
theorem lexClass_cases {st : ClassState} {first : Char} (h : st.first? = some first)
    (cs : List Char) :
    (∃ e, lexClass st cs = [.fault e]) ∨
      ∃ body rest last ranges, cs = body ++ ']' :: rest ∧ ']' ∉ body ∧
        lexClass st cs = .oneOf st.negated ((first, last) :: ranges) :: lex rest := by
  induction cs generalizing st with
  | nil => exact .inl ⟨_, rfl⟩
  | cons c cs ih =>
    rw [lexClass]
    by_cases hc : c = ']'
    · obtain ⟨last, ranges, hclose⟩ := ClassState.close_eq h
      rw [if_pos ⟨hc, ClassState.ranges_ne_nil h⟩, hclose]
      exact .inr ⟨[], cs, last, ranges, by rw [hc, List.nil_append], by simp, rfl⟩
    · rw [if_neg fun h' => hc h'.1]
      cases hnext : st.next c with
      | error e => exact .inl ⟨e, rfl⟩
      | ok st' =>
        obtain ⟨hfirst, hnegated⟩ := ClassState.next_spec h hnext
        rcases ih hfirst with hfault | ⟨body, rest, last, ranges, rfl, hbody, hlex⟩
        · exact .inl hfault
        · refine .inr ⟨c :: body, rest, last, ranges, rfl, ?_, ?_⟩
          · simpa [Ne.symm hc] using hbody
          · rw [← hnegated]
            exact hlex

/-- A class without faults begins with some character and ends at the next closing bracket. -/
theorem lexClass_begin_cases (negated : Bool) (cs : List Char) :
    (∃ e, lexClass { negated } cs = [.fault e]) ∨
      ∃ first body rest last ranges, cs = first :: body ++ ']' :: rest ∧ ']' ∉ body ∧
        lexClass { negated } cs = .oneOf negated ((first, last) :: ranges) :: lex rest := by
  cases cs with
  | nil => exact .inl ⟨_, rfl⟩
  | cons first cs =>
    have hnext : ClassState.next { negated } first = .ok { negated, ranges := [(first, first)] } := by
      simp [ClassState.next, ClassState.add]
    have hfirst : ClassState.first? { negated, ranges := [(first, first)] } = some first := rfl
    rw [lexClass, if_neg (by simp), hnext]
    rcases lexClass_cases hfirst cs with
      hfault | ⟨body, rest, last, ranges, rfl, hbody, hlex⟩
    · exact .inl hfault
    · exact .inr ⟨first, body, rest, last, ranges, rfl, hbody, hlex⟩

/-! ## Lexemes of a text -/

/-- A text begins with the spelling of its first lexeme, unless that is a fault. -/
theorem lex_cases {cs : List Char} (hne : cs ≠ []) :
    (∃ e, lex cs = [.fault e]) ∨
      ∃ l t rest, Spells l t ∧ cs = t ++ rest ∧ lex cs = l :: lex rest := by
  rw [lex.eq_def]
  split
  · exact absurd rfl hne
  · exact .inr ⟨_, _, _, .question, rfl, rfl⟩
  · exact .inr ⟨_, _, _, .star, rfl, rfl⟩
  · exact .inr ⟨_, _, _, .openBrace, rfl, rfl⟩
  · exact .inr ⟨_, _, _, .closeBrace, rfl, rfl⟩
  · exact .inr ⟨_, _, _, .comma, rfl, rfl⟩
  · exact .inl ⟨_, rfl⟩
  · exact .inr ⟨_, _, _, .escaped _, rfl, rfl⟩
  · rename_i cs
    rcases lexClass_begin_cases true cs with
      hfault | ⟨first, body, rest, last, ranges, rfl, hbody, hlex⟩
    · exact .inl hfault
    · exact .inr ⟨_, '[' :: '!' :: first :: body ++ [']'], rest, .unlisted hbody, by simp, hlex⟩
  · rename_i cs
    rcases lexClass_begin_cases true cs with
      hfault | ⟨first, body, rest, last, ranges, rfl, hbody, hlex⟩
    · exact .inl hfault
    · exact .inr ⟨_, '[' :: '^' :: first :: body ++ [']'], rest, .unlisted hbody, by simp, hlex⟩
  · rename_i cs _ _
    rcases lexClass_begin_cases false cs with
      hfault | ⟨first, body, rest, last, ranges, rfl, hbody, hlex⟩
    · exact .inl hfault
    · exact .inr ⟨_, '[' :: first :: body ++ [']'], rest, .listed hbody, by simp, hlex⟩
  · rename_i c cs h1 h2 h3 h4 h5 h6 h7 _ _ h8
    have hback : c ≠ '\\' := by
      rintro rfl
      cases cs with
      | nil => exact h6 rfl rfl
      | cons d ds => exact h7 d ds rfl rfl
    exact .inr ⟨_, [c], cs, .char ⟨h1, h2, h3, h4, h5, hback, h8⟩, rfl, rfl⟩

/-- A text without faults is the spelling of its lexemes. -/
theorem spelled_lex {cs : List Char} (h : ∀ e, .fault e ∉ lex cs) : Spelled (lex cs) cs := by
  induction hn : cs.length using Nat.strongRecOn generalizing cs with
  | ind n ih =>
    subst hn
    by_cases hne : cs = []
    · subst hne
      exact .nil
    · rcases lex_cases hne with ⟨e, he⟩ | ⟨l, t, rest, ht, hcs, hlex⟩
      · exact absurd (he ▸ List.mem_singleton_self _) (h e)
      · rw [hlex] at h ⊢
        rw [hcs]
        refine .cons ht (ih _ ?_ (fun e he => h e (List.mem_cons_of_mem l he)) rfl)
        have hlength : 0 < t.length := by cases ht <;> simp
        rw [hcs, List.length_append]
        omega

/-! ## Braces -/

namespace Lexeme

/-- How deep in braces the text behind a lexeme stands that stands at depth `d`. -/
def depth (d : Nat) : Lexeme → Nat
  | .openBrace => d + 1
  | .closeBrace => d - 1
  | _ => d

/-- Whether the lexemes behind a lexeme decide alone whether a text is that of a glob: it is no
fault, and closes no brace. -/
def goesOn : Lexeme → Bool
  | .fault _ | .closeBrace => false
  | _ => true

/-- Whether a lexeme is a comma, escaped or not. -/
def isComma : Lexeme → Bool
  | .comma | .escaped ',' => true
  | _ => false

/-- Whether the separator scan and the glob agree about where a lexeme ends. The scan knows no
escapes, and behind the mark of a negated class it takes a closing bracket for the end. -/
def scansAlike : Lexeme → Bool
  | .escaped c => c ≠ '[' && c ≠ '\x7b' && c ≠ '\x7d'
  | .oneOf true ((first, _) :: _) => first ≠ ']'
  | _ => true

end Lexeme

/-- Whether lexemes that stand at depth `d` are without faults, close all braces and close no
others. -/
def Balanced : Nat → List Lexeme → Prop
  | d, [] => d = 0
  | d, l :: ls => (∀ e, l ≠ .fault e) ∧ (l = .closeBrace → 0 < d) ∧ Balanced (l.depth d) ls

/-- Whether all commas among lexemes that stand at depth `d` stand inside braces. A class is one
lexeme, so a comma in it does not count. -/
def commasInside : Nat → List Lexeme → Bool
  | _, [] => true
  | d, l :: ls => (!l.isComma || 0 < d) && commasInside (l.depth d) ls

theorem Balanced.fault_not_mem {d : Nat} {ls : List Lexeme} (h : Balanced d ls) (e : GlobError) :
    .fault e ∉ ls := by
  induction ls generalizing d with
  | nil => simp
  | cons l ls ih =>
    intro hmem
    rcases List.mem_cons.1 hmem with rfl | hmem
    · exact h.1 e rfl
    · exact ih h.2.2 hmem

namespace Nesting

/-- The number of open groups. -/
def level (n : Nesting) : Nat := n.enclosing.length

theorem level_retouch (n : Nesting) (t : Token) : (n.retouch t).level = n.level := by
  rw [retouch]
  split <;> rfl

theorem level_comma (n : Nesting) : n.comma.level = n.level := by
  rw [comma]
  split
  · rfl
  · rename_i h
    simp [level, h]

theorem closeGroup_spec (n : Nesting) :
    (n.level = 0 ∧ ∃ e, n.closeGroup = .error e) ∨
      ∃ n', n.closeGroup = .ok n' ∧ n.level = n'.level + 1 := by
  rw [closeGroup]
  cases h : n.enclosing with
  | nil => exact .inl ⟨by simp [level, h], _, rfl⟩
  | cons g gs => exact .inr ⟨_, rfl, by simp [level, h]⟩

end Nesting

theorem balanced_cons_iff (l : Lexeme) (h : l.goesOn = true) {d : Nat} {ls : List Lexeme} :
    Balanced d (l :: ls) ↔ Balanced (l.depth d) ls := by
  have hfault (e : GlobError) : l ≠ .fault e := by
    rintro rfl
    cases h
  have hclose : l ≠ .closeBrace := by
    rintro rfl
    cases h
  rw [Balanced, and_iff_right hfault, and_iff_right fun h => absurd h hclose]

theorem balanced_stars_slash_iff {d : Nat} {ls : List Lexeme} :
    Balanced d (.star :: .star :: .char '/' :: ls) ↔ Balanced d ls := by
  rw [balanced_cons_iff .star rfl, balanced_cons_iff .star rfl, balanced_cons_iff (.char '/') rfl]
  rfl

/-- Lexemes are read to the end when they are without faults and their braces are balanced. -/
theorem exists_tokensFrom_iff {before : Option Char} {n : Nesting} {ls : List Lexeme} :
    (∃ ts, tokensFrom before n ls = .ok ts) ↔ Balanced n.level ls := by
  fun_induction tokensFrom before n ls with
  | case1 before n hclosed =>
    have hlevel : n.level = 0 := by rw [Nesting.level, List.isEmpty_iff.1 hclosed, List.length_nil]
    exact ⟨fun _ => hlevel, fun _ => ⟨_, rfl⟩⟩
  | case2 before n hopen =>
    have hlevel : n.level ≠ 0 := fun h => hopen (List.isEmpty_iff.2 (List.length_eq_zero_iff.1 h))
    exact ⟨nofun, fun h => absurd h hlevel⟩
  | case3 before n ls _ ih => rwa [balanced_stars_slash_iff]
  | case4 before n ls _ _ ih =>
    rw [balanced_stars_slash_iff]
    exact n.level_retouch .innerDirs ▸ ih
  | case5 before n ls _ _ ih => rwa [balanced_stars_slash_iff]
  | case6 before n ls _ plain ends n' ih =>
    have hlevel : n'.level = n.level := by
      dsimp only [n']
      split
      · split <;> rfl
      · split
        · exact n.level_retouch .allBelow
        · rfl
    rw [balanced_cons_iff .star rfl, balanced_cons_iff .star rfl]
    exact hlevel ▸ ih
  | case7 before n ls c _ _ _ ih => rwa [balanced_cons_iff (.char c) rfl]
  | case8 before n ls c _ _ _ ih => rwa [balanced_cons_iff (.escaped c) rfl]
  | case9 before n ls _ _ _ ih => rwa [balanced_cons_iff .question rfl]
  | case10 before n ls _ _ _ ih => rwa [balanced_cons_iff .star rfl]
  | case11 before n ls _ _ _ ih => rwa [balanced_cons_iff .openBrace rfl]
  | case12 before n ls _ _ _ ih =>
    rw [balanced_cons_iff .comma rfl]
    exact n.level_comma ▸ ih
  | case13 before n ls n' hclose _ _ _ ih =>
    obtain ⟨-, e, he⟩ | ⟨n'', hok, hlevel⟩ := n.closeGroup_spec
    · rw [he] at hclose
      cases hclose
    · obtain rfl := Except.ok.inj (hok.symm.trans hclose)
      rw [Balanced, and_iff_right nofun, hlevel, and_iff_right fun _ => Nat.succ_pos _]
      exact ih
  | case14 before n ls e hclose =>
    obtain ⟨hlevel, -⟩ | ⟨n', hok, -⟩ := n.closeGroup_spec
    · exact ⟨nofun, fun h => absurd (h.2.1 rfl) (hlevel ▸ Nat.lt_irrefl 0)⟩
    · rw [hclose] at hok
      cases hok
  | case15 before n ls negated ranges _ _ _ ih =>
    rwa [balanced_cons_iff (.oneOf negated ranges) rfl]
  | case16 before n ls e => exact ⟨nofun, fun h => absurd rfl (h.1 e)⟩

theorem balanced_of_compile {text : String} {g : Glob} (h : Glob.compile text = .ok g) :
    Balanced 0 (lex text.toList) := by
  obtain ⟨ts, hts, -⟩ := compile_eq_ok_iff.1 h
  exact exists_tokensFrom_iff.1 ⟨ts, hts⟩

/-! ## The scan of a glob -/

theorem after?_inside {body : List Char} (h : ']' ∉ body) (d : Nat) :
    (SplitState.inside d).after? (body ++ [']']) = some (.outside d) := by
  induction body with
  | nil => rfl
  | cons c body ih =>
    have hc : ']' ≠ c ∧ ']' ∉ body := by simpa using h
    rw [List.cons_append, after?_cons (by simp), SplitState.next, if_neg (Ne.symm hc.1), ih hc.2]

/-- A lexeme takes the scan to the depth behind it. -/
theorem Spells.after?_eq {l : Lexeme} {t : List Char} {d : Nat} (h : Spells l t)
    (halike : l.scansAlike = true) (hcomma : l.isComma = true → 0 < d) :
    (SplitState.outside d).after? t = some (.outside (l.depth d)) := by
  cases h with
  | @char c h =>
    obtain ⟨-, -, hopen, hclose, hcomma, -, hclass⟩ := h
    rw [after?_cons (by simp [hcomma])]
    simp [SplitState.after?, SplitState.next, Lexeme.depth, hopen, hclose, hclass]
  | escaped c =>
    have hc : (c ≠ '[' ∧ c ≠ '\x7b') ∧ c ≠ '\x7d' := by simpa [Lexeme.scansAlike] using halike
    have hplain : ¬ (c = ',' ∧ SplitState.outside d = .outside 0) := by
      rintro ⟨rfl, hd⟩
      have hpos : 0 < d := hcomma rfl
      rw [SplitState.outside.inj hd] at hpos
      exact absurd hpos (Nat.lt_irrefl 0)
    have hback : (SplitState.outside d).next '\\' = .outside d := by simp [SplitState.next]
    rw [after?_cons (by simp), hback, after?_cons hplain]
    simp [SplitState.after?, SplitState.next, Lexeme.depth, hc]
  | question => rfl
  | star => rfl
  | openBrace => rfl
  | closeBrace => rfl
  | comma =>
    have hd : d ≠ 0 := Nat.ne_of_gt (hcomma rfl)
    rw [after?_cons (by simp [hd])]
    rfl
  | @listed first last body ranges h =>
    rw [List.cons_append, List.cons_append, after?_cons (by simp),
      after?_cons (by simp [SplitState.next])]
    exact after?_inside h d
  | @unlisted mark first last body ranges h =>
    have hbody : ']' ∉ first :: body := by
      have hfirst : first ≠ ']' := by simpa [Lexeme.scansAlike] using halike
      simpa [Ne.symm hfirst] using h
    rw [List.cons_append, List.cons_append, after?_cons (by simp),
      after?_cons (by simp [SplitState.next])]
    exact after?_inside hbody d

/-- The scan follows the braces of a glob. -/
theorem Spelled.after?_eq {ls : List Lexeme} {cs : List Char} {d : Nat} (h : Spelled ls cs)
    (hbalanced : Balanced d ls) (hcommas : commasInside d ls = true)
    (halike : ∀ l ∈ ls, l.scansAlike = true) :
    (SplitState.outside d).after? cs = some (.outside 0) := by
  induction h generalizing d with
  | nil =>
    obtain rfl : d = 0 := hbalanced
    rfl
  | @cons l ls t cs ht hs ih =>
    rw [commasInside, Bool.and_eq_true] at hcommas
    have hcomma : l.isComma = true → 0 < d := fun hl => by simpa [hl] using hcommas.1
    rw [after?_append, ht.after?_eq (halike l List.mem_cons_self) hcomma, Option.bind_some]
    exact ih hbalanced.2.2 hcommas.2 fun l' hl' => halike l' (List.mem_cons_of_mem l hl')

end ComponentScan.Glob
