import ComponentScan.Proofs.Glob.Entries

/-!
# Lists that compile

Whether a glob list compiles can be told from its text in one reading from left to right, without
separating it first: every class is closed, its ranges are in order, every brace that is opened is
closed, and no other is (`exists_parse_iff`). This holds of lists without backslashes, as a blank
that is dropped from the end of an entry may be an escaped one, and unless a negated class begins
with a closing bracket, where the separator scan leaves the class and the glob does not.
-/

namespace ComponentScan.Glob

open ComponentScan.Text

/-! ## Reading a list -/

deriving instance DecidableEq for ClassState

/-- Where the reading of a list stands. -/
inductive Reader where
  /-- Outside of any class, inside this many braces. -/
  | outside (braces : Nat)
  /-- Behind an opening bracket. -/
  | opened (braces : Nat)
  /-- Inside a class. -/
  | inside (cls : ClassState) (braces : Nat)
  deriving DecidableEq

/-- Why the reading of a list stops. -/
inductive Halt where
  /-- No glob goes on like this. -/
  | fault
  /-- The scan and the glob disagree about where a class ends. -/
  | lost
  deriving Repr, DecidableEq

namespace Reader

/-- Reads a character. -/
def next : Reader → Char → Except Halt Reader
  | outside braces, c =>
    if c = '[' then .ok (opened braces)
    else if c = '\x7b' then .ok (outside (braces + 1))
    else if c = '\x7d' then if braces = 0 then .error .fault else .ok (outside (braces - 1))
    else .ok (outside braces)
  | opened braces, c =>
    if c = '!' ∨ c = '^' then .ok (inside { negated := true } braces)
    else .ok (inside (ClassState.add { negated := false } c) braces)
  | inside cls braces, c =>
    if c = ']' then if cls.ranges = [] then .error .lost else .ok (outside braces)
    else
      match cls.next c with
      | .ok cls => .ok (inside cls braces)
      | .error _ => .error .fault

/-- Reads a text. -/
def read (s : Reader) (cs : List Char) : Except Halt Reader :=
  cs.foldlM next s

/-- What a reader makes of a character. -/
inductive Step : Reader → Char → Except Halt Reader → Prop
  | openClass {d : Nat} : Step (outside d) '[' (.ok (opened d))
  | openBrace {d : Nat} : Step (outside d) '\x7b' (.ok (outside (d + 1)))
  | closeBrace {d : Nat} : Step (outside (d + 1)) '\x7d' (.ok (outside d))
  | strayBrace : Step (outside 0) '\x7d' (.error .fault)
  | keep {d : Nat} {c : Char} (h : c ≠ '[' ∧ c ≠ '\x7b' ∧ c ≠ '\x7d') :
      Step (outside d) c (.ok (outside d))
  | mark {d : Nat} {c : Char} (h : c = '!' ∨ c = '^') :
      Step (opened d) c (.ok (inside { negated := true } d))
  | first {d : Nat} {c : Char} (h : ¬ (c = '!' ∨ c = '^')) :
      Step (opened d) c (.ok (inside (ClassState.add { negated := false } c) d))
  | closeClass {cls : ClassState} {d : Nat} (h : cls.ranges ≠ []) :
      Step (inside cls d) ']' (.ok (outside d))
  | lose {cls : ClassState} {d : Nat} (h : cls.ranges = []) :
      Step (inside cls d) ']' (.error .lost)
  | member {cls cls' : ClassState} {d : Nat} {c : Char} (hc : c ≠ ']')
      (h : cls.next c = .ok cls') : Step (inside cls d) c (.ok (inside cls' d))
  | disorder {cls : ClassState} {d : Nat} {c : Char} {e : GlobError} (hc : c ≠ ']')
      (h : cls.next c = .error e) : Step (inside cls d) c (.error .fault)

theorem step_next (s : Reader) (c : Char) : Step s c (s.next c) := by
  cases s with
  | outside d =>
    rw [next]
    split
    · rename_i hc
      exact hc ▸ .openClass
    · rename_i hclass
      split
      · rename_i hc
        exact hc ▸ .openBrace
      · rename_i hopen
        split
        · rename_i hc
          cases d with
          | zero => exact hc ▸ .strayBrace
          | succ d => exact hc ▸ .closeBrace
        · rename_i hclose
          exact .keep ⟨hclass, hopen, hclose⟩
  | opened d =>
    rw [next]
    split
    · rename_i h
      exact .mark h
    · rename_i h
      exact .first h
  | inside cls d =>
    rw [next]
    split
    · rename_i hc
      rw [hc]
      split
      · rename_i h
        exact .lose h
      · rename_i h
        exact .closeClass h
    · rename_i hc
      split
      · rename_i h
        exact .member hc h
      · rename_i h
        exact .disorder hc h

variable {s s' : Reader} {c : Char} {cs : List Char}

theorem step_of_next {r : Except Halt Reader} (h : s.next c = r) : Step s c r :=
  h ▸ step_next s c

@[simp] theorem read_nil (s : Reader) : s.read [] = .ok s := rfl

theorem read_cons (h : s.next c = .ok s') (cs : List Char) : s.read (c :: cs) = s'.read cs := by
  rw [read, List.foldlM_cons, h]
  rfl

theorem read_cons_of_error {e : Halt} (h : s.next c = .error e) (cs : List Char) :
    s.read (c :: cs) = .error e := by
  rw [read, List.foldlM_cons, h]
  rfl

theorem read_append_of_ok (h : s.read cs = .ok s') (ds : List Char) :
    s.read (cs ++ ds) = s'.read ds := by
  rw [read, List.foldlM_append, ← read, h]
  rfl

theorem read_append_of_error {e : Halt} (h : s.read cs = .error e) (ds : List Char) :
    s.read (cs ++ ds) = .error e := by
  rw [read, List.foldlM_append, ← read, h]
  rfl

/-! ## What is left to read -/

/-- How many braces are open. -/
def braces : Reader → Nat
  | outside braces | opened braces | inside _ braces => braces

/-- The lexemes of what follows, from the one at hand. -/
def lexemes : Reader → List Char → List Lexeme
  | outside _, cs => lex cs
  | opened _, cs => lex ('[' :: cs)
  | inside cls _, cs => lexClass cls cs

/-- A character outside of classes that neither opens nor closes anything. -/
theorem balanced_lex_keep (hback : c ≠ '\\') (h : c ≠ '[' ∧ c ≠ '\x7b' ∧ c ≠ '\x7d')
    (cs : List Char) {d : Nat} : Balanced d (lex (c :: cs)) ↔ Balanced d (lex cs) := by
  by_cases hquestion : c = '?'
  · rw [hquestion, lex, balanced_cons_iff .question rfl]
    rfl
  · by_cases hstar : c = '*'
    · rw [hstar, lex, balanced_cons_iff .star rfl]
      rfl
    · by_cases hcomma : c = ','
      · rw [hcomma, lex, balanced_cons_iff .comma rfl]
        rfl
      · rw [lex_plain ⟨hquestion, hstar, h.2.1, h.2.2, hcomma, hback, h.1⟩,
          balanced_cons_iff (.char c) rfl]
        rfl

theorem not_balanced_fault (d : Nat) (e : GlobError) : ¬ Balanced d [.fault e] :=
  fun h => h.1 e rfl

theorem lexClass_close {cls : ClassState} (h : cls.ranges ≠ []) (cs : List Char) :
    lexClass cls (']' :: cs) = cls.close :: lex cs := by
  rw [lexClass.eq_def]
  exact if_pos ⟨rfl, h⟩

theorem lexClass_member {cls cls' : ClassState} (hc : c ≠ ']') (h : cls.next c = .ok cls')
    (cs : List Char) : lexClass cls (c :: cs) = lexClass cls' cs := by
  rw [lexClass, if_neg fun h => hc h.1, h]

/-- A character that is read leads to the reader behind it. -/
theorem balanced_step_iff (hback : c ≠ '\\') (hnext : s.next c = .ok s') (cs : List Char) :
    Balanced s.braces (s.lexemes (c :: cs)) ↔ Balanced s'.braces (s'.lexemes cs) := by
  cases step_of_next hnext with
  | openClass => rfl
  | openBrace =>
    rw [lexemes, lex, balanced_cons_iff .openBrace rfl]
    rfl
  | @closeBrace d =>
    have hpos : 0 < d + 1 := Nat.succ_pos d
    rw [lexemes, lex, Balanced, and_iff_right (by simp), braces, and_iff_right fun _ => hpos]
    rfl
  | keep h => exact balanced_lex_keep hback h cs
  | mark h =>
    clear hnext
    rcases h with rfl | rfl <;> rfl
  | first h =>
    have hfirst : ClassState.next { negated := false } c =
        .ok (ClassState.add { negated := false } c) := by
      simp [ClassState.next]
    have hlex : lex ('[' :: c :: cs) = lexClass { negated := false } (c :: cs) := by
      rw [lex] <;> simp_all
    rw [lexemes, hlex, lexClass, if_neg (by simp), hfirst]
    rfl
  | @closeClass cls d h =>
    show Balanced d (lexClass cls (']' :: cs)) ↔ Balanced d (lex cs)
    rw [lexClass_close h, ClassState.close, balanced_cons_iff (.oneOf _ _) rfl]
    rfl
  | member hc h =>
    rw [lexemes, lexClass_member hc h]
    rfl

/-- At a fault of the reader, the lexemes are those of no glob. -/
theorem not_balanced_of_fault (hnext : s.next c = .error .fault) (cs : List Char) :
    ¬ Balanced s.braces (s.lexemes (c :: cs)) := by
  cases step_of_next hnext with
  | strayBrace => exact fun hbalanced => absurd (hbalanced.2.1 rfl) (Nat.lt_irrefl 0)
  | disorder hc h =>
    rw [lexemes, lexClass, if_neg fun h => hc h.1, h]
    exact not_balanced_fault _ _

/-- A text without backslashes is that of a glob when it is read to the end, outside of
everything. -/
theorem balanced_lexemes_iff (hback : '\\' ∉ cs) (hlost : s.read cs ≠ .error .lost) :
    Balanced s.braces (s.lexemes cs) ↔ s.read cs = .ok (outside 0) := by
  induction cs generalizing s with
  | nil =>
    rw [read_nil, Except.ok.injEq]
    cases s with
    | outside d => exact ⟨fun h => congrArg outside h, fun h => outside.inj h⟩
    | opened d => exact ⟨fun h => absurd h (not_balanced_fault d _), nofun⟩
    | inside cls d => exact ⟨fun h => absurd h (not_balanced_fault d _), nofun⟩
  | cons c cs ih =>
    have hc : c ≠ '\\' ∧ '\\' ∉ cs := by simpa [eq_comm] using hback
    cases hnext : s.next c with
    | ok s' =>
      rw [read_cons hnext] at hlost ⊢
      rw [balanced_step_iff hc.1 hnext, ih hc.2 hlost]
    | error e =>
      rw [read_cons_of_error hnext] at hlost ⊢
      cases e with
      | fault => exact ⟨fun h => absurd h (not_balanced_of_fault hnext cs), nofun⟩
      | lost => exact absurd rfl hlost

/-! ## Entries -/

theorem not_blank {c d : Char} (h : isBlank c = true) (hd : isBlank d = false) : c ≠ d := by
  rintro rfl
  rw [hd] at h
  cases h

/-- Blanks at the end do not change whether a text is read to the end. -/
theorem read_blanks (h : ∀ c ∈ cs, isBlank c = true) :
    s.read cs ≠ .error .lost ∧ (s.read cs = .ok (outside 0) ↔ s = outside 0) := by
  induction cs generalizing s with
  | nil => exact ⟨nofun, by rw [read_nil, Except.ok.injEq]⟩
  | cons c cs ih =>
    have hc : isBlank c = true := h c List.mem_cons_self
    have hrest : ∀ c ∈ cs, isBlank c = true := fun d hd => h d (List.mem_cons_of_mem c hd)
    cases hnext : s.next c with
    | ok s' =>
      rw [read_cons hnext, (ih hrest).2]
      refine ⟨(ih hrest).1, ?_⟩
      cases step_of_next hnext with
      | keep h => rfl
      | mark h => exact ⟨nofun, nofun⟩
      | first h => exact ⟨nofun, nofun⟩
      | member hc h => exact ⟨nofun, nofun⟩
      | openClass => cases hc
      | openBrace => cases hc
      | closeBrace => cases hc
      | closeClass h => cases hc
    | error e =>
      rw [read_cons_of_error hnext]
      cases step_of_next hnext with
      | strayBrace => cases hc
      | lose h => cases hc
      | disorder hc h => exact ⟨nofun, nofun, nofun⟩

theorem read_kept (h : ∀ c ∈ cs, isBlank c = true ∨ c = '/') :
    (outside 0).read cs = .ok (outside 0) := by
  induction cs with
  | nil => rfl
  | cons c cs ih =>
    have hne {d : Char} (hblank : isBlank d = false) (hslash : '/' ≠ d) : c ≠ d := by
      rcases h c List.mem_cons_self with hc | rfl
      · exact not_blank hc hblank
      · exact hslash
    have hnext : (outside 0).next c = .ok (outside 0) := by
      rw [next, if_neg (hne rfl (by decide)), if_neg (hne rfl (by decide)),
        if_neg (hne rfl (by decide))]
    rw [read_cons hnext]
    exact ih fun d hd => h d (List.mem_cons_of_mem c hd)

/-- What is dropped from a piece. -/
theorem exists_entryOf (piece : List Char) : ∃ front back,
    piece = front ++ (GlobList.entryOf piece ++ back) ∧
      (∀ c ∈ front, isBlank c = true ∨ c = '/') ∧ ∀ c ∈ back, isBlank c = true := by
  let middle := piece.dropWhile isBlank
  have hmiddle : middle = trimChars piece ++ (middle.reverse.takeWhile isBlank).reverse := by
    rw [trimChars, dropEndWhile, ← List.reverse_append, List.takeWhile_append_dropWhile,
      List.reverse_reverse]
  refine ⟨piece.takeWhile isBlank ++ (trimChars piece).takeWhile (· = '/'),
    (middle.reverse.takeWhile isBlank).reverse, ?_, ?_, ?_⟩
  · rw [GlobList.entryOf, List.append_assoc, ← List.append_assoc (List.takeWhile _ (trimChars piece)),
      List.takeWhile_append_dropWhile, ← hmiddle, List.takeWhile_append_dropWhile]
  · intro c hc
    rcases List.mem_append.1 hc with hc | hc
    · exact .inl (List.all_eq_true.1 List.all_takeWhile c hc)
    · exact .inr (by simpa using List.all_eq_true.1 List.all_takeWhile c hc)
  · intro c hc
    exact List.all_eq_true.1 List.all_takeWhile c (List.mem_reverse.1 hc)

/-- Whether the entry of a piece is a glob. The empty entry, which is dropped, is one. -/
def Compiles (piece : List Char) : Prop :=
  ∃ g, Glob.compile (String.ofList (GlobList.entryOf piece)) = .ok g

theorem compiles_iff_balanced {piece : List Char} :
    Compiles piece ↔ Balanced 0 (lex (GlobList.entryOf piece)) := by
  have hread : (∃ g, Glob.compile (String.ofList (GlobList.entryOf piece)) = .ok g) ↔
      ∃ ts, readTokens (GlobList.entryOf piece) = .ok ts := by
    simp only [compile_eq_ok_iff, String.toList_ofList]
    exact ⟨fun ⟨_, ts, h, _⟩ => ⟨ts, h⟩, fun ⟨ts, h⟩ => ⟨_, ts, h, rfl⟩⟩
  rw [Compiles, hread]
  exact exists_tokensFrom_iff

/-- An entry is a glob when its piece is read to the end. -/
theorem compiles_iff {piece : List Char} (hback : '\\' ∉ piece)
    (hlost : (outside 0).read piece ≠ .error .lost) :
    Compiles piece ↔ (outside 0).read piece = .ok (outside 0) := by
  obtain ⟨front, back, hpiece, hfront, hblank⟩ := exists_entryOf piece
  have hentry : '\\' ∉ GlobList.entryOf piece := fun h =>
    hback ((GlobList.entryOf_sublist piece).subset h)
  have hread : (outside 0).read piece =
      (outside 0).read (GlobList.entryOf piece ++ back) :=
    (congrArg _ hpiece).trans (read_append_of_ok (read_kept hfront) _)
  rw [hread] at hlost ⊢
  rw [compiles_iff_balanced]
  cases h : (outside 0).read (GlobList.entryOf piece) with
  | ok s =>
    have hiff := balanced_lexemes_iff hentry (s := outside 0) (by simp [h])
    rw [read_append_of_ok h, (read_blanks hblank).2]
    rw [h, Except.ok.injEq] at hiff
    exact hiff
  | error e =>
    rw [read_append_of_error h] at hlost ⊢
    have hiff := balanced_lexemes_iff hentry (s := outside 0) (by rwa [h])
    rw [h] at hiff
    exact hiff

/-! ## Lists -/

/-- Where the separator scan stands. -/
def scan : Reader → SplitState
  | outside braces => .outside braces
  | opened braces => .opened braces
  | inside _ braces => .inside braces

/-- The scan goes along with the reader. -/
theorem scan_next (hnext : s.next c = .ok s') : s'.scan = s.scan.next c := by
  cases step_of_next hnext with
  | openClass => rfl
  | openBrace => rfl
  | closeBrace => rfl
  | keep h => simp [scan, SplitState.next, h]
  | mark h => rfl
  | first h => rfl
  | closeClass h => rfl
  | member hc h => simp [scan, SplitState.next, hc]

theorem scan_eq_outside (h : s.scan = .outside 0) : s = outside 0 := by
  cases s with
  | outside d => exact congrArg outside (SplitState.outside.inj h)
  | opened d => cases h
  | inside cls d => cases h

/-- A list is read piece by piece. -/
theorem read_pieces_iff (hback : '\\' ∉ cs) (hlost : s.read cs ≠ .error .lost)
    {piece : List Char} {pieces : List (List Char)}
    (hsplit : splitFrom s.scan cs = piece :: pieces) :
    s.read piece ≠ .error .lost ∧
      ((s.read piece = .ok (outside 0) ∧ ∀ p ∈ pieces, Compiles p) ↔
        s.read cs = .ok (outside 0)) := by
  induction cs generalizing s piece pieces with
  | nil =>
    obtain ⟨rfl, rfl⟩ := List.cons.inj hsplit
    simp
  | cons c cs ih =>
    have hc : c ≠ '\\' ∧ '\\' ∉ cs := by simpa [eq_comm] using hback
    by_cases hcomma : c = ',' ∧ s.scan = .outside 0
    · -- a new piece begins
      obtain ⟨p, ps, hps⟩ := List.exists_cons_of_ne_nil (splitFrom_ne_nil s.scan cs)
      rw [splitFrom, if_pos hcomma, hps] at hsplit
      obtain ⟨rfl, rfl⟩ := List.cons.inj hsplit
      obtain rfl := scan_eq_outside hcomma.2
      have hnext : (outside 0).next c = .ok (outside 0) := hcomma.1 ▸ rfl
      rw [read_cons hnext] at hlost ⊢
      obtain ⟨hp, hiff⟩ := ih hc.2 hlost hps
      have hpback : '\\' ∉ p := fun h => hc.2 (mem_of_mem_splitFrom (hps ▸ List.mem_cons_self) h)
      rw [← hiff, ← compiles_iff hpback hp, List.forall_mem_cons]
      simp
    · -- the piece goes on
      rw [splitFrom_cons hcomma] at hsplit
      obtain ⟨p, ps, hps⟩ := List.exists_cons_of_ne_nil (splitFrom_ne_nil (s.scan.next c) cs)
      rw [hps, List.modifyHead_cons] at hsplit
      obtain ⟨rfl, rfl⟩ := List.cons.inj hsplit
      cases hnext : s.next c with
      | ok s' =>
        rw [read_cons hnext] at hlost ⊢
        rw [read_cons hnext]
        exact ih hc.2 hlost (scan_next hnext ▸ hps)
      | error e =>
        rw [read_cons_of_error hnext] at hlost ⊢
        rw [read_cons_of_error hnext]
        exact ⟨hlost, by simp⟩

theorem exists_parse_iff_compiles {csv : String} :
    (∃ l, GlobList.parse csv = .ok l) ↔ ∀ p ∈ splitList csv.toList, Compiles p := by
  constructor
  · rintro ⟨l, hl⟩ p hp
    obtain ⟨globs, hglobs, -⟩ := bind_eq_ok_iff.1 hl
    by_cases hnil : GlobList.entryOf p = []
    · rw [Compiles, hnil]
      exact ⟨_, rfl⟩
    · have hentry : String.ofList (GlobList.entryOf p) ∈ GlobList.entries csv := by
        rw [GlobList.entries_eq]
        refine List.mem_map_of_mem (List.mem_filter.2 ⟨List.mem_map_of_mem hp, ?_⟩)
        simpa using hnil
      obtain ⟨g, -, hg⟩ := exists_result_of_mem hglobs hentry
      exact ⟨g, hg⟩
  · intro h
    refine GlobList.exists_parse fun text htext => ?_
    rw [GlobList.entries_eq] at htext
    obtain ⟨entry, hentry, rfl⟩ := List.mem_map.1 htext
    obtain ⟨p, hp, rfl⟩ := List.mem_map.1 (List.mem_filter.1 hentry).1
    exact h p hp

/-- A list without backslashes compiles exactly if it is read to the end, outside of everything. -/
theorem exists_parse_iff {csv : String} (hback : '\\' ∉ csv.toList)
    (hlost : (outside 0).read csv.toList ≠ .error .lost) :
    (∃ l, GlobList.parse csv = .ok l) ↔ (outside 0).read csv.toList = .ok (outside 0) := by
  obtain ⟨piece, pieces, hsplit⟩ :=
    List.exists_cons_of_ne_nil (splitFrom_ne_nil (.outside 0) csv.toList)
  obtain ⟨hpiece, hiff⟩ := read_pieces_iff hback hlost hsplit
  have hpback : '\\' ∉ piece := fun h => hback (mem_of_mem_splitFrom (hsplit ▸ List.mem_cons_self) h)
  rw [exists_parse_iff_compiles, splitList, hsplit, List.forall_mem_cons,
    compiles_iff hpback hpiece, hiff]

end Reader

end ComponentScan.Glob
