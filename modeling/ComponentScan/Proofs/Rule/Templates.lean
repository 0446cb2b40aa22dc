import ComponentScan.Proofs.Glob.Compiling
import ComponentScan.Proofs.Rule.DirectoryTrees

/-!
# Lists made from templates

A placeholder is itself a group of braces, and an escaped name opens and closes nothing. So filling
in a template does not change where the reading of the list gets to, and whether the list compiles
is a property of the rule: the list compiles for every file if the template does, and for none
otherwise (`contribute_lists_compile`). A placeholder in a class is another matter, as the name
becomes ends of ranges there. Validation looks at neither, so a rule may pass it whose lists end a
pass (`contribute_breaks_list`).
-/

namespace ComponentScan

open ComponentScan.Text ComponentScan.Glob

/-! ## Reading what is filled in -/

namespace Glob.Reader

variable {s s' : Reader} {c : Char} {cs rest : List Char} {d : Nat}

def isOutside : Reader → Bool
  | outside _ => true
  | _ => false

/-- Whether every opening brace that stands in a class is the last character of the class. -/
def bracesOpen : Reader → List Char → Bool
  | _, [] => true
  | s, c :: cs =>
    (c != '\x7b' || s.isOutside || cs.head? == some ']') &&
      match s.next c with
      | .ok s' => bracesOpen s' cs
      | .error _ => true

theorem bracesOpen_cons_iff :
    bracesOpen s (c :: cs) = true ↔
      (c = '\x7b' → s.isOutside = true ∨ cs.head? = some ']') ∧
        ∀ s', s.next c = .ok s' → bracesOpen s' cs = true := by
  rw [bracesOpen, Bool.and_eq_true]
  refine and_congr (by by_cases hc : c = '\x7b' <;> simp [hc]) ?_
  cases s.next c <;> simp

theorem bracesOpen_cons (hnext : s.next c = .ok s') (h : bracesOpen s' cs = true)
    (hbrace : c = '\x7b' → s.isOutside = true ∨ cs.head? = some ']') :
    bracesOpen s (c :: cs) = true := by
  refine bracesOpen_cons_iff.2 ⟨hbrace, fun t ht => ?_⟩
  obtain rfl := Except.ok.inj (hnext.symm.trans ht)
  exact h

theorem bracesOpen_of_append (hread : s.read cs = .ok s') (h : bracesOpen s (cs ++ rest) = true) :
    bracesOpen s' rest = true := by
  induction cs generalizing s with
  | nil =>
    cases hread
    exact h
  | cons c cs ih =>
    cases hnext : s.next c with
    | ok t =>
      rw [read_cons hnext] at hread
      exact ih hread ((bracesOpen_cons_iff.1 h).2 t hnext)
    | error e =>
      rw [read_cons_of_error hnext] at hread
      cases hread

/-- An escaped character is read as a class of its own. -/
theorem next_escaped (hc : escapedChars.contains c = true) (d : Nat) :
    ∃ cls : ClassState, (opened d).next c = .ok (inside cls d) ∧
      (inside cls d).next ']' = .ok (outside d) := by
  have hmark : ¬ (c = '!' ∨ c = '^') := by
    rintro (rfl | rfl) <;> exact absurd hc (by decide)
  exact ⟨ClassState.add { negated := false } c, if_neg hmark, rfl⟩

theorem next_plain (hc : ¬ escapedChars.contains c = true) (d : Nat) :
    (outside d).next c = .ok (outside d) := by
  have hne {x : Char} (hx : escapedChars.contains x = true) : c ≠ x := by
    rintro rfl
    exact hc hx
  rw [next, if_neg (hne (by decide)), if_neg (hne (by decide)), if_neg (hne (by decide))]

/-- An escaped name leaves the reader where it is. -/
theorem read_wrap_append (name rest : List Char) (d : Nat) :
    (outside d).read (wrap escapedChars name ++ rest) = (outside d).read rest := by
  induction name with
  | nil => rfl
  | cons c name ih =>
    rw [wrap_cons]
    by_cases hc : escapedChars.contains c = true
    · obtain ⟨cls, hfirst, hclose⟩ := next_escaped hc d
      rw [if_pos hc]
      show (outside d).read ('[' :: c :: ']' :: (wrap escapedChars name ++ rest)) = _
      have hopen : (outside d).next '[' = .ok (opened d) := rfl
      rw [read_cons hopen, read_cons hfirst, read_cons hclose, ih]
    · rw [if_neg hc]
      show (outside d).read (c :: (wrap escapedChars name ++ rest)) = _
      rw [read_cons (next_plain hc d), ih]

theorem bracesOpen_wrap_append (name : List Char) (h : bracesOpen (outside d) rest = true) :
    bracesOpen (outside d) (wrap escapedChars name ++ rest) = true := by
  induction name with
  | nil => exact h
  | cons c name ih =>
    rw [wrap_cons]
    by_cases hc : escapedChars.contains c = true
    · obtain ⟨cls, hfirst, hclose⟩ := next_escaped hc d
      rw [if_pos hc]
      show bracesOpen (outside d) ('[' :: c :: ']' :: (wrap escapedChars name ++ rest)) = true
      have hopen : (outside d).next '[' = .ok (opened d) := rfl
      exact bracesOpen_cons hopen
        (bracesOpen_cons hfirst (bracesOpen_cons hclose ih nofun) fun _ => .inr rfl) nofun
    · rw [if_neg hc]
      show bracesOpen (outside d) (c :: (wrap escapedChars name ++ rest)) = true
      exact bracesOpen_cons (next_plain hc d) ih fun _ => .inl rfl

/-! ## Placeholders -/

/-- A group of braces that is no class of one character. -/
structure IsPlaceholder (old : List Char) : Prop where
  brace : ∃ c rest, old = '\x7b' :: c :: rest ∧ c ≠ ']'
  keeps : ∀ d, (outside d).read old = .ok (outside d)

theorem isPlaceholder_dir : IsPlaceholder Rule.dirPlaceholder.toList :=
  ⟨⟨'d', ['i', 'r', '\x7d'], rfl, by decide⟩, fun _ => rfl⟩

theorem isPlaceholder_file : IsPlaceholder Rule.filePlaceholder.toList :=
  ⟨⟨'f', ['i', 'l', 'e', '\x7d'], rfl, by decide⟩, fun _ => rfl⟩

/-- A name in the place of a placeholder leaves the reader where it would be. -/
theorem read_replaceFrom {old : List Char} (hold : IsPlaceholder old) (name cs : List Char)
    (h : bracesOpen s cs = true) :
    bracesOpen s (replaceFrom old (wrap escapedChars name) 0 cs) = true ∧
      s.read (replaceFrom old (wrap escapedChars name) 0 cs) = s.read cs := by
  obtain ⟨x, xs, hxs, hx⟩ := hold.brace
  have hne : old ≠ [] := by simp [hxs]
  induction cs using replace_induction hne generalizing s with
  | nil => exact ⟨h, rfl⟩
  | found cs ih =>
    -- a placeholder does not stand in a class
    obtain ⟨d, rfl⟩ : ∃ d, s = outside d := by
      rw [hxs, List.cons_append, List.cons_append, bracesOpen, Bool.and_eq_true] at h
      cases s with
      | outside d => exact ⟨d, rfl⟩
      | opened d => simp [isOutside, hx] at h
      | inside cls d => simp [isOutside, hx] at h
    obtain ⟨hopen, hread⟩ := ih (bracesOpen_of_append (hold.keeps d) h)
    rw [replaceFrom_append hne, read_wrap_append, read_append_of_ok (hold.keeps d)]
    exact ⟨bracesOpen_wrap_append name hopen, hread⟩
  | kept c cs hc ih =>
    obtain ⟨hbrace, hcs⟩ := bracesOpen_cons_iff.1 h
    -- the closing bracket behind a brace is kept
    have hhead : cs.head? = some ']' →
        (replaceFrom old (wrap escapedChars name) 0 cs).head? = some ']' := by
      intro hhead
      obtain ⟨cs, rfl⟩ := List.head?_eq_some_iff.1 hhead
      rw [replaceFrom_cons, List.head?_cons]
      rw [hxs]
      rintro ⟨t, ht⟩
      exact absurd (List.cons.inj ht).1 (by decide)
    rw [replaceFrom_cons hc, bracesOpen_cons_iff]
    refine ⟨⟨fun hc => (hbrace hc).imp_right hhead, fun s' hnext => (ih (hcs s' hnext)).1⟩, ?_⟩
    cases hnext : s.next c with
    | ok s' => rw [read_cons hnext, read_cons hnext, (ih (hcs s' hnext)).2]
    | error e => rw [read_cons_of_error hnext, read_cons_of_error hnext]

end Glob.Reader

namespace Rule

/-- A template for a glob list in which no placeholder stands in a class, and of which the reading
tells whether the list compiles. -/
structure IsOpenTemplate (template : String) : Prop where
  noEscape : '\\' ∉ template.toList
  unambiguous : (Reader.outside 0).read template.toList ≠ .error .lost
  bracesOpen : (Reader.outside 0).bracesOpen template.toList = true

/-- A template without classes. -/
theorem isOpenTemplate_of_no_class {template : String} (hback : '\\' ∉ template.toList)
    (hclass : '[' ∉ template.toList) : IsOpenTemplate template := by
  suffices h : ∀ d cs, '[' ∉ cs → (Reader.outside d).read cs ≠ .error .lost ∧
      (Reader.outside d).bracesOpen cs = true from
    ⟨hback, (h 0 _ hclass).1, (h 0 _ hclass).2⟩
  intro d cs hcs
  induction cs generalizing d with
  | nil => exact ⟨nofun, rfl⟩
  | cons c cs ih =>
    have hc : c ≠ '[' ∧ '[' ∉ cs := by simpa [eq_comm] using hcs
    rw [Reader.bracesOpen_cons_iff]
    cases hnext : (Reader.outside d).next c with
    | ok s' =>
      obtain ⟨d', rfl⟩ : ∃ d', s' = .outside d' := by
        cases Reader.step_of_next hnext with
        | openClass => exact absurd rfl hc.1
        | openBrace => exact ⟨_, rfl⟩
        | closeBrace => exact ⟨_, rfl⟩
        | keep => exact ⟨_, rfl⟩
      rw [Reader.read_cons hnext]
      refine ⟨(ih d' hc.2).1, fun _ => .inl rfl, fun s' hs' => ?_⟩
      obtain rfl := Except.ok.inj hs'
      exact (ih d' hc.2).2
    | error e =>
      rw [Reader.read_cons_of_error hnext]
      cases Reader.step_of_next hnext with
      | strayBrace => exact ⟨nofun, fun _ => .inl rfl, nofun⟩

theorem not_mem_replaceFrom {x : Char} {old new cs : List Char} (hne : old ≠ []) (hnew : x ∉ new)
    (h : x ∉ cs) : x ∉ replaceFrom old new 0 cs := by
  induction cs using replace_induction hne with
  | nil => simp [replaceFrom]
  | found cs ih =>
    rw [replaceFrom_append hne, List.mem_append, not_or]
    exact ⟨hnew, ih fun hx => h (List.mem_append_right _ hx)⟩
  | kept c cs hc ih =>
    rw [replaceFrom_cons hc, List.mem_cons, not_or]
    exact ⟨fun hx => h (hx ▸ List.mem_cons_self), ih fun hx => h (List.mem_cons_of_mem c hx)⟩

theorem backslash_not_mem_wrap {name : List Char} (h : '\\' ∉ name) :
    '\\' ∉ wrap escapedChars name := by
  rw [wrap, List.mem_flatMap]
  rintro ⟨c, hc, hmem⟩
  have hne : '\\' ≠ c := fun h' => h (h' ▸ hc)
  split at hmem <;> simp [hne] at hmem

theorem toList_fill (template dir file : String) :
    (fill template (escape dir) (escape file)).toList =
      replaceFrom filePlaceholder.toList (wrap escapedChars file.toList) 0
        (replaceFrom dirPlaceholder.toList (wrap escapedChars dir.toList) 0 template.toList) := by
  rw [fill, Text.replace, Text.replace, String.toList_ofList, String.toList_ofList, toList_escape,
    toList_escape]

/-- Whether a list compiles does not depend on the names that are filled in. -/
theorem exists_parse_fill_iff {template dir file : String} (h : IsOpenTemplate template)
    (hdir : '\\' ∉ dir.toList) (hfile : '\\' ∉ file.toList) :
    (∃ l, GlobList.parse (fill template (escape dir) (escape file)) = .ok l) ↔
      ∃ l, GlobList.parse template = .ok l := by
  obtain ⟨hopen, hdirRead⟩ :=
    Reader.read_replaceFrom Reader.isPlaceholder_dir dir.toList template.toList h.bracesOpen
  obtain ⟨-, hfileRead⟩ := Reader.read_replaceFrom Reader.isPlaceholder_file file.toList _ hopen
  have hread : (Reader.outside 0).read (fill template (escape dir) (escape file)).toList =
      (Reader.outside 0).read template.toList := by
    rw [toList_fill, hfileRead, hdirRead]
  have hback : '\\' ∉ (fill template (escape dir) (escape file)).toList := by
    have hdirNe : dirPlaceholder.toList ≠ [] := by decide
    have hfileNe : filePlaceholder.toList ≠ [] := by decide
    rw [toList_fill]
    exact not_mem_replaceFrom hfileNe (backslash_not_mem_wrap hfile)
      (not_mem_replaceFrom hdirNe (backslash_not_mem_wrap hdir) h.noEscape)
  have hsteady : (Reader.outside 0).read (fill template (escape dir) (escape file)).toList ≠
      .error .lost := by
    rw [hread]
    exact h.unambiguous
  rw [Reader.exists_parse_iff hback hsteady, Reader.exists_parse_iff h.noEscape h.unambiguous,
    hread]

theorem backslash_not_mem_fileName {path : String} (h : Path.normalize path = path) :
    '\\' ∉ (Path.fileName path).toList := by
  rw [Path.fileName, Path.segments, List.getLastD_eq_getLast?, List.getLast?_map]
  cases hlast : (Path.names path.toList).getLast? with
  | none => simp
  | some n =>
    have hn := Path.names_of_normal h ▸ List.mem_of_getLast? hlast
    simpa using (Path.isProperName_of_mem hn).backslash_not_mem

/-! ## The lists of a rule -/

/-- Validation does not look at the lists of a rule. The lists that a rule gives to a file compile
exactly if the rule's own do, where no placeholder stands in a class. So the descriptor passes its
check for every file with a proper anchor, or for none. -/
theorem contribute_lists_compile (r : Rule) (q : Inquiry) (ds : List Descriptor)
    (hpath : Path.normalize q.path = q.path) (hok : r.contribute q = .ok ds) :
    (∀ includes excludes, { r with includes, excludes }.validate = r.validate) ∧
    ∃ d, ds = [d] ∧
      (IsOpenTemplate r.includes →
        ((∃ l, GlobList.parse d.includes = .ok l) ↔ ∃ l, GlobList.parse r.includes = .ok l)) ∧
      (IsOpenTemplate r.excludes →
        ((∃ l, GlobList.parse d.excludes = .ok l) ↔ ∃ l, GlobList.parse r.excludes = .ok l)) ∧
      (IsOpenTemplate r.includes → IsOpenTemplate r.excludes →
        ((∃ e, d.check = .ok e) ↔ (∃ e, d.checkAnchor = .ok e) ∧
          (∃ l, GlobList.parse r.includes = .ok l) ∧ ∃ l, GlobList.parse r.excludes = .ok l)) := by
  obtain ⟨-, -, rfl⟩ := contribute_eq_ok_iff.1 hok
  have hdir := backslash_not_mem_dirName hpath
  have hfile := backslash_not_mem_fileName hpath
  have hincludes (h : IsOpenTemplate r.includes) :
      (∃ l, GlobList.parse (r.descriptorOf q).includes = .ok l) ↔
        ∃ l, GlobList.parse r.includes = .ok l :=
    exists_parse_fill_iff h hdir hfile
  have hexcludes (h : IsOpenTemplate r.excludes) :
      (∃ l, GlobList.parse (r.descriptorOf q).excludes = .ok l) ↔
        ∃ l, GlobList.parse r.excludes = .ok l :=
    exists_parse_fill_iff h hdir hfile
  refine ⟨fun _ _ => rfl, _, rfl, hincludes, hexcludes, fun hi he => ?_⟩
  rw [← hincludes hi, ← hexcludes he, ← exists_and_right]
  simp only [Descriptor.check_eq_ok_iff, Descriptor.checkAnchor_eq_ok_iff]

/-- A directory whose name has a role for globs, in a list with a class and a group, and a list
that closes a brace too many. -/
theorem contribute_lists_compile_stray :
    let r : Rule :=
      { id := "lib", suffixes := [".json"], component := "lib"
        includes := "\x7bdir\x7d/*.[ch],\x7ba,\x7bfile\x7d\x7d", excludes := "\x7bdir\x7d\x7d/**" }
    let q : Inquiry := ⟨"src/z-a[\x7b,/p.json", "H", { baseDir := "/scan" }⟩
    IsOpenTemplate r.includes ∧ IsOpenTemplate r.excludes ∧ Path.normalize q.path = q.path ∧
    ∃ d, r.contribute q = .ok [d] ∧ (∃ l, GlobList.parse d.includes = .ok l) ∧
      ¬ (∃ l, GlobList.parse d.excludes = .ok l) ∧ ¬ ∃ e, d.check = .ok e := by
  intro r q
  have hi : IsOpenTemplate r.includes := ⟨by decide, by decide +kernel, by decide +kernel⟩
  have he : IsOpenTemplate r.excludes := isOpenTemplate_of_no_class (by decide) (by decide)
  have hpath : Path.normalize q.path = q.path := by decide +kernel
  have hok : r.contribute q = .ok [r.descriptorOf q] := by decide +kernel
  obtain ⟨-, d, hd, hincludes, hexcludes, hcheck⟩ := contribute_lists_compile r q _ hpath hok
  obtain rfl := List.singleton_inj.1 hd
  have hcompiles : ∃ l, GlobList.parse r.includes = .ok l := isOk_iff.1 (by decide +kernel)
  have hstray : ¬ ∃ l, GlobList.parse r.excludes = .ok l := fun h =>
    absurd (isOk_iff.2 h) (by decide +kernel)
  exact ⟨hi, he, hpath, _, hok, (hincludes hi).2 hcompiles, fun h => hstray ((hexcludes he).1 h),
    fun h => hstray ((hcheck hi he).1 h).2.2⟩

/-- A rule that passes validation and ends matching with the descriptor it makes. With a placeholder
in a class, it depends on the name of the directory whether the list compiles. -/
theorem contribute_breaks_list :
    let r (includes : String) : Rule :=
      { id := "lib", suffixes := [".json"], component := "lib", version := "1", includes }
    let q (path : String) : Inquiry := ⟨path, "H", { baseDir := "/scan" }⟩
    let lists (includes path csv : String) : Prop :=
      (r includes).validate = .ok () ∧ Path.normalize path = path ∧
      ∃ d, (r includes).contribute (q path) = .ok [d] ∧ d.includes = csv
    let breaks (includes path csv : String) : Prop :=
      lists includes path csv ∧ (¬ ∃ l, GlobList.parse csv = .ok l) ∧
      ∃ message, AnchorMatch.all [(r includes).descriptorOf (q path)]
        (.ofScanned "/scan" [{ path, checksum := some "H" }] []) .immediate =
          .error (.invalidPattern csv message)
    breaks "[" "lib/p.json" "[" ∧ breaks "[\x7bdir\x7d]" "z-a/p.json" "[z-a]" ∧
      lists "[\x7bdir\x7d]" "a-z/p.json" "[a-z]" ∧ ∃ l, GlobList.parse "[a-z]" = .ok l := by
  intro r q lists breaks
  have hbreaks (csv : String) (h : (GlobList.parse csv).isOk = false) :
      ¬ ∃ l, GlobList.parse csv = .ok l := fun hl => by
    rw [isOk_iff.2 hl] at h
    cases h
  have hlists (includes path csv : String) (h : (r includes).validate = .ok () ∧
      Path.normalize path = path ∧
      (r includes).contribute (q path) = .ok [(r includes).descriptorOf (q path)] ∧
      ((r includes).descriptorOf (q path)).includes = csv) : lists includes path csv :=
    ⟨h.1, h.2.1, _, h.2.2⟩
  refine ⟨⟨hlists _ _ _ (by decide +kernel), hbreaks _ (by decide +kernel),
      "error parsing glob '[': unclosed character class; missing ']'", by decide +kernel⟩,
    ⟨hlists _ _ _ (by decide +kernel), hbreaks _ (by decide +kernel),
      "error parsing glob '[z-a]': invalid range; 'z' > 'a'", by decide +kernel⟩,
    hlists _ _ _ (by decide +kernel), isOk_iff.1 (by decide +kernel)⟩

end Rule

end ComponentScan
