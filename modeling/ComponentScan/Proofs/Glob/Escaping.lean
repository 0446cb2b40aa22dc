import ComponentScan.Proofs.Glob.Matching
import ComponentScan.Proofs.Glob.Separating
import ComponentScan.Proofs.Traversal

/-!
# Escaped names in glob lists

An escaped name is one entry of a glob list and stands for itself there, as far as the cleaning of
the entry leaves it: the blanks in front of it are dropped. So the list "everything below the
directory" accepts what lies below a first segment that is the name without these blanks
(`exists_parse_below`). When nothing is left of the name, the entry is two stars and accepts every
path.
-/

namespace ComponentScan.Glob

open ComponentScan.Text

/-- The characters that an escaped text holds in classes of their own. -/
def escapedChars : List Char := ['*', '?', '[', ']', '\x7b', '\x7d', ',']

theorem toList_escape (name : String) : (escape name).toList = wrap escapedChars name.toList :=
  String.toList_ofList

theorem escapedChars_utf8Size : ∀ c ∈ escapedChars, c.utf8Size = 1 := by
  intro c hc
  rw [escapedChars] at hc
  simp only [List.mem_cons, List.not_mem_nil, or_false] at hc
  rcases hc with rfl | rfl | rfl | rfl | rfl | rfl | rfl <;> rfl

theorem strictSpecials_subset_escapedChars : ∀ c ∈ strictSpecials, c ∈ escapedChars := by
  simp [strictSpecials, escapedChars]

/-! ## Separating -/

/-- The separator scan comes out of an escaped text as it went in. -/
theorem after?_wrap (cs : List Char) :
    (SplitState.outside 0).after? (wrap escapedChars cs) = some (.outside 0) := by
  induction cs with
  | nil => rfl
  | cons c cs ih =>
    have hfirst : (SplitState.outside 0).after?
        (if escapedChars.contains c then ['[', c, ']'] else [c]) = some (.outside 0) := by
      by_cases hc : escapedChars.contains c = true
      · rw [if_pos hc, after?_cons (by simp), after?_cons (by simp [SplitState.next]),
          after?_cons (by simp [SplitState.next])]
        rfl
      · have hne : ∀ d ∈ escapedChars, c ≠ d := by
          rintro d hd rfl
          exact hc (List.contains_iff_mem.2 hd)
        rw [if_neg hc, after?_cons (by simp [hne ',' (by decide)])]
        simp [SplitState.after?, SplitState.next, hne '[' (by decide), hne '\x7b' (by decide)]
    rw [wrap_cons, after?_append, hfirst, Option.bind_some, ih]

/-- An escaped text stands inside one piece. -/
theorem splitFrom_wrap (cs rest : List Char) :
    splitFrom (.outside 0) (wrap escapedChars cs ++ rest) =
      (splitFrom (.outside 0) rest).modifyHead (wrap escapedChars cs ++ ·) :=
  splitFrom_append (after?_wrap cs) rest

/-! ## Cleaning -/

theorem not_blank_of_escaped {c : Char} (h : escapedChars.contains c = true) :
    isBlank c = false := by
  rw [List.contains_iff_mem, escapedChars] at h
  simp only [List.mem_cons, List.not_mem_nil, or_false] at h
  rcases h with rfl | rfl | rfl | rfl | rfl | rfl | rfl <;> rfl

/-- The blanks in front of an escaped text are those in front of the text. -/
theorem dropWhile_isBlank_wrap (cs : List Char) {c : Char} (hc : isBlank c = false)
    (rest : List Char) :
    (wrap escapedChars cs ++ c :: rest).dropWhile isBlank =
      wrap escapedChars (cs.dropWhile isBlank) ++ c :: rest := by
  induction cs with
  | nil =>
    show (c :: rest).dropWhile isBlank = c :: rest
    rw [List.dropWhile_cons_of_neg (by simp [hc])]
  | cons d cs ih =>
    by_cases hd : isBlank d = true
    · have hplain : ¬ escapedChars.contains d = true := fun h => by
        rw [not_blank_of_escaped h] at hd
        cases hd
      rw [wrap_cons, if_neg hplain, List.append_assoc, List.singleton_append,
        List.dropWhile_cons_of_pos hd, ih, List.dropWhile_cons_of_pos hd]
    · rw [List.dropWhile_cons_of_neg hd, wrap_cons]
      split
      · exact List.dropWhile_cons_of_neg (by decide)
      · exact List.dropWhile_cons_of_neg hd

/-- The name that is left of the name of a directory: without the blanks in front. -/
def cleaned (name : List Char) : List Char := name.dropWhile isBlank

/-- The entry for everything below a directory. -/
def below (name : List Char) : List Char := wrap escapedChars name ++ ['/', '*', '*']

theorem trimChars_below (name : List Char) : trimChars (below name) = below (cleaned name) := by
  rw [trimChars, below, dropWhile_isBlank_wrap name (by decide), dropEndWhile, List.reverse_append]
  show (('*' :: _).dropWhile isBlank).reverse = _
  rw [List.dropWhile_cons_of_neg (by decide)]
  simp [below, cleaned]

theorem dropWhile_slash_below {name : List Char} (hslash : '/' ∉ name) :
    (below name).dropWhile (· = '/') = if name = [] then ['*', '*'] else below name := by
  cases name with
  | nil => rfl
  | cons c cs =>
    have hc : c ≠ '/' := fun h => hslash (by simp [h])
    rw [if_neg (List.cons_ne_nil c cs), below, wrap_cons]
    split
    · rfl
    · exact List.dropWhile_cons_of_neg (by simpa using hc)

/-- A list of one entry. -/
theorem entries_below {name : List Char} (hslash : '/' ∉ name) :
    GlobList.entries (String.ofList (below name)) =
      [String.ofList (if cleaned name = [] then ['*', '*'] else below (cleaned name))] := by
  have hsplit : splitList (below name) = [below name] := by
    rw [splitList, below, splitFrom_wrap]
    rfl
  have hclean : '/' ∉ cleaned name := fun h => hslash ((List.dropWhile_suffix _).subset h)
  have hne : (if cleaned name = [] then ['*', '*'] else below (cleaned name)) ≠ [] := by
    split <;> simp [below]
  rw [GlobList.entries, String.toList_ofList, hsplit, List.map_singleton, trimChars_below,
    dropWhile_slash_below hclean]
  simp [hne]

/-! ## Reading -/

/-- The tokens of an escaped name and everything below it. -/
def belowTokens (name : List Char) : List Token :=
  name.map (wrappedToken escapedChars) ++ [.allBelow]

/-- The slash in front of two stars at the end becomes a part of their token. -/
theorem tokensFrom_slash_stars (before : Option Char) (branch : List Token) :
    tokensFrom before ⟨branch, []⟩ [.char '/', .star, .star] =
      .ok (branch.reverse ++ [.allBelow]) := by
  show Except.ok (Token.allBelow :: branch).reverse = _
  rw [List.reverse_cons]

theorem readTokens_below {name : List Char} (hback : '\\' ∉ name) :
    readTokens (below name) = .ok (belowTokens name) := by
  have hlex : lex (below name) =
      name.map (wrappedLexeme escapedChars) ++ [.char '/', .star, .star] := by
    rw [below, lex_wrap_append strictSpecials_subset_escapedChars (by decide) hback,
      lex_plain (by decide), lex, lex]
    rfl
  have hstar : escapedChars.contains '*' = true := by decide
  obtain ⟨before, hname⟩ :=
    tokensFrom_wrap_append hstar name none [] [.char '/', .star, .star]
  rw [readTokens, hlex, hname, List.append_nil, tokensFrom_slash_stars, List.reverse_reverse,
    belowTokens]

theorem accepts_below_iff {name path : List Char} {text : String} :
    Glob.accepts ⟨text, belowTokens name⟩ (String.ofList path) = true ↔
      ∃ u v, path = u ++ '/' :: v ∧ u.map asciiLower = name.map asciiLower := by
  have hmore : belowTokens name ≠ [.leadingDirs] := by
    cases name with
    | nil => simp [belowTokens]
    | cons c cs => simp [belowTokens]
  rw [Glob.accepts, String.toList_ofList, matchesBytes_iff, or_iff_right hmore, belowTokens,
    seqRests_append, List.mem_flatMap]
  constructor
  · rintro ⟨r, hr, hbelow⟩
    obtain ⟨u, v, rfl, hu, rfl⟩ := (mem_seqRests_wrapped escapedChars_utf8Size (by decide)).1 hr
    obtain ⟨w, rfl⟩ := nil_mem_allBelow_iff.1 hbelow
    exact ⟨u, w, rfl, hu⟩
  · rintro ⟨u, v, rfl, hu⟩
    refine ⟨bytes ('/' :: v), ?_, nil_mem_allBelow_iff.2 ⟨v, rfl⟩⟩
    exact (mem_seqRests_wrapped escapedChars_utf8Size (by decide)).2 ⟨u, '/' :: v, rfl, hu, rfl⟩

/-- The list of everything below a directory compiles. It accepts what lies below a first segment
that is the cleaned name, up to the case of ASCII letters, and every path when nothing is left of
the name. -/
theorem exists_parse_below {name : List Char} (hslash : '/' ∉ name) (hback : '\\' ∉ name) :
    ∃ l, GlobList.parse (String.ofList (below name)) = .ok l ∧ ∀ path : List Char,
      l.accepts (String.ofList path) = true ↔ cleaned name = [] ∨
        ∃ u v, path = u ++ '/' :: v ∧ u.map asciiLower = (cleaned name).map asciiLower := by
  have hback' : '\\' ∉ cleaned name := fun h => hback ((List.dropWhile_suffix _).subset h)
  rw [GlobList.parse, entries_below hslash]
  by_cases hname : cleaned name = []
  · simp only [hname, if_true, true_or, iff_true]
    exact ⟨⟨[⟨"**", [.leadingDirs]⟩]⟩, rfl, fun _ => rfl⟩
  · simp only [hname, if_false, false_or]
    have hcompile : Glob.compile (String.ofList (below (cleaned name))) =
        .ok ⟨String.ofList (below (cleaned name)), belowTokens (cleaned name)⟩ := by
      refine compile_eq_ok_iff.2 ⟨_, ?_, rfl⟩
      rw [String.toList_ofList, readTokens_below hback']
    refine ⟨⟨[⟨String.ofList (below (cleaned name)), belowTokens (cleaned name)⟩]⟩, ?_,
      fun path => ?_⟩
    · rw [mapM_eq_ok_iff.2 (.cons hcompile .nil)]
      rfl
    · rw [GlobList.accepts, List.any_cons, List.any_nil, Bool.or_false, accepts_below_iff]

/-! ## Escaped texts -/

theorem wrappedToken_ne_leadingDirs (special : List Char) (c : Char) :
    wrappedToken special c ≠ .leadingDirs := by
  rw [wrappedToken]
  split
  · simp
  · split <;> simp

theorem readTokens_wrap {cs : List Char} (h : '\\' ∉ cs) :
    readTokens (wrap escapedChars cs) = .ok (cs.map (wrappedToken escapedChars)) := by
  have hstar : escapedChars.contains '*' = true := by decide
  obtain ⟨before, htokens⟩ := tokensFrom_wrap_append hstar cs none [] []
  rw [List.append_nil, List.append_nil] at htokens
  rw [readTokens, lex_wrap strictSpecials_subset_escapedChars (by decide) h, htokens]
  simp [tokensFrom]

theorem compile_escape {text : String} (h : '\\' ∉ text.toList) :
    Glob.compile (escape text) =
      .ok ⟨escape text, text.toList.map (wrappedToken escapedChars)⟩ := by
  refine compile_eq_ok_iff.2 ⟨_, ?_, rfl⟩
  rw [toList_escape, readTokens_wrap h]

theorem accepts_wrapped_iff {cs : List Char} {text path : String} :
    Glob.accepts ⟨text, cs.map (wrappedToken escapedChars)⟩ path = true ↔
      path.toList.map asciiLower = cs.map asciiLower := by
  have hmore : cs.map (wrappedToken escapedChars) ≠ [.leadingDirs] := by
    intro h
    obtain ⟨c, -, hc⟩ := List.mem_map.1 (h ▸ List.mem_singleton_self Token.leadingDirs)
    exact wrappedToken_ne_leadingDirs _ c hc
  rw [Glob.accepts, matchesBytes_iff, or_iff_right hmore,
    mem_seqRests_wrapped escapedChars_utf8Size (by decide)]
  constructor
  · rintro ⟨u, v, hpath, hu, hv⟩
    rw [hpath, bytes_eq_nil_iff.1 hv.symm, List.append_nil, hu]
  · intro h
    exact ⟨path.toList, [], (List.append_nil _).symm, h, rfl⟩

/-- Escaped texts are the pieces of the list in which they stand. The glob of an escaped text
without backslashes accepts this text alone, in any case of its ASCII letters. -/
theorem escape_inert :
    (∀ texts : List String, texts ≠ [] →
      splitList (",".intercalate (texts.map escape)).toList =
        texts.map fun t => (escape t).toList) ∧
    ∀ text : String, '\\' ∉ text.toList →
      ∃ g, Glob.compile (escape text) = .ok g ∧ ∀ path, g.accepts path = asciiCaseEq path text := by
  constructor
  · intro texts hne
    rw [String.toList_intercalate, List.map_map]
    refine splitList_intercalate (by simpa using hne) fun t ht => ?_
    obtain ⟨text, -, rfl⟩ := List.mem_map.1 ht
    rw [Function.comp_apply, toList_escape]
    exact after?_wrap text.toList
  · intro text hback
    refine ⟨_, compile_escape hback, fun path => ?_⟩
    rw [Bool.eq_iff_iff, accepts_wrapped_iff, asciiCaseEq, beq_iff_eq]

/-- Names made of nothing but brackets, braces, commas and a backslash keep apart, and one with all
the characters that are escaped is accepted by its glob alone. -/
theorem escape_inert_brackets :
    let texts := ["[", "]\x7b", "\x7b,\\,", ""]
    let text := "a[\x7bx,]y\x7d?*"
    texts ≠ [] ∧
    splitList (",".intercalate (texts.map escape)).toList = texts.map (fun t => (escape t).toList) ∧
    '\\' ∉ text.toList ∧
    ∃ g, Glob.compile (escape text) = .ok g ∧
      g.accepts "A[\x7bX,]y\x7d?*" = true ∧ g.accepts "ax" = false := by
  intro texts text
  have hback : '\\' ∉ text.toList := by decide
  obtain ⟨g, hg, haccepts⟩ := escape_inert.2 text hback
  refine ⟨by simp [texts], escape_inert.1 texts (by simp [texts]), hback, g, hg, ?_, ?_⟩
  · rw [haccepts]
    decide
  · rw [haccepts]
    decide

end ComponentScan.Glob
