import ComponentScan.Proofs.Glob.Spelling
import ComponentScan.Proofs.Traversal

/-!
# Globs as entries of a list

Globs that are joined by commas make up a list. The list holds the same globs exactly if no comma of
theirs separates and the separator scan leaves each but the last outside of everything; that is so
unless an escaped bracket or brace, or a negated class that begins with a closing bracket, misleads
the scan (`parse_intercalate`). Where it does, entries run together or fall apart
(`parse_misled`).
-/

namespace ComponentScan.GlobList

open ComponentScan.Text ComponentScan.Glob

/-! ## What is left of a piece -/

/-- The entry that a piece stands for: the piece without blanks around it or slashes in front. -/
def entryOf (piece : List Char) : List Char :=
  (trimChars piece).dropWhile (· = '/')

theorem entries_eq (csv : String) : entries csv =
    (((splitList csv.toList).map entryOf).filter (· ≠ [])).map String.ofList := by
  have hpieces : (splitList csv.toList).map (fun piece =>
      String.ofList ((trimChars piece).dropWhile (· = '/'))) =
        ((splitList csv.toList).map entryOf).map String.ofList := by
    rw [List.map_map]
    rfl
  rw [entries, hpieces, List.filter_map]
  congr 2
  funext cs
  simp

theorem entryOf_sublist (piece : List Char) : (entryOf piece).Sublist piece := by
  refine (List.dropWhile_sublist _).trans ?_
  rw [trimChars, dropEndWhile]
  refine List.Sublist.trans ?_ (List.dropWhile_sublist isBlank)
  simpa using (List.dropWhile_sublist isBlank (l := (piece.dropWhile isBlank).reverse)).reverse

/-- The length of some pieces with a comma behind each. -/
def joinedLength : List (List Char) → Nat
  | [] => 0
  | p :: pieces => p.length + 1 + joinedLength pieces

theorem length_intercalate {pieces : List (List Char)} (hne : pieces ≠ []) :
    ([','].intercalate pieces).length + 1 = joinedLength pieces := by
  induction pieces with
  | nil => exact absurd rfl hne
  | cons p pieces ih =>
    cases pieces with
    | nil => simp [joinedLength]
    | cons p' pieces =>
      have hrest := ih (List.cons_ne_nil p' pieces)
      rw [joinedLength, ← hrest, List.intercalate_cons_cons]
      simp only [List.length_append, List.length_singleton]
      omega

/-- Cleaning shortens pieces that it changes or drops. -/
theorem joinedLength_entries (pieces : List (List Char)) :
    joinedLength ((pieces.map entryOf).filter (· ≠ [])) ≤ joinedLength pieces ∧
      (joinedLength ((pieces.map entryOf).filter (· ≠ [])) = joinedLength pieces →
        (pieces.map entryOf).filter (· ≠ []) = pieces) := by
  induction pieces with
  | nil => exact ⟨Nat.le_refl _, fun _ => rfl⟩
  | cons p pieces ih =>
    obtain ⟨hle, heq⟩ := ih
    have hp := (entryOf_sublist p).length_le
    rw [List.map_cons]
    by_cases hnil : entryOf p = []
    · rw [List.filter_cons_of_neg (by simpa using hnil)]
      simp only [joinedLength] at hle ⊢
      exact ⟨by omega, fun h => absurd h (by omega)⟩
    · rw [List.filter_cons_of_pos (by simpa using hnil)]
      simp only [joinedLength] at hle heq ⊢
      refine ⟨by omega, fun h => ?_⟩
      rw [heq (by omega), (entryOf_sublist p).eq_of_length (by omega)]

/-- Cleaning cannot make up for pieces that are not the texts that were joined. -/
theorem entriesOf_intercalate_iff {texts : List (List Char)} (hne : texts ≠ [])
    (h : ∀ t ∈ texts, entryOf t = t ∧ t ≠ []) :
    ((splitList ([','].intercalate texts)).map entryOf).filter (· ≠ []) = texts ↔
      splitList ([','].intercalate texts) = texts := by
  constructor
  · intro hentries
    have hlength : joinedLength texts = joinedLength (splitList ([','].intercalate texts)) := by
      rw [← length_intercalate hne, splitList, ← length_intercalate (splitFrom_ne_nil _ _),
        intercalate_splitFrom]
    have hsame := (joinedLength_entries (splitList ([','].intercalate texts))).2
    rw [hentries] at hsame
    exact (hsame hlength).symm
  · intro hsplit
    rw [hsplit, List.map_congr_left fun t ht => (h t ht).1, List.map_id', List.filter_eq_self]
    exact fun t ht => decide_eq_true (h t ht).2

/-! ## Entries -/

/-- A glob that can stand in a list: it is a glob on its own, without blanks around it or a slash in
front, and each of its commas stands inside a class or braces. -/
structure IsEntry (g : String) : Prop where
  compiles : ∃ glob, Glob.compile g = .ok glob
  nonempty : g ≠ ""
  trimmed : trim g = g
  relative : g.toList.head? ≠ some '/'
  commas : commasInside 0 (lex g.toList) = true

theorem IsEntry.entryOf_eq {g : String} (h : IsEntry g) : entryOf g.toList = g.toList := by
  have htrim : trimChars g.toList = g.toList := by
    have htext := congrArg String.toList h.trimmed
    rwa [trim, String.toList_ofList] at htext
  rw [entryOf, htrim]
  cases hg : g.toList with
  | nil => rfl
  | cons c cs =>
    have hc : c ≠ '/' := by
      rintro rfl
      exact h.relative (by rw [hg, List.head?_cons])
    exact List.dropWhile_cons_of_neg (by simpa using hc)

variable {gs : List String}

theorem entries_intercalate_iff (h : ∀ g ∈ gs, IsEntry g) (hne : gs ≠ []) :
    entries (",".intercalate gs) = gs ↔
      splitList ([','].intercalate (gs.map String.toList)) = gs.map String.toList := by
  have htexts : ∀ t ∈ gs.map String.toList, entryOf t = t ∧ t ≠ [] := by
    intro t ht
    obtain ⟨g, hg, rfl⟩ := List.mem_map.1 ht
    exact ⟨(h g hg).entryOf_eq, fun hnil => (h g hg).nonempty (String.toList_eq_nil_iff.1 hnil)⟩
  have hinj : Function.Injective (List.map String.ofList) :=
    List.map_injective_iff.2 fun _ _ => String.ofList_injective
  have hgs : gs = (gs.map String.toList).map String.ofList := by
    simp [Function.comp_def]
  rw [← entriesOf_intercalate_iff (by simpa using hne) htexts, entries_eq,
    String.toList_intercalate]
  conv_lhs => rhs; rw [hgs]
  exact hinj.eq_iff

/-! ## Lists -/

theorem texts_of_mapM {texts : List String} {globs : List Glob}
    (h : texts.mapM Glob.compile = .ok globs) : globs.map Glob.text = texts := by
  have hsteps := mapM_eq_ok_iff.1 h
  clear h
  induction hsteps with
  | nil => rfl
  | cons hg _ ih =>
    obtain ⟨ts, -, rfl⟩ := compile_eq_ok_iff.1 hg
    rw [List.map_cons, ih]

/-- The globs of a list keep the texts of its entries. -/
theorem patterns_of_parse {csv : String} {l : GlobList} (h : parse csv = .ok l) :
    l.patterns = entries csv := by
  obtain ⟨globs, hglobs, hl⟩ := bind_eq_ok_iff.1 h
  cases hl
  exact texts_of_mapM hglobs

theorem exists_parse {csv : String} (h : ∀ text ∈ entries csv, ∃ g, Glob.compile text = .ok g) :
    ∃ l, parse csv = .ok l := by
  obtain ⟨globs, hglobs⟩ := exists_mapM_eq_ok h
  exact ⟨⟨globs⟩, bind_eq_ok_iff.2 ⟨globs, hglobs, rfl⟩⟩

/-- Globs that were joined are the globs of the list if they are its entries. -/
theorem parse_intercalate_iff (h : ∀ g ∈ gs, IsEntry g) :
    (∃ l, parse (",".intercalate gs) = .ok l ∧ l.patterns = gs) ↔
      entries (",".intercalate gs) = gs := by
  constructor
  · rintro ⟨l, hl, hpatterns⟩
    rw [← patterns_of_parse hl, hpatterns]
  · intro hentries
    obtain ⟨l, hl⟩ := exists_parse fun text htext => (h text (hentries ▸ htext)).compiles
    exact ⟨l, hl, by rw [patterns_of_parse hl, hentries]⟩

/-- Globs that are joined by commas are the globs of the list exactly if none of their commas
separates and the separator scan comes out of each, apart from the last one, where it was. It does
so if it agrees with the globs about the end of every lexeme. -/
theorem parse_intercalate (gs : List String) (h : ∀ g ∈ gs, IsEntry g) :
    let kept : Prop := ∃ l, parse (",".intercalate gs) = .ok l ∧ l.patterns = gs
    let scanned (g : String) : Option SplitState := (SplitState.outside 0).after? g.toList
    (kept ↔ (∀ g ∈ gs.dropLast, scanned g = some (.outside 0)) ∧
      ∀ g ∈ gs.getLast?, scanned g ≠ none) ∧
    ((∀ g ∈ gs, ∀ l ∈ lex g.toList, l.scansAlike = true) → kept) := by
  intro kept scanned
  have hkept : kept ↔ (∀ g ∈ gs.dropLast, scanned g = some (.outside 0)) ∧
      ∀ g ∈ gs.getLast?, scanned g ≠ none := by
    by_cases hne : gs = []
    · subst hne
      have hnil : kept := ⟨⟨[]⟩, rfl, rfl⟩
      simp [hnil]
    · refine (parse_intercalate_iff h).trans ((entries_intercalate_iff h hne).trans ?_)
      rw [splitList_intercalate_iff (by simpa using hne), ← List.map_dropLast, List.forall_mem_map,
        List.getLast?_map]
      simp [scanned]
  refine ⟨hkept, fun halike => hkept.2 ?_⟩
  have hscanned : ∀ g ∈ gs, scanned g = some (.outside 0) := by
    intro g hg
    obtain ⟨glob, hglob⟩ := (h g hg).compiles
    have hbalanced := balanced_of_compile hglob
    exact (spelled_lex hbalanced.fault_not_mem).after?_eq hbalanced (h g hg).commas (halike g hg)
  refine ⟨fun g hg => hscanned g (List.dropLast_subset _ hg), fun g hg => ?_⟩
  rw [hscanned g (List.mem_of_getLast? hg)]
  exact Option.some_ne_none _

/-- Commas in braces and in classes, negated ones too, and an escaped star. -/
theorem parse_intercalate_groups :
    let gs := ["\x7ba,b\x7d/*.js", "c[,]d/**", "[!,]\\*"]
    (∀ g ∈ gs, IsEntry g) ∧ (∀ g ∈ gs, ∀ l ∈ lex g.toList, l.scansAlike = true) ∧
      ∃ l, parse (",".intercalate gs) = .ok l ∧ l.patterns = gs := by
  intro gs
  have hentries : ∀ g ∈ gs, IsEntry g := by
    intro g hg
    simp only [gs, List.mem_cons, List.not_mem_nil, or_false] at hg
    rcases hg with rfl | rfl | rfl <;>
      exact ⟨⟨_, rfl⟩, by decide, by decide, by decide, by decide⟩
  have halike : ∀ g ∈ gs, ∀ l ∈ lex g.toList, l.scansAlike = true := by decide
  exact ⟨hentries, halike, (parse_intercalate gs hentries).2 halike⟩

/-- A negated class that begins with a closing bracket falls apart at its comma, and an escaped
bracket keeps the next entry with its own. -/
theorem parse_misled :
    let kept (gs : List String) : Prop :=
      ∃ l, parse (",".intercalate gs) = .ok l ∧ l.patterns = gs
    (IsEntry "[!],]" ∧ ¬ kept ["[!],]"]) ∧
      (∀ g ∈ ["\\[", "b"], IsEntry g) ∧ ¬ kept ["\\[", "b"] := by
  intro kept
  have hnegated : IsEntry "[!],]" := ⟨⟨_, rfl⟩, by decide, by decide, by decide, by decide⟩
  have hescaped : ∀ g ∈ ["\\[", "b"], IsEntry g := by
    intro g hg
    simp only [List.mem_cons, List.not_mem_nil, or_false] at hg
    rcases hg with rfl | rfl <;> exact ⟨⟨_, rfl⟩, by decide, by decide, by decide, by decide⟩
  have hfirst : ¬ kept ["[!],]"] :=
    mt (parse_intercalate_iff (List.forall_mem_singleton.2 hnegated)).1 (by decide)
  have hsecond : ¬ kept ["\\[", "b"] := mt (parse_intercalate_iff hescaped).1 (by decide)
  exact ⟨⟨hnegated, hfirst⟩, hescaped, hsecond⟩

end ComponentScan.GlobList
