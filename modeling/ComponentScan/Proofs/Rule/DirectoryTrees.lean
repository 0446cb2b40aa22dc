import ComponentScan.Proofs.Absorption.Loose
import ComponentScan.Proofs.Engine.Passes
import ComponentScan.Proofs.Glob.Escaping
import ComponentScan.Proofs.Path.Subtrees
import ComponentScan.Proofs.Rule.DerivedAnchors

/-!
# Directory trees

The rule for a whole directory includes everything below the directory that a file lies in. The name
of the directory is escaped, but a glob list drops the blanks in front of its entries, so the tree
is the one below the name without them: its name. What the matches of such a rule absorb lies below
a directory of this name (`absorbed_below_treeName`), and a tree whose name is empty is the whole
scan (`absorbed_outside_dirName`).
-/

namespace ComponentScan

open ComponentScan.Text ComponentScan.Glob ComponentScan.Path

namespace Rule

variable {r : Rule} {q : Inquiry} {context : ScanContext} {found : List AnchorMatch}

/-! ## Escaped names in a template -/

/-- An escaped text holds no placeholder: behind an opening brace stands a bracket. -/
theorem replaceFrom_filePlaceholder_wrap (new cs rest : List Char) :
    replaceFrom filePlaceholder.toList new 0 (wrap escapedChars cs ++ rest) =
      wrap escapedChars cs ++ replaceFrom filePlaceholder.toList new 0 rest := by
  have hkeep {c : Char} (hc : c ≠ '\x7b') (ds : List Char) :
      replaceFrom filePlaceholder.toList new 0 (c :: ds) =
        c :: replaceFrom filePlaceholder.toList new 0 ds := by
    refine replaceFrom_cons ?_ new
    rintro ⟨t, ht⟩
    exact hc (List.cons.inj ht).1.symm
  have hbrace (ds : List Char) :
      replaceFrom filePlaceholder.toList new 0 ('\x7b' :: ']' :: ds) =
        '\x7b' :: replaceFrom filePlaceholder.toList new 0 (']' :: ds) := by
    refine replaceFrom_cons ?_ new
    rintro ⟨t, ht⟩
    have hsecond := (List.cons.inj (List.cons.inj ht).2).1
    exact absurd hsecond (by decide)
  induction cs with
  | nil => rfl
  | cons c cs ih =>
    rw [wrap_cons]
    split
    · show replaceFrom _ new 0 ('[' :: c :: ']' :: (wrap escapedChars cs ++ rest)) = _
      rw [hkeep (by decide)]
      by_cases hc : c = '\x7b'
      · rw [hc, hbrace, hkeep (by decide), ih]
        rfl
      · rw [hkeep hc, hkeep (by decide), ih]
        rfl
    · rename_i hplain
      have hc : c ≠ '\x7b' := by
        rintro rfl
        exact hplain (by decide)
      show replaceFrom _ new 0 (c :: (wrap escapedChars cs ++ rest)) = _
      rw [hkeep hc, ih]
      rfl

/-- The template for everything below the directory that a file lies in. -/
def treeTemplate : String := dirPlaceholder ++ "/**"

theorem fill_treeTemplate (dir file : String) :
    fill treeTemplate (escape dir) file = String.ofList (below dir.toList) := by
  have hdir : (Text.replace treeTemplate dirPlaceholder (escape dir)).toList =
      wrap escapedChars dir.toList ++ ['/', '*', '*'] := by
    have htemplate : treeTemplate.toList = dirPlaceholder.toList ++ ['/', '*', '*'] := rfl
    rw [Text.replace, String.toList_ofList, htemplate, replaceFrom_append (by decide),
      toList_escape]
    rfl
  rw [fill, Text.replace, hdir, replaceFrom_filePlaceholder_wrap]
  rfl

/-- The name of the tree that a rule includes: the name of the directory that the file lies in,
without the blanks in front. -/
def treeName (q : Inquiry) : String :=
  String.ofList (cleaned (dirName q.path).toList)

theorem treeName_eq_empty_iff : treeName q = "" ↔ cleaned (dirName q.path).toList = [] :=
  String.ofList_eq_empty_iff

/-- The name of a directory that does not begin with a blank is the name of its tree. -/
theorem treeName_eq_dirName (h : (dirName q.path).toList.head?.any Text.isBlank = false) :
    treeName q = dirName q.path := by
  rw [treeName, cleaned, ← String.toList_inj, String.toList_ofList]
  cases hdir : (dirName q.path).toList with
  | nil => rfl
  | cons c cs =>
    rw [hdir, List.head?_cons, Option.any_some] at h
    exact List.dropWhile_cons_of_neg (Bool.eq_false_iff.1 h)

theorem toList_dirName (path : String) :
    (dirName path).toList = (names path.toList).dropLast.getLastD [] := by
  rw [dirName, segments, ← List.map_dropLast, List.getLastD_eq_getLast?, List.getLastD_eq_getLast?,
    List.getLast?_map]
  cases (names path.toList).dropLast.getLast? with
  | none => rfl
  | some n => exact String.toList_ofList

theorem not_mem_dirName {path : String} {c : Char} (h : ∀ n ∈ names path.toList, c ∉ n) :
    c ∉ (dirName path).toList := by
  rw [toList_dirName, List.getLastD_eq_getLast?]
  cases hlast : (names path.toList).dropLast.getLast? with
  | none => simp
  | some n => exact h n (List.dropLast_subset _ (List.mem_of_getLast? hlast))

theorem slash_not_mem_dirName (path : String) : '/' ∉ (dirName path).toList :=
  not_mem_dirName fun _ hn => not_mem_of_mem_splitOn (mem_names_iff.1 hn).1

theorem backslash_not_mem_dirName {path : String} (h : Path.normalize path = path) :
    '\\' ∉ (dirName path).toList :=
  not_mem_dirName fun _ hn => (isProperName_of_mem (names_of_normal h ▸ hn)).backslash_not_mem

/-- Whether a list accepts what lies below a first segment that is the name of the tree, up to the
case of ASCII letters, or every path when the tree has no name. -/
def AcceptsTree (q : Inquiry) (l : GlobList) : Prop :=
  ∀ path : List Char, l.accepts (String.ofList path) = true ↔ treeName q = "" ∨
    ∃ u v, path = u ++ '/' :: v ∧ '/' ∉ u ∧
      u.map asciiLower = (treeName q).toList.map asciiLower

/-- The include list of a directory tree compiles and accepts the tree. -/
theorem exists_parse_includes (hincludes : r.includes = treeTemplate)
    (hpath : Path.normalize q.path = q.path) :
    ∃ l, GlobList.parse (r.descriptorOf q).includes = .ok l ∧ AcceptsTree q l := by
  have hslash := slash_not_mem_dirName q.path
  have hlist : (r.descriptorOf q).includes = String.ofList (below (dirName q.path).toList) := by
    rw [← fill_treeTemplate (dirName q.path) (escape (fileName q.path)), ← hincludes]
    rfl
  obtain ⟨l, hl, haccepts⟩ := exists_parse_below hslash (backslash_not_mem_dirName hpath)
  have htree : '/' ∉ cleaned (dirName q.path).toList := fun h =>
    hslash ((List.dropWhile_suffix _).subset h)
  refine ⟨l, hlist ▸ hl, fun path => ?_⟩
  rw [haccepts, treeName_eq_empty_iff, treeName, String.toList_ofList]
  refine or_congr_right (exists_congr fun u => exists_congr fun v => and_congr_right fun _ => ?_)
  rw [iff_and_self]
  exact fun h => slash_not_mem_of_map_asciiLower htree h

/-! ## What a tree absorbs -/

theorem descriptor_of_mem {d : Descriptor} {mode : Mode}
    (h : AnchorMatch.all [d] context mode = .ok found) {m : AnchorMatch} (hm : m ∈ found) :
    m.descriptor = d :=
  List.mem_singleton.1 (AnchorMatch.origin_of_mem_all h hm).1

/-- A file that is covered by a match of a tree with a name lies below a directory of that name. -/
theorem exists_directory_of_covers (hincludes : r.includes = treeTemplate)
    (hpath : Path.normalize q.path = q.path) (hname : treeName q ≠ "") {m : AnchorMatch}
    (hm : m.descriptor = r.descriptorOf q) {f : Artifact} (hcovers : m.covers f = true) :
    ∃ path, f.normalizedPath = some path ∧
      ∃ n ∈ directories path, fold n = fold (treeName q) := by
  obtain ⟨includes, hi, haccepts⟩ := exists_parse_includes hincludes hpath
  rw [← hm] at hi
  cases he : GlobList.parse m.descriptor.excludes with
  | error e => simp [AnchorMatch.covers, hi, he] at hcovers
  | ok excludes =>
    obtain ⟨-, path, hf, -, hlist⟩ := (Outcome.covers_iff hi he).1 hcovers
    obtain ⟨path, -, rfl⟩ := Option.map_eq_some_iff.1 hf
    refine ⟨_, hf, ?_⟩
    -- either form of the path begins with the name of the tree
    have hfirst {text : String} (h : includes.accepts text = true) :
        ∃ u v, text.toList = u ++ '/' :: v ∧ '/' ∉ u ∧
          u.map asciiLower = (treeName q).toList.map asciiLower := by
      rw [← String.ofList_toList (s := text), haccepts text.toList] at h
      exact h.resolve_left hname
    have hdirectory {u : List Char} (hu : u.map asciiLower = (treeName q).toList.map asciiLower)
        (h : ∃ n ∈ directories (Path.normalize path), fold n = String.ofList u) :
        ∃ n ∈ directories (Path.normalize path), fold n = fold (treeName q) := by
      obtain ⟨n, hn, hfold⟩ := h
      refine ⟨n, hn, ?_⟩
      rw [← fold_fold, hfold]
      exact fold_congr (by rwa [String.toList_ofList])
    rcases hlist with h | ⟨-, -, h⟩
    · obtain ⟨u, v, htext, hslash, hu⟩ := hfirst h
      exact hdirectory hu (exists_directory "" hslash (.inl htext))
    · obtain ⟨u, v, htext, hslash, hu⟩ := hfirst h
      exact hdirectory hu (exists_directory _ hslash (.inr htext))

/-- A match of a tree without a name covers every file that is not excluded. -/
theorem covers_of_treeName_empty (hincludes : r.includes = treeTemplate)
    (hpath : Path.normalize q.path = q.path) (hname : treeName q = "") {m : AnchorMatch}
    (hm : m.descriptor = r.descriptorOf q) {f : Artifact} (hfile : f.kind = .file) {path : String}
    (hf : f.normalizedPath = some path) {excludes : GlobList}
    (he : GlobList.parse m.descriptor.excludes = .ok excludes)
    (hexcluded : excludes.accepts (fold path) = false) : m.covers f = true := by
  obtain ⟨includes, hi, haccepts⟩ := exists_parse_includes hincludes hpath
  rw [← hm] at hi
  refine (Outcome.covers_iff hi he).2 ⟨hfile, path, hf, hexcluded, .inl ?_⟩
  rw [← String.ofList_toList (s := fold path), haccepts (fold path).toList]
  exact .inl hname

/-- What the matches of a directory tree absorb lies below a directory of the tree's name, up to
case. The name is that of the directory of the file, without the blanks in front. A tree without a
name, as of a file in no directory, is the whole scan: nothing is left but what is excluded. -/
theorem absorbed_below_treeName (r : Rule) (q : Inquiry) (ds : List Descriptor)
    (hincludes : r.includes = treeTemplate) (hpath : Path.normalize q.path = q.path)
    (hok : r.contribute q = .ok ds) :
    ∃ d, ds = [d] ∧ ∀ context options suppliers ledger found a,
      AnchorMatch.all [d] context d.mode = .ok found →
      Absorbed.ofMatches found context options suppliers ledger = .ok a →
      (treeName q ≠ "" → ∀ f ∈ context.artifacts,
        (∃ m ∈ found, m.covers f = true) ∨ f ∈ context.loose ∧ f ∉ a.context.loose →
        ∃ path, f.normalizedPath = some path ∧
          ∃ n ∈ directories path, fold n = fold (treeName q)) ∧
      (treeName q = "" → found ≠ [] → ∀ f ∈ a.context.loose, ∀ path,
        f.normalizedPath = some path → ∃ excludes,
          GlobList.parse d.excludes = .ok excludes ∧ excludes.accepts (fold path) = true) := by
  obtain ⟨-, -, rfl⟩ := contribute_eq_ok_iff.1 hok
  refine ⟨r.descriptorOf q, rfl, fun context options suppliers ledger found a hall ha => ?_⟩
  rw [Outcome.context_ofMatches ha]
  constructor
  · intro hname f _ habsorbed
    have hcovered : ∃ m ∈ found, m.covers f = true := by
      rcases habsorbed with hcovered | ⟨hloose, hleft⟩
      · exact hcovered
      · exact Outcome.exists_covers_of_not_loose hloose hleft
    obtain ⟨m, hm, hcovers⟩ := hcovered
    exact exists_directory_of_covers hincludes hpath hname (descriptor_of_mem hall hm) hcovers
  · intro hname hfound f hf path hfpath
    obtain ⟨m, hm⟩ := List.exists_mem_of_ne_nil found hfound
    obtain ⟨hloose, huncovered⟩ := Outcome.mem_loose_final_iff.1 hf
    have hdescriptor := descriptor_of_mem hall hm
    obtain ⟨-, excludes, he⟩ := AnchorMatch.globs_of_mem_all hall hm
    refine ⟨excludes, hdescriptor ▸ he, ?_⟩
    by_contra hexcluded
    have hcovers := covers_of_treeName_empty hincludes hpath hname hdescriptor
      (ScanContext.mem_loose_iff.1 hloose).2.1 hfpath he (Bool.eq_false_iff.2 hexcluded)
    rw [huncovered m hm] at hcovers
    cases hcovers

/-- A directory with a role for globs in its name, in another case in the second file. -/
theorem absorbed_below_treeName_bracket :
    let r : Rule :=
      { id := "lib", suffixes := [".json"], component := "lib", includes := treeTemplate }
    let q : Inquiry := ⟨"src/Lib[1]/p.json", "H", { baseDir := "/scan" }⟩
    let context : ScanContext := .ofScanned "/scan"
      [{ path := "src/Lib[1]/p.json", checksum := some "H" }, { path := "src/lIB[1]/docs/a.txt" },
        { path := "src/lib1/b.txt" }] []
    ∃ d found a, r.contribute q = .ok [d] ∧ AnchorMatch.all [d] context d.mode = .ok found ∧
      Absorbed.ofMatches found context {} (fun _ => .ok {}) {} = .ok a ∧
      a.context.loose.map (·.path) = [some "src/lib1/b.txt"] ∧
      ∀ f ∈ context.artifacts,
        (∃ m ∈ found, m.covers f = true) ∨ f ∈ context.loose ∧ f ∉ a.context.loose →
        ∃ path, f.normalizedPath = some path ∧
          ∃ n ∈ directories path, fold n = fold "Lib[1]" := by
  intro r q context
  have hok : r.contribute q = .ok [r.descriptorOf q] := by decide +kernel
  obtain ⟨d, hd, habsorbed⟩ :=
    absorbed_below_treeName r q [r.descriptorOf q] rfl (by decide +kernel) hok
  obtain rfl := List.singleton_inj.1 hd
  have hall : AnchorMatch.all [r.descriptorOf q] context (r.descriptorOf q).mode =
      .ok (AnchorMatch.seen [r.descriptorOf q] context .immediate) := by decide +kernel
  obtain ⟨a, ha⟩ := Absorbed.exists_ofMatches (fun m hm => AnchorMatch.globs_of_mem_all hall hm)
    context {} (fun _ => .ok {}) {}
  have hbelow := (habsorbed context {} _ {} _ a hall ha).1 (by decide +kernel)
  have hname : treeName q = "Lib[1]" :=
    (treeName_eq_dirName (by decide +kernel)).trans (by decide +kernel)
  rw [hname] at hbelow
  have hleft : (Outcome.final context {} (fun _ => .ok {}) {}
      (AnchorMatch.seen [r.descriptorOf q] context .immediate)).loose.map (·.path) =
      [some "src/lib1/b.txt"] := by decide +kernel
  rw [← Outcome.context_ofMatches ha] at hleft
  exact ⟨r.descriptorOf q, _, a, hok, hall, ha, hleft, hbelow⟩

/-- A file in no directory: the tree of the rule is the whole scan, and a file in another directory
is absorbed. -/
theorem absorbed_outside_dirName :
    let r : Rule :=
      { id := "lib", suffixes := [".json"], component := "lib", includes := treeTemplate }
    let q : Inquiry := ⟨"package.json", "H", { baseDir := "/scan" }⟩
    let context : ScanContext := .ofScanned "/scan"
      [{ path := "package.json", checksum := some "H" }, { path := "src/a.txt" }] []
    r.validate = .ok () ∧ ∃ d found a, r.contribute q = .ok [d] ∧
      AnchorMatch.all [d] context d.mode = .ok found ∧
      Absorbed.ofMatches found context {} (fun _ => .ok {}) {} = .ok a ∧
      ¬ ∀ f ∈ context.loose, f ∉ a.context.loose → ∃ path, f.normalizedPath = some path ∧
        ∃ n ∈ directories path, fold n = fold (dirName q.path) := by
  intro r q context
  have hall : AnchorMatch.all [r.descriptorOf q] context (r.descriptorOf q).mode =
      .ok (AnchorMatch.seen [r.descriptorOf q] context .immediate) := by decide +kernel
  obtain ⟨a, ha⟩ := Absorbed.exists_ofMatches (fun m hm => AnchorMatch.globs_of_mem_all hall hm)
    context {} (fun _ => .ok {}) {}
  have hvalid : r.validate = .ok () := by decide +kernel
  have hok : r.contribute q = .ok [r.descriptorOf q] := by decide +kernel
  refine ⟨hvalid, r.descriptorOf q, _, a, hok, hall, ha, fun h => ?_⟩
  rw [Outcome.context_ofMatches ha] at h
  obtain ⟨path, hpath, n, hn, hfold⟩ :=
    h (.ofScanned { path := "src/a.txt" }) (by decide +kernel) (by decide +kernel)
  obtain rfl : "src/a.txt" = path := by
    have hnormal : (Artifact.ofScanned { path := "src/a.txt" }).normalizedPath =
        some "src/a.txt" := by decide +kernel
    exact Option.some.inj (hnormal.symm.trans hpath)
  have hnone : ∀ n ∈ directories "src/a.txt", fold n ≠ fold (dirName q.path) := by decide +kernel
  exact hnone n hn hfold

end Rule

end ComponentScan
