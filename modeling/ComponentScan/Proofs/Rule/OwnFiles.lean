import ComponentScan.Proofs.Rule.DirectoryTrees

/-!
# Files in their own trees

A rule for a whole directory is made of a file in this directory. When the anchor is the directory
and the file, its match at the file covers it exactly when the file belongs to the tree: nothing was
dropped of the name of the directory, nothing is left of it, or the path begins with what is left
(`tree_absorbs_its_file`).
-/

namespace ComponentScan

open ComponentScan.Text ComponentScan.Glob ComponentScan.Path

namespace Rule

variable {r : Rule} {q : Inquiry}

/-- Whether a file belongs to its own tree: its directory does not begin with a blank or has no
other characters, or the path begins with the name of the tree. -/
def OwnsItself (q : Inquiry) : Prop :=
  treeName q = "" ∨ treeName q = dirName q.path ∨
    asciiCaseEq ((segments q.path).headD "") (treeName q) = true

/-! ## Names of a path -/

/-- The directory of a path with two names at least, and what is around it. -/
theorem exists_names {path : List Char} (h : 2 ≤ (names path).length) :
    ∃ above dir file, names path = above ++ [dir, file] := by
  rcases List.eq_nil_or_concat (names path) with hnil | ⟨front, file, hfront⟩
  · simp [hnil] at h
  · rcases List.eq_nil_or_concat front with rfl | ⟨above, dir, rfl⟩
    · simp [hfront] at h
    · exact ⟨above, dir, file, by simp [hfront]⟩

section Names

variable {above : List (List Char)} {dir file : List Char}

theorem dirName_of_names (h : names q.path.toList = above ++ [dir, file]) :
    (dirName q.path).toList = dir := by
  rw [toList_dirName, h]
  simp

theorem lastNames_two (hcount : r.anchorSegments = 2)
    (h : names q.path.toList = above ++ [dir, file]) : r.lastNames q = [dir, file] := by
  rw [lastNames, hcount, h]
  simp

/-- Where the match of a tree stands at its own file. -/
theorem ownership_of_standsAt {m : AnchorMatch} (hcount : r.anchorSegments = 2)
    (h : names q.path.toList = above ++ [dir, file]) (hm : r.StandsAt q m) :
    m.ownership = ⟨String.ofList (ofNames above), String.ofList (ofNames (above ++ [dir]))⟩ := by
  rw [hm.ownership, lastNames_two hcount h, h, Ownership.ofProperNames]
  have htake : (above ++ [dir, file]).take (above.length + 1) = above ++ [dir] := by
    rw [show above ++ [dir, file] = (above ++ [dir]) ++ [file] by simp]
    exact List.take_left' (by simp)
  simp [htake]

/-- Seen from above the directory of the file, a path begins with this directory. -/
theorem relativeTo_anchorRoot (hpath : Path.normalize q.path = q.path)
    (h : names q.path.toList = above ++ [dir, file]) :
    relativeTo (fold q.path) (fold (String.ofList (ofNames above))) =
      String.ofList (foldChars dir ++ '/' :: foldChars file) := by
  have hseen : foldChars (ofNames [dir, file]) = foldChars dir ++ '/' :: foldChars file := by
    have h := foldChars_ofNames_append (List.cons_ne_nil dir []) (List.cons_ne_nil file [])
    rwa [ofNames_singleton, ofNames_singleton] at h
  have hproper : ∀ n ∈ above, n ≠ [] := fun n hn =>
    (mem_names_iff.1 (h ▸ List.mem_append_left _ hn)).2
  rw [eq_ofNames_of_normal hpath h, relativeTo_fold_append hproper (List.cons_ne_nil dir _), fold,
    String.toList_ofList, hseen]

theorem within_baseDir (hpath : Path.normalize q.path = q.path)
    (h : names q.path.toList = above ++ [dir, file]) :
    within (fold q.path) (fold (String.ofList (ofNames (above ++ [dir])))) = true := by
  rw [List.append_cons] at h
  rw [eq_ofNames_of_normal hpath h]
  exact within_fold_append _ _

end Names

/-- The name of the tree is the end of the name of the directory, so it is equal to it up to case
only when nothing was dropped. -/
theorem map_asciiLower_eq_treeName_iff :
    (dirName q.path).toList.map asciiLower = (treeName q).toList.map asciiLower ↔
      treeName q = dirName q.path := by
  constructor
  · intro h
    have hlength := congrArg List.length h
    rw [List.length_map, List.length_map] at hlength
    have hsuffix : (treeName q).toList <:+ (dirName q.path).toList := by
      rw [treeName, String.toList_ofList]
      exact List.dropWhile_suffix _
    exact String.toList_inj.1 (hsuffix.eq_of_length hlength.symm)
  · intro h
    rw [h]

theorem ascii_of_mem_names (hascii : ∀ c ∈ q.path.toList, c.toNat < 128) {n : List Char}
    (hn : n ∈ names q.path.toList) : '/' ∉ n ∧ ∀ c ∈ n, c.toNat < 128 :=
  have hpiece := (mem_names_iff.1 hn).1
  ⟨not_mem_of_mem_splitOn hpiece, fun c hc => hascii c ((infix_of_mem_splitOn hpiece).subset hc)⟩

namespace AcceptsTree

variable {l : GlobList}

/-- The first segment decides. -/
theorem first_iff (h : AcceptsTree q l) {n : List Char} (hslash : '/' ∉ n)
    (hascii : ∀ c ∈ n, c.toNat < 128) (rest : List Char) :
    l.accepts (String.ofList (foldChars n ++ '/' :: rest)) = true ↔
      treeName q = "" ∨ n.map asciiLower = (treeName q).toList.map asciiLower := by
  have hfold : '/' ∉ foldChars n := fun h => hslash ((mem_foldChars_iff (by decide) n).1 h)
  rw [h, ← map_asciiLower_foldChars hascii]
  refine or_congr_right ⟨?_, fun h => ⟨_, rest, rfl, hfold, h⟩⟩
  rintro ⟨u, v, htext, hu, hlower⟩
  rwa [eq_of_append_slash hfold hu htext]

/-- The path of the file itself, seen from above its directory. -/
theorem seen_iff (h : AcceptsTree q l) (hpath : Path.normalize q.path = q.path)
    (hascii : ∀ c ∈ q.path.toList, c.toNat < 128) {above : List (List Char)} {dir file : List Char}
    (hnames : names q.path.toList = above ++ [dir, file]) :
    l.accepts (relativeTo (fold q.path) (fold (String.ofList (ofNames above)))) = true ↔
      treeName q = "" ∨ treeName q = dirName q.path := by
  obtain ⟨hslash, hdir⟩ := ascii_of_mem_names hascii (n := dir) (by simp [hnames])
  rw [relativeTo_anchorRoot hpath hnames, h.first_iff hslash hdir, ← dirName_of_names hnames,
    map_asciiLower_eq_treeName_iff]

/-- The whole path of the file itself. -/
theorem whole_iff (h : AcceptsTree q l) (hpath : Path.normalize q.path = q.path)
    (hascii : ∀ c ∈ q.path.toList, c.toNat < 128) (hlength : 2 ≤ (names q.path.toList).length) :
    l.accepts (fold q.path) = true ↔
      treeName q = "" ∨ asciiCaseEq ((segments q.path).headD "") (treeName q) = true := by
  have hne : names q.path.toList ≠ [] := List.ne_nil_of_length_pos (by omega)
  obtain ⟨n, rest, hcons⟩ := List.exists_cons_of_ne_nil hne
  have hrest : rest ≠ [] := by
    rintro rfl
    simp [hcons] at hlength
  obtain ⟨hslash, hn⟩ := ascii_of_mem_names hascii (n := n) (by simp [hcons])
  have htext : fold q.path = String.ofList (foldChars n ++ '/' :: foldChars (ofNames rest)) := by
    have h := foldChars_ofNames_append (List.cons_ne_nil n []) hrest
    rw [ofNames_singleton, List.singleton_append] at h
    rw [fold, toList_of_normal hpath, hcons, h]
  have hhead : (segments q.path).headD "" = String.ofList n := by simp [segments, hcons]
  rw [htext, h.first_iff hslash hn, hhead, asciiCaseEq, String.toList_ofList, beq_iff_eq]

end AcceptsTree

theorem fill_empty (dir file : String) : fill "" dir file = "" := by
  simp [fill, Text.replace, replaceFrom]

/-- The match of a tree at its own file covers it exactly when the file belongs to the tree. -/
theorem covers_own_file_iff (hincludes : r.includes = treeTemplate) (hexcludes : r.excludes = "")
    (hcount : r.anchorSegments = 2) (hpath : Path.normalize q.path = q.path)
    (hascii : ∀ c ∈ q.path.toList, c.toNat < 128) (hlength : 2 ≤ (names q.path.toList).length)
    {m : AnchorMatch} (hm : r.StandsAt q m) {f : Artifact} (hfile : f.kind = .file)
    (hf : f.normalizedPath = some q.path) : m.covers f = true ↔ OwnsItself q := by
  obtain ⟨includes, hi, haccepts⟩ := exists_parse_includes hincludes hpath
  have he : GlobList.parse m.descriptor.excludes = .ok ⟨[]⟩ := by
    have hempty : m.descriptor.excludes = "" := by
      rw [hm.descriptor, descriptorOf, hexcludes]
      exact fill_empty _ _
    rw [hempty]
    rfl
  rw [← hm.descriptor] at hi
  obtain ⟨above, dir, file, hnames⟩ := exists_names hlength
  have hnone (path : String) : GlobList.accepts ⟨[]⟩ path = false := rfl
  rw [Outcome.covers_iff hi he, ownership_of_standsAt hcount hnames hm]
  simp only [hf, hfile, Option.some.injEq, exists_eq_left', true_and, hnone,
    haccepts.whole_iff hpath hascii hlength, haccepts.seen_iff hpath hascii hnames,
    within_baseDir hpath hnames]
  constructor
  · rintro ((h | h) | (h | h))
    · exact .inl h
    · exact .inr (.inr h)
    · exact .inl h
    · exact .inr (.inl h)
  · rintro (h | h | h)
    · exact .inl (.inl h)
    · exact .inr (.inr h)
    · exact .inl (.inr h)

/-- An anchor of two names is none for the whole scan. -/
theorem hasRootAnchor_two (hanchor : r.anchor = none) (hcount : r.anchorSegments = 2)
    (hlength : 2 ≤ (names q.path.toList).length) {e : String × String}
    (hcheck : (r.descriptorOf q).check = .ok e) : (r.descriptorOf q).hasRootAnchor = false := by
  obtain ⟨above, dir, file, hnames⟩ := exists_names hlength
  have hanchored := (Descriptor.check_eq_ok_iff.1 hcheck).1
  obtain ⟨anchor, checksum⟩ := e
  obtain ⟨rfl, rfl⟩ := effectiveAnchor_descriptorOf hanchored
  rw [Descriptor.hasRootAnchor_eq hanchored.hasAnchor, anchorOf_derived hanchor,
    lastNames_two hcount hnames]
  refine isRootAnchor_of_slash ?_
  simp [ofNames, List.intercalate_cons_cons]

/-- A directory tree includes the file that it was made of, when the rule takes its anchor from the
directory and the file: the match of the anchor at this file covers it exactly when the file belongs
to the tree. Then no file at its path is loose afterwards, and one that is kept is marked. -/
theorem tree_absorbs_its_file (r : Rule) (q : Inquiry) (ds : List Descriptor)
    (context : ScanContext) (i : Nat) (f : Artifact) (options : AbsorptionOptions)
    (suppliers : Suppliers) (ledger : Ledger) (hvalid : r.validate = .ok ())
    (hincludes : r.includes = treeTemplate) (hexcludes : r.excludes = "")
    (hanchor : r.anchor = none) (hcount : r.anchorSegments = 2)
    (hpath : Path.normalize q.path = q.path) (hascii : ∀ c ∈ q.path.toList, c.toNat < 128)
    (hlength : 2 ≤ (segments q.path).length) (hok : r.contribute q = .ok ds)
    (hmem : context.artifacts[i]? = some f) (hfile : f.kind = .file)
    (hf : f.normalizedPath = some q.path) (hchecksum : f.checksum = some q.checksum) :
    ∃ d, ds = [d] ∧ ((∃ e, d.check = .ok e) → ∃ found a m,
      AnchorMatch.all [d] context d.mode = .ok found ∧
      Absorbed.ofMatches found context options suppliers ledger = .ok a ∧
      m ∈ found ∧ m.path = some q.path ∧ (m.covers f = true ↔ OwnsItself q) ∧
      (OwnsItself q →
        (∀ g ∈ a.context.loose, g.normalizedPath ≠ some q.path) ∧
        (options.purgeAbsorbed = false →
          ∃ g, a.context.artifacts[i]? = some g ∧ g.path = f.path ∧ g.absorbed = true))) := by
  obtain ⟨-, -, rfl⟩ := contribute_eq_ok_iff.1 hok
  refine ⟨r.descriptorOf q, rfl, fun ⟨e, hcheck⟩ => ?_⟩
  rw [segments, List.length_map] at hlength
  have hne : q.path ≠ "" := by
    intro h
    rw [h] at hlength
    exact absurd hlength (by decide)
  obtain ⟨found, hall, m, hm, hstands⟩ := exists_match_derived hanchor hvalid hpath hne
    (List.mem_of_getElem? hmem) hfile hf hchecksum hcheck
    (hasRootAnchor_two hanchor hcount hlength hcheck)
  obtain ⟨a, ha⟩ := Absorbed.exists_ofMatches (fun m hm => AnchorMatch.globs_of_mem_all hall hm)
    context options suppliers ledger
  have hcovers {g : Artifact} (hg : g.kind = .file) (hgpath : g.normalizedPath = some q.path) :
      m.covers g = true ↔ OwnsItself q :=
    covers_own_file_iff hincludes hexcludes hcount hpath hascii hlength hstands hg hgpath
  refine ⟨found, a, m, hall, ha, hm, hstands.path, hcovers hfile hf, fun howns => ⟨?_, ?_⟩⟩
  · intro g hg hgpath
    rw [Outcome.context_ofMatches ha, Outcome.mem_loose_final_iff] at hg
    obtain ⟨hloose, huncovered⟩ := hg
    have hcovered := (hcovers (ScanContext.mem_loose_iff.1 hloose).2.1 hgpath).2 howns
    rw [huncovered m hm] at hcovered
    cases hcovered
  · intro hpurge
    rw [Outcome.context_ofMatches ha]
    refine ⟨_, Outcome.getElem?_final hpurge hmem, rfl, ?_⟩
    exact Outcome.settle_absorbed_iff.2 (.inr ⟨m, hm, (hcovers hfile hf).2 howns⟩)

/-- A directory with capitals, brackets, a comma and a blank in its name. -/
theorem tree_absorbs_its_file_comma :
    let r : Rule :=
      { id := "lib", suffixes := [".json"], component := "lib", includes := treeTemplate }
    let q : Inquiry := ⟨"src/[Lib], v1/p.json", "H", { baseDir := "/scan" }⟩
    let context : ScanContext := .ofScanned "/scan"
      [{ path := "a.txt" }, { path := "src/[Lib], v1/p.json", checksum := some "H" }] []
    let options : AbsorptionOptions := { purgeAbsorbed := false }
    OwnsItself q ∧ ∃ d found a, r.contribute q = .ok [d] ∧
      AnchorMatch.all [d] context d.mode = .ok found ∧
      Absorbed.ofMatches found context options (fun _ => .ok {}) {} = .ok a ∧
      (∀ g ∈ a.context.loose, g.normalizedPath ≠ some q.path) ∧
      ∃ g, a.context.artifacts[1]? = some g ∧ g.path = some "src/[Lib], v1/p.json" ∧
        g.absorbed = true := by
  intro r q context options
  have howns : OwnsItself q := .inr (.inl (treeName_eq_dirName (by decide +kernel)))
  have hok : r.contribute q = .ok [r.descriptorOf q] := by decide +kernel
  have hcheck : (r.descriptorOf q).check = .ok ("[Lib], v1/p.json", "*") := by decide +kernel
  have hascii : q.path.toList.all (fun c => c.toNat < 128) = true := by decide +kernel
  have hmem : context.artifacts[1]? =
      some (.ofScanned { path := "src/[Lib], v1/p.json", checksum := some "H" }) := rfl
  have hfpath : (Artifact.ofScanned { path := "src/[Lib], v1/p.json", checksum := some "H" }).path =
      some "src/[Lib], v1/p.json" := by decide +kernel
  obtain ⟨d, hd, htree⟩ := tree_absorbs_its_file r q _ context 1 _ options (fun _ => .ok {}) {}
    (by decide +kernel) rfl rfl rfl rfl (by decide +kernel) (by simpa using hascii)
    (by decide +kernel) hok hmem rfl (by decide +kernel) rfl
  obtain rfl := List.singleton_inj.1 hd
  obtain ⟨found, a, m, hall, ha, -, -, -, habsorbed⟩ := htree ⟨_, hcheck⟩
  obtain ⟨hloose, hkept⟩ := habsorbed howns
  obtain ⟨g, hg, hgpath, hmarked⟩ := hkept rfl
  exact ⟨howns, _, found, a, hok, hall, ha, hloose, g, hg, hgpath.trans hfpath, hmarked⟩

/-- A directory whose name begins with a blank: its tree is that of another directory, and the file
in it is not marked. -/
theorem tree_misses_its_file :
    let r : Rule :=
      { id := "lib", suffixes := [".json"], component := "lib", includes := treeTemplate }
    let q : Inquiry := ⟨" lib/package.json", "H", { baseDir := "/scan" }⟩
    let context : ScanContext := .ofScanned "/scan"
      [{ path := " lib/package.json", checksum := some "H" }] []
    let options : AbsorptionOptions := { purgeAbsorbed := false }
    r.validate = .ok () ∧ Path.normalize q.path = q.path ∧ ∃ d found a,
      r.contribute q = .ok [d] ∧ (∃ e, d.check = .ok e) ∧
      AnchorMatch.all [d] context d.mode = .ok found ∧
      Absorbed.ofMatches found context options (fun _ => .ok {}) {} = .ok a ∧
      a.context.artifacts[0]?.map (fun g => (g.path, g.absorbed)) =
        some (some " lib/package.json", false) := by
  intro r q context options
  have hvalid : r.validate = .ok () := by decide +kernel
  have hpath : Path.normalize q.path = q.path := by decide +kernel
  have hok : r.contribute q = .ok [r.descriptorOf q] := by decide +kernel
  have hcheck : (r.descriptorOf q).check = .ok (" lib/package.json", "*") := by decide +kernel
  have hall : AnchorMatch.all [r.descriptorOf q] context (r.descriptorOf q).mode =
      .ok (AnchorMatch.seen [r.descriptorOf q] context .immediate) := by decide +kernel
  obtain ⟨a, ha⟩ := Absorbed.exists_ofMatches (fun m hm => AnchorMatch.globs_of_mem_all hall hm)
    context options (fun _ => .ok {}) {}
  have hleft : (Outcome.final context options (fun _ => .ok {}) {}
      (AnchorMatch.seen [r.descriptorOf q] context .immediate)).artifacts[0]?.map
        (fun g => (g.path, g.absorbed)) = some (some " lib/package.json", false) := by
    decide +kernel
  rw [← Outcome.context_ofMatches ha] at hleft
  exact ⟨hvalid, hpath, _, _, a, hok, ⟨_, hcheck⟩, hall, ha, hleft⟩

end Rule

end ComponentScan
