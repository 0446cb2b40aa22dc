import ComponentScan.Proofs.Occurrences
import ComponentScan.Report.Rules

/-!
# Loading a directory of rules and reporting on it

A directory of rule files is read in two ways. A report visits every file and lists the ids of the
rules it would keep, those it would pass over, and the files that are refused. Loading visits the
same files and gives up as soon as it keeps more rules than a directory may hold. So the report
tells what loading does (`loadDirectory_as_reported`): up to the limit both keep the same rules and
pass over the same rules and files, and beyond it loading fails.
-/

namespace ComponentScan

/-! ## What is passed over -/

namespace Journal

/-- The ids of the rules that were passed over. -/
def skippedRules (j : Journal) : List String :=
  j.notices.filterMap fun
    | .ruleSkipped id _ => some id
    | _ => none

/-- The rule files that were passed over, each with its error. -/
def skippedFiles (j : Journal) : List (String × String) :=
  j.notices.filterMap fun
    | .ruleFileSkipped path e => some (path, e.message)
    | _ => none

@[simp]
theorem skippedRules_empty : ({} : Journal).skippedRules = [] := rfl

@[simp]
theorem skippedFiles_empty : ({} : Journal).skippedFiles = [] := rfl

@[simp]
theorem skippedRules_append (j k : Journal) :
    (j ++ k).skippedRules = j.skippedRules ++ k.skippedRules :=
  List.filterMap_append

@[simp]
theorem skippedFiles_append (j k : Journal) :
    (j ++ k).skippedFiles = j.skippedFiles ++ k.skippedFiles :=
  List.filterMap_append

@[simp]
theorem skippedRules_ruleFileSkipped (path : String) (e : EngineError) :
    skippedRules { notices := [.ruleFileSkipped path e] } = [] := rfl

@[simp]
theorem skippedFiles_ruleFileSkipped (path : String) (e : EngineError) :
    skippedFiles { notices := [.ruleFileSkipped path e] } = [(path, e.message)] := rfl

@[simp]
theorem skippedRules_ruleSkipped (ids : List String) (path : String) :
    skippedRules { notices := ids.map fun id => .ruleSkipped id path } = ids := by
  simp [skippedRules, List.filterMap_map]

@[simp]
theorem skippedFiles_ruleSkipped (ids : List String) (path : String) :
    skippedFiles { notices := ids.map fun id => .ruleSkipped id path } = [] := by
  simp [skippedFiles, List.filterMap_map]

end Journal

namespace Rule

/-! ## The rules of a file -/

/-- The ids of the rules in a file, none for a file that is refused. -/
def idsIn (files : Files) (path : String) : List String :=
  match loadFile files path with
  | .ok rules => rules.map fun r => r.id
  | .error _ => []

/-- A file that is refused, with its error. -/
def refusal? (files : Files) (path : String) : Option (String × String) :=
  match loadFile files path with
  | .ok _ => none
  | .error e => some (path, e.message)

namespace Collection

variable {c : Collection} {found : List String}

/-- The ids of the rules in a collection. -/
def ids (c : Collection) : List String := c.rules.map fun r => r.id

def size (c : Collection) : Nat := c.latest.length

theorem length_ids (c : Collection) : c.ids.length = c.size := by
  simp [ids, rules, size]

theorem contains_iff {id : String} : c.contains id = true ↔ id ∈ c.ids := by
  simp [contains, ids, rules]

theorem ids_add (c : Collection) (r : Rule) : ids ⟨r :: c.latest⟩ = c.ids ++ [r.id] := by
  simp [ids, rules]

theorem addAll_cons_of_contains {r : Rule} (h : c.contains r.id = true) (rs : List Rule) :
    c.addAll (r :: rs) = ((c.addAll rs).1, r.id :: (c.addAll rs).2) := by
  rw [addAll, if_pos h]

theorem addAll_cons_of_not_contains {r : Rule} (h : ¬ c.contains r.id = true) (rs : List Rule) :
    c.addAll (r :: rs) = addAll ⟨r :: c.latest⟩ rs := by
  rw [addAll, if_neg h]

/-- A collection of the first rules of each id stays one. -/
theorem ids_addAll (h : c.ids = found.eraseDups) (rs : List Rule) :
    (c.addAll rs).1.ids = (found ++ rs.map fun r => r.id).eraseDups := by
  induction rs generalizing c found with
  | nil => simpa [addAll] using h
  | cons r rs ih =>
    rw [List.map_cons, List.append_cons]
    have hmem : r.id ∈ found ↔ c.contains r.id = true := by
      rw [contains_iff, h, List.mem_eraseDups]
    by_cases hr : c.contains r.id = true
    · rw [addAll_cons_of_contains hr]
      exact ih (by rw [h, eraseDups_concat, if_pos (hmem.2 hr)])
    · rw [addAll_cons_of_not_contains hr]
      exact ih (by rw [ids_add, h, eraseDups_concat, if_neg (mt hmem.1 hr)])

/-- Every rule of a file is either kept or passed over. -/
theorem addAll_perm (c : Collection) (rs : List Rule) :
    ((c.addAll rs).1.ids ++ (c.addAll rs).2).Perm (c.ids ++ rs.map fun r => r.id) := by
  induction rs generalizing c with
  | nil => simp [addAll]
  | cons r rs ih =>
    by_cases hr : c.contains r.id = true
    · rw [addAll_cons_of_contains hr, List.map_cons]
      exact List.perm_middle.trans (((ih c).cons r.id).trans List.perm_middle.symm)
    · rw [addAll_cons_of_not_contains hr, List.map_cons, List.append_cons, ← ids_add]
      exact ih ⟨r :: c.latest⟩

theorem size_le_addAll (c : Collection) (rs : List Rule) : c.size ≤ (c.addAll rs).1.size := by
  induction rs generalizing c with
  | nil => simp [addAll]
  | cons r rs ih =>
    by_cases hr : c.contains r.id = true
    · rw [addAll_cons_of_contains hr]
      exact ih c
    · rw [addAll_cons_of_not_contains hr]
      exact Nat.le_trans (Nat.le_succ c.size) (ih ⟨r :: c.latest⟩)

end Collection

end Rule

namespace RuleValidity

variable {files : Files} {dir path : String} {v w u : RuleValidity} {seen : List String}

/-! ## The report -/

theorem addFile_of_error {e : EngineError} (h : Rule.loadFile files path = .error e) :
    v.addFile files path =
      { v with invalid := v.invalid + 1, errors := v.errors ++ [(path, e.message)] } := by
  rw [addFile, h]

theorem addFile_of_ok {rules : List Rule} (h : Rule.loadFile files path = .ok rules) :
    v.addFile files path =
      { v with
        valid := v.valid + 1
        collection := (v.collection.addAll rules).1
        duplicates := v.duplicates ++ (v.collection.addAll rules).2 } := by
  rw [addFile, h]

/-- A report that has visited the files `seen`. -/
structure Follows (files : Files) (seen : List String) (v : RuleValidity) : Prop where
  contributors : v.contributors = (seen.flatMap (Rule.idsIn files)).eraseDups
  listed : (v.contributors ++ v.duplicates).Perm (seen.flatMap (Rule.idsIn files))
  errors : v.errors = seen.filterMap (Rule.refusal? files)
  invalid : v.invalid = v.errors.length
  total : v.valid + v.invalid = seen.length

theorem Follows.start (files : Files) (dir : String) (total : Nat) :
    Follows files [] { path := dir, files := total } := by
  constructor <;> rfl

theorem Follows.addFile (h : Follows files seen v) (path : String) :
    Follows files (seen ++ [path]) (v.addFile files path) := by
  have hids : (seen ++ [path]).flatMap (Rule.idsIn files) =
      seen.flatMap (Rule.idsIn files) ++ Rule.idsIn files path := by simp
  cases hload : Rule.loadFile files path with
  | error e =>
    have hnone : Rule.idsIn files path = [] := by rw [Rule.idsIn, hload]
    have hrefused : Rule.refusal? files path = some (path, e.message) := by
      rw [Rule.refusal?, hload]
    rw [addFile_of_error hload]
    constructor
    · rw [hids, hnone, List.append_nil]
      exact h.contributors
    · rw [hids, hnone, List.append_nil]
      exact h.listed
    · simp [h.errors, hrefused]
    · simp [h.invalid]
    · simp [← h.total, Nat.add_assoc]
  | ok rules =>
    have hrules : Rule.idsIn files path = rules.map fun r => r.id := by rw [Rule.idsIn, hload]
    have hkept : Rule.refusal? files path = none := by rw [Rule.refusal?, hload]
    rw [addFile_of_ok hload]
    constructor
    · rw [hids, hrules]
      exact Rule.Collection.ids_addAll h.contributors rules
    · -- the rules of the file are split between those kept and those passed over
      rw [hids, hrules]
      have hsplit : ((v.collection.addAll rules).1.ids ++ (v.duplicates ++
          (v.collection.addAll rules).2)).Perm
          (v.duplicates ++ (v.contributors ++ rules.map fun r => r.id)) :=
        (List.perm_append_comm_assoc _ _ _).trans
          ((v.collection.addAll_perm rules).append_left v.duplicates)
      refine hsplit.trans ?_
      rw [← List.append_assoc]
      exact (List.perm_append_comm.trans h.listed).append_right _
    · simp [h.errors, hkept]
    · exact h.invalid
    · simp [← h.total, Nat.add_right_comm]

theorem Follows.foldl (h : Follows files seen v) (paths : List String) :
    Follows files (seen ++ paths) (paths.foldl (RuleValidity.addFile files) v) := by
  induction paths generalizing seen v with
  | nil => simpa using h
  | cons path paths ih =>
    rw [List.foldl_cons, List.append_cons]
    exact ih (h.addFile path)

theorem size_le_addFile (files : Files) (v : RuleValidity) (path : String) :
    v.collection.size ≤ (v.addFile files path).collection.size := by
  cases hload : Rule.loadFile files path with
  | error e => exact Nat.le_of_eq (by rw [addFile_of_error hload])
  | ok rules =>
    rw [addFile_of_ok hload]
    exact v.collection.size_le_addAll rules

theorem size_le_foldl (files : Files) (v : RuleValidity) (paths : List String) :
    v.collection.size ≤ (paths.foldl (addFile files) v).collection.size := by
  induction paths generalizing v with
  | nil => exact Nat.le_refl _
  | cons path paths ih =>
    exact Nat.le_trans (size_le_addFile files v path) (ih (v.addFile files path))

theorem files_foldl (files : Files) (v : RuleValidity) (paths : List String) :
    (paths.foldl (addFile files) v).files = v.files := by
  induction paths generalizing v with
  | nil => rfl
  | cons path paths ih =>
    rw [List.foldl_cons, ih]
    cases hload : Rule.loadFile files path with
    | error e => rw [addFile_of_error hload]
    | ok rules => rw [addFile_of_ok hload]

/-! ## Loading -/

/-- Loading `x` does what the report has added from `v` to `w`: it keeps the same rules and passes
over the same rules and files. -/
structure Reproduces (v w : RuleValidity) (x : Reported EngineError Rule.Collection) : Prop where
  kept : x.result = .ok w.collection
  duplicates : w.duplicates = v.duplicates ++ x.journal.skippedRules
  errors : w.errors = v.errors ++ x.journal.skippedFiles

theorem Reproduces.refl (v : RuleValidity) : Reproduces v v (pure v.collection) := by
  constructor <;> simp

theorem Reproduces.bind {x : Reported EngineError Rule.Collection}
    {f : Rule.Collection → Reported EngineError Rule.Collection} (h : Reproduces v w x)
    (h' : Reproduces w u (f w.collection)) : Reproduces v u (x >>= f) := by
  constructor
  · rw [Reported.result_bind, h.kept]
    exact h'.kept
  · rw [Reported.journal_bind h.kept, Journal.skippedRules_append, ← List.append_assoc,
      ← h.duplicates]
    exact h'.duplicates
  · rw [Reported.journal_bind h.kept, Journal.skippedFiles_append, ← List.append_assoc, ← h.errors]
    exact h'.errors

/-- Loading `x` goes with the report from `v` to `w`, unless there are too many rules. -/
structure Loads (dir : String) (v w : RuleValidity) (x : Reported EngineError Rule.Collection) :
    Prop where
  fits : w.collection.size ≤ Rule.countLimit → Reproduces v w x
  tooMany : Rule.countLimit < w.collection.size → x.result =
    .error (.ruleLoad dir ("too many rules: max " ++ toString Rule.countLimit))

theorem Loads.refl (dir : String) (h : v.collection.size ≤ Rule.countLimit) :
    Loads dir v v (pure v.collection) :=
  ⟨fun _ => .refl v, fun hmany => absurd h (Nat.not_le.2 hmany)⟩

/-- Once there are too many rules, more files do not make them fewer. -/
theorem Loads.bind {x : Reported EngineError Rule.Collection}
    {f : Rule.Collection → Reported EngineError Rule.Collection} (h : Loads dir v w x)
    (hsize : w.collection.size ≤ u.collection.size)
    (h' : w.collection.size ≤ Rule.countLimit → Loads dir w u (f w.collection)) :
    Loads dir v u (x >>= f) := by
  by_cases hfits : w.collection.size ≤ Rule.countLimit
  · refine ⟨fun hu => (h.fits hfits).bind ((h' hfits).fits hu), fun hu => ?_⟩
    rw [Reported.result_bind, (h.fits hfits).kept]
    exact (h' hfits).tooMany hu
  · have hmany := Nat.not_le.1 hfits
    refine ⟨fun hu => absurd (Nat.le_trans hsize hu) hfits, fun _ => ?_⟩
    rw [Reported.result_bind, h.tooMany hmany]
    rfl

/-- One file. The limit is looked at after it, unless it is refused, which adds no rule. -/
theorem Loads.collect (files : Files) (dir path : String)
    (h : v.collection.size ≤ Rule.countLimit) :
    Loads dir v (v.addFile files path) (Rule.collect files dir v.collection path) := by
  cases hload : Rule.loadFile files path with
  | error e =>
    rw [addFile_of_error hload, Rule.collect, hload]
    refine ⟨fun _ => ⟨rfl, ?_, ?_⟩, fun hmany => absurd h (Nat.not_le.2 hmany)⟩
    · rw [Reported.journal_bind rfl]
      simp
    · rw [Reported.journal_bind rfl]
      simp
  | ok rules =>
    rw [addFile_of_ok hload, Rule.collect, hload]
    dsimp only
    rw [← Rule.Collection.size]
    constructor
    · intro hfits
      rw [if_neg (Nat.not_lt.2 hfits)]
      refine ⟨rfl, ?_, ?_⟩
      · rw [Reported.journal_bind rfl]
        simp
      · rw [Reported.journal_bind rfl]
        simp
    · intro hmany
      rw [if_pos hmany]
      rfl

theorem Loads.foldlM (files : Files) (dir : String) (paths : List String)
    (h : v.collection.size ≤ Rule.countLimit) :
    Loads dir v (paths.foldl (RuleValidity.addFile files) v)
      (paths.foldlM (Rule.collect files dir) v.collection) := by
  induction paths generalizing v with
  | nil => exact .refl dir h
  | cons path paths ih =>
    rw [List.foldlM_cons, List.foldl_cons]
    exact (Loads.collect files dir path h).bind (size_le_foldl files _ paths) ih

theorem exists_ofDirectory {paths : List String} (h : Rule.filesIn files dir = .ok paths) :
    ∃ v, ofDirectory files dir = .ok v ∧ v.files = paths.length ∧ Follows files paths v ∧
      Loads dir { path := dir, files := paths.length } v
        (paths.foldlM (Rule.collect files dir) {}) := by
  refine ⟨_, by rw [ofDirectory, h]; rfl, ?_, (Follows.start files dir _).foldl paths,
    .foldlM files dir paths (Nat.zero_le _)⟩
  exact files_foldl files _ paths

end RuleValidity

/-! ## Both -/

namespace Rule

theorem exists_filesIn {files : Files} {dir : String} {names : List String}
    (h : files dir = .ok (.directory names)) : ∃ paths, filesIn files dir = .ok paths := by
  rw [filesIn, Files.list, h]
  exact ⟨_, rfl⟩

theorem loadDirectory_of_filesIn {files : Files} {dir : String} {paths : List String}
    (h : filesIn files dir = .ok paths) :
    loadDirectory files dir = do return (← paths.foldlM (collect files dir) {}).rules := by
  rw [loadDirectory, h]

/-- A report on a directory counts every rule file once. It lists the id of each rule it would
keep, which is the first one of its id, of each rule it would pass over, and the files that are
refused. Up to the limit on the number of rules, loading the directory succeeds, keeps and passes
over exactly these; beyond it, loading fails. -/
theorem loadDirectory_as_reported (files : Files) (dir : String) (names : List String)
    (h : files dir = .ok (.directory names)) :
    let loaded := loadDirectory files dir
    ∃ paths v, filesIn files dir = .ok paths ∧ RuleValidity.ofDirectory files dir = .ok v ∧
      v.files = paths.length ∧ v.valid + v.invalid = v.files ∧ v.invalid = v.errors.length ∧
      v.contributors.Nodup ∧
      v.contributors = (paths.flatMap (idsIn files)).eraseDups ∧
      (v.contributors ++ v.duplicates).Perm (paths.flatMap (idsIn files)) ∧
      v.errors = paths.filterMap (refusal? files) ∧
      (v.contributors.length ≤ 10000 → ∃ rules, loaded.result = .ok rules ∧
        rules.map (fun r => r.id) = v.contributors ∧
        loaded.journal.skippedRules = v.duplicates ∧
        loaded.journal.skippedFiles = v.errors) ∧
      (10000 < v.contributors.length →
        loaded.result = .error (.ruleLoad dir "too many rules: max 10000")) := by
  intro loaded
  obtain ⟨paths, hpaths⟩ := exists_filesIn h
  obtain ⟨v, hv, hfiles, hfollows, hloads⟩ := RuleValidity.exists_ofDirectory hpaths
  have hloaded : loaded = do return (← paths.foldlM (collect files dir) {}).rules :=
    loadDirectory_of_filesIn hpaths
  have hsize : v.contributors.length = v.collection.size := v.collection.length_ids
  refine ⟨paths, v, hpaths, hv, hfiles, hfollows.total.trans hfiles.symm, hfollows.invalid, ?_,
    hfollows.contributors, hfollows.listed, hfollows.errors, ?_, ?_⟩
  · rw [hfollows.contributors]
    exact nodup_eraseDups _
  · intro hfits
    rw [hsize] at hfits
    have hagrees := hloads.fits hfits
    have hjournal := Reported.journal_bind hagrees.kept fun c => pure c.rules
    refine ⟨v.collection.rules, ?_, rfl, ?_, ?_⟩
    · rw [hloaded, Reported.result_bind, hagrees.kept]
      rfl
    · rw [hloaded, hjournal, hagrees.duplicates]
      simp
    · rw [hloaded, hjournal, hagrees.errors]
      simp
  · intro hmany
    rw [hsize] at hmany
    rw [hloaded, Reported.result_bind, hloads.tooMany hmany]
    rfl

/-- Three rule files, of which two have a rule of one id and one is no TOML. -/
theorem loadDirectory_as_reported_mixed :
    let rule (id : String) := "\x7bid=\"" ++ id ++ "\",suffixes=[\"m\"],component=\"x\"\x7d"
    let names := ["a.toml", "b.toml", "c.toml", "notes.txt"]
    let files : Files := fun path =>
      if path = "rules" then .ok (.directory names)
      else if path = "rules/a.toml" then .ok (.file ("contributor=[" ++ rule "x" ++ "]").toUTF8)
      else if path = "rules/b.toml" then
        .ok (.file ("contributor=[" ++ rule "x" ++ "," ++ rule "y" ++ "]").toUTF8)
      else if path = "rules/c.toml" then .ok (.file "id =".toUTF8)
      else .error .notFound
    files "rules" = .ok (.directory names) ∧
      ∃ v rules, RuleValidity.ofDirectory files "rules" = .ok v ∧
        (loadDirectory files "rules").result = .ok rules ∧
        rules.map (fun r => r.id) = v.contributors ∧
        v.contributors = ["x", "y"] ∧ v.duplicates = ["x"] ∧
        v.errors.map Prod.fst = ["rules/c.toml"] ∧ (v.valid, v.invalid, v.files) = (2, 1, 3) := by
  intro rule names files
  obtain ⟨paths, v, -, hv, -, -, -, -, -, -, -, hfits, -⟩ :=
    loadDirectory_as_reported files "rules" names rfl
  have hnames : (names.filter fun name => Files.extension? name == some "toml") =
      ["a.toml", "b.toml", "c.toml"] := by decide +kernel
  have hpaths : filesIn files "rules" = .ok ["rules/a.toml", "rules/b.toml", "rules/c.toml"] := by
    show Except.ok (((names.filter fun name => Files.extension? name == some "toml").mergeSort
      fun a b => decide (a ≤ b)).map (Files.join "rules")) = _
    rw [hnames, List.mergeSort_of_pairwise (by decide +kernel)]
    exact congrArg Except.ok (by decide +kernel)
  have hreport : (RuleValidity.ofDirectory files "rules").toOption.map (fun v =>
      (v.contributors, v.duplicates, v.errors.map Prod.fst, v.valid, v.invalid, v.files)) =
      some (["x", "y"], ["x"], ["rules/c.toml"], 2, 1, 3) := by
    rw [RuleValidity.ofDirectory, hpaths]
    decide +kernel
  rw [hv] at hreport
  obtain ⟨hcontributors, hduplicates, herrors, hcounts⟩ :
      v.contributors = ["x", "y"] ∧ v.duplicates = ["x"] ∧
        v.errors.map Prod.fst = ["rules/c.toml"] ∧
        (v.valid, v.invalid, v.files) = (2, 1, 3) := by
    simpa [Except.toOption] using hreport
  obtain ⟨rules, hrules, hids, -⟩ := hfits (by rw [hcontributors]; decide)
  exact ⟨rfl, v, rules, hv, hrules, hids, hcontributors, hduplicates, herrors, hcounts⟩

end Rule

end ComponentScan
