import ComponentScan.Extraction
import ComponentScan.Proofs.Contributor.Findings
import ComponentScan.Proofs.Descriptor.Identity

/-!
# What an extraction stores

An extraction is told by one list: what is found at the files, the shortest path first. There is
only one such order of the files (`InOrder.unique`). Of the list the store takes the first
descriptor of each qualifier that is new to it, and leaves out those whose version is not known. The
summary accounts for all others (`run_eq_newcomers`).
-/

namespace ComponentScan

attribute [ext] ExtractionSummary

/-! ## New descriptors -/

namespace DescriptorStore

variable {s : DescriptorStore} {d : Descriptor} {ds : List Descriptor}

/-- The descriptors that a store takes from a list: of those whose version is known and whose
qualifier the store does not hold, the first one of each qualifier. -/
def newcomers (s : DescriptorStore) (ds : List Descriptor) : List Descriptor :=
  (ds.filter fun d => !d.isUnspecific && !s.contains d.qualifier).eraseDupsBy
    fun d e => d.qualifier == e.qualifier

theorem isNew_eq (s : DescriptorStore) (d : Descriptor) :
    (!d.isUnspecific && !s.contains d.qualifier) =
      decide (d.version ≠ "unspecific" ∧ ∀ e ∈ s.descriptors, e.qualifier ≠ d.qualifier) := by
  rw [Bool.eq_iff_iff]
  simp [Descriptor.isUnspecific, unspecificVersion, contains]

theorem insert_of_contains (h : s.contains d.qualifier = true) : s.insert d = (false, s) := by
  rw [insert, if_pos h]

theorem insert_of_not_contains (h : ¬ s.contains d.qualifier = true) :
    s.insert d = (true, ⟨s.descriptors ++ [d]⟩) := by
  rw [insert, if_neg h]

@[simp]
theorem newcomers_nil : s.newcomers [] = [] := rfl

theorem newcomers_cons_of_unspecific (h : d.isUnspecific = true) :
    s.newcomers (d :: ds) = s.newcomers ds := by
  simp [newcomers, h]

theorem newcomers_cons_of_contains (h : s.contains d.qualifier = true) :
    s.newcomers (d :: ds) = s.newcomers ds := by
  simp [newcomers, h]

/-- A descriptor that is taken keeps away the later ones of its qualifier. -/
theorem newcomers_cons_of_new (hversion : ¬ d.isUnspecific = true)
    (hnew : ¬ s.contains d.qualifier = true) :
    s.newcomers (d :: ds) = d :: newcomers ⟨s.descriptors ++ [d]⟩ ds := by
  have hlater (e : Descriptor) : contains ⟨s.descriptors ++ [d]⟩ e.qualifier =
      (s.contains e.qualifier || d.qualifier == e.qualifier) := by
    simp [contains]
  rw [newcomers, List.filter_cons_of_pos (by simp [hversion, hnew]), List.eraseDupsBy_cons,
    List.filter_filter, newcomers]
  congr 2
  refine List.filter_congr fun e _ => ?_
  rw [hlater, Bool.beq_comm (a := d.qualifier)]
  cases e.isUnspecific <;> cases s.contains e.qualifier <;> simp [beq_eq_decide]

theorem newcomers_append (s : DescriptorStore) (ds ds' : List Descriptor) :
    s.newcomers (ds ++ ds') =
      s.newcomers ds ++ newcomers ⟨s.descriptors ++ s.newcomers ds⟩ ds' := by
  induction ds generalizing s with
  | nil => simp
  | cons d ds ih =>
    rw [List.cons_append]
    by_cases hversion : d.isUnspecific = true
    · rw [newcomers_cons_of_unspecific hversion, newcomers_cons_of_unspecific hversion, ih]
    · by_cases hnew : s.contains d.qualifier = true
      · rw [newcomers_cons_of_contains hnew, newcomers_cons_of_contains hnew, ih]
      · rw [newcomers_cons_of_new hversion hnew, newcomers_cons_of_new hversion hnew, ih]
        simp

theorem mem_of_mem_newcomers (h : d ∈ s.newcomers ds) : d ∈ ds := by
  induction ds generalizing s with
  | nil => cases h
  | cons e ds ih =>
    by_cases hversion : e.isUnspecific = true
    · rw [newcomers_cons_of_unspecific hversion] at h
      exact List.mem_cons_of_mem e (ih h)
    · by_cases hnew : s.contains e.qualifier = true
      · rw [newcomers_cons_of_contains hnew] at h
        exact List.mem_cons_of_mem e (ih h)
      · rw [newcomers_cons_of_new hversion hnew, List.mem_cons] at h
        exact List.mem_cons.2 (h.imp id ih)

end DescriptorStore

namespace Extraction

/-! ## The order of the files -/

/-- The paths and the checksums of the files that have both. -/
def listed (context : ScanContext) : List (String × String) :=
  context.artifacts.filterMap fun a =>
    match a.kind, a.path, a.checksum with
    | .file, some path, some checksum => some (Path.normalize path, checksum)
    | _, _, _ => none

/-- The candidate that a path and a checksum stand for. -/
def Candidate.ofFile (f : String × String) : Candidate :=
  ⟨f.1, f.2, Text.fold f.1⟩

theorem filterMap_ofArtifact? (context : ScanContext) :
    context.files.filterMap Candidate.ofArtifact? = (listed context).map Candidate.ofFile := by
  rw [ScanContext.files, List.filterMap_filter, listed, List.map_filterMap]
  congr 1
  funext a
  rw [Artifact.isFile, Candidate.ofArtifact?, Artifact.normalizedPath]
  cases a.kind <;> cases a.path <;> cases a.checksum <;> rfl

/-- What decides about the place of a file: the length of its path and its folded path. -/
def place (f : String × String) : Nat × String := (f.1.utf8ByteSize, Text.fold f.1)

/-- The files `shown`, told by their paths and their checksums, are the files `fs` in the stable
order by the length of the path in bytes and then by the folded path. -/
structure InOrder (fs shown : List (String × String)) : Prop where
  perm : shown.Perm fs
  sorted : shown.Pairwise fun f g => f.1.utf8ByteSize < g.1.utf8ByteSize ∨
    f.1.utf8ByteSize = g.1.utf8ByteSize ∧ Text.fold f.1 ≤ Text.fold g.1
  /-- Files of one place stay in their order. -/
  stable : ∀ f ∈ fs, shown.filter (place · = place f) = fs.filter (place · = place f)

/-- Whether a file may stand in front of another one. -/
def mayPrecede (f g : String × String) : Bool :=
  (Candidate.ofFile f).notAfter (Candidate.ofFile g)

section Order

variable {f g : String × String}

theorem Candidate.notAfter_iff {a b : Candidate} :
    a.notAfter b = true ↔ a.path.utf8ByteSize < b.path.utf8ByteSize ∨
      a.path.utf8ByteSize = b.path.utf8ByteSize ∧ a.folded ≤ b.folded := by
  simp [notAfter]

theorem mayPrecede_iff : mayPrecede f g = true ↔ f.1.utf8ByteSize < g.1.utf8ByteSize ∨
    f.1.utf8ByteSize = g.1.utf8ByteSize ∧ Text.fold f.1 ≤ Text.fold g.1 :=
  Candidate.notAfter_iff

theorem mayPrecede_trans (f g h : String × String) (hfg : mayPrecede f g = true)
    (hgh : mayPrecede g h = true) : mayPrecede f h = true := by
  rw [mayPrecede_iff] at hfg hgh ⊢
  rcases hfg with hfg | ⟨hfg, hfg'⟩
  · exact .inl (by omega)
  · rcases hgh with hgh | ⟨hgh, hgh'⟩
    · exact .inl (by omega)
    · exact .inr ⟨by omega, String.le_trans hfg' hgh'⟩

theorem mayPrecede_total (f g : String × String) : (mayPrecede f g || mayPrecede g f) = true := by
  rw [Bool.or_eq_true, mayPrecede_iff, mayPrecede_iff]
  rcases Nat.lt_trichotomy f.1.utf8ByteSize g.1.utf8ByteSize with h | h | h
  · exact .inl (.inl h)
  · exact (String.le_total (Text.fold f.1) (Text.fold g.1)).imp (fun h' => .inr ⟨h, h'⟩)
      fun h' => .inr ⟨h.symm, h'⟩
  · exact .inr (.inl h)

theorem mayPrecede_of_place_eq (h : place f = place g) : mayPrecede f g = true := by
  obtain ⟨hsize, hfolded⟩ := Prod.mk.inj h
  have hle : Text.fold f.1 ≤ Text.fold g.1 := hfolded ▸ String.le_refl (Text.fold f.1)
  exact mayPrecede_iff.2 (.inr ⟨hsize, hle⟩)

/-- Two files that may stand in either order have one place. -/
theorem place_eq_of_mayPrecede (h : mayPrecede f g = true) (h' : mayPrecede g f = true) :
    place f = place g := by
  rw [mayPrecede_iff] at h h'
  rcases h with h | ⟨hsize, h⟩
  · omega
  · rcases h' with h' | ⟨-, h'⟩
    · omega
    · exact Prod.ext hsize (String.le_antisymm h h')

end Order

/-- Sorting keeps the files of one place in their order. -/
theorem filter_place_mergeSort (fs : List (String × String)) (p : Nat × String) :
    (fs.mergeSort mayPrecede).filter (place · = p) = fs.filter (place · = p) := by
  induction fs with
  | nil => rw [List.mergeSort_nil]
  | cons f fs ih =>
    obtain ⟨front, back, hsorted, hrest, hfront⟩ :=
      List.mergeSort_cons mayPrecede_trans mayPrecede_total f fs
    rw [hsorted, List.filter_append]
    rw [hrest, List.filter_append] at ih
    by_cases hf : place f = p
    · -- what comes before `f` in the sorted list has another place
      have hnone : front.filter (place · = p) = [] := by
        rw [List.filter_eq_nil_iff]
        intro g hg hplace
        have hfg : mayPrecede f g = true :=
          mayPrecede_of_place_eq (hf.trans (of_decide_eq_true hplace).symm)
        simpa [hfg] using hfront g hg
      rw [hnone, List.nil_append] at ih ⊢
      rw [List.filter_cons_of_pos (by simpa using hf), List.filter_cons_of_pos (by simpa using hf),
        ih]
    · rw [List.filter_cons_of_neg (by simpa using hf), List.filter_cons_of_neg (by simpa using hf),
        ih]

/-- In this order the files are shown. -/
theorem exists_inOrder (context : ScanContext) : ∃ shown,
    InOrder (listed context) shown ∧ candidates context = shown.map Candidate.ofFile := by
  refine ⟨(listed context).mergeSort mayPrecede, ⟨List.mergeSort_perm _ _, ?_, ?_⟩, ?_⟩
  · exact (List.pairwise_mergeSort mayPrecede_trans mayPrecede_total _).imp mayPrecede_iff.1
  · exact fun f _ => filter_place_mergeSort _ _
  · rw [candidates, filterMap_ofArtifact?]
    exact (List.map_mergeSort (f := Candidate.ofFile) fun _ _ _ _ => rfl).symm

/-- Sorted lists of the same files are equal if they agree on the files of each place. -/
theorem eq_of_sorted {fs gs : List (String × String)} (hperm : fs.Perm gs)
    (hfs : fs.Pairwise fun f g => mayPrecede f g = true)
    (hgs : gs.Pairwise fun f g => mayPrecede f g = true)
    (hstable : ∀ f ∈ fs, fs.filter (place · = place f) = gs.filter (place · = place f)) :
    fs = gs := by
  induction fs generalizing gs with
  | nil => exact hperm.nil_eq
  | cons f fs ih =>
    cases gs with
    | nil => exact hperm.eq_nil
    | cons g gs =>
      rw [List.pairwise_cons] at hfs hgs
      -- each of the first files stands in the other list too, so they have one place
      have hplace : place g = place f := by
        rcases List.mem_cons.1 (hperm.mem_iff.2 List.mem_cons_self) with rfl | hg
        · rfl
        · rcases List.mem_cons.1 (hperm.mem_iff.1 List.mem_cons_self) with rfl | hf
          · rfl
          · exact place_eq_of_mayPrecede (hgs.1 f hf) (hfs.1 g hg)
      have hfirst := hstable f List.mem_cons_self
      rw [List.filter_cons_of_pos (by simp), List.filter_cons_of_pos (by simpa using hplace)]
        at hfirst
      obtain ⟨rfl, -⟩ := List.cons.inj hfirst
      refine congrArg (f :: ·) (ih hperm.cons_inv hfs.2 hgs.2 fun h hh => ?_)
      -- at the place of `h` both lists lose their first file or neither does
      have hrest := hstable h (List.mem_cons_of_mem f hh)
      by_cases hf : place f = place h
      · rw [List.filter_cons_of_pos (by simpa using hf),
          List.filter_cons_of_pos (by simpa using hf)] at hrest
        exact (List.cons.inj hrest).2
      · rwa [List.filter_cons_of_neg (by simpa using hf),
          List.filter_cons_of_neg (by simpa using hf)] at hrest

/-- There is only one such order. -/
theorem InOrder.unique {fs shown shown' : List (String × String)} (h : InOrder fs shown)
    (h' : InOrder fs shown') : shown = shown' := by
  refine eq_of_sorted (h.perm.trans h'.perm.symm) (h.sorted.imp mayPrecede_iff.2)
    (h'.sorted.imp mayPrecede_iff.2) fun f hf => ?_
  have hf : f ∈ fs := h.perm.mem_iff.1 hf
  rw [h.stable f hf, h'.stable f hf]

/-! ## One file -/

variable {r : Registry} {context : ScanContext} {store : DescriptorStore} {x : Extraction}
  {seen : List Candidate}

/-- What the contributors make of a file, when they have not been asked before. -/
def findings (r : Registry) (context : ScanContext) (c : Candidate) : Findings :=
  (Findings.ofRegistry r .empty ⟨c.path, c.checksum, context⟩).1

/-- What is found at some files, one after the other. -/
def found (r : Registry) (context : ScanContext) (cs : List Candidate) : List Descriptor :=
  cs.flatMap fun c => (findings r context c).descriptors

theorem found_concat (r : Registry) (context : ScanContext) (seen : List Candidate)
    (c : Candidate) : found r context (seen ++ [c]) =
      found r context seen ++ (findings r context c).descriptors := by
  simp [found]

/-- Storing the descriptors `ds` leads from `x` to `y`: the new ones are taken, all of them are
counted, and nothing else changes. -/
structure Stores (x : Extraction) (ds : List Descriptor) (y : Extraction) : Prop where
  descriptors : y.store.descriptors = x.store.descriptors ++ x.store.newcomers ds
  accepted : y.summary.accepted = x.summary.accepted + (x.store.newcomers ds).length
  unspecific : y.summary.unspecific = x.summary.unspecific + ds.countP Descriptor.isUnspecific
  total : y.summary.accepted + y.summary.duplicate + y.summary.unspecific =
    x.summary.accepted + x.summary.duplicate + x.summary.unspecific + ds.length
  visited : y.summary.filesVisited = x.summary.filesVisited
  failed : y.summary.filesFailed = x.summary.filesFailed
  cache : y.cache = x.cache

theorem Stores.nil (x : Extraction) : Stores x [] x := by
  constructor <;> simp [DescriptorStore.newcomers]

theorem Stores.trans {y z : Extraction} {ds ds' : List Descriptor} (h : Stores x ds y)
    (h' : Stores y ds' z) : Stores x (ds ++ ds') z := by
  have hstore : y.store = ⟨x.store.descriptors ++ x.store.newcomers ds⟩ :=
    congrArg DescriptorStore.mk h.descriptors
  have hnews : x.store.newcomers (ds ++ ds') = x.store.newcomers ds ++ y.store.newcomers ds' := by
    rw [DescriptorStore.newcomers_append, hstore]
  constructor
  · rw [h'.descriptors, h.descriptors, hnews, List.append_assoc]
  · rw [h'.accepted, h.accepted, hnews, List.length_append, Nat.add_assoc]
  · rw [h'.unspecific, h.unspecific, List.countP_append, Nat.add_assoc]
  · rw [h'.total, h.total, List.length_append, Nat.add_assoc]
  · rw [h'.visited, h.visited]
  · rw [h'.failed, h.failed]
  · rw [h'.cache, h.cache]

theorem Stores.take (x : Extraction) (d : Descriptor) : Stores x [d] (take x d) := by
  rw [Extraction.take]
  by_cases hversion : d.isUnspecific = true
  · rw [if_pos hversion]
    constructor <;>
      simp [DescriptorStore.newcomers_cons_of_unspecific hversion, hversion]
    omega
  · rw [if_neg hversion]
    by_cases hnew : x.store.contains d.qualifier = true
    · rw [DescriptorStore.insert_of_contains hnew]
      constructor <;>
        simp [DescriptorStore.newcomers_cons_of_contains hnew,
          hversion]
      omega
    · rw [DescriptorStore.insert_of_not_contains hnew]
      constructor <;>
        simp [DescriptorStore.newcomers_cons_of_new hversion hnew,
          hversion]
      omega

theorem Stores.foldl (ds : List Descriptor) (x : Extraction) :
    Stores x ds (ds.foldl Extraction.take x) := by
  induction ds generalizing x with
  | nil => exact .nil x
  | cons d ds ih => exact (Stores.take x d).trans (ih (Extraction.take x d))

/-- An extraction that has shown the files `seen`. -/
structure Follows (r : Registry) (context : ScanContext) (store : DescriptorStore)
    (seen : List Candidate) (x : Extraction) : Prop where
  descriptors : x.store.descriptors = store.descriptors ++ store.newcomers (found r context seen)
  cache : x.cache.Sound
  visited : x.summary.filesVisited = seen.length
  failed : x.summary.filesFailed = seen.countP fun c => (findings r context c).hasFailures
  accepted : x.summary.accepted = (store.newcomers (found r context seen)).length
  unspecific : x.summary.unspecific = (found r context seen).countP Descriptor.isUnspecific
  total : x.summary.accepted + x.summary.duplicate + x.summary.unspecific =
    (found r context seen).length

/-- Before the first file. -/
theorem Follows.start (r : Registry) (context : ScanContext) (store : DescriptorStore) :
    Follows r context store [] { store } where
  descriptors := by simp [found]
  cache := SuffixCache.Sound.empty
  visited := rfl
  failed := rfl
  accepted := rfl
  unspecific := rfl
  total := rfl

/-- A file is shown. -/
theorem Follows.visit (h : Follows r context store seen x) (c : Candidate) :
    Follows r context store (seen ++ [c]) (visit r context x c) := by
  let q : Inquiry := ⟨c.path, c.checksum, context⟩
  -- a cache that tells the truth makes no difference to what is found
  have hfindings : (Findings.ofRegistry r x.cache q).1 = findings r context c := by
    rw [findings, Findings.ofRegistry_fst h.cache, Findings.ofRegistry_fst SuffixCache.Sound.empty]
  have hcache : (Findings.ofRegistry r x.cache q).2.Sound := Findings.ofRegistry_snd h.cache r q
  have hnews : store.newcomers (found r context (seen ++ [c])) =
      store.newcomers (found r context seen) ++
        x.store.newcomers (findings r context c).descriptors := by
    rw [found_concat, DescriptorStore.newcomers_append, ← h.descriptors]
  rw [Extraction.visit]
  dsimp only
  rw [hfindings]
  let y : Extraction := { x with
    cache := (Findings.ofRegistry r x.cache q).2
    summary := { x.summary with
      filesVisited := x.summary.filesVisited + 1
      filesFailed := x.summary.filesFailed + if (findings r context c).hasFailures then 1 else 0 }
    failures := x.failures ++ (findings r context c).failures }
  have hstores : Stores y (findings r context c).descriptors _ := .foldl _ y
  constructor
  · rw [hstores.descriptors, hnews, ← List.append_assoc, ← h.descriptors]
  · exact hstores.cache ▸ hcache
  · rw [hstores.visited, List.length_append, ← h.visited]
    rfl
  · rw [hstores.failed, List.countP_append, List.countP_singleton, ← h.failed]
  · rw [hstores.accepted, hnews, List.length_append, ← h.accepted]
  · rw [hstores.unspecific, found_concat, List.countP_append, ← h.unspecific]
  · rw [hstores.total, found_concat, List.length_append, ← h.total]

/-- All files are shown. -/
theorem Follows.foldl (h : Follows r context store seen x) (cs : List Candidate) :
    Follows r context store (seen ++ cs) (cs.foldl (Extraction.visit r context) x) := by
  induction cs generalizing seen x with
  | nil => simpa using h
  | cons c cs ih =>
    rw [List.foldl_cons, List.append_cons]
    exact ih (h.visit c)

theorem run_follows (r : Registry) (context : ScanContext) (store : DescriptorStore) :
    Follows r context store (candidates context) (run r context store) := by
  exact (Follows.start r context store).foldl (candidates context)

/-! ## All files -/

/-- The files with a checksum are shown in the one stable order by the length of the path and then
by the folded path. The store keeps what it holds. Of all that is found it takes, in order, the
first descriptor of each qualifier that is new to it, but none whose version is not known. The
summary counts every file and every descriptor that was found once. -/
theorem run_eq_newcomers (r : Registry) (context : ScanContext) (store : DescriptorStore) :
    let findings (f : String × String) : Findings :=
      (Findings.ofRegistry r .empty ⟨f.1, f.2, context⟩).1
    let x := run r context store
    ∃ shown, InOrder (listed context) shown ∧
      let found := shown.flatMap fun f => (findings f).descriptors
      let news := found.filter fun d =>
        d.version ≠ "unspecific" ∧ ∀ e ∈ store.descriptors, e.qualifier ≠ d.qualifier
      x.store.descriptors =
        store.descriptors ++ news.eraseDupsBy (fun d e => d.qualifier == e.qualifier) ∧
      x.summary.filesVisited = (listed context).length ∧
      x.summary.filesFailed = (listed context).countP (fun f => (findings f).failures ≠ []) ∧
      x.summary.accepted + x.summary.duplicate + x.summary.unspecific = found.length ∧
      x.summary.unspecific = found.countP (fun d => d.version = "unspecific") ∧
      x.store.size = store.size + x.summary.accepted := by
  intro findings x
  obtain ⟨shown, horder, hcandidates⟩ := exists_inOrder context
  have h := run_follows r context store
  rw [hcandidates] at h
  refine ⟨shown, horder, ?_⟩
  intro found news
  have hfound : Extraction.found r context (shown.map Candidate.ofFile) = found := by
    rw [Extraction.found, List.flatMap_map]
    rfl
  have hnews : store.newcomers found =
      news.eraseDupsBy (fun d e => d.qualifier == e.qualifier) :=
    congrArg (List.eraseDupsBy _) (List.filter_congr fun d _ => store.isNew_eq d)
  refine ⟨?_, ?_, ?_, ?_, ?_, ?_⟩
  · rw [h.descriptors, hfound, hnews]
  · rw [h.visited, List.length_map, horder.perm.length_eq]
  · rw [h.failed, List.countP_map, horder.perm.countP_eq]
    refine List.countP_congr fun f _ => ?_
    simp [Findings.hasFailures, Extraction.findings, findings, Candidate.ofFile]
  · rw [h.total, hfound]
  · rw [h.unspecific, hfound]
    refine List.countP_congr fun d _ => ?_
    simp [Descriptor.isUnspecific, unspecificVersion]
  · rw [DescriptorStore.size, DescriptorStore.size, h.descriptors, List.length_append, h.accepted]

/-- Five files, one of them without a checksum, and a component. The order of `B.lock` and `b.lock`
is not decided by their paths. At these two one contributor fails. The other one finds a library at
every file, in a version that is new, that comes again further down or that is stored already, and
something without a version. -/
theorem run_eq_newcomers_mixed :
    let failing : Contributor :=
      { id := "failing", suffixes := ["b.lock"], contribute := fun _ => .error (.other "no") }
    let finding : Contributor := {
      id := "finding"
      suffixes := [".lock"]
      contribute := fun q => .ok
        [{ name := "lib", version := q.checksum, includes := q.path },
          { name := "app", version := "unspecific" }] }
    let file (path : String) (checksum : Option String) : Artifact :=
      { id := path, kind := .file, path := some path, checksum }
    let context : ScanContext := {
      baseDir := ""
      artifacts := [file "./src/a.lock" (some "1"), file "B.lock" (some "2"),
        file "c.lock" none, file "a.lock" (some "1"), file "b.lock" (some "3"),
        { file "d.lock" (some "4") with kind := .component }] }
    let known : Descriptor := { name := "lib", version := "3" }
    let x := run (Registry.empty.registerAll [failing, finding]) context ⟨[known]⟩
    x.store.descriptors = [known,
      { name := "lib", version := "1", includes := "a.lock", provenance := "finding" },
      { name := "lib", version := "2", includes := "B.lock", provenance := "finding" }] ∧
    x.summary = ⟨4, 2, 2, 2, 4⟩ := by
  intro failing finding file context known x
  obtain ⟨shown, horder, hstore, hvisited, hfailed, htotal, hunspecific, hsize⟩ :=
    run_eq_newcomers (Registry.empty.registerAll [failing, finding]) context ⟨[known]⟩
  -- `B.lock` is listed in front of `b.lock`, and folded it comes behind `a.lock`
  obtain rfl : shown = [("a.lock", "1"), ("B.lock", "2"), ("b.lock", "3"), ("src/a.lock", "1")] :=
    horder.unique ⟨by decide +kernel, by decide +kernel, by decide +kernel⟩
  have hdescriptors : x.store.descriptors = [known,
      { name := "lib", version := "1", includes := "a.lock", provenance := "finding" },
      { name := "lib", version := "2", includes := "B.lock", provenance := "finding" }] :=
    hstore.trans (by decide +kernel)
  have hvisited : x.summary.filesVisited = 4 := hvisited.trans (by decide +kernel)
  have hfailed : x.summary.filesFailed = 2 := hfailed.trans (by decide +kernel)
  have hunspecific : x.summary.unspecific = 4 := hunspecific.trans (by decide +kernel)
  have htotal : x.summary.accepted + x.summary.duplicate + x.summary.unspecific = 8 :=
    htotal.trans (by decide +kernel)
  have hsize : 3 = 1 + x.summary.accepted := by
    rwa [DescriptorStore.size, hdescriptors] at hsize
  have haccepted : x.summary.accepted = 2 := by omega
  have hduplicate : x.summary.duplicate = 2 := by omega
  exact ⟨hdescriptors, ExtractionSummary.ext hvisited hfailed haccepted hduplicate hunspecific⟩

end Extraction

end ComponentScan
