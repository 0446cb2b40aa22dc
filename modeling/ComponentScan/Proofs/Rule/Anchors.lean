import ComponentScan.Proofs.Descriptor.Check
import ComponentScan.Proofs.Path.Segments
import ComponentScan.Proofs.Text.Replacing
import ComponentScan.Rule.Contributor

/-!
# The anchors that rules make

A rule refuses a path that would give an anchor with two stars in a row or a pinned anchor for the
whole scan. What it does not refuse passes the check of its anchor unless one of two texts is
empty (`contribute_checkAnchor`): an anchor made of nothing but the directory of a file that lies
in none, and the checksum that a rule pins.
-/

namespace ComponentScan

/-! ## Names in a path -/

namespace Path

variable {path : String}

/-- The name of the directory that a file lies in, or the empty text. -/
def dirName (path : String) : String :=
  (segments path).dropLast.getLastD ""

theorem getLastD_ne_empty {names : List String} (hne : names ≠ []) (h : ∀ n ∈ names, n ≠ "") :
    names.getLastD "" ≠ "" := by
  rw [List.getLastD_eq_getLast?, List.getLast?_eq_some_getLast hne]
  exact h _ (List.getLast_mem hne)

theorem fileName_ne_empty (h : segments path ≠ []) : fileName path ≠ "" :=
  getLastD_ne_empty h fun _ => ne_empty_of_mem_segments

/-- A file lies in a directory exactly when its path has more than one segment. -/
theorem dirName_eq_empty_iff : dirName path = "" ↔ (segments path).length ≤ 1 := by
  rw [dirName]
  by_cases h : (segments path).dropLast = []
  · have hlength := congrArg List.length h
    rw [List.length_dropLast, List.length_nil] at hlength
    simp only [h, List.getLastD_nil, true_iff]
    omega
  · have hlength := List.length_pos_iff.2 h
    rw [List.length_dropLast] at hlength
    have hname := getLastD_ne_empty h fun n hn =>
      ne_empty_of_mem_segments (List.dropLast_subset _ hn)
    simp only [hname, false_iff]
    omega

end Path

namespace Rule

variable {r : Rule} {q : Inquiry} {ds : List Descriptor}

/-! ## What a rule makes of a file -/

/-- The anchor a rule gives to a file. -/
def anchorOf (r : Rule) (q : Inquiry) : String :=
  r.anchorFor (Path.segments q.path) (Path.dirName q.path) (Path.fileName q.path)

/-- The checksum a rule gives to the anchor of a file. -/
def checksumOf (r : Rule) (q : Inquiry) : String :=
  if r.pinChecksum then q.checksum else anyChecksum

/-- The descriptor of a file that a rule does not refuse. -/
def descriptorOf (r : Rule) (q : Inquiry) : Descriptor :=
  let dir := Path.dirName q.path
  let file := Path.fileName q.path
  { name := fill r.component dir file
    version := fill r.version dir file
    anchor := some (r.anchorOf q)
    anchorChecksum := some (r.checksumOf q)
    includes := fill r.includes (Glob.escape dir) (Glob.escape file)
    excludes := fill r.excludes (Glob.escape dir) (Glob.escape file)
    mode := r.mode
    needsNoFiles := r.needsNoFiles
    componentType := r.componentType }

/-- Whether a rule refuses a file for its anchor. -/
def RefusesAnchor (r : Rule) (q : Inquiry) : Prop :=
  Text.contains (r.anchorOf q) "**" ∨ (r.pinChecksum ∧ isRootAnchor (r.anchorOf q))

theorem contribute_eq_ok_iff :
    r.contribute q = .ok ds ↔
      Path.segments q.path ≠ [] ∧ ¬ r.RefusesAnchor q ∧ ds = [r.descriptorOf q] := by
  rcases List.eq_nil_or_concat (Path.segments q.path) with h | ⟨parents, file, h⟩
  · simp [contribute, h]
  · rw [List.concat_eq_append] at h
    have hdir : Path.dirName q.path = parents.reverse.headD "" := by
      simp [Path.dirName, h, List.getLastD_eq_getLast?]
    have hfile : Path.fileName q.path = file := by
      simp [Path.fileName, h]
    have hreverse : (Path.segments q.path).reverse = file :: parents.reverse := by
      simp [h]
    have hne : Path.segments q.path ≠ [] := by simp [h]
    have hanchor : r.anchorFor (Path.segments q.path) (Path.dirName q.path) (Path.fileName q.path) =
        r.anchorOf q := rfl
    simp only [contribute, hreverse, ← hdir, ← hfile, hanchor]
    split
    · rename_i hrefused
      exact ⟨nofun, fun ⟨_, h, _⟩ => absurd hrefused h⟩
    · rename_i haccepted
      rw [Except.ok.injEq, eq_comm]
      exact ⟨fun h => ⟨hne, haccepted, h⟩, fun h => h.2.2⟩

/-! ## Anchors and checksums that are lost -/

/-- A rule whose anchor is nothing at all, or nothing but the name of the directory when the file
lies in none. -/
def LosesAnchor (r : Rule) (q : Inquiry) : Prop :=
  ∃ n, r.anchor = some (String.join (List.replicate n dirPlaceholder)) ∧
    (n = 0 ∨ (Path.segments q.path).length = 1)

/-- A rule that pins the checksum of a file without one. -/
def LosesChecksum (r : Rule) (q : Inquiry) : Prop :=
  r.pinChecksum = true ∧ q.checksum = ""

/-- A template leaves nothing only where a directory is to be named and there is none. -/
theorem fill_eq_empty_iff {template dir file : String} (hfile : file ≠ "") :
    fill template dir file = "" ↔
      ∃ n, template = String.join (List.replicate n dirPlaceholder) ∧ (n = 0 ∨ dir = "") := by
  have hnone : Text.replace (Text.replace template dirPlaceholder dir) filePlaceholder file = "" ↔
      Text.replace template dirPlaceholder dir = "" := by
    rw [Text.replace_eq_empty_iff (by decide : filePlaceholder ≠ "")]
    simp [hfile]
  rw [fill, hnone, Text.replace_eq_empty_iff (by decide)]

theorem fault?_of_validate (h : r.validate = .ok ()) : r.fault? = none := by
  rw [validate] at h
  split at h
  · assumption
  · cases h

theorem anchorSegments_ne_zero (h : r.validate = .ok ()) : r.anchorSegments ≠ 0 := by
  intro hzero
  have hfault := fault?_of_validate h
  rw [fault?, if_pos hzero] at hfault
  repeat' split at hfault
  all_goals cases hfault

theorem anchorOf_eq_empty_iff (hvalid : r.validate = .ok ()) (hne : Path.segments q.path ≠ []) :
    r.anchorOf q = "" ↔ r.LosesAnchor q := by
  have hlength := List.length_pos_iff.2 hne
  rw [anchorOf, anchorFor, LosesAnchor]
  cases r.anchor with
  | none =>
    have hdrop : (Path.segments q.path).drop ((Path.segments q.path).length - r.anchorSegments) ≠
        [] := by
      have := anchorSegments_ne_zero hvalid
      rw [← List.length_pos_iff, List.length_drop]
      omega
    have hnames := Path.ofSegments_ne_empty hdrop fun n hn =>
      Path.ne_empty_of_mem_segments (List.mem_of_mem_drop hn)
    simp [hnames]
  | some template =>
    simp only [fill_eq_empty_iff (Path.fileName_ne_empty hne), Path.dirName_eq_empty_iff,
      Option.some.injEq]
    have hone : (Path.segments q.path).length ≤ 1 ↔ (Path.segments q.path).length = 1 := by omega
    rw [hone]

theorem checksumOf_eq_empty_iff : r.checksumOf q = "" ↔ r.LosesChecksum q := by
  rw [checksumOf, LosesChecksum]
  cases r.pinChecksum <;> simp [anyChecksum]

/-! ## The check of the anchor -/

theorem noStars_anchorOf (h : ¬ r.RefusesAnchor q) : ¬ ['*', '*'] <:+: (r.anchorOf q).toList :=
  fun hstars => h (.inl (Descriptor.contains_stars_iff.2 hstars))

/-- A pinned anchor for the whole scan is refused. -/
theorem checksumOf_of_rootAnchor (h : ¬ r.RefusesAnchor q)
    (hroot : isRootAnchor (r.anchorOf q) = true) : r.checksumOf q = anyChecksum :=
  if_neg fun hpin => h (.inr ⟨hpin, hroot⟩)

theorem checkAnchor_descriptorOf (h : ¬ r.RefusesAnchor q) :
    (r.descriptorOf q).checkAnchor =
      if r.anchorOf q = "" then
        .error (.missingVersionAnchor (r.descriptorOf q).name (r.descriptorOf q).provenance)
      else if r.checksumOf q = "" then
        .error (.missingAnchorChecksum (r.descriptorOf q).name (r.anchorOf q))
      else .ok (r.anchorOf q, r.checksumOf q) := by
  split
  · rename_i ha
    have hnone : (r.descriptorOf q).effectiveAnchor = none :=
      Descriptor.effective_eq_none_iff.2 (.inr (by simp [descriptorOf, ha]))
    simp only [Descriptor.checkAnchor, hnone]
  · rename_i ha
    have hanchor : (r.descriptorOf q).effectiveAnchor = some (r.anchorOf q) :=
      Descriptor.effective_eq_some_iff.2 ⟨rfl, ha⟩
    split
    · rename_i hc
      have hnone : (r.descriptorOf q).effectiveChecksum = none :=
        Descriptor.effective_eq_none_iff.2 (.inr (by simp [descriptorOf, hc]))
      simp only [Descriptor.checkAnchor, hanchor, hnone]
    · rename_i hc
      exact Descriptor.checkAnchor_eq_ok_iff.2
        { hasAnchor := hanchor
          hasChecksum := Descriptor.effective_eq_some_iff.2 ⟨rfl, hc⟩
          noStars := noStars_anchorOf h
          rootAny := checksumOf_of_rootAnchor h }

/-- A rule makes one descriptor of a file that it does not refuse. Its anchor has no two stars in a
row, and an anchor for the whole scan accepts any content. Whether it passes the check of its
anchor depends on the anchor and the checksum alone, and these are empty exactly when the rule
loses them. -/
theorem contribute_checkAnchor (r : Rule) (q : Inquiry) (ds : List Descriptor)
    (hvalid : r.validate = .ok ()) (hok : r.contribute q = .ok ds) :
    ∃ d anchor checksum, ds = [d] ∧ d.anchor = some anchor ∧ d.anchorChecksum = some checksum ∧
      (anchor = "" ↔ r.LosesAnchor q) ∧ (checksum = "" ↔ r.LosesChecksum q) ∧
      ¬ ['*', '*'] <:+: anchor.toList ∧ (isRootAnchor anchor = true → checksum = anyChecksum) ∧
      d.checkAnchor =
        if anchor = "" then .error (.missingVersionAnchor d.name d.provenance)
        else if checksum = "" then .error (.missingAnchorChecksum d.name anchor)
        else .ok (anchor, checksum) := by
  obtain ⟨hne, haccepted, rfl⟩ := contribute_eq_ok_iff.1 hok
  exact ⟨r.descriptorOf q, r.anchorOf q, r.checksumOf q, rfl, rfl, rfl,
    anchorOf_eq_empty_iff hvalid hne, checksumOf_eq_empty_iff, noStars_anchorOf haccepted,
    checksumOf_of_rootAnchor haccepted, checkAnchor_descriptorOf haccepted⟩

/-- A pinned anchor that is the end of the path. -/
theorem contribute_checkAnchor_pinned :
    let r : Rule := { id := "lib", suffixes := [".json"], component := "lib", pinChecksum := true }
    let q : Inquiry := ⟨"src/lib/package.json", "H", { baseDir := "/scan" }⟩
    r.validate = .ok () ∧ r.contribute q = .ok [r.descriptorOf q] ∧
      (r.descriptorOf q).checkAnchor = .ok ("lib/package.json", "H") := by
  intro r q
  have hvalid : r.validate = .ok () := by decide +kernel
  have hok : r.contribute q = .ok [r.descriptorOf q] := by decide +kernel
  refine ⟨hvalid, hok, ?_⟩
  obtain ⟨d, anchor, checksum, hd, hanchor, hchecksum, -, -, -, -, hcheck⟩ :=
    contribute_checkAnchor r q _ hvalid hok
  obtain rfl := List.singleton_inj.1 hd
  have hlast : (r.descriptorOf q).anchor = some "lib/package.json" := by decide +kernel
  obtain rfl := Option.some.inj (hlast.symm.trans hanchor)
  obtain rfl : "H" = checksum := Option.some.inj hchecksum
  exact hcheck

/-- A rule that passes its check and files it does not refuse, the one without a directory, the
other without a checksum, and descriptors that fail. -/
theorem contribute_loses :
    let r : Rule := { id := "lib", suffixes := [".json"], component := "lib"
                      anchor := some dirPlaceholder, pinChecksum := true }
    let check (path checksum : String) : Option (List (Except EngineError (String × String))) :=
      (r.contribute ⟨path, checksum, { baseDir := "/scan" }⟩).toOption.map
        (List.map Descriptor.checkAnchor)
    r.validate = .ok () ∧
      check "package.json" "H" = some [.error (.missingVersionAnchor "lib" "")] ∧
      check "foo/package.json" "" = some [.error (.missingAnchorChecksum "lib" "foo")] := by
  decide +kernel

end Rule

end ComponentScan
