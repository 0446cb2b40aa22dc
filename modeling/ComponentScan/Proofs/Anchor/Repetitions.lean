import ComponentScan.Proofs.Descriptor.Identity
import ComponentScan.Proofs.Engine.Atomicity
import ComponentScan.Proofs.Text.Folded

/-!
# Components that are seen twice at a file

A store holds no two descriptors of one identity, and a descriptor is seen at a file once, so no
component is seen twice at one place. But an identity keeps the spelling of the anchor's path and
the case of the checksum, to which matching is blind. Two descriptors that differ in these only are
both kept, and then they are seen at the same files (`all_repetitions`).
-/

namespace ComponentScan

open ComponentScan.Text

/-! ## Two elements of a list -/

section Pairs

variable {α β : Type} {l : List α}

/-- Two elements stand in a list in this order unless all pairs avoid them. -/
theorem pair_sublist_iff {x y : α} :
    [x, y].Sublist l ↔ ¬ l.Pairwise fun a b => a = x → b ≠ y := by
  rw [List.pairwise_iff_forall_sublist]
  constructor
  · exact fun h hno => hno h rfl rfl
  · intro h
    by_contra hno
    exact h fun {a b} hab ha hb => hno (ha ▸ hb ▸ hab)

/-- Two elements of a concatenation are of one part, or of two parts in this order. -/
theorem pair_sublist_flatMap_iff {f : α → List β} {x y : β} :
    [x, y].Sublist (l.flatMap f) ↔
      (∃ a ∈ l, [x, y].Sublist (f a)) ∨ ∃ a b, [a, b].Sublist l ∧ x ∈ f a ∧ y ∈ f b := by
  have hparts : (∃ a b, [a, b].Sublist l ∧ x ∈ f a ∧ y ∈ f b) ↔
      ¬ l.Pairwise fun a b => ∀ x' ∈ f a, ∀ y' ∈ f b, x' = x → y' ≠ y := by
    rw [List.pairwise_iff_forall_sublist]
    constructor
    · rintro ⟨a, b, hab, hx, hy⟩ h
      exact h hab x hx y hy rfl rfl
    · intro h
      by_contra hno
      exact h fun {a b} hab x' hx y' hy hx' hy' => hno ⟨a, b, hab, hx' ▸ hx, hy' ▸ hy⟩
  rw [hparts, pair_sublist_iff, List.pairwise_flatMap, not_and_or]
  simp only [pair_sublist_iff, not_forall, exists_prop]

end Pairs

/-! ## Stores -/

namespace DescriptorStore

/-- No two descriptors of a store have one qualifier. -/
theorem pairwise_insertAll (ds : List Descriptor) :
    (insertAll {} ds).descriptors.Pairwise fun d e => d.qualifier ≠ e.qualifier := by
  induction ds using List.reverseRecOn with
  | nil => exact .nil
  | append_singleton ds e ih =>
    rw [insertAll_concat, insert]
    split
    · exact ih
    · rename_i hnew
      rw [contains_iff, not_exists] at hnew
      refine List.pairwise_append.2 ⟨ih, List.pairwise_singleton _ _, fun d hd e' he' => ?_⟩
      obtain rfl := List.mem_singleton.1 he'
      exact fun heq => hnew d ⟨hd, heq⟩

end DescriptorStore

/-! ## Spellings -/

/-- Two descriptors of one component whose anchors and checksums are the same to matching: paths are
normalized and folded, and the case of a checksum makes no difference. -/
structure Descriptor.SpelledAlike (d e : Descriptor) : Prop where
  name : d.name = e.name
  version : d.version = e.version
  anchor : fold (Path.normalize (d.effectiveAnchor.getD "")) =
    fold (Path.normalize (e.effectiveAnchor.getD ""))
  checksum : asciiCaseEq (d.effectiveChecksum.getD "") (e.effectiveChecksum.getD "") = true

theorem AnchorPattern.compile_congr {a b : String} (h : fold a = fold b) :
    compile a = compile b := by
  have hchars : foldChars a.toList = foldChars b.toList := by
    simpa [fold] using congrArg String.toList h
  rw [compile, compile, hchars]

theorem asciiCaseEq_iff {a b : String} :
    asciiCaseEq a b = true ↔ a.toList.map asciiLower = b.toList.map asciiLower := by
  simp [asciiCaseEq]

/-- The checksum that accepts any content has one spelling. -/
theorem eq_anyChecksum_of_asciiCaseEq {a b : String} (h : asciiCaseEq a b = true)
    (ha : a = anyChecksum) : b = anyChecksum := by
  have hlower : b.toList.map asciiLower = ['*'] := by
    rw [← asciiCaseEq_iff.1 h, ha]
    rfl
  obtain ⟨c, hb, hc⟩ := List.map_eq_singleton_iff.1 hlower
  obtain rfl : c = '*' := eq_of_asciiLower_eq (by decide) hc
  exact String.toList_inj.1 hb

namespace AnchorMatch

variable {context : ScanContext} {d e : Descriptor} {m m' : AnchorMatch} {mode : Mode}
  {descriptors : List Descriptor} {found : List AnchorMatch} {r r' : String × String}

theorem hasContent_congr {a b : String} (h : asciiCaseEq a b = true) (actual : Option String) :
    hasContent a actual = hasContent b actual := by
  have hany : (a == "*") = (b == "*") := by
    have hsymm : asciiCaseEq b a = true := asciiCaseEq_iff.2 (asciiCaseEq_iff.1 h).symm
    rw [Bool.eq_iff_iff, beq_iff_eq, beq_iff_eq]
    exact ⟨eq_anyChecksum_of_asciiCaseEq h, eq_anyChecksum_of_asciiCaseEq hsymm⟩
  have hcase (c : String) : asciiCaseEq c a = asciiCaseEq c b := by
    simp only [asciiCaseEq, asciiCaseEq_iff.1 h]
  simp only [hasContent, hany, hcase]

/-! ## One descriptor -/

theorem exists_at?_iff {p : AnchorPattern} {count : Nat} {expected : String} {c : Candidate} :
    (∃ m, at? context d p count expected c = some m) ↔
      p.accepts c.folded = true ∧ hasContent expected c.checksum = true := by
  rw [at?, acceptChecksum_eq]
  by_cases hpath : p.accepts c.folded = true
  · by_cases hcontent : hasContent expected c.checksum = true <;> simp [hpath, hcontent]
  · simp [hpath]

/-- What matching finds of a descriptor. -/
def foundOf (context : ScanContext) (d : Descriptor) : List AnchorMatch :=
  match ofDescriptor context (candidates context) d with
  | .ok found => found
  | .error _ => []

theorem ofDescriptor_eq_foundOf (hcheck : d.check = .ok r) (context : ScanContext) :
    ofDescriptor context (candidates context) d = .ok (foundOf context d) ∧
      ∀ m ∈ foundOf context d, m.descriptor = d := by
  obtain ⟨found, hfound, hown⟩ := ofDescriptor_ok hcheck context (candidates context)
  have hfoundOf : foundOf context d = found := by rw [foundOf, hfound]
  rw [hfoundOf]
  exact ⟨hfound, hown⟩

theorem foundOf_of_root (hcheck : d.check = .ok r) (hroot : d.hasRootAnchor = true) :
    foundOf context d = [whole context d] := by
  rw [foundOf, ofDescriptor_of_root hcheck hroot]

theorem foundOf_of_notRoot (hcheck : d.check = .ok r) (hroot : d.hasRootAnchor = false)
    (context : ScanContext) :
    ∃ p, AnchorPattern.compile (Path.normalize r.1) = .ok p ∧
      foundOf context d = (candidates context).filterMap
        (at? context d p (Ownership.segmentCount (Path.normalize r.1)) r.2) := by
  obtain ⟨p, hp, hfound⟩ := ofDescriptor_of_notRoot hcheck hroot context (candidates context)
  exact ⟨p, hp, by rw [foundOf, hfound]⟩

/-- An anchor for the whole scan is not seen at a file. -/
theorem notRoot_of_mem_foundOf {path : String} (hcheck : d.check = .ok r)
    (hm : m ∈ foundOf context d) (hpath : m.path = some path) : d.hasRootAnchor = false := by
  by_contra hroot
  rw [foundOf_of_root hcheck (by simpa using hroot), List.mem_singleton] at hm
  rw [hm] at hpath
  cases hpath

theorem pairwise_candidates (h : (context.files.filterMap Artifact.normalizedPath).Nodup) :
    (candidates context).Pairwise fun c c' => c.path ≠ c'.path := by
  have hpaths : (candidates context).map Candidate.path =
      context.files.filterMap Artifact.normalizedPath := by
    rw [candidates, List.map_filterMap]
    simp [Candidate.ofArtifact?, Function.comp_def]
  rwa [← hpaths, List.Nodup, List.pairwise_map] at h

/-- A descriptor is seen at a place once. -/
theorem pairwise_foundOf (h : (context.files.filterMap Artifact.normalizedPath).Nodup)
    (hcheck : d.check = .ok r) : (foundOf context d).Pairwise fun m m' => m.path ≠ m'.path := by
  cases hroot : d.hasRootAnchor with
  | true =>
    rw [foundOf_of_root hcheck hroot]
    exact List.pairwise_singleton _ _
  | false =>
    obtain ⟨p, -, hfound⟩ := foundOf_of_notRoot hcheck hroot context
    rw [hfound, List.pairwise_filterMap]
    refine (pairwise_candidates h).imp fun hne m hm m' hm' => ?_
    rw [(origin_of_at? hm).2.1, (origin_of_at? hm').2.1]
    exact fun heq => hne (Option.some.inj heq)

/-- Another spelling is seen at the same files. -/
theorem exists_foundOf_of_spelledAlike (h : d.SpelledAlike e) (hd : d.check = .ok r)
    (he : e.check = .ok r') (hdroot : d.hasRootAnchor = false) (heroot : e.hasRootAnchor = false)
    (hm : m ∈ foundOf context d) : ∃ m' ∈ foundOf context e, m'.path = m.path := by
  obtain ⟨p, hp, hdfound⟩ := foundOf_of_notRoot hd hdroot context
  obtain ⟨p', hp', hefound⟩ := foundOf_of_notRoot he heroot context
  have hdchecked := (Descriptor.check_eq_ok_iff.1 hd).1
  have hechecked := (Descriptor.check_eq_ok_iff.1 he).1
  -- one pattern, as a pattern is compiled from the folded, normalized anchor
  obtain rfl : p = p' := by
    have hanchor := h.anchor
    rw [hdchecked.hasAnchor, hechecked.hasAnchor] at hanchor
    have hcompile := AnchorPattern.compile_congr hanchor
    simp only [Option.getD_some, hp, hp', Except.ok.injEq] at hcompile
    exact hcompile
  have hcontent (actual : Option String) : hasContent r.2 actual = hasContent r'.2 actual := by
    have hchecksum := h.checksum
    rw [hdchecked.hasChecksum, hechecked.hasChecksum] at hchecksum
    exact hasContent_congr hchecksum actual
  rw [hdfound] at hm
  obtain ⟨c, hc, hm⟩ := List.mem_filterMap.1 hm
  obtain ⟨m', hm'⟩ : ∃ m', at? context e p (Ownership.segmentCount (Path.normalize r'.1)) r'.2 c =
      some m' := by
    rw [exists_at?_iff, ← hcontent, ← exists_at?_iff]
    exact ⟨m, hm⟩
  rw [hefound]
  exact ⟨m', List.mem_filterMap.2 ⟨c, hc, hm'⟩,
    (origin_of_at? hm').2.1.trans (origin_of_at? hm).2.1.symm⟩

/-! ## All descriptors -/

theorem check_of_all (h : all descriptors context mode = .ok found) :
    ∀ d ∈ descriptors.filter (·.mode == mode), ∃ r, d.check = .ok r := by
  intro d hd
  obtain ⟨lists, hlists, -⟩ := bind_eq_ok_iff.1 h
  obtain ⟨l, -, hl⟩ := exists_result_of_mem hlists hd
  obtain ⟨r, hr, -⟩ := bind_eq_ok_iff.1 hl
  exact ⟨r, hr⟩

theorem eq_flatMap_of_all (h : all descriptors context mode = .ok found) :
    found = (descriptors.filter (·.mode == mode)).flatMap (foundOf context) := by
  have hstep : ∀ d ∈ descriptors.filter (·.mode == mode),
      ofDescriptor context (candidates context) d = .ok (foundOf context d) := by
    intro d hd
    obtain ⟨r, hr⟩ := check_of_all h d hd
    exact (ofDescriptor_eq_foundOf hr context).1
  rw [all, mapM_eq_ok_map hstep] at h
  exact (Except.ok.inj h).symm

theorem mem_found_iff (h : all descriptors context mode = .ok found) :
    m ∈ found ↔ m.descriptor ∈ descriptors.filter (·.mode == mode) ∧
      m ∈ foundOf context m.descriptor := by
  rw [eq_flatMap_of_all h, List.mem_flatMap]
  constructor
  · rintro ⟨d, hd, hm⟩
    obtain ⟨r, hr⟩ := check_of_all h d hd
    obtain rfl := (ofDescriptor_eq_foundOf hr context).2 m hm
    exact ⟨hd, hm⟩
  · exact fun ⟨hd, hm⟩ => ⟨m.descriptor, hd, hm⟩

/-- Two matches at one place are of two descriptors. -/
theorem descriptors_of_pair (h : all descriptors context mode = .ok found)
    (hdistinct : (context.files.filterMap Artifact.normalizedPath).Nodup)
    (hpair : [m, m'].Sublist found) (hpath : m.path = m'.path) :
    [m.descriptor, m'.descriptor].Sublist (descriptors.filter (·.mode == mode)) := by
  rw [eq_flatMap_of_all h, pair_sublist_flatMap_iff] at hpair
  obtain ⟨d, hd, hpair⟩ | ⟨d, e, hde, hm, hm'⟩ := hpair
  · -- both of one descriptor, which is seen at a place once
    obtain ⟨r, hr⟩ := check_of_all h d hd
    exact absurd hpath (List.pairwise_iff_forall_sublist.1 (pairwise_foundOf hdistinct hr) hpair)
  · obtain ⟨r, hr⟩ := check_of_all h d (hde.subset (by simp))
    obtain ⟨r', hr'⟩ := check_of_all h e (hde.subset (by simp))
    rwa [(ofDescriptor_eq_foundOf hr context).2 m hm,
      (ofDescriptor_eq_foundOf hr' context).2 m' hm']

/-- No component is seen twice at one place under one identity. It is seen twice at a file in two
spellings exactly if the store holds both of them for this pass, neither stands for the whole scan,
and the first one is seen at the file. -/
theorem all_repetitions (ds : List Descriptor) (context : ScanContext) (mode : Mode)
    (found : List AnchorMatch)
    (hdistinct : (context.files.filterMap Artifact.normalizedPath).Nodup)
    (h : all (DescriptorStore.insertAll {} ds).descriptors context mode = .ok found) :
    (∀ m m', [m, m'].Sublist found → m.path = m'.path →
      m.descriptor.identity ≠ m'.descriptor.identity) ∧
    ∀ path, (∃ m m', [m, m'].Sublist found ∧ m.path = some path ∧ m'.path = some path ∧
        m.descriptor.SpelledAlike m'.descriptor) ↔
      ∃ d e, [d, e].Sublist ((DescriptorStore.insertAll {} ds).ofMode mode) ∧ d.SpelledAlike e ∧
        d.hasRootAnchor = false ∧ e.hasRootAnchor = false ∧
        ∃ m ∈ found, m.descriptor = d ∧ m.path = some path := by
  constructor
  · intro m m' hpair hpath hsame
    -- two descriptors of the store, so the text of their identities differs
    have hdescriptors := (descriptors_of_pair h hdistinct hpair hpath).trans List.filter_sublist
    have hne := List.pairwise_iff_forall_sublist.1 (DescriptorStore.pairwise_insertAll ds)
      hdescriptors
    rw [← Descriptor.text_identity, ← Descriptor.text_identity, hsame] at hne
    exact hne rfl
  · intro path
    constructor
    · rintro ⟨m, m', hpair, hpath, hpath', halike⟩
      have hdescriptors := descriptors_of_pair h hdistinct hpair (hpath.trans hpath'.symm)
      have hm : m ∈ found := hpair.subset (by simp)
      have hm' : m' ∈ found := hpair.subset (by simp)
      obtain ⟨hd, hmd⟩ := (mem_found_iff h).1 hm
      obtain ⟨he, hme⟩ := (mem_found_iff h).1 hm'
      obtain ⟨r, hr⟩ := check_of_all h _ hd
      obtain ⟨r', hr'⟩ := check_of_all h _ he
      exact ⟨m.descriptor, m'.descriptor, hdescriptors, halike,
        notRoot_of_mem_foundOf hr hmd hpath, notRoot_of_mem_foundOf hr' hme hpath',
        m, hm, rfl, hpath⟩
    · rintro ⟨d, e, hde, halike, hdroot, heroot, m, hm, rfl, hpath⟩
      obtain ⟨hd, hmd⟩ := (mem_found_iff h).1 hm
      obtain ⟨r, hr⟩ := check_of_all h _ hd
      obtain ⟨r', hr'⟩ := check_of_all h e (hde.subset (by simp))
      obtain ⟨m', hm', hsame⟩ := exists_foundOf_of_spelledAlike halike hr hr' hdroot heroot hmd
      refine ⟨m, m', ?_, hpath, hsame.trans hpath, ?_⟩
      · rw [eq_flatMap_of_all h, pair_sublist_flatMap_iff]
        exact .inr ⟨m.descriptor, e, hde, hmd, hm'⟩
      · rwa [(ofDescriptor_eq_foundOf hr' context).2 m' hm']

/-- An anchor in two spellings of its path, which are two identities. -/
theorem all_repetitions_respelled :
    let plain : Descriptor :=
      { name := "lib", version := "1", anchor := some "lib/a.json", anchorChecksum := some "*" }
    let dotted : Descriptor := { plain with anchor := some "./lib/a.json" }
    let store := DescriptorStore.insertAll {} [plain, dotted]
    let context : ScanContext := .ofScanned "" [{ path := "src/lib/a.json" }] []
    let seen (d : Descriptor) : AnchorMatch :=
      { descriptor := d, path := some "src/lib/a.json", checksum := "*", scanRoot := ""
        ownership := { anchorRoot := "src", baseDir := "src/lib" }, assetIdChain := []
        rootPaths := .empty }
    (context.files.filterMap Artifact.normalizedPath).Nodup ∧
      all store.descriptors context .immediate = .ok [seen plain, seen dotted] ∧
      plain.identity ≠ dotted.identity ∧
      ∃ m m', [m, m'].Sublist [seen plain, seen dotted] ∧ m.path = some "src/lib/a.json" ∧
        m'.path = some "src/lib/a.json" ∧ m.descriptor.SpelledAlike m'.descriptor := by
  intro plain dotted store context seen
  have hdistinct : (context.files.filterMap Artifact.normalizedPath).Nodup := by decide +kernel
  have hall : all store.descriptors context .immediate = .ok [seen plain, seen dotted] := by
    decide +kernel
  have hkept : store.ofMode .immediate = [plain, dotted] := by decide +kernel
  have halike : plain.SpelledAlike dotted := ⟨rfl, rfl, by decide +kernel, by decide +kernel⟩
  have hroots : plain.hasRootAnchor = false ∧ dotted.hasRootAnchor = false := by decide +kernel
  obtain ⟨hidentities, hspellings⟩ := all_repetitions [plain, dotted] context .immediate
    [seen plain, seen dotted] hdistinct hall
  have hpair : [plain, dotted].Sublist (store.ofMode .immediate) := by rw [hkept]
  exact ⟨hdistinct, hall, hidentities (seen plain) (seen dotted) (.refl _) rfl,
    (hspellings "src/lib/a.json").2 ⟨plain, dotted, hpair, halike, hroots.1, hroots.2,
      seen plain, List.mem_cons_self, rfl, rfl⟩⟩

/-- One component is found three times at one file: its anchor in two spellings of the path, and its
checksum in two cases. -/
theorem all_sees_spellings :
    let plain : Descriptor :=
      { name := "lib", version := "1", anchor := some "lib/a.json", anchorChecksum := some "ab" }
    let dotted : Descriptor := { plain with anchor := some "./lib/a.json" }
    let capital : Descriptor := { plain with anchorChecksum := some "AB" }
    let store := DescriptorStore.insertAll {} [plain, dotted, capital]
    let context : ScanContext := .ofScanned "" [{ path := "lib/a.json", checksum := some "Ab" }] []
    (context.files.filterMap Artifact.normalizedPath).Nodup ∧
      plain.SpelledAlike dotted ∧ plain.SpelledAlike capital ∧ dotted.SpelledAlike capital ∧
      (all store.descriptors context .immediate).map
          (fun found => found.map fun m => (m.descriptor, m.path)) =
        .ok ([plain, dotted, capital].map fun d => (d, some "lib/a.json")) := by
  intro plain dotted capital store context
  have hpath : fold (Path.normalize "lib/a.json") = fold (Path.normalize "./lib/a.json") := by
    decide +kernel
  have hsame : asciiCaseEq "ab" "ab" = true := by decide +kernel
  have hcase : asciiCaseEq "ab" "AB" = true := by decide +kernel
  exact ⟨by decide +kernel, ⟨rfl, rfl, hpath, hsame⟩, ⟨rfl, rfl, rfl, hcase⟩,
    ⟨rfl, rfl, hpath.symm, hcase⟩, by decide +kernel⟩

end AnchorMatch

end ComponentScan
