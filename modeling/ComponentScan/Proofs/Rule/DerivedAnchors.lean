import ComponentScan.Proofs.Anchor.Sightings
import ComponentScan.Proofs.Rule.Anchors

/-!
# Derived anchors

A rule without an anchor of its own takes the end of the path for one. The names there are not
escaped, but an anchor has one role only, that of the star, and a star is an instance of itself.
So the anchor finds the file it was derived from (`derived_anchor_finds_itself`).
-/

namespace ComponentScan

open ComponentScan.Path ComponentScan.Text

/-! ## Normalized paths -/

namespace Path

/-- Two spellings of a path have the same folded segments. -/
theorem foldedSegments_normalize (path : String) :
    foldedSegments (normalize path) = foldedSegments path := by
  rw [foldedSegments, foldedSegments, ← toList_normalize (normalize path), normalize_normalize,
    toList_normalize]

end Path

/-! ## Anchors of several segments -/

theorem mem_dropWhile_of_neg {p : Char → Bool} {c : Char} {cs : List Char} (hc : p c = false)
    (h : c ∈ cs) : c ∈ cs.dropWhile p := by
  induction cs with
  | nil => cases h
  | cons d cs ih =>
    by_cases hd : p d = true
    · rw [List.dropWhile_cons_of_pos hd]
      refine ih ((List.mem_cons.1 h).resolve_left ?_)
      rintro rfl
      rw [hc] at hd
      cases hd
    · rwa [List.dropWhile_cons_of_neg hd]

/-- Trimming drops blanks only. -/
theorem mem_trimChars {c : Char} {cs : List Char} (hc : Text.isBlank c = false) (h : c ∈ cs) :
    c ∈ trimChars cs := by
  rw [trimChars, dropEndWhile, List.mem_reverse]
  exact mem_dropWhile_of_neg hc (List.mem_reverse.2 (mem_dropWhile_of_neg hc h))

theorem isRootAnchor_of_slash {anchor : String} (h : '/' ∈ anchor.toList) :
    isRootAnchor anchor = false := by
  have hslash : '/' ∈ (trim anchor).toList := by
    rw [trim, String.toList_ofList]
    exact mem_trimChars (by decide) h
  rw [isRootAnchor, Bool.or_eq_false_iff, beq_eq_false_iff_ne, beq_eq_false_iff_ne]
  constructor
  · intro hstar
    rw [hstar] at hslash
    exact absurd hslash (by decide)
  · intro hdot
    rw [hdot] at hslash
    exact absurd hslash (by decide)

namespace Rule

variable {r : Rule} {q : Inquiry}

/-! ## The end of a path -/

/-- The names of a derived anchor: the last ones of the path. -/
def lastNames (r : Rule) (q : Inquiry) : List (List Char) :=
  (names q.path.toList).drop ((names q.path.toList).length - r.anchorSegments)

theorem lastNames_suffix (r : Rule) (q : Inquiry) : r.lastNames q <:+ names q.path.toList :=
  List.drop_suffix _ _

theorem anchorOf_derived (h : r.anchor = none) :
    r.anchorOf q = String.ofList (ofNames (r.lastNames q)) := by
  rw [anchorOf, anchorFor, h, lastNames, ← ofSegments_map_ofList, List.map_drop, segments,
    List.length_map]

theorem properNames_anchorOf (h : r.anchor = none) (hpath : Path.normalize q.path = q.path) :
    properNames (r.anchorOf q).toList = r.lastNames q := by
  have hproper : ∀ n ∈ r.lastNames q, IsProperName n := by
    intro n hn
    have hmem := (lastNames_suffix r q).subset hn
    rw [names_of_normal hpath] at hmem
    exact isProperName_of_mem hmem
  rw [anchorOf_derived h, String.toList_ofList]
  exact properNames_ofNames hproper

theorem lastNames_ne_nil (hvalid : r.validate = .ok ()) (hne : names q.path.toList ≠ []) :
    r.lastNames q ≠ [] := by
  have hcount := anchorSegments_ne_zero hvalid
  have hlength := List.length_pos_iff.2 hne
  rw [lastNames, ← List.length_pos_iff, List.length_drop]
  omega

theorem segmentsFit_anchorOf (h : r.anchor = none) (hvalid : r.validate = .ok ())
    (hpath : Path.normalize q.path = q.path) (hne : q.path ≠ "") :
    AnchorPattern.segmentsFit (foldedSegments (r.anchorOf q)) (foldedSegments q.path) = true := by
  have hproper := properNames_ne_nil hpath hne
  have hnames := names_of_normal hpath
  have hlast := lastNames_ne_nil hvalid (hnames ▸ hproper)
  have hanchor := properNames_anchorOf h hpath
  rw [foldedSegments_eq_map (hanchor ▸ hlast), foldedSegments_eq_map hproper, hanchor, ← hnames]
  exact AnchorPattern.segmentsFit_of_suffix ((lastNames_suffix r q).map foldChars)

/-! ## The file itself -/

/-- The checksum a rule gives to an anchor is that of the file, or accepts any. -/
theorem hasContent_checksumOf (r : Rule) (q : Inquiry) :
    AnchorMatch.hasContent (r.checksumOf q) (some q.checksum) = true := by
  rw [checksumOf]
  cases r.pinChecksum <;> simp [AnchorMatch.hasContent, anyChecksum, asciiCaseEq]

/-- The match of a derived anchor at the file that it was derived from. -/
structure StandsAt (r : Rule) (q : Inquiry) (m : AnchorMatch) : Prop where
  descriptor : m.descriptor = r.descriptorOf q
  path : m.path = some q.path
  ownership : m.ownership = .ofProperNames (names q.path.toList) (r.lastNames q).length

theorem exists_seenAt?_derived (context : ScanContext) {a : Artifact} (h : r.anchor = none)
    (hvalid : r.validate = .ok ()) (hpath : Path.normalize q.path = q.path) (hne : q.path ≠ "")
    (ha : a.normalizedPath = some q.path) (hchecksum : a.checksum = some q.checksum) :
    ∃ m, AnchorMatch.seenAt? context (r.descriptorOf q) (r.anchorOf q) (r.checksumOf q) a =
      some m ∧ r.StandsAt q m := by
  obtain ⟨path, hap, hnormal⟩ := Option.map_eq_some_iff.1 ha
  have hnames : properNames path.toList = names q.path.toList := by
    rw [← hnormal, toList_normalize, names_normalizeChars]
  have hfit := segmentsFit_anchorOf h hvalid hpath hne
  rw [← hnormal, foldedSegments_normalize] at hfit
  simp only [AnchorMatch.seenAt?, hap, hchecksum, hasContent_checksumOf, Bool.and_true]
  rw [if_pos hfit]
  refine ⟨_, rfl, rfl, congrArg some hnormal, ?_⟩
  rw [hnames, properNames_anchorOf h hpath]

theorem effectiveAnchor_descriptorOf {anchor checksum : String}
    (h : (r.descriptorOf q).Anchored anchor checksum) :
    anchor = r.anchorOf q ∧ checksum = r.checksumOf q := by
  have hanchor := (Descriptor.effective_eq_some_iff.1 h.hasAnchor).1
  have hchecksum := (Descriptor.effective_eq_some_iff.1 h.hasChecksum).1
  exact ⟨(Option.some.inj hanchor).symm, (Option.some.inj hchecksum).symm⟩

theorem exists_match_derived {context : ScanContext} {a : Artifact} (hanchor : r.anchor = none)
    (hvalid : r.validate = .ok ()) (hpath : Path.normalize q.path = q.path) (hne : q.path ≠ "")
    (hmem : a ∈ context.artifacts) (hfile : a.kind = .file)
    (ha : a.normalizedPath = some q.path) (hchecksum : a.checksum = some q.checksum)
    {e : String × String} (hcheck : (r.descriptorOf q).check = .ok e)
    (hroot : (r.descriptorOf q).hasRootAnchor = false) :
    ∃ found, AnchorMatch.all [r.descriptorOf q] context r.mode = .ok found ∧
      ∃ m ∈ found, r.StandsAt q m := by
  have hanchored := (Descriptor.check_eq_ok_iff.1 hcheck).1
  obtain ⟨anchor, checksum⟩ := e
  obtain ⟨rfl, rfl⟩ := effectiveAnchor_descriptorOf hanchored
  have hnames : properNames (r.anchorOf q).toList ≠ [] := by
    rw [properNames_anchorOf hanchor hpath]
    exact lastNames_ne_nil hvalid (names_of_normal hpath ▸ properNames_ne_nil hpath hne)
  have hseen : AnchorMatch.ofDescriptor context (AnchorMatch.candidates context)
      (r.descriptorOf q) = .ok (AnchorMatch.seenOf context (r.descriptorOf q)) :=
    AnchorMatch.ofDescriptor_eq_seenOf hanchored hcheck fun _ => hnames
  refine ⟨_, AnchorMatch.all_singleton hseen, ?_⟩
  obtain ⟨m, hm, hstands⟩ :=
    exists_seenAt?_derived context hanchor hvalid hpath hne ha hchecksum
  have hmfiles : a ∈ context.files := List.mem_filter.2 ⟨hmem, by simp [Artifact.isFile, hfile]⟩
  rw [AnchorMatch.seenOf_of_notRoot hanchored hroot]
  exact ⟨m, List.mem_filterMap.2 ⟨a, hmfiles, hm⟩, hstands⟩

/-- What a rule without an anchor of its own makes of a file is found at this file. -/
theorem derived_anchor_finds_itself (r : Rule) (q : Inquiry) (ds : List Descriptor)
    (context : ScanContext) (a : Artifact) (hvalid : r.validate = .ok ())
    (hanchor : r.anchor = none) (hpath : Path.normalize q.path = q.path) (hne : q.path ≠ "")
    (hok : r.contribute q = .ok ds)
    (hmem : a ∈ context.artifacts) (hfile : a.kind = .file)
    (ha : a.normalizedPath = some q.path) (hchecksum : a.checksum = some q.checksum) :
    ∃ d, ds = [d] ∧ ((∃ e, d.check = .ok e) → d.hasRootAnchor = false →
      ∃ found, AnchorMatch.all [d] context d.mode = .ok found ∧
        ∃ m ∈ found, m.path = some q.path) := by
  obtain ⟨-, -, rfl⟩ := contribute_eq_ok_iff.1 hok
  refine ⟨r.descriptorOf q, rfl, fun ⟨e, hcheck⟩ hroot => ?_⟩
  obtain ⟨found, hall, m, hm, hstands⟩ := exists_match_derived hanchor hvalid hpath hne hmem hfile
    ha hchecksum hcheck hroot
  exact ⟨found, hall, m, hm, hstands.path⟩

/-- A star, a bracket and a question mark in the names, a final sigma, and a pinned checksum. The
star lets the anchor find a second file. -/
theorem derived_anchor_finds_itself_special :
    let r : Rule := { id := "lib", suffixes := [".json"], component := "lib", pinChecksum := true }
    let q : Inquiry := ⟨"src/*[ΟΔΟΣ]/p?.json", "H", { baseDir := "/scan" }⟩
    let context : ScanContext := .ofScanned "/scan"
      [{ path := "src/Α[ΟΔΟΣ]/p?.json", checksum := some "h" },
        { path := "src\\*[ΟΔΟΣ]/./p?.json", checksum := some "H" }] []
    ∃ d found, r.contribute q = .ok [d] ∧ d.anchor = some "*[ΟΔΟΣ]/p?.json" ∧
      AnchorMatch.all [d] context .immediate = .ok found ∧ found.length = 2 ∧
      ∃ m ∈ found, m.path = some q.path := by
  intro r q context
  have hok : r.contribute q = .ok [r.descriptorOf q] := by decide +kernel
  have hcheck : (r.descriptorOf q).check = .ok ("*[ΟΔΟΣ]/p?.json", "H") := by decide +kernel
  obtain ⟨d, hd, hfinds⟩ := derived_anchor_finds_itself r q _ context context.artifacts[1]
    (by decide +kernel) rfl (by decide +kernel) (by decide) hok (by decide +kernel) rfl
    (by decide +kernel) (by decide +kernel)
  obtain rfl := List.singleton_inj.1 hd
  obtain ⟨found, hall, hm⟩ := hfinds ⟨_, hcheck⟩ (by decide +kernel)
  have htwo : (AnchorMatch.all [r.descriptorOf q] context .immediate).map List.length = .ok 2 := by
    decide +kernel
  have hall : AnchorMatch.all [r.descriptorOf q] context .immediate = .ok found := hall
  rw [hall] at htwo
  exact ⟨_, found, hok, by decide +kernel, hall, Except.ok.inj htwo, hm⟩

end Rule

end ComponentScan
