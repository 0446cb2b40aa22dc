import ComponentScan.Proofs.Absorption.Loose
import ComponentScan.Proofs.Engine.Atomicity
import ComponentScan.Proofs.Glob.Entries
import ComponentScan.Proofs.Glob.Escaping
import ComponentScan.Proofs.Path.Subtrees

/-!
# Paths as includes

A path in which no character has a role is the glob list of this path. The list is compared with a
folded path byte by byte, up to the case of ASCII letters, and is not folded itself. So a component
that includes a path absorbs the file there, in whatever case it is written, exactly if folding
changes no more of it than the case of its ASCII letters (`literal_include_absorbs`).
-/

namespace ComponentScan

open ComponentScan.Text ComponentScan.Glob

/-- A path that can stand in a glob list as it is. -/
structure Path.IsLiteral (p : String) : Prop where
  normal : Path.normalize p = p
  nonempty : p ≠ ""
  trimmed : trim p = p
  plain : ∀ c ∈ p.toList, c ∉ escapedChars

instance (p : String) : Decidable (Path.IsLiteral p) :=
  -- the characters of the path are gone through, and not all characters
  decidable_of_iff (Path.normalize p = p ∧ p ≠ "" ∧ trim p = p ∧
      p.toList.all (!escapedChars.contains ·) = true)
    ⟨fun ⟨h1, h2, h3, h4⟩ => ⟨h1, h2, h3, by simpa using h4⟩,
      fun h => ⟨h.normal, h.nonempty, h.trimmed, by simpa using h.plain⟩⟩

/-- Whether folding changes no more of a text than the case of its ASCII letters. -/
def Text.foldsAsciiOnly (s : String) : Bool := asciiCaseEq (fold s) s

theorem Text.foldsAsciiOnly_of_ascii {s : String} (h : ∀ c ∈ s.toList, c.toNat < 128) :
    foldsAsciiOnly s = true := by
  rw [foldsAsciiOnly, asciiCaseEq, beq_iff_eq, fold, String.toList_ofList]
  exact map_asciiLower_foldChars h

namespace Path.IsLiteral

variable {q : String}

theorem escape_eq (h : IsLiteral q) : escape q = q := by
  have hwrap : ∀ cs : List Char, (∀ c ∈ cs, c ∉ escapedChars) → wrap escapedChars cs = cs := by
    intro cs hcs
    induction cs with
    | nil => rfl
    | cons c cs ih =>
      have hc : ¬ escapedChars.contains c = true := fun hc =>
        hcs c List.mem_cons_self (List.contains_iff_mem.1 hc)
      rw [wrap_cons, if_neg hc, ih fun d hd => hcs d (List.mem_cons_of_mem c hd)]
      rfl
  rw [← String.toList_inj, toList_escape, hwrap q.toList h.plain]

/-- The list is the path alone. -/
theorem entries_eq (h : IsLiteral q) : GlobList.entries q = [q] := by
  have hscan : (SplitState.outside 0).after? q.toList = some (.outside 0) := by
    rw [← h.escape_eq, toList_escape]
    exact after?_wrap q.toList
  have hsplit : splitList q.toList = [q.toList] := by
    rw [splitList, ← List.append_nil q.toList, splitFrom_append hscan, splitFrom,
      List.modifyHead_cons]
  have htrim : trimChars q.toList = q.toList := by
    have htext := congrArg String.toList h.trimmed
    rwa [trim, String.toList_ofList] at htext
  have hentry : GlobList.entryOf q.toList = q.toList := by
    rw [GlobList.entryOf, htrim, dropWhile_slash_of_normal h.normal]
  have hne : q.toList ≠ [] := fun hnil => h.nonempty (String.toList_eq_nil_iff.1 hnil)
  rw [GlobList.entries_eq, hsplit, List.map_singleton, hentry]
  simp [hne]

/-- The list accepts the texts that are the path, up to the case of ASCII letters. -/
theorem exists_parse (h : IsLiteral q) :
    ∃ l, GlobList.parse q = .ok l ∧ ∀ path, l.accepts path = asciiCaseEq path q := by
  have hcompile : Glob.compile q = .ok ⟨q, q.toList.map (wrappedToken escapedChars)⟩ := by
    have hescaped := compile_escape (backslash_not_mem_of_normal h.normal)
    rwa [h.escape_eq] at hescaped
  refine ⟨⟨[⟨q, q.toList.map (wrappedToken escapedChars)⟩]⟩, ?_, fun path => ?_⟩
  · rw [GlobList.parse, h.entries_eq, mapM_eq_ok_iff.2 (.cons hcompile .nil)]
    rfl
  · rw [GlobList.accepts, List.any_cons, List.any_nil, Bool.or_false, Bool.eq_iff_iff,
      accepts_wrapped_iff, asciiCaseEq, beq_iff_eq]

end Path.IsLiteral

namespace AnchorMatch

open ComponentScan.Path

/-- A component of the whole scan that includes a path and excludes nothing covers the files at
this path, when the list accepts the path once it is folded. -/
theorem covers_whole_iff {context : ScanContext} {d : Descriptor} {p q : String}
    (hq : IsLiteral q) (hincludes : d.includes = q) (hexcludes : d.excludes = "") {f : Artifact}
    (hfile : f.kind = .file) (hf : f.normalizedPath = some p) (hfold : fold q = fold p) :
    (whole context d).covers f = true ↔ foldsAsciiOnly q = true := by
  obtain ⟨includes, hi, haccepts⟩ := hq.exists_parse
  rw [← hincludes] at hi
  have he : GlobList.parse d.excludes = .ok ⟨[]⟩ := by
    rw [hexcludes]
    rfl
  have hnone (path : String) : GlobList.accepts ⟨[]⟩ path = false := rfl
  -- seen from the scan root, the path is the path
  have hroot : fold (Ownership.scanRoot).anchorRoot = "" := rfl
  rw [Outcome.covers_iff (m := whole context d) hi he, whole]
  simp only [hfile, hf, Option.some.injEq, exists_eq_left', true_and, hnone, hroot,
    relativeTo_empty, haccepts, ← hfold, foldsAsciiOnly]
  exact ⟨fun h => h.elim id (·.2), .inl⟩

/-- A component of the whole scan that includes a path, in whatever case, is found and applied. It
absorbs the file at the path exactly if folding changes no more of what it includes than the case
of its ASCII letters. -/
theorem literal_include_absorbs (p q : String) (d : Descriptor) (context : ScanContext) (i : Nat)
    (f : Artifact) (options : AbsorptionOptions) (suppliers : Suppliers) (ledger : Ledger)
    (hq : IsLiteral q) (hfold : fold q = fold p)
    (hanchor : d.anchor = some "*") (hchecksum : d.anchorChecksum = some "*")
    (hincludes : d.includes = q) (hexcludes : d.excludes = "")
    (hmem : context.artifacts[i]? = some f) (hfile : f.kind = .file)
    (hf : f.normalizedPath = some p) :
    ((∀ c ∈ q.toList, c.toNat < 128) → foldsAsciiOnly q = true) ∧
    AnchorMatch.all [d] context d.mode = .ok [whole context d] ∧
    ∃ a, Absorbed.ofMatches [whole context d] context options suppliers ledger = .ok a ∧
      (f ∈ context.loose → (f ∉ a.context.loose ↔ foldsAsciiOnly q = true)) ∧
      (options.purgeAbsorbed = false →
        ∃ g, a.context.artifacts[i]? = some g ∧ g.path = f.path ∧
          (g.absorbed = true ↔ f.absorbed = true ∨ foldsAsciiOnly q = true)) := by
  obtain ⟨includes, hi, -⟩ := hq.exists_parse
  have heffective : d.effectiveAnchor = some "*" := by
    rw [Descriptor.effectiveAnchor, hanchor]
    rfl
  have hcheck : d.check = .ok ("*", "*") := by
    refine Descriptor.check_eq_ok_iff.2 ⟨⟨heffective, ?_, by decide, fun _ => rfl⟩, ?_, ?_⟩
    · rw [Descriptor.effectiveChecksum, hchecksum]
      rfl
    · exact ⟨includes, by rw [hincludes, hi]⟩
    · exact ⟨⟨[]⟩, by rw [hexcludes]; rfl⟩
  have hroot : d.hasRootAnchor = true := by
    rw [Descriptor.hasRootAnchor_eq heffective]
    rfl
  have hall : AnchorMatch.all [d] context d.mode = .ok [whole context d] :=
    all_singleton (ofDescriptor_of_root hcheck hroot context _)
  obtain ⟨a, ha⟩ := Absorbed.exists_ofMatches (fun m hm => globs_of_mem_all hall hm)
    context options suppliers ledger
  have hcovers : (whole context d).covers f = true ↔ foldsAsciiOnly q = true :=
    covers_whole_iff hq hincludes hexcludes hfile hf hfold
  refine ⟨foldsAsciiOnly_of_ascii, hall, a, ha, fun hloose => ?_, fun hpurge => ?_⟩
  · rw [Outcome.context_ofMatches ha, Outcome.mem_loose_final_iff, ← hcovers]
    simp [hloose]
  · rw [Outcome.context_ofMatches ha]
    refine ⟨_, Outcome.getElem?_final hpurge hmem, rfl, ?_⟩
    rw [Outcome.settle_absorbed_iff, ← hcovers]
    simp

/-- A path with capitals beyond ASCII, included in lower case but for one ASCII letter. -/
theorem literal_include_absorbs_umlaut :
    let p := "Docs/Ähre.txt"
    let q := "docs/ähre.TXT"
    let d : Descriptor :=
      { name := "docs", version := "1", includes := q, anchor := some "*"
        anchorChecksum := some "*" }
    let context : ScanContext := .ofScanned "/scan" [{ path := "a.txt" }, { path := p }] []
    let options : AbsorptionOptions := { purgeAbsorbed := false }
    IsLiteral q ∧ fold q = fold p ∧ foldsAsciiOnly q = true ∧
    ∃ a, Absorbed.ofMatches [whole context d] context options (fun _ => .ok {}) {} = .ok a ∧
      ∃ g, a.context.artifacts[1]? = some g ∧ g.path = some p ∧ g.absorbed = true := by
  intro p q d context options
  have hq : IsLiteral q := by decide +kernel
  have hfold : fold q = fold p := by decide +kernel
  have hascii : foldsAsciiOnly q = true := by decide +kernel
  have hmem : context.artifacts[1]? = some (.ofScanned { path := p }) := rfl
  have hpath : (Artifact.ofScanned { path := p }).path = some p := by decide +kernel
  obtain ⟨-, -, a, ha, -, hkept⟩ := literal_include_absorbs p q d context 1 _ options
    (fun _ => .ok {}) {} hq hfold rfl rfl rfl rfl hmem rfl (by decide +kernel)
  obtain ⟨g, hg, hgpath, habsorbed⟩ := hkept rfl
  exact ⟨hq, hfold, hascii, a, ha, g, hg, hgpath.trans hpath, habsorbed.2 (.inr hascii)⟩

/-- A path that begins with a capital beyond ASCII, included as it is written: the file there is
not absorbed. -/
theorem literal_include_misses :
    let p := "Ähre.txt"
    let d : Descriptor :=
      { name := "docs", version := "1", includes := p, anchor := some "*"
        anchorChecksum := some "*" }
    let context : ScanContext := .ofScanned "/scan" [{ path := p }] []
    let options : AbsorptionOptions := { purgeAbsorbed := false }
    IsLiteral p ∧ AnchorMatch.all [d] context d.mode = .ok [whole context d] ∧
    ∃ a, Absorbed.ofMatches [whole context d] context options (fun _ => .ok {}) {} = .ok a ∧
      a.context.artifacts.map (fun g => (g.path, g.absorbed)) = [(some p, false)] := by
  intro p d context options
  have hp : IsLiteral p := by decide +kernel
  have hall : AnchorMatch.all [d] context d.mode = .ok [whole context d] := by decide +kernel
  obtain ⟨a, ha⟩ := Absorbed.exists_ofMatches (fun m hm => globs_of_mem_all hall hm)
    context options (fun _ => .ok {}) {}
  have hleft : (Outcome.final context options (fun _ => .ok {}) {} [whole context d]).artifacts.map
      (fun g => (g.path, g.absorbed)) = [(some p, false)] := by
    decide +kernel
  rw [← Outcome.context_ofMatches ha] at hleft
  exact ⟨hp, hall, a, ha, hleft⟩

end AnchorMatch

end ComponentScan
