import ComponentScan.Absorption.Pass
import ComponentScan.Proofs.Traversal

/-!
# What an absorption leaves

The inventory after an absorption, told without going through the matches one after the other:
what becomes of an artifact that was there depends on the matches that cover it, and what enters
depends on the matches that cover a file and on the suppliers that nobody called before.
-/

namespace ComponentScan

open ComponentScan.Path ComponentScan.Text

/-! ## Markers -/

namespace StringMap

variable {β : Type}

/-- Keeps a value under each of the keys under which there is none. -/
def putNewAll (m : StringMap β) (keys : List String) (value : β) : StringMap β :=
  keys.foldl (fun m key => m.putNew key value) m

theorem putNewAll_append (m : StringMap β) (keys keys' : List String) (value : β) :
    m.putNewAll (keys ++ keys') value = (m.putNewAll keys value).putNewAll keys' value :=
  List.foldl_append

theorem get?_putNewAll (m : StringMap β) (keys : List String) (value : β) (key : String) :
    (m.putNewAll keys value).get? key =
      (m.get? key).or (if key ∈ keys then some value else none) := by
  rw [putNewAll]
  induction keys generalizing m with
  | nil => simp
  | cons k keys ih =>
    rw [List.foldl_cons, ih, get?_putNew]
    by_cases h : key = k
    · subst h
      cases m.get? key <;> simp
    · simp [h]

end StringMap

/-! ## Matches -/

namespace AnchorMatch

def assetId (m : AnchorMatch) : String :=
  componentAssetId m.descriptor.part m.checksum

/-- The assets that own what a match covers. -/
def owners (m : AnchorMatch) : List String :=
  m.assetIdChain ++ [m.assetId]

/-- Whether a match covers an artifact: a file whose path is included and not excluded, read as a
whole or, below the base directory, as it is seen from the anchor root. -/
def covers (m : AnchorMatch) (a : Artifact) : Bool :=
  match a.kind, a.path, GlobList.parse m.descriptor.includes,
    GlobList.parse m.descriptor.excludes with
  | .file, some path, .ok includes, .ok excludes =>
    let path := fold (Path.normalize path)
    let seen := relativeTo path (fold m.ownership.anchorRoot)
    !excludes.accepts path &&
      (includes.accepts path ||
        (within path (fold m.ownership.baseDir) && !excludes.accepts seen &&
          includes.accepts seen))
  | _, _, _, _ => false

/-- Whether the component of a match enters the inventory. -/
def enters (context : ScanContext) (m : AnchorMatch) : Bool :=
  context.artifacts.any m.covers || m.descriptor.needsNoFiles

/-- The artifact of the component of a match. -/
def component (m : AnchorMatch) : Artifact :=
  let d := m.descriptor
  { id := d.part
    kind := .component
    component := some d.name
    version := some d.version
    checksum := some m.checksum
    path := m.path
    rootPaths := m.rootPaths
    assetId := some m.assetId
    markers := (StringMap.empty.putNewAll m.assetIdChain .contains).putNew m.assetId .describes
    attributes :=
      .ofList
        ([("provenance", d.provenance)] ++
          (d.componentType.toList.map fun t => ("component_type", t)) ++
          (d.effectiveAnchor.toList.map fun a => ("version_anchor", a))) }

end AnchorMatch

/-! ## The inventory afterwards -/

namespace Outcome

/-- An artifact that was there before, after all matches. -/
def settle (found : List AnchorMatch) (a : Artifact) : Artifact :=
  let covering := found.filter (·.covers a)
  { a with
    absorbed := a.absorbed || !covering.isEmpty
    markers := a.markers.putNewAll (covering.flatMap (·.owners)) .contains }

variable (context : ScanContext) (options : AbsorptionOptions) (suppliers : Suppliers)
  (ledger : Ledger)

/-- The inventory that a component brings along, when it is the first of its supplier. -/
def inventory? (earlier : List AnchorMatch) (m : AnchorMatch) : Option Expansion :=
  m.descriptor.supplier.bind fun s =>
    if options.expandInventories ∧ s ∉ ledger.called ∧
        ∀ m' ∈ earlier, m'.enters context → m'.descriptor.supplier ≠ some s then
      (suppliers s).toOption
    else none

/-- The matches that enter, each with the inventory that it brings along. -/
def entrants (earlier : List AnchorMatch) :
    List AnchorMatch → List (AnchorMatch × Option Expansion)
  | [] => []
  | m :: found =>
    (if m.enters context then [(m, inventory? context options suppliers ledger earlier m)]
      else []) ++ entrants (earlier ++ [m]) found

/-- The artifacts of components, each followed by those that it brings along. -/
def arrivals (entered : List (AnchorMatch × Option Expansion)) : List Artifact :=
  entered.flatMap fun e => e.1.component :: e.2.elim [] fun x => x.artifactsOf e.1.owners

/-- The assets that components bring along. -/
def newAssets (entered : List (AnchorMatch × Option Expansion)) : List Asset :=
  entered.flatMap fun e => e.2.elim [] Expansion.assets

/-- The context after an absorption. -/
def final (found : List AnchorMatch) : ScanContext :=
  let entered := entrants context options suppliers ledger [] found
  let artifacts := context.artifacts.map (settle found) ++ arrivals entered
  { baseDir := context.baseDir
    assetIdChain := context.assetIdChain
    artifacts := if options.purgeAbsorbed then artifacts.filter (!·.absorbed) else artifacts
    assets := (newAssets entered).foldl ScanContext.mergeAsset context.assets }

end Outcome

/-! ## One match -/

namespace Claimant

variable {m : AnchorMatch} {c : Claimant}

theorem ofMatch_eq_ok_iff :
    ofMatch m = .ok c ↔ c.hit = m ∧ GlobList.parse m.descriptor.includes = .ok c.coverage.includes ∧
      GlobList.parse m.descriptor.excludes = .ok c.coverage.excludes ∧
      c.folded = m.ownership.fold := by
  simp only [ofMatch, Coverage.ofDescriptor, bind_eq_ok_iff, pure, Except.pure, Except.ok.injEq]
  constructor
  · rintro ⟨_, ⟨i, hi, e, he, rfl⟩, rfl⟩
    exact ⟨rfl, hi, he, rfl⟩
  · rintro ⟨rfl, hi, he, hf⟩
    exact ⟨c.coverage, ⟨_, hi, _, he, rfl⟩, by rw [← hf]⟩

/-- A match can be prepared when its glob lists compile. -/
theorem exists_ofMatch (h : ∃ l, GlobList.parse m.descriptor.includes = .ok l)
    (h' : ∃ l, GlobList.parse m.descriptor.excludes = .ok l) : ∃ c, ofMatch m = .ok c := by
  obtain ⟨l, hl⟩ := h
  obtain ⟨l', hl'⟩ := h'
  exact ⟨⟨m, ⟨l, l'⟩, m.ownership.fold⟩, ofMatch_eq_ok_iff.2 ⟨rfl, hl, hl', rfl⟩⟩

theorem owners_eq (h : ofMatch m = .ok c) : c.owners = m.owners := by
  obtain ⟨rfl, -⟩ := ofMatch_eq_ok_iff.1 h
  rfl

theorem artifact_eq (h : ofMatch m = .ok c) : c.artifact = m.component := by
  obtain ⟨rfl, -⟩ := ofMatch_eq_ok_iff.1 h
  rfl

/-- A prepared match covers what the match covers, whatever has become of the artifact. -/
theorem coveredBy_eq (h : ofMatch m = .ok c) (a b : Artifact) :
    Resident.coveredBy ⟨b, (Resident.ofArtifact a).path⟩ c = m.covers a := by
  obtain ⟨-, hi, he, hf⟩ := ofMatch_eq_ok_iff.1 h
  rw [Resident.coveredBy, Resident.ofArtifact, AnchorMatch.covers, hi, he]
  cases hk : a.kind with
  | file =>
    cases hp : a.path with
    | none => simp [Artifact.isFile, Artifact.normalizedPath, hk, hp]
    | some path =>
      have hfile : a.isFile = true := by simp [Artifact.isFile, hk]
      rw [hfile, if_pos rfl, Artifact.normalizedPath, hp, Option.map_some, Option.map_some,
        Option.any_some, covers, Coverage.covers, hf, Ownership.fold]
      -- the two forms read the same tests in different orders
      by_cases hx : c.coverage.excludes.accepts (fold (Path.normalize path)) = true
      · simp [hx]
      · by_cases hn : c.coverage.includes.accepts (fold (Path.normalize path)) = true
        · simp [hx, hn]
        · simp [hx, hn, Bool.and_assoc]
  | component => simp [Artifact.isFile, hk]
  | expanded => simp [Artifact.isFile, hk]

end Claimant

namespace Outcome

/-- One more match changes what it covers. -/
theorem settle_concat (found : List AnchorMatch) (m : AnchorMatch) (a : Artifact) :
    settle (found ++ [m]) a =
      if m.covers a then (settle found a).absorb m.owners else settle found a := by
  by_cases h : m.covers a = true
  · simp only [settle, List.filter_append, List.filter_singleton, h, cond_true, if_true,
      List.flatMap_append, List.flatMap_singleton, StringMap.putNewAll_append]
    simp [Artifact.absorb, Artifact.markAll, StringMap.putNewAll]
  · simp [settle, List.filter_append, h]

/-- The markers of an artifact are kept, and the owners of what covers it are added. -/
theorem get?_settle (found : List AnchorMatch) (a : Artifact) (id : String) :
    (settle found a).markers.get? id = (a.markers.get? id).or
      (if ∃ m ∈ found, m.covers a ∧ id ∈ m.owners then some .contains else none) := by
  have hmem : id ∈ (found.filter (·.covers a)).flatMap (·.owners) ↔
      ∃ m ∈ found, m.covers a ∧ id ∈ m.owners := by
    simp [List.mem_flatMap, List.mem_filter, and_assoc]
  rw [settle, StringMap.get?_putNewAll]
  simp only [hmem]

theorem claim_settle {found : List AnchorMatch} {m : AnchorMatch} {c : Claimant}
    (h : Claimant.ofMatch m = .ok c) (a : Artifact) :
    Resident.claim ⟨settle found a, (Resident.ofArtifact a).path⟩ c =
      (m.covers a, ⟨settle (found ++ [m]) a, (Resident.ofArtifact a).path⟩) := by
  rw [Resident.claim, Claimant.coveredBy_eq h, settle_concat, Claimant.owners_eq h]
  by_cases hm : m.covers a = true
  · rw [if_pos hm, if_pos hm, hm]
  · rw [if_neg hm, if_neg hm, Bool.not_eq_true _ |>.mp hm]

end Outcome

end ComponentScan
