import ComponentScan.Proofs.Absorption.Consistency
import ComponentScan.Proofs.Absorption.Unsupplied
import ComponentScan.Proofs.Engine.Passes
import ComponentScan.Proofs.Scan.Request

/-!
# Every scanned file is reported once

A scan that removes what it absorbs keeps an account of its files: those that are still in the
inventory and those that were removed are all that it began with (`ScanContext.Accounts`). A pass
keeps the account, however often a file is covered, and so does a run. Hence a report names every
file that was scanned as loose, or counts it as removed (`run_conserves`).
-/

namespace ComponentScan

/-- The text that a report names a file by. -/
def Artifact.label (a : Artifact) : String :=
  a.path.getD a.id

/-- The inventory of a scan of the files at `paths`, when `components` components have been found
and `removed` files have left the inventory. -/
structure ScanContext.Accounts (paths : List String) (removed components : Nat)
    (c : ScanContext) : Prop where
  loose : (c.files.map Artifact.label).Sublist paths
  balance : c.files.length + removed = paths.length
  components : c.artifacts.countP (·.kind == .component) = components
  others : ∀ a ∈ c.artifacts, a.kind ≠ .expanded ∧ a.absorbed = false

/-- A scan that has just found its files. -/
theorem ScanContext.Accounts.ofScanned (baseDir : String) (files : List ScannedFile)
    (chain : List String) :
    (ScanContext.ofScanned baseDir files chain).Accounts
      (files.map fun f => Path.normalize f.path) 0 0 := by
  have hfiles : (ScanContext.ofScanned baseDir files chain).files =
      files.map Artifact.ofScanned := by
    rw [ScanContext.files, ScanContext.ofScanned, List.filter_eq_self]
    intro a ha
    obtain ⟨f, -, rfl⟩ := List.mem_map.1 ha
    rfl
  constructor
  · rw [hfiles, List.map_map]
    exact List.Sublist.refl _
  · simp [hfiles]
  · rw [List.countP_eq_zero]
    intro a ha
    obtain ⟨f, -, rfl⟩ := List.mem_map.1 ha
    simp [Artifact.ofScanned]
  · intro a ha
    obtain ⟨f, -, rfl⟩ := List.mem_map.1 ha
    exact ⟨by simp [Artifact.ofScanned], rfl⟩

/-! ## One pass -/

namespace Outcome

variable {context : ScanContext} {options : AbsorptionOptions} {suppliers : Suppliers}
  {ledger : Ledger} {found : List AnchorMatch} {paths : List String} {removed components : Nat}

/-- Components are no files, so the files are those that were there. -/
theorem files_unpurged (h : ∀ m ∈ found, m.descriptor.supplier = none) :
    (unpurged context options suppliers ledger found).filter Artifact.isFile =
      context.files.map (settle found) := by
  have hcomponents : ((found.filter (·.enters context)).map AnchorMatch.component).filter
      Artifact.isFile = [] := by
    rw [List.filter_eq_nil_iff]
    intro a ha
    obtain ⟨m, -, rfl⟩ := List.mem_map.1 ha
    simp [Artifact.isFile, AnchorMatch.component]
  rw [unpurged_of_unsupplied h, List.filter_append, hcomponents, List.append_nil, List.filter_map]
  rfl

/-- Every component that was there is kept, and those of the matches that enter are new. -/
theorem countP_component_unpurged (h : ∀ m ∈ found, m.descriptor.supplier = none) :
    (unpurged context options suppliers ledger found).countP (·.kind == .component) =
      context.artifacts.countP (·.kind == .component) + found.countP (·.enters context) := by
  rw [unpurged_of_unsupplied h, List.countP_append, List.countP_map, List.countP_map,
    List.countP_filter]
  congr 1

/-- Only files are absorbed, and nothing has come from a supplier. -/
theorem kind_of_mem_unpurged (h : ∀ m ∈ found, m.descriptor.supplier = none)
    (hothers : ∀ a ∈ context.artifacts, a.kind ≠ .expanded ∧ a.absorbed = false) {a : Artifact}
    (ha : a ∈ unpurged context options suppliers ledger found) :
    a.kind ≠ .expanded ∧ (a.absorbed = true → a.isFile = true) := by
  rw [unpurged_of_unsupplied h] at ha
  rcases List.mem_append.1 ha with ha | ha
  · obtain ⟨b, hb, rfl⟩ := List.mem_map.1 ha
    refine ⟨(hothers b hb).1, fun habsorbed => ?_⟩
    rcases settle_absorbed_iff.1 habsorbed with hb' | ⟨m, -, hm⟩
    · rw [(hothers b hb).2] at hb'
      cases hb'
    · simp [Artifact.isFile, settle, covers_file hm]
  · obtain ⟨m, -, rfl⟩ := List.mem_map.1 ha
    exact ⟨by simp [AnchorMatch.component], fun habsorbed => by cases habsorbed⟩

/-- The files that are not absorbed stay. -/
theorem files_of_purge (hpurge : options.purgeAbsorbed = true)
    (h : ∀ m ∈ found, m.descriptor.supplier = none) :
    (final context options suppliers ledger found).files =
      (context.files.map (settle found)).filter (!·.absorbed) := by
  rw [ScanContext.files, artifacts_of_purge hpurge, List.filter_comm, files_unpurged h]

/-- The files that are absorbed are counted as removed, and nothing else is. -/
theorem removed_of_purge (hpurge : options.purgeAbsorbed = true)
    (h : ∀ m ∈ found, m.descriptor.supplier = none)
    (hothers : ∀ a ∈ context.artifacts, a.kind ≠ .expanded ∧ a.absorbed = false) :
    (summary context options suppliers ledger found).removed =
      (context.files.map (settle found)).countP Artifact.absorbed := by
  rw [summary, if_pos hpurge, ← files_unpurged h, List.countP_filter]
  refine List.countP_congr fun a ha => ?_
  rw [Bool.and_eq_true, iff_self_and]
  exact (kind_of_mem_unpurged h hothers ha).2

theorem countP_component_of_purge (hpurge : options.purgeAbsorbed = true)
    (h : ∀ m ∈ found, m.descriptor.supplier = none)
    (hothers : ∀ a ∈ context.artifacts, a.kind ≠ .expanded ∧ a.absorbed = false) :
    (final context options suppliers ledger found).artifacts.countP (·.kind == .component) =
      context.artifacts.countP (·.kind == .component) + found.countP (·.enters context) := by
  rw [artifacts_of_purge hpurge, List.countP_filter, ← countP_component_unpurged h]
  refine List.countP_congr fun a ha => ?_
  rw [Bool.and_eq_true, and_iff_left_iff_imp]
  intro hcomponent
  by_contra habsorbed
  have hfile := (kind_of_mem_unpurged h hothers ha).2 (by simpa using habsorbed)
  simp only [Artifact.isFile, beq_iff_eq] at hfile hcomponent
  rw [hfile] at hcomponent
  cases hcomponent

/-- An absorption that removes what it absorbs keeps the account. -/
theorem final_accounts (hpurge : options.purgeAbsorbed = true)
    (hsupplier : ∀ m ∈ found, m.descriptor.supplier = none)
    (h : context.Accounts paths removed components) :
    (final context options suppliers ledger found).Accounts paths
      (removed + (summary context options suppliers ledger found).removed)
      (components + (summary context options suppliers ledger found).components) where
  loose := by
    rw [files_of_purge hpurge hsupplier]
    refine (List.filter_sublist.map _).trans ?_
    rw [List.map_map]
    exact h.loose
  balance := by
    -- a file is kept or counted as removed
    have hsplit := List.length_eq_countP_add_countP Artifact.absorbed
      (l := context.files.map (settle found))
    rw [List.length_map] at hsplit
    rw [files_of_purge hpurge hsupplier, removed_of_purge hpurge hsupplier h.others, ← h.balance,
      hsplit, ← List.countP_eq_length_filter]
    simp only [Bool.not_eq_true, Bool.decide_eq_false]
    omega
  components := by
    rw [countP_component_of_purge hpurge hsupplier h.others, h.components]
    rfl
  others a ha := by
    rw [artifacts_of_purge hpurge] at ha
    obtain ⟨ha, hkept⟩ := List.mem_filter.1 ha
    exact ⟨(kind_of_mem_unpurged hsupplier h.others ha).1, by simpa using hkept⟩

end Outcome

/-! ## Whole runs -/

namespace Session

variable {s t : Session} {suppliers : Suppliers} {paths : List String}

theorem Pass.accounts {mode : Mode} {found : List AnchorMatch} {summary : AbsorptionSummary}
    {removed components : Nat} (h : Pass s suppliers mode found summary t)
    (hpurge : s.engine.settings.purgeAbsorbed = true)
    (hsupplier : ∀ d ∈ s.store.descriptors, d.supplier = none)
    (hs : s.context.Accounts paths removed components) :
    t.context.Accounts paths (removed + summary.removed) (components + summary.components) := by
  rw [h.context, h.summary_eq]
  exact Outcome.final_accounts hpurge (supplier_of_sightings hsupplier h.sightings) hs

/-- A run of an engine made of rules, from an empty store, keeps the account over both passes. -/
theorem runAll_accounts {summary : RunSummary}
    (hregistry : ∃ rules, s.engine.registry = Registry.ofRules rules) (hstore : s.store = {})
    (hpurge : s.engine.settings.purgeAbsorbed = true)
    (h : s.runAll suppliers = (.ok summary, t)) (hs : s.context.Accounts paths 0 0) :
    t.context.Accounts paths summary.total.removed summary.total.components ∧
      t.store.size = summary.extraction.accepted := by
  obtain ⟨rules, hregistry⟩ := hregistry
  obtain ⟨-, rfl, rfl⟩ | ⟨-, hextraction, found, u, -, hpass, hdeferred⟩ := runAll_cases h
  · exact ⟨hs, by rw [hstore]; rfl⟩
  · have hsupplier : ∀ d ∈ s.reset.extract.2.store.descriptors, d.supplier = none := by
      intro d hd
      have hd : d ∈ (Extraction.run s.engine.registry s.context s.store).store.descriptors := hd
      rw [hregistry] at hd
      exact Extraction.supplier_of_mem_run (by simp [hstore]) hd
    have hsize : s.reset.extract.2.store.size = summary.extraction.accepted := by
      have hfollows := Extraction.run_follows s.engine.registry s.context {}
      rw [hextraction, DescriptorStore.size]
      show (Extraction.run s.engine.registry s.context s.store).store.descriptors.length =
        (Extraction.run s.engine.registry s.context s.store).summary.accepted
      rw [hstore, hfollows.descriptors, hfollows.accepted, List.nil_append]
    have hfirst := hpass.accounts hpurge hsupplier hs
    rw [Nat.zero_add, Nat.zero_add] at hfirst
    rcases hdeferred with ⟨-, hnone, rfl⟩ | ⟨-, found', second, hsome, hpass'⟩
    · rw [RunSummary.total, hnone, hpass.store]
      exact ⟨hfirst, hsize⟩
    · rw [RunSummary.total, hsome, hpass'.store, hpass.store]
      refine ⟨hpass'.accounts ?_ ?_ hfirst, hsize⟩
      · rw [hpass.settings]
        exact hpurge
      · rw [hpass.store]
        exact hsupplier

end Session

/-! ## Reports -/

namespace ScanRequest

/-- When absorbed files are removed, a scan that succeeds reports every file once: the loose files
are files of the inventory in their order, and those that are missing are counted as removed.
Nothing is expanded, and every component and every descriptor is counted in the summary. -/
theorem run_conserves (r : ScanRequest) (files : Files) (c : Config) (scanId : String)
    (report : ScanReport) (hpurge : c.matcher.purgeAbsorbed = true)
    (h : (r.run files c scanId).result = .ok report) :
    ∃ listed, Inventory.read files r.inventory c.matcher.maxScannedFiles = .ok listed ∧
      report.filesScanned = listed.length ∧
      report.looseFiles.Sublist (listed.map fun f => Path.normalize f.path) ∧
      report.looseFiles.length + report.summary.total.removed = report.filesScanned ∧
      report.expanded = [] ∧
      report.components.length = report.summary.total.components ∧
      report.descriptors = report.summary.extraction.accepted := by
  obtain ⟨listed, e, summary, t, hlisted, he, hrun, rfl⟩ := run_eq_ok_iff.1 h
  obtain ⟨rules, rfl⟩ := engine_of_ok he
  have hpurge : (r.settings c).purgeAbsorbed = true := by
    rw [settings]
    split <;> exact hpurge
  obtain ⟨haccounts, hsize⟩ := Session.runAll_accounts ⟨rules, rfl⟩ rfl hpurge hrun
    (.ofScanned r.root listed r.assetIds)
  have hloose : t.context.files.filter (!·.absorbed) = t.context.files := by
    rw [List.filter_eq_self]
    intro a ha
    rw [(haccounts.others a (List.mem_filter.1 ha).1).2]
    rfl
  refine ⟨listed, hlisted, rfl, ?_, ?_, ?_, ?_, hsize⟩
  · rw [ScanReport.ofContext, hloose]
    exact haccounts.loose
  · rw [ScanReport.ofContext, hloose, List.length_map]
    simpa using haccounts.balance
  · rw [ScanReport.ofContext, List.map_eq_nil_iff, List.filter_eq_nil_iff]
    intro a ha
    simpa using (haccounts.others a ha).1
  · rw [ScanReport.ofContext, List.length_map, ← List.countP_eq_length_filter]
    exact haccounts.components

/-- Two components of which one lies in the other, so that a file is covered twice. -/
theorem run_conserves_nested :
    let rule (id includes : String) : String :=
      "\x7bid=\"" ++ id ++ "\",suffixes=[\"m\"],component=\"" ++ id ++
        "\",version=\"1\",include=\"" ++ includes ++ "\"\x7d"
    let rules := "contributor=[" ++ rule "x" "a/**" ++ "," ++ rule "y" "a/l/*" ++ "]"
    let inventory := "[\x7b\"path\":\"./a\\\\m\",\"checksum\":\"1\"\x7d," ++
      "\x7b\"path\":\"a/l/c\"\x7d,\x7b\"path\":\"b\"\x7d]"
    let files : Files := fun path =>
      if path = "scan.json" then .ok (.file inventory.toUTF8)
      else if path = "rules" then .ok (.directory ["a.toml"])
      else if path = "rules/a.toml" then .ok (.file rules.toUTF8)
      else .error .notFound
    let r : ScanRequest := { inventory := "scan.json", rules := some "rules" }
    let component (name : String) : ComponentEntry :=
      { name, version := "1", assetId := "AID-" ++ name ++ "-1-1", anchor := some "a/m"
        componentType := none, provenance := name }
    let report : ScanReport :=
      { scanId := "scan", inventory := "scan.json", filesScanned := 3, descriptors := 2
        components := [component "x", component "y"], expanded := [], looseFiles := ["b"]
        summary :=
          { extraction := { filesVisited := 1, accepted := 2 }
            immediate := { found := 2, absorbed := 3, components := 2, removed := 2 }
            deferred := some {} } }
    ({} : Config).matcher.purgeAbsorbed = true ∧ (r.run files {} "scan").result = .ok report ∧
      ∃ listed,
        Inventory.read files r.inventory ({} : Config).matcher.maxScannedFiles = .ok listed ∧
        report.filesScanned = listed.length ∧
        report.looseFiles.Sublist (listed.map fun f => Path.normalize f.path) ∧
        report.looseFiles.length + report.summary.total.removed = report.filesScanned ∧
        report.expanded = [] ∧
        report.components.length = report.summary.total.components ∧
        report.descriptors = report.summary.extraction.accepted := by
  intro rule rules inventory files r component report
  have hrun : (r.run files {} "scan").result = .ok report := by decide +kernel
  exact ⟨rfl, hrun, run_conserves r files {} "scan" report rfl hrun⟩

end ScanRequest

end ComponentScan
