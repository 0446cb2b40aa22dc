import ComponentScan.Proofs.Engine.Order
import ComponentScan.Proofs.Path.Segments
import ComponentScan.Proofs.Scan.Request

/-!
# Scans of one inventory in two orders

The files of an inventory are shown to the rules in an order of their own, which settles what is
extracted when no two files have one folded path. From there on the order of the inventory decides
about nothing but orders. So two scans of one inventory, listed in two orders, end alike
(`run_order_irrelevant`).
-/

namespace ComponentScan

/-! ## Extraction -/

namespace Extraction

variable {r : Registry} {context context' : ScanContext} {store : DescriptorStore}
  {seen : List Candidate} {x x' : Extraction}

/-- What an extraction stores and counts is settled by what is found at the files. -/
theorem Follows.unique (h : Follows r context store seen x) (h' : Follows r context' store seen x')
    (hfindings : ∀ c, findings r context c = findings r context' c) :
    x.summary = x'.summary ∧ x.store = x'.store := by
  have hfound : found r context seen = found r context' seen :=
    List.flatMap_congr fun c _ => by rw [hfindings]
  have hvisited := h.visited.trans h'.visited.symm
  have hfailed : x.summary.filesFailed = x'.summary.filesFailed := by
    rw [h.failed, h'.failed]
    simp only [hfindings]
  have haccepted : x.summary.accepted = x'.summary.accepted := by
    rw [h.accepted, h'.accepted, hfound]
  have hunspecific : x.summary.unspecific = x'.summary.unspecific := by
    rw [h.unspecific, h'.unspecific, hfound]
  have hduplicate : x.summary.duplicate = x'.summary.duplicate := by
    have htotal := h.total
    have htotal' := h'.total
    rw [hfound] at htotal
    omega
  have hdescriptors : x.store.descriptors = x'.store.descriptors := by
    rw [h.descriptors, h'.descriptors, hfound]
  exact ⟨ExtractionSummary.ext hvisited hfailed haccepted hduplicate hunspecific,
    congrArg DescriptorStore.mk hdescriptors⟩

/-- What is listed of scanned files. -/
theorem exists_scanned_of_mem_listed {scanned : List ScannedFile} {baseDir : String}
    {chain : List String} {f : String × String}
    (h : f ∈ listed (.ofScanned baseDir scanned chain)) :
    ∃ s ∈ scanned, f.1 = Path.normalize s.path ∧ s.checksum = some f.2 := by
  obtain ⟨a, ha, haf⟩ := List.mem_filterMap.1 h
  obtain ⟨s, hs, rfl⟩ := List.mem_map.1 ha
  dsimp only [Artifact.ofScanned] at haf
  split at haf
  · rename_i hpath hchecksum
    cases haf
    exact ⟨s, hs, by rw [← Option.some.inj hpath, Path.normalize_normalize], hchecksum⟩
  · cases haf

/-- Scanned files with distinct folded paths are shown in one order. -/
theorem candidates_perm {scanned scanned' : List ScannedFile} (h : scanned.Perm scanned')
    (hdistinct : (scanned.map fun f => Text.fold (Path.normalize f.path)).Nodup)
    (baseDir baseDir' : String) (chain : List String) :
    candidates (.ofScanned baseDir scanned chain) =
      candidates (.ofScanned baseDir' scanned' chain) := by
  obtain ⟨shown, horder, hshown⟩ := exists_inOrder (.ofScanned baseDir scanned chain)
  obtain ⟨shown', horder', hshown'⟩ := exists_inOrder (.ofScanned baseDir' scanned' chain)
  have hlisted : (listed (.ofScanned baseDir scanned chain)).Perm
      (listed (.ofScanned baseDir' scanned' chain)) :=
    (h.map _).filterMap _
  have hperm : shown.Perm shown' := horder.perm.trans (hlisted.trans horder'.perm.symm)
  suffices hsame : shown = shown' by rw [hshown, hshown', hsame]
  refine hperm.eq_of_pairwise (fun f g hf hg hfg hgf => ?_) horder.sorted horder'.sorted
  obtain ⟨s, hs, hfpath, hfchecksum⟩ := exists_scanned_of_mem_listed (horder.perm.mem_iff.1 hf)
  obtain ⟨t, ht, hgpath, hgchecksum⟩ :=
    exists_scanned_of_mem_listed (horder.perm.mem_iff.1 (hperm.mem_iff.2 hg))
  have hplace : place f = place g :=
    place_eq_of_mayPrecede (mayPrecede_iff.2 hfg) (mayPrecede_iff.2 hgf)
  obtain rfl : s = t :=
    List.inj_on_of_nodup_map hdistinct hs ht (by rw [← hfpath, ← hgpath, (Prod.mk.inj hplace).2])
  exact Prod.ext (hfpath.trans hgpath.symm)
    (Option.some.inj (hfchecksum.symm.trans hgchecksum))

end Extraction

/-! ## Runs -/

namespace Session

variable {s s' : Session} {rules : List Rule}

/-- When their files are shown to the same rules in one order, sessions that are alike extract the
same descriptors and stay alike. -/
theorem extract_alike (h : s.Alike s') (hregistry : s.engine.registry = Registry.ofRules rules)
    (hregistry' : s'.engine.registry = Registry.ofRules rules)
    (hcandidates : Extraction.candidates s.context = Extraction.candidates s'.context) :
    s.extract.1 = s'.extract.1 ∧ s.extract.2.Alike s'.extract.2 := by
  have hfollows := Extraction.run_follows (Registry.ofRules rules) s.context s.store
  have hfollows' := Extraction.run_follows (Registry.ofRules rules) s'.context s.store
  rw [← hcandidates] at hfollows'
  obtain ⟨hsummary, hstore⟩ :=
    hfollows.unique hfollows' (Extraction.findings_ofRules rules s.context s'.context)
  rw [extract, extract, hregistry, hregistry', ← h.store]
  exact ⟨hsummary, h.settings, hstore,
    fun d hd => Extraction.supplier_of_mem_run h.unsupplied hd, h.context⟩

/-- So a run has one result and leaves them alike. -/
theorem runAll_alike (h : s.Alike s') (hregistry : s.engine.registry = Registry.ofRules rules)
    (hregistry' : s'.engine.registry = Registry.ofRules rules)
    (hcandidates : Extraction.candidates s.context = Extraction.candidates s'.context)
    (suppliers : Suppliers) :
    (s.runAll suppliers).1 = (s'.runAll suppliers).1 ∧
      (s.runAll suppliers).2.Alike (s'.runAll suppliers).2 := by
  have hreset : s.reset.Alike s'.reset := ⟨h.settings, h.store, h.unsupplied, h.context⟩
  have hfiles : s.context.files.length = s'.context.files.length :=
    (h.context.artifacts.filter _).length_eq
  obtain ⟨hextraction, hextracted⟩ := extract_alike hreset hregistry hregistry' hcandidates
  obtain ⟨himmediate, hpassed⟩ := absorb_alike hextracted suppliers .immediate
  rw [runAll, runAll, h.settings, hfiles]
  dsimp only
  split
  · exact ⟨rfl, h⟩
  · split
    · exact ⟨rfl, h⟩
    · cases hx : s.reset.extract.2.absorb suppliers .immediate with
      | mk x u =>
      cases hx' : s'.reset.extract.2.absorb suppliers .immediate with
      | mk x' u' =>
      rw [hx, hx'] at himmediate hpassed
      obtain rfl : x = x' := himmediate
      cases x with
      | error e => exact ⟨rfl, hpassed⟩
      | ok immediate =>
        obtain ⟨hdeferred, hended⟩ := absorbDeferred_alike hpassed suppliers
        dsimp only at hdeferred hended ⊢
        cases hy : u.absorbDeferred suppliers with
        | mk y v =>
        cases hy' : u'.absorbDeferred suppliers with
        | mk y' v' =>
        rw [hy, hy'] at hdeferred hended
        obtain rfl : y = y' := hdeferred
        cases y with
        | error e => exact ⟨rfl, hended⟩
        | ok deferred => exact ⟨by rw [hextraction], hended⟩

end Session

/-! ## Reports -/

/-- Reports that agree up to the order of what they list. -/
structure ScanReport.Alike (x x' : ScanReport) : Prop where
  filesScanned : x.filesScanned = x'.filesScanned
  descriptors : x.descriptors = x'.descriptors
  components : x.components.Perm x'.components
  expanded : x.expanded.Perm x'.expanded
  looseFiles : x.looseFiles.Perm x'.looseFiles
  summary : x.summary = x'.summary

theorem ScanReport.ofContext_alike {context context' : ScanContext} (h : context.Alike context')
    (scanId scanId' inventory inventory' : String) (filesScanned descriptors : Nat)
    (summary : RunSummary) :
    (ofContext scanId inventory filesScanned descriptors summary context).Alike
      (ofContext scanId' inventory' filesScanned descriptors summary context') where
  filesScanned := rfl
  descriptors := rfl
  components := (h.artifacts.filter _).map _
  expanded := (h.artifacts.filter _).map _
  looseFiles := ((h.artifacts.filter _).filter _).map _
  summary := rfl

/-- Scanned files in two orders. -/
theorem ScanContext.Alike.ofScanned {listed listed' : List ScannedFile} (h : listed.Perm listed')
    (baseDir baseDir' : String) (chain : List String) :
    (ScanContext.ofScanned baseDir listed chain).Alike (.ofScanned baseDir' listed' chain) where
  artifacts := h.map _
  assetIdChain := rfl

namespace Inventory

theorem read_eq_ok_iff {files : Files} {path text : String} {max : Nat}
    {listed result : List ScannedFile} (htext : files.readText path = .ok text)
    (hlisted : parse? text = some listed) :
    read files path max = .ok result ↔ listed.length ≤ max ∧ listed = result := by
  rw [read, htext]
  dsimp only
  rw [hlisted]
  dsimp only
  split
  · rename_i hmax
    simp [Nat.not_le.2 hmax]
  · rename_i hmax
    simp [Nat.not_lt.1 hmax]

end Inventory

namespace ScanRequest

variable {r r' : ScanRequest} {files files' : Files} {c : Config} {scanId : String}
  {report : ScanReport} {text text' : String} {listed listed' : List ScannedFile}

/-- Two requests for the same rules and settings make one engine. -/
theorem engine_congr
    (hrules : (Rule.loadDirectory files (r.rulesDir c)).result =
      (Rule.loadDirectory files' (r'.rulesDir c)).result)
    (hsettings : r.settings c = r'.settings c) :
    (r.engine files c).result = (r'.engine files' c).result := by
  rw [engine, engine, Reported.result_bind, Reported.result_bind, Reported.mapError,
    Reported.mapError, hrules, hsettings]

/-- Of two scans of one inventory in two orders, the second one succeeds if the first does, and
reports the same up to the order. -/
theorem exists_report_alike
    (hengine : (r.engine files c).result = (r'.engine files' c).result)
    (hchain : r.assetIds = r'.assetIds) (htext : files.readText r.inventory = .ok text)
    (htext' : files'.readText r'.inventory = .ok text')
    (hlisted : Inventory.parse? text = some listed)
    (hlisted' : Inventory.parse? text' = some listed') (hperm : listed.Perm listed')
    (hdistinct : (listed.map fun f => Text.fold (Path.normalize f.path)).Nodup)
    (h : (r.run files c scanId).result = .ok report) (scanId' : String) :
    ∃ report', (r'.run files' c scanId').result = .ok report' ∧ report.Alike report' := by
  obtain ⟨read, e, summary, t, hread, he, hrun, rfl⟩ := run_eq_ok_iff.1 h
  obtain ⟨hmax, hlist⟩ := (Inventory.read_eq_ok_iff htext hlisted).1 hread
  subst hlist
  have hread' : Inventory.read files' r'.inventory c.matcher.maxScannedFiles = .ok listed' :=
    (Inventory.read_eq_ok_iff htext' hlisted').2 ⟨hperm.length_eq ▸ hmax, rfl⟩
  obtain ⟨rules, hrules⟩ := engine_of_ok he
  have hregistry : e.registry = Registry.ofRules rules := congrArg Engine.registry hrules
  have hcontext : (r.session e listed).context.Alike (r'.session e listed').context := by
    rw [session, session, ← hchain]
    exact .ofScanned hperm _ _ _
  have hcandidates : Extraction.candidates (r.session e listed).context =
      Extraction.candidates (r'.session e listed').context := by
    rw [session, session, ← hchain]
    exact Extraction.candidates_perm hperm hdistinct _ _ _
  have hstart : (r.session e listed).Alike (r'.session e listed') :=
    ⟨rfl, rfl, by simp [session], hcontext⟩
  obtain ⟨hresult, hended⟩ :=
    Session.runAll_alike hstart hregistry hregistry hcandidates noSuppliers
  rw [hrun] at hresult hended
  refine ⟨_, run_eq_ok_iff.2 ⟨listed', e, summary,
    ((r'.session e listed').runAll noSuppliers).2, hread', hengine ▸ he,
    Prod.ext hresult.symm rfl, rfl⟩, ?_⟩
  rw [hperm.length_eq, hended.store]
  exact ScanReport.ofContext_alike hended.context _ _ _ _ _ _ _

/-- The order of the inventory does not matter, as long as no two files have one folded path: of
two scans with the same rules, settings and assets, of inventories that agree up to their order,
either both succeed or none does, and their reports agree up to the order of what they list. -/
theorem run_order_irrelevant (r : ScanRequest) (inventory' : String) (files files' : Files)
    (c : Config) (scanId scanId' text text' : String) (listed listed' : List ScannedFile)
    (hrules : (Rule.loadDirectory files (r.rulesDir c)).result =
      (Rule.loadDirectory files' (r.rulesDir c)).result)
    (htext : files.readText r.inventory = .ok text)
    (htext' : files'.readText inventory' = .ok text')
    (hlisted : Inventory.parse? text = some listed)
    (hlisted' : Inventory.parse? text' = some listed') (hperm : listed.Perm listed')
    (hdistinct : (listed.map fun f => Text.fold (Path.normalize f.path)).Nodup) :
    let x := (r.run files c scanId).result
    let x' := (run { r with inventory := inventory' } files' c scanId').result
    ((∃ report, x = .ok report) ↔ ∃ report', x' = .ok report') ∧
      ∀ report report', x = .ok report → x' = .ok report' → report.Alike report' := by
  intro x x'
  let r' : ScanRequest := { r with inventory := inventory' }
  have hengine : (r.engine files c).result = (r'.engine files' c).result := engine_congr hrules rfl
  have hdistinct' : (listed'.map fun f => Text.fold (Path.normalize f.path)).Nodup :=
    (hperm.map _).nodup_iff.1 hdistinct
  refine ⟨⟨?_, ?_⟩, ?_⟩
  · rintro ⟨report, h⟩
    obtain ⟨report', h', -⟩ := exists_report_alike hengine rfl htext htext' hlisted hlisted' hperm
      hdistinct h scanId'
    exact ⟨report', h'⟩
  · rintro ⟨report', h'⟩
    obtain ⟨report, h, -⟩ := exists_report_alike hengine.symm rfl htext' htext hlisted' hlisted
      hperm.symm hdistinct' h' scanId
    exact ⟨report, h⟩
  · intro report report' h h'
    obtain ⟨_, hreport, halike⟩ := exists_report_alike hengine rfl htext htext' hlisted hlisted'
      hperm hdistinct h scanId'
    obtain rfl := Except.ok.inj (hreport.symm.trans h')
    exact halike

/-- An inventory and its reverse, kept in different directories. -/
theorem run_order_irrelevant_reversed :
    let rules := "contributor=[\x7bid=\"x\",suffixes=[\"m\"],component=\"x\",version=\"1\"," ++
      "include=\"a/**\"\x7d]"
    let member := "\x7b\"path\":\"./A\\\\m\",\"checksum\":\"1\"\x7d"
    let note := "\x7b\"path\":\"b\"\x7d"
    let text := "[" ++ note ++ "," ++ member ++ "]"
    let text' := "[" ++ member ++ "," ++ note ++ "]"
    let files : Files := fun path =>
      if path = "one.json" then .ok (.file text.toUTF8)
      else if path = "scans/two.json" then .ok (.file text'.toUTF8)
      else if path = "rules" then .ok (.directory ["a.toml"])
      else if path = "rules/a.toml" then .ok (.file rules.toUTF8)
      else .error .notFound
    let r : ScanRequest := { inventory := "one.json", rules := some "rules" }
    let listed : List ScannedFile :=
      [{ path := "b" }, { path := "./A\\m", checksum := some "1" }]
    Inventory.parse? text = some listed ∧ Inventory.parse? text' = some listed.reverse ∧
      (listed.map fun f => Text.fold (Path.normalize f.path)).Nodup ∧
      ∃ report report', (r.run files {} "first").result = .ok report ∧
        (run { r with inventory := "scans/two.json" } files {} "second").result = .ok report' ∧
        report.Alike report' ∧ report.looseFiles = ["b"] := by
  intro rules member note text text' files r listed
  have hlisted : Inventory.parse? text = some listed := by decide +kernel
  have hlisted' : Inventory.parse? text' = some listed.reverse := by decide +kernel
  have hdistinct : (listed.map fun f => Text.fold (Path.normalize f.path)).Nodup := by
    decide +kernel
  obtain ⟨hiff, halike⟩ := run_order_irrelevant r "scans/two.json" files files {} "first" "second"
    text text' listed listed.reverse rfl (by decide +kernel) (by decide +kernel) hlisted hlisted'
    (List.reverse_perm listed).symm hdistinct
  have hloose : ((r.run files {} "first").result.toOption.map ScanReport.looseFiles) =
      some ["b"] := by decide +kernel
  cases h : (r.run files {} "first").result with
  | error e => simp [h, Except.toOption] at hloose
  | ok report =>
    obtain ⟨report', h'⟩ := hiff.1 ⟨report, h⟩
    rw [h] at hloose
    exact ⟨hlisted, hlisted', hdistinct, report, report', rfl, h', halike report report' h h',
      Option.some.inj hloose⟩

end ScanRequest

end ComponentScan
