import ComponentScan.Command.Scan
import ComponentScan.Proofs.Contributor.Calls
import ComponentScan.Proofs.Extraction.Deduplication
import ComponentScan.Proofs.Traversal

/-!
# Scans as runs of an engine

A scan reads its inventory, makes an engine of rules, and reports on what a run of this engine
leaves (`run_eq_ok_iff`). A rule looks at a path and a checksum only, so what is found at a file
does not depend on the other files, and no rule refers to a supplier.
-/

namespace ComponentScan

/-! ## Rules -/

namespace Rule

/-- What else is in the inventory makes no difference to a rule. -/
theorem contribute_congr (r : Rule) {q q' : Inquiry} (hpath : q.path = q'.path)
    (hchecksum : q.checksum = q'.checksum) : r.contribute q = r.contribute q' := by
  rw [contribute, contribute, hpath, hchecksum]

/-- No rule refers to a supplier. -/
theorem supplier_of_contribute {r : Rule} {q : Inquiry} {ds : List Descriptor}
    (h : r.contribute q = .ok ds) : ∀ d ∈ ds, d.supplier = none := by
  rw [contribute] at h
  dsimp only at h
  split at h
  · cases h
  · split at h
    · cases h
    · obtain rfl := Except.ok.inj h
      intro d hd
      rw [List.mem_singleton.1 hd]

end Rule

namespace Registry

/-- A registry that rules were registered in. -/
def ofRules (rules : List Rule) : Registry :=
  empty.registerAll (rules.map Rule.toContributor)

theorem exists_rule_of_mem_ofRules {rules : List Rule} {d : Declaration}
    (h : d ∈ (ofRules rules).declarations) :
    ∃ rule ∈ rules, d.contributor = rule.toContributor := by
  rw [ofRules, Declaration.declarations_registerAll] at h
  obtain ⟨phase, -, hd⟩ := List.mem_flatMap.1 h
  have hd := (List.mem_filter.1 ((Declaration.perm_bySuffix _).mem_iff.1 hd)).1
  obtain ⟨c, hc, hd⟩ := List.mem_flatMap.1 hd
  obtain ⟨rule, hrule, rfl⟩ := List.mem_map.1 hc
  obtain ⟨suffix, -, rfl⟩ := List.mem_map.1 hd
  exact ⟨rule, hrule, rfl⟩

end Registry

/-! ## What rules find -/

namespace Findings

theorem ofCalls_congr {q q' : Inquiry} {ds : List Declaration} (hpath : q.path = q'.path)
    (h : ∀ d ∈ ds, d.contributor.contribute q = d.contributor.contribute q') :
    ofCalls q ds = ofCalls q' ds := by
  have hdescriptors : ∀ d ∈ ds, d.descriptors q = d.descriptors q' := fun d hd => by
    rw [Declaration.descriptors, Declaration.descriptors, h d hd]
  have hfailures : ∀ d ∈ ds, d.failures q = d.failures q' := fun d hd => by
    rw [Declaration.failures, Declaration.failures, h d hd, hpath]
  rw [ofCalls, ofCalls, List.flatMap_congr hdescriptors, List.flatMap_congr hfailures]

end Findings

namespace Extraction

variable {rules : List Rule} {context : ScanContext}

/-- What rules find at a file does not depend on the rest of the inventory. -/
theorem findings_ofRules (rules : List Rule) (context context' : ScanContext) (c : Candidate) :
    findings (Registry.ofRules rules) context c = findings (Registry.ofRules rules) context' c := by
  rw [findings, findings, Findings.ofRegistry_fst SuffixCache.Sound.empty,
    Findings.ofRegistry_fst SuffixCache.Sound.empty, Findings.plain, Findings.plain]
  refine Findings.ofCalls_congr rfl fun d hd => ?_
  obtain ⟨rule, -, hrule⟩ := Registry.exists_rule_of_mem_ofRules (List.mem_filter.1 hd).1
  rw [hrule]
  exact rule.contribute_congr rfl rfl

theorem supplier_of_mem_found {cs : List Candidate} {d : Descriptor}
    (h : d ∈ found (Registry.ofRules rules) context cs) : d.supplier = none := by
  obtain ⟨c, -, hc⟩ := List.mem_flatMap.1 h
  rw [findings, Findings.ofRegistry_fst SuffixCache.Sound.empty, Findings.plain] at hc
  obtain ⟨declaration, hdeclaration, hd⟩ := List.mem_flatMap.1 hc
  obtain ⟨rule, -, hrule⟩ :=
    Registry.exists_rule_of_mem_ofRules (List.mem_filter.1 hdeclaration).1
  rw [Declaration.descriptors, hrule] at hd
  split at hd
  · rename_i made hmade
    obtain ⟨y, hy, rfl⟩ := List.mem_map.1 hd
    exact Rule.supplier_of_contribute hmade y hy
  · cases hd

/-- So a store that refers to no supplier still does not. -/
theorem supplier_of_mem_run {store : DescriptorStore} {d : Descriptor}
    (hstore : ∀ d ∈ store.descriptors, d.supplier = none)
    (h : d ∈ (run (Registry.ofRules rules) context store).store.descriptors) :
    d.supplier = none := by
  rw [(run_follows _ _ _).descriptors] at h
  rcases List.mem_append.1 h with h | h
  · exact hstore d h
  · exact supplier_of_mem_found (DescriptorStore.mem_of_mem_newcomers h)

end Extraction

/-! ## What a scan reports on -/

namespace ScanRequest

variable {r : ScanRequest} {files : Files} {c : Config} {scanId : String} {report : ScanReport}

/-- The engine of a scan is made of rules and has not called anybody. -/
theorem engine_of_ok {e : Engine} (h : (r.engine files c).result = .ok e) :
    ∃ rules, e = { settings := r.settings c, registry := Registry.ofRules rules } := by
  rw [engine, Reported.result_bind, bind_eq_ok_iff] at h
  obtain ⟨rules, -, h⟩ := h
  rw [Reported.mapError, mapError_eq_ok_iff, Engine.build] at h
  simp only [Reported.result_bind, Reported.result_ofExcept, Reported.result_report,
    bind_eq_ok_iff, Reported.result_pure, Except.ok.injEq] at h
  obtain ⟨-, -, -, -, -, -, rfl⟩ := h
  exact ⟨rules, rfl⟩

/-- The session that a scan begins with. -/
def session (r : ScanRequest) (e : Engine) (listed : List ScannedFile) : Session where
  engine := e
  context := .ofScanned r.root listed r.assetIds

/-- A scan that succeeds reads its inventory, makes an engine, and reports on what a run of the
engine leaves. -/
theorem run_eq_ok_iff :
    (r.run files c scanId).result = .ok report ↔ ∃ listed e summary t,
      Inventory.read files r.inventory c.matcher.maxScannedFiles = .ok listed ∧
      (r.engine files c).result = .ok e ∧
      (r.session e listed).runAll noSuppliers = (.ok summary, t) ∧
      report = .ofContext scanId r.inventory listed.length t.store.size summary t.context := by
  simp only [run, Reported.result_bind, Reported.result_ofExcept, Reported.result_report,
    bind_eq_ok_iff, Reported.result_pure, Except.ok.injEq, mapError_eq_ok_iff]
  constructor
  · rintro ⟨listed, hlisted, e, he, -, -, summary, hsummary, rfl⟩
    exact ⟨listed, e, summary, _, hlisted, he, Prod.ext hsummary rfl, rfl⟩
  · rintro ⟨listed, e, summary, t, hlisted, he, hrun, rfl⟩
    obtain rfl := congrArg Prod.snd hrun
    exact ⟨listed, hlisted, e, he, (), trivial, summary, congrArg Prod.fst hrun, rfl⟩

end ScanRequest

end ComponentScan
