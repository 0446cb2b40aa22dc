import ComponentScan.Proofs.Absorption.Accounting
import ComponentScan.Proofs.Engine.Atomicity

/-!
# The passes of a run

What a pass and a whole run do when they succeed, said once: a pass leads to the context and the
summary that are told from the matches it finds, and a run is an extraction followed by the
immediate pass and, if the settings ask for it, the deferred one (`runAll_cases`).
-/

namespace ComponentScan

/-! ## Where a match comes from -/

namespace AnchorMatch

variable {context : ScanContext} {d : Descriptor} {m : AnchorMatch} {found : List AnchorMatch}

theorem origin_of_ofDescriptor {cs : List Candidate}
    (h : ofDescriptor context cs d = .ok found) (hm : m ∈ found) :
    m.descriptor = d ∧ m.assetIdChain = context.assetIdChain := by
  obtain ⟨⟨anchor, expected⟩, -, h⟩ := bind_eq_ok_iff.1 h
  dsimp only at h
  split at h
  · obtain rfl := Except.ok.inj h
    rw [List.mem_singleton.1 hm]
    exact ⟨rfl, rfl⟩
  · obtain ⟨p, -, h⟩ := bind_eq_ok_iff.1 h
    obtain rfl := Except.ok.inj h
    obtain ⟨c, -, hc⟩ := List.mem_filterMap.1 hm
    obtain ⟨hdescriptor, -, hchain⟩ := origin_of_at? hc
    exact ⟨hdescriptor, hchain⟩

/-- A match is of one of the descriptors, and lies in the assets around the scan. -/
theorem origin_of_mem_all {descriptors : List Descriptor} {mode : Mode}
    (h : all descriptors context mode = .ok found) (hm : m ∈ found) :
    m.descriptor ∈ descriptors ∧ m.assetIdChain = context.assetIdChain := by
  obtain ⟨lists, hlists, hfound⟩ := bind_eq_ok_iff.1 h
  obtain rfl : lists.flatten = found := Except.ok.inj hfound
  obtain ⟨l, hl, hml⟩ := List.mem_flatten.1 hm
  obtain ⟨d, hd, hstep⟩ := exists_step_of_mem hlists hl
  obtain ⟨hdescriptor, hchain⟩ := origin_of_ofDescriptor hstep hml
  exact ⟨hdescriptor ▸ (List.mem_filter.1 hd).1, hchain⟩

end AnchorMatch

namespace Session

variable {s t : Session} {suppliers : Suppliers} {mode : Mode}

/-! ## One pass -/

/-- A pass that succeeds: on `s` it finds the matches `found`, and it leads to `t`. -/
structure Pass (s : Session) (suppliers : Suppliers) (mode : Mode) (found : List AnchorMatch)
    (summary : AbsorptionSummary) (t : Session) : Prop where
  sightings : s.sightings mode = .ok found
  summary_eq : summary = Outcome.summary s.context s.options suppliers s.engine.ledger found
  context : t.context = Outcome.final s.context s.options suppliers s.engine.ledger found
  calls : t.calls = s.calls ++ Outcome.calls s.context s.options s.engine.ledger found
  called : t.engine.ledger.called =
    s.engine.ledger.called ++ Outcome.calls s.context s.options s.engine.ledger found
  settings : t.engine.settings = s.engine.settings
  store : t.store = s.store

theorem supplier_of_sightings (h : ∀ d ∈ s.store.descriptors, d.supplier = none)
    {found : List AnchorMatch} (hfound : s.sightings mode = .ok found) :
    ∀ m ∈ found, m.descriptor.supplier = none :=
  fun _ hm => h _ (AnchorMatch.origin_of_mem_all hfound hm).1

theorem absorb_pass {summary : AbsorptionSummary}
    (h : s.absorb suppliers mode = (.ok summary, t)) :
    ∃ found, Pass s suppliers mode found summary t := by
  rw [absorb] at h
  split at h
  · cases h
  · rename_i a ha
    obtain ⟨found, hfound, ha⟩ := bind_eq_ok_iff.1 ha
    obtain ⟨hcalls, hcalled, hsummary⟩ := Outcome.account_ofMatches ha
    obtain ⟨hresult, rfl⟩ := Prod.mk.inj h
    obtain rfl := Except.ok.inj hresult
    refine ⟨found, hfound, hsummary, Outcome.context_ofMatches ha, ?_, hcalled, rfl, rfl⟩
    rw [← hcalls]
    rfl

/-- The deferred pass runs if the settings ask for it. -/
theorem absorbDeferred_cases {deferred : Option AbsorptionSummary}
    (h : s.absorbDeferred suppliers = (.ok deferred, t)) :
    s.engine.settings.runDeferredPass = false ∧ deferred = none ∧ t = s ∨
      s.engine.settings.runDeferredPass = true ∧ ∃ found summary, deferred = some summary ∧
        Pass s suppliers .deferred found summary t := by
  rw [absorbDeferred] at h
  split at h
  · rename_i hdeferred
    cases hu : s.absorb suppliers .deferred with
    | mk result u =>
      rw [hu] at h
      obtain ⟨hresult, rfl⟩ := Prod.mk.inj h
      cases result with
      | error e => cases hresult
      | ok summary =>
        obtain ⟨found, hpass⟩ := absorb_pass hu
        exact .inr ⟨hdeferred, found, summary, (Except.ok.inj hresult).symm, hpass⟩
  · rename_i hdeferred
    obtain ⟨hresult, rfl⟩ := Prod.mk.inj h
    exact .inl ⟨by simpa using hdeferred, (Except.ok.inj hresult).symm, rfl⟩

/-! ## Whole runs -/

/-- A run that succeeds does nothing if the engine is not enabled. Otherwise it extracts the
descriptors of the context, with an empty ledger, and goes through one or two passes. -/
theorem runAll_cases {summary : RunSummary} (h : s.runAll suppliers = (.ok summary, t)) :
    s.engine.settings.enabled = false ∧ summary = {} ∧ t = s ∨
    s.engine.settings.enabled = true ∧ summary.extraction = s.reset.extract.1 ∧
      ∃ found u, u = (s.reset.extract.2.absorb suppliers .immediate).2 ∧
        Pass s.reset.extract.2 suppliers .immediate found summary.immediate u ∧
        (s.engine.settings.runDeferredPass = false ∧ summary.deferred = none ∧ t = u ∨
          s.engine.settings.runDeferredPass = true ∧ ∃ found' second,
            summary.deferred = some second ∧ Pass u suppliers .deferred found' second t) := by
  rw [runAll] at h
  dsimp only at h
  split at h
  · rename_i henabled
    obtain ⟨hsummary, rfl⟩ := Prod.mk.inj h
    exact .inl ⟨by simpa using henabled, (Except.ok.inj hsummary).symm, rfl⟩
  · rename_i henabled
    refine .inr ⟨by simpa using henabled, ?_⟩
    split at h
    · cases h
    · split at h
      · cases h
      · rename_i immediate u hu
        obtain ⟨found, hpass⟩ := absorb_pass hu
        split at h
        · cases h
        · rename_i deferred v hv
          obtain ⟨hsummary, rfl⟩ := Prod.mk.inj h
          obtain rfl := Except.ok.inj hsummary
          have hdeferred := absorbDeferred_cases hv
          rw [hpass.settings] at hdeferred
          exact ⟨rfl, found, u, congrArg Prod.snd hu.symm, hpass, hdeferred⟩

end Session

end ComponentScan
