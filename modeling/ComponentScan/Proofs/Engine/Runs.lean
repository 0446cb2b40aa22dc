import ComponentScan.Engine.Session
import ComponentScan.Proofs.Absorption.Consistency

/-!
# Whole runs

An engine is called any number of times on one context, each time with a store and with suppliers
of the caller's choice. What one call keeps, every run keeps: the inventory stays consistent, and
what is no file stays in it.
-/

namespace ComponentScan

open ScanContext

/-- A later context of a scan: consistent, and with all that is no file. -/
structure ScanContext.Continues (c c' : ScanContext) : Prop where
  consistent : c'.Consistent
  others : c.others <+: c'.others

namespace ScanContext.Continues

variable {c c' c'' : ScanContext}

theorem refl (h : c.Consistent) : Continues c c :=
  ⟨h, List.prefix_refl _⟩

theorem trans (h : Continues c c') (h' : Continues c' c'') : Continues c c'' :=
  ⟨h'.consistent, h.others.trans h'.others⟩

end ScanContext.Continues

namespace Session

/-! ## Calls -/

/-- A call of an engine on its context. -/
inductive Call where
  | extract (store : DescriptorStore)
  | absorb (store : DescriptorStore) (suppliers : Suppliers) (mode : Mode)
  | runAll (store : DescriptorStore) (suppliers : Suppliers)

namespace Call

/-- The session after a call, whatever the call returns. -/
def apply (s : Session) : Call → Session
  | extract store => { s with store }.extract.2
  | absorb store suppliers mode => ({ s with store }.absorb suppliers mode).2
  | runAll store suppliers => ({ s with store }.runAll suppliers).2

/-- Whether the suppliers of a call hand out no artifact that is absorbed already. -/
def HandsOutFresh : Call → Prop
  | extract _ => True
  | absorb _ suppliers _ => suppliers.HandOutFresh
  | runAll _ suppliers => suppliers.HandOutFresh

end Call

/-- The session after some calls. -/
def run (s : Session) (calls : List Call) : Session :=
  calls.foldl Call.apply s

/-! ## One call -/

variable {s : Session} {suppliers : Suppliers}

/-- A pass changes the context only by an absorption that does not fail. -/
theorem absorb_context (s : Session) (suppliers : Suppliers) (mode : Mode) :
    (s.absorb suppliers mode).2.context = s.context ∨
      ∃ found, (s.absorb suppliers mode).2.context =
        Outcome.final s.context s.options suppliers s.engine.ledger found := by
  rw [absorb]
  split
  · exact .inl rfl
  · rename_i a ha
    cases hs : s.sightings mode with
    | error e =>
      rw [hs] at ha
      cases ha
    | ok found =>
      rw [hs] at ha
      exact .inr ⟨found, Outcome.context_ofMatches ha⟩

theorem absorb_continues (h : s.context.Consistent) (hfresh : suppliers.HandOutFresh)
    (mode : Mode) : Continues s.context (s.absorb suppliers mode).2.context := by
  rcases s.absorb_context suppliers mode with hc | ⟨found, hc⟩
  · rw [hc]
    exact .refl h
  · rw [hc]
    refine ⟨Outcome.consistent_final h hfresh, ?_⟩
    rw [Outcome.others_final h hfresh]
    exact List.prefix_append _ _

theorem absorbDeferred_continues (h : s.context.Consistent) (hfresh : suppliers.HandOutFresh) :
    Continues s.context (s.absorbDeferred suppliers).2.context := by
  rw [absorbDeferred]
  split
  · exact absorb_continues h hfresh .deferred
  · exact .refl h

theorem runAll_continues (h : s.context.Consistent) (hfresh : suppliers.HandOutFresh) :
    Continues s.context (s.runAll suppliers).2.context := by
  rw [runAll]
  dsimp only
  split
  · exact .refl h
  · split
    · exact .refl h
    · let t := s.reset.extract.2
      have himmediate : Continues t.context (t.absorb suppliers .immediate).2.context :=
        absorb_continues (s := t) h hfresh .immediate
      -- the deferred pass goes on from where the immediate pass stopped
      split
      · rename_i e u hu
        rw [show u = (t.absorb suppliers .immediate).2 from congrArg Prod.snd hu.symm]
        exact himmediate
      · rename_i summary u hu
        have hu : u = (t.absorb suppliers .immediate).2 := congrArg Prod.snd hu.symm
        have hdeferred : Continues u.context (u.absorbDeferred suppliers).2.context :=
          absorbDeferred_continues (hu ▸ himmediate.consistent) hfresh
        have hboth : Continues t.context (u.absorbDeferred suppliers).2.context :=
          (hu ▸ himmediate).trans hdeferred
        split
        · rename_i e v hv
          rw [show v = (u.absorbDeferred suppliers).2 from congrArg Prod.snd hv.symm]
          exact hboth
        · rename_i deferred v hv
          rw [show v = (u.absorbDeferred suppliers).2 from congrArg Prod.snd hv.symm]
          exact hboth

theorem Call.apply_continues (h : s.context.Consistent) {call : Call} (hfresh : call.HandsOutFresh) :
    Continues s.context (call.apply s).context := by
  cases call with
  | extract store => exact .refl h
  | absorb store suppliers mode =>
    exact absorb_continues (s := { s with store }) h hfresh mode
  | runAll store suppliers =>
    exact runAll_continues (s := { s with store }) h hfresh

/-! ## Runs -/

theorem run_append (s : Session) (calls more : List Call) :
    s.run (calls ++ more) = (s.run calls).run more :=
  List.foldl_append

theorem run_continues (h : s.context.Consistent) {calls : List Call}
    (hfresh : ∀ call ∈ calls, call.HandsOutFresh) :
    Continues s.context (s.run calls).context := by
  induction calls generalizing s with
  | nil => exact .refl h
  | cons call calls ih =>
    have hstep : Continues s.context (call.apply s).context :=
      Call.apply_continues h (hfresh call (by simp))
    have hrest := ih hstep.consistent fun c hc => hfresh c (List.mem_cons_of_mem call hc)
    exact hstep.trans hrest

/-- A context that holds the files of a scan is consistent after any calls of any engine, and
whatever they have added stays, whichever calls follow. -/
theorem run_consistent (s : Session) (baseDir : String) (files : List ScannedFile)
    (chain : List String) (calls more : List Call)
    (hfresh : ∀ call ∈ calls ++ more, call.HandsOutFresh) :
    let start : Session := { s with context := .ofScanned baseDir files chain }
    (start.run calls).context.Consistent ∧
      (start.run calls).context.others <+: (start.run (calls ++ more)).context.others := by
  intro start
  have hstart : start.context.Consistent := .ofScanned baseDir files chain
  have hcalls : Continues start.context (start.run calls).context :=
    run_continues hstart fun c hc => hfresh c (List.mem_append_left more hc)
  have hmore : Continues (start.run calls).context ((start.run calls).run more).context :=
    run_continues hcalls.consistent fun c hc => hfresh c (List.mem_append_right calls hc)
  rw [run_append]
  exact ⟨hcalls.consistent, hmore.others⟩

/-- An engine that does not purge runs twice, with a supplier that hands out one artifact. -/
theorem run_consistent_twice :
    let engine : Engine := { settings := { purgeAbsorbed := false }, registry := .empty }
    let s : Session := { engine, context := { baseDir := "" } }
    let library : Descriptor :=
      { name := "lib", version := "2", anchor := some "lib/package.json", anchorChecksum := some "*"
        includes := "lib/*", supplier := some 1 }
    let suppliers : Suppliers := fun _ => .ok { artifacts := [{ id := "dep", kind := .file }] }
    let calls : List Call :=
      [.absorb ⟨[library]⟩ suppliers .immediate, .runAll ⟨[library]⟩ suppliers]
    let start : Session := { s with
      context := .ofScanned "/scan" [{ path := "lib/package.json" }, { path := "b" }] ["AID-image"] }
    ((start.run calls).context.Consistent ∧
      (start.run calls).context.others <+: (start.run (calls ++ calls)).context.others) ∧
      (start.run calls).context.artifacts.map (fun a => (a.id, a.absorbed)) =
        [("package.json", true), ("b", false), ("lib-2", false), ("dep", false), ("lib-2", false),
          ("dep", false)] := by
  intro engine s library suppliers calls start
  refine ⟨run_consistent s "/scan" _ ["AID-image"] calls calls ?_, by decide +kernel⟩
  have hfresh : suppliers.HandOutFresh := by
    intro _ inventory h a ha
    obtain rfl := Except.ok.inj h
    rw [List.mem_singleton.1 ha]
  intro call hcall
  simp only [calls, List.mem_append, List.mem_cons, List.not_mem_nil, or_false, or_self] at hcall
  rcases hcall with rfl | rfl <;> exact hfresh

end Session

end ComponentScan
