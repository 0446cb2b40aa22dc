import ComponentScan.Proofs.Absorption.Purging
import ComponentScan.Proofs.Engine.Order

/-!
# Runs with and without removal

Two runs of one session, of which one keeps the absorbed artifacts and one removes them. They part
in the deferred pass: where absorbed files are kept, it still sees those of the immediate pass, so
it may find more components (`runAll_purging_differs`). It never finds less, and it finds the same
exactly when every deferred match that enters is supported by a loose file (`runAll_purging`).
-/

namespace ComponentScan

open ScanContext

/-- What is found where absorbed files are kept, and where they are removed: no less in the first
context, and the same exactly under a condition. -/
structure ScanContext.AgreeIf (condition : Prop) (c c' : ScanContext) : Prop where
  components : c'.components.Sublist c.components
  loose : c.loose.Sublist c'.loose
  components_eq_iff : c.components = c'.components ↔ condition
  loose_eq : condition → c.loose = c'.loose

theorem ScanContext.AgreeIf.of_eq {condition : Prop} {c c' : ScanContext}
    (hcomponents : c.components = c'.components) (hloose : c.loose = c'.loose)
    (h : condition) : AgreeIf condition c c' where
  components := hcomponents ▸ .refl _
  loose := hloose ▸ .refl _
  components_eq_iff := iff_of_true hcomponents h
  loose_eq _ := hloose

namespace Session

/-- A session whose engine removes what is absorbed at the end of each pass, or keeps it. -/
def purging (s : Session) (purge : Bool) : Session :=
  { s with
    engine := { s.engine with settings := { s.engine.settings with purgeAbsorbed := purge } } }

/-- Whether each deferred match that enters is supported. -/
def Supported (s : Session) : Prop :=
  ∀ found, s.sightings .deferred = .ok found →
    ∀ m ∈ found, m.enters s.context = true → m.supported s.context = true

/-- Whether the deferred pass of a run that keeps what is absorbed, if there is such a pass, needs
nothing of it. -/
def Undisturbed (s : Session) (suppliers : Suppliers) : Prop :=
  s.engine.settings.enabled = true → s.engine.settings.runDeferredPass = true →
    ((s.purging false).reset.extract.2.absorb suppliers .immediate).2.Supported

instance (s : Session) : Decidable s.Supported :=
  match h : s.sightings .deferred with
  | .error _ => .isTrue (by simp [Supported, h])
  | .ok found => decidable_of_iff
      (∀ m ∈ found, m.enters s.context = true → m.supported s.context = true)
      (by simp [Supported, h])

instance (s : Session) (suppliers : Suppliers) : Decidable (s.Undisturbed suppliers) :=
  inferInstanceAs (Decidable (_ → _ → _))

/-- Sessions with the same descriptors, the second one without the absorbed files. -/
structure Thins (s t : Session) : Prop where
  runDeferredPass : t.engine.settings.runDeferredPass = s.engine.settings.runDeferredPass
  store : t.store = s.store
  context : s.context.Thins t.context

variable {s t : Session} {mode : Mode}

/-! ## The immediate pass -/

/-- A pass over an inventory in which nothing is absorbed has one end, whether it removes what it
absorbs or not. -/
theorem absorb_purging (hfresh : ∀ a ∈ s.context.artifacts, a.absorbed = false)
    (suppliers : Suppliers) (mode : Mode) :
    (∃ e, ((s.purging false).absorb suppliers mode).1 = .error e ∧
      ((s.purging true).absorb suppliers mode).1 = .error e) ∨
    ∃ x y, ((s.purging false).absorb suppliers mode).1 = .ok x ∧
      ((s.purging true).absorb suppliers mode).1 = .ok y ∧
      Thins ((s.purging false).absorb suppliers mode).2
        ((s.purging true).absorb suppliers mode).2 := by
  cases hfound : s.sightings mode with
  | error e =>
    exact .inl ⟨e, (absorb_eq_error_iff suppliers).2 hfound,
      (absorb_eq_error_iff suppliers).2 hfound⟩
  | ok found =>
    obtain ⟨x, hx, hkept⟩ := exists_pass (s := s.purging false) hfound suppliers
    obtain ⟨y, hy, hpurged⟩ := exists_pass (s := s.purging true) hfound suppliers
    refine .inr ⟨x, y, hx, hy, ?_, hpurged.store.trans hkept.store.symm, ?_⟩
    · rw [hkept.settings, hpurged.settings]
      rfl
    · rw [hkept.context, hpurged.context]
      exact Outcome.final_thins hfresh rfl

/-! ## The deferred pass -/

/-- The deferred pass where absorbed files are removed finds no more than where they are kept, and
as much exactly when all that enters is supported. -/
theorem absorb_deferred_thins (h : Thins s t) (suppliers : Suppliers) :
    (∃ e, (s.absorb suppliers .deferred).1 = .error e ∧
      (t.absorb suppliers .deferred).1 = .error e) ∨
    ∃ x y, (s.absorb suppliers .deferred).1 = .ok x ∧ (t.absorb suppliers .deferred).1 = .ok y ∧
      AgreeIf s.Supported (s.absorb suppliers .deferred).2.context
        (t.absorb suppliers .deferred).2.context := by
  cases hfound : s.sightings .deferred with
  | error e =>
    -- whether matching fails is decided by the descriptors alone
    have hfound' : t.sightings .deferred = .error e := by
      rw [sightings, h.store]
      exact AnchorMatch.all_eq_error_iff.2 (AnchorMatch.all_eq_error_iff.1 hfound)
    exact .inl ⟨e, (absorb_eq_error_iff suppliers).2 hfound,
      (absorb_eq_error_iff suppliers).2 hfound'⟩
  | ok found =>
    have hfound' : t.sightings .deferred =
        .ok (found.filter (AnchorMatch.standsLoose s.context)) := by
      rw [sightings, h.store]
      exact AnchorMatch.all_thins h.context hfound
    have hsupported : s.Supported ↔
        ∀ m ∈ found, m.enters s.context = true → m.supported s.context = true := by
      simp [Supported, hfound]
    obtain ⟨x, hx, hkept⟩ := exists_pass hfound suppliers
    obtain ⟨y, hy, hpurged⟩ := exists_pass hfound' suppliers
    refine .inr ⟨x, y, hx, hy, ?_⟩
    rw [hkept.context, hpurged.context, hsupported]
    exact ⟨Outcome.components_sublist_of_thins h.context, Outcome.loose_sublist_of_thins h.context,
      Outcome.components_eq_iff_of_thins h.context, Outcome.loose_eq_of_thins h.context⟩

theorem absorbDeferred_thins (h : Thins s t) (suppliers : Suppliers) :
    (∃ e, (s.absorbDeferred suppliers).1 = .error e ∧
      (t.absorbDeferred suppliers).1 = .error e) ∨
    ∃ x y, (s.absorbDeferred suppliers).1 = .ok x ∧ (t.absorbDeferred suppliers).1 = .ok y ∧
      AgreeIf (s.engine.settings.runDeferredPass = true → s.Supported)
        (s.absorbDeferred suppliers).2.context (t.absorbDeferred suppliers).2.context := by
  rw [absorbDeferred, absorbDeferred, h.runDeferredPass]
  split
  · rename_i hdeferred
    simp only [hdeferred, true_imp_iff]
    rcases absorb_deferred_thins h suppliers with ⟨e, hs, ht⟩ | ⟨x, y, hs, ht, hagree⟩
    · exact .inl ⟨e, congrArg (Except.map some) hs, congrArg (Except.map some) ht⟩
    · exact .inr ⟨some x, some y, congrArg (Except.map some) hs, congrArg (Except.map some) ht,
        hagree⟩
  · rename_i hdeferred
    exact .inr ⟨none, none, rfl, rfl,
      .of_eq h.context.components.symm h.context.loose.symm fun hd => absurd hd hdeferred⟩

/-! ## Whole runs -/

/-- The two runs fail alike, or both succeed and agree if the deferred pass is undisturbed. -/
theorem runAll_purging_cases (hfresh : ∀ a ∈ s.context.artifacts, a.absorbed = false)
    (suppliers : Suppliers) :
    (∃ e, ((s.purging false).runAll suppliers).1 = .error e ∧
      ((s.purging true).runAll suppliers).1 = .error e) ∨
    ∃ x y, ((s.purging false).runAll suppliers).1 = .ok x ∧
      ((s.purging true).runAll suppliers).1 = .ok y ∧
      AgreeIf (s.Undisturbed suppliers) ((s.purging false).runAll suppliers).2.context
        ((s.purging true).runAll suppliers).2.context := by
  have hsame (b : Bool) : (s.purging b).engine.settings.enabled = s.engine.settings.enabled ∧
      (s.purging b).engine.settings.maxScannedFiles = s.engine.settings.maxScannedFiles ∧
      (s.purging b).context = s.context := ⟨rfl, rfl, rfl⟩
  have hextracted (b : Bool) : (s.purging b).reset.extract.2 = s.reset.extract.2.purging b := rfl
  rw [Undisturbed, hextracted, runAll, runAll]
  simp only [hsame, hextracted]
  split
  · rename_i henabled
    refine .inr ⟨{}, {}, rfl, rfl, .of_eq rfl rfl fun h => ?_⟩
    rw [h] at henabled
    cases henabled
  · rename_i henabled
    have henabled : s.engine.settings.enabled = true := by simpa using henabled
    split
    · exact .inl ⟨_, rfl, rfl⟩
    · have hfresh : ∀ a ∈ s.reset.extract.2.context.artifacts, a.absorbed = false := hfresh
      have hpass := absorb_purging hfresh suppliers .immediate
      cases hx : (s.reset.extract.2.purging false).absorb suppliers .immediate with
      | mk x u =>
      cases hy : (s.reset.extract.2.purging true).absorb suppliers .immediate with
      | mk y v =>
      rw [hx, hy] at hpass
      rcases hpass with ⟨e, rfl, rfl⟩ | ⟨x, y, rfl, rfl, hthins⟩
      · exact .inl ⟨e, rfl, rfl⟩
      · have hrun : u.engine.settings.runDeferredPass = s.engine.settings.runDeferredPass := by
          obtain ⟨_, hpass⟩ := absorb_pass hx
          rw [hpass.settings]
          rfl
        have hdeferred := absorbDeferred_thins hthins suppliers
        rw [hrun] at hdeferred
        simp only [henabled, true_imp_iff]
        cases hx : u.absorbDeferred suppliers with
        | mk x' u' =>
        cases hy : v.absorbDeferred suppliers with
        | mk y' v' =>
        rw [hx, hy] at hdeferred
        rcases hdeferred with ⟨e, rfl, rfl⟩ | ⟨x', y', rfl, rfl, hagree⟩
        · exact .inl ⟨e, rfl, rfl⟩
        · exact .inr ⟨_, _, rfl, rfl, hagree⟩

/-- Whether absorbed artifacts are removed does not decide whether a run succeeds, if nothing is
absorbed when it begins. Where they are removed, the components are some of those that are found
where they are kept, in the same order, and no file is loose only where they are kept. The
components are the same exactly when the deferred pass is undisturbed: each of its matches that
enters stands at a loose file, or at the scan root, and covers a loose file or needs none. Then the
loose files are the same as well. -/
theorem runAll_purging (s : Session) (suppliers : Suppliers)
    (hfresh : ∀ a ∈ s.context.artifacts, a.absorbed = false) :
    let kept := (s.purging false).runAll suppliers
    let purged := (s.purging true).runAll suppliers
    (∀ e, kept.1 = .error e ↔ purged.1 = .error e) ∧
      ((∃ x, kept.1 = .ok x) ↔ ∃ y, purged.1 = .ok y) ∧
      ∀ x y, kept.1 = .ok x → purged.1 = .ok y →
        purged.2.context.components.Sublist kept.2.context.components ∧
        kept.2.context.loose.Sublist purged.2.context.loose ∧
        (kept.2.context.components = purged.2.context.components ↔ s.Undisturbed suppliers) ∧
        (s.Undisturbed suppliers → kept.2.context.loose = purged.2.context.loose) := by
  intro kept purged
  rcases runAll_purging_cases hfresh suppliers with ⟨e, hkept, hpurged⟩ | ⟨x, y, hkept, hpurged, h⟩
  · have hkept : kept.1 = .error e := hkept
    have hpurged : purged.1 = .error e := hpurged
    simp [hkept, hpurged]
  · have hkept : kept.1 = .ok x := hkept
    have hpurged : purged.1 = .ok y := hpurged
    refine ⟨by simp [hkept, hpurged], by simp [hkept, hpurged], fun _ _ _ _ => ?_⟩
    exact ⟨h.components, h.loose, h.components_eq_iff, h.loose_eq⟩

/-- Two libraries, of which the second one is for the deferred pass. -/
theorem runAll_purging_apart :
    let a : Rule :=
      { id := "a", suffixes := ["lib/m"], component := "a", version := "1",
        includes := "lib/**" }
    let b : Rule :=
      { id := "b", suffixes := ["lib/m"], component := "b", version := "1",
        includes := "doc/**", anchor := some "doc/n", mode := .deferred }
    let engine : Engine :=
      { settings := {}, registry := Registry.empty.registerAll ([a, b].map Rule.toContributor) }
    let files : List ScannedFile :=
      [{ path := "lib/m", checksum := some "1" }, { path := "doc/n" }, { path := "doc/a" },
        { path := "z" }]
    let s : Session := { engine, context := .ofScanned "/scan" files [] }
    let kept := (s.purging false).runAll fun _ => .ok {}
    let purged := (s.purging true).runAll fun _ => .ok {}
    s.Undisturbed (fun _ => .ok {}) ∧ (∃ x y, kept.1 = .ok x ∧ purged.1 = .ok y) ∧
      kept.2.context.components = purged.2.context.components ∧
      kept.2.context.loose = purged.2.context.loose ∧
      kept.2.context.artifacts.map (·.id) = ["m", "n", "a", "z", "a-1", "b-1"] ∧
      purged.2.context.artifacts.map (·.id) = ["z", "a-1", "b-1"] := by
  intro a b engine files s kept purged
  have hundisturbed : s.Undisturbed fun _ => .ok {} := by decide +kernel
  have hfresh : ∀ a ∈ s.context.artifacts, a.absorbed = false := by decide +kernel
  obtain ⟨-, hends, hagree⟩ := runAll_purging s (fun _ => .ok {}) hfresh
  have hok : kept.1.isOk = true := by decide +kernel
  cases hkept : kept.1 with
  | error e => simp [hkept, Except.isOk, Except.toBool] at hok
  | ok x =>
    obtain ⟨y, hpurged⟩ := hends.1 ⟨x, hkept⟩
    obtain ⟨-, -, hcomponents, hloose⟩ := hagree x y hkept hpurged
    exact ⟨hundisturbed, ⟨x, y, rfl, hpurged⟩, hcomponents.2 hundisturbed, hloose hundisturbed,
      by decide +kernel, by decide +kernel⟩

/-- A deferred component that stands at an absorbed file: only where this file is kept, it is found,
and absorbs a file of its own. -/
theorem runAll_purging_differs :
    let a : Rule :=
      { id := "a", suffixes := ["package.json"], component := "a", version := "1",
        includes := "lib/**" }
    let b : Rule :=
      { id := "b", suffixes := ["package.json"], component := "b", version := "1",
        includes := "doc/**", mode := .deferred }
    let engine : Engine :=
      { settings := {}, registry := Registry.empty.registerAll ([a, b].map Rule.toContributor) }
    let files : List ScannedFile :=
      [{ path := "lib/package.json", checksum := some "H" }, { path := "doc/a.txt" }]
    let s : Session := { engine, context := .ofScanned "/scan" files [] }
    let kept := (s.purging false).runAll fun _ => .ok {}
    let purged := (s.purging true).runAll fun _ => .ok {}
    (∀ a ∈ s.context.artifacts, a.absorbed = false) ∧
      kept.1.isOk = true ∧ purged.1.isOk = true ∧
      kept.2.context.components.map (·.id) = ["a-1", "b-1"] ∧
      purged.2.context.components.map (·.id) = ["a-1"] ∧
      kept.2.context.loose.map (·.id) = [] ∧
      purged.2.context.loose.map (·.id) = ["a.txt"] := by
  decide +kernel

end Session

end ComponentScan
