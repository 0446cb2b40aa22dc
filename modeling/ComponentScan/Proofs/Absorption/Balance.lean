import ComponentScan.Proofs.Absorption.Loose
import Mathlib.Algebra.Ring.Nat

/-!
# The balance of an absorption

The numbers in the summary of an absorption agree with each other and with what it leaves: every
match is dropped or puts one component into the inventory, the ledger grows by the suppliers that
are called, and an artifact that is in the inventory afterwards was there, is a component, or was
handed out by a supplier that was called (`Absorbed.ofMatches_balance`).
-/

namespace ComponentScan

/-- The artifacts that a supplier hands out: none when it fails. -/
def handedOut (suppliers : Suppliers) (s : SupplierId) : List Artifact :=
  (suppliers s).toOption.elim [] Expansion.artifacts

/-- Whether a match is dropped: it covers no file, and needs one. -/
def AnchorMatch.isDropped (context : ScanContext) (m : AnchorMatch) : Bool :=
  !context.files.any m.covers && !m.descriptor.needsNoFiles

namespace Outcome

open ScanContext

variable {context : ScanContext} {options : AbsorptionOptions} {suppliers : Suppliers}
  {ledger : Ledger} {done found : List AnchorMatch}

/-! ## Dropped matches -/

theorem isDropped_eq (context : ScanContext) (m : AnchorMatch) :
    m.isDropped context = !m.enters context := by
  rw [AnchorMatch.isDropped, AnchorMatch.enters, any_covers_files, Bool.not_or]

theorem length_eq_dropped_add_entered (context : ScanContext) (found : List AnchorMatch) :
    found.length =
      found.countP (!·.enters context) + found.countP (·.enters context) := by
  rw [List.length_eq_countP_add_countP (·.enters context), Nat.add_comm]
  simp

theorem length_covered (context : ScanContext) (found : List AnchorMatch) :
    (covered context found).length =
      (found.map fun m => context.files.countP m.covers).sum := by
  rw [covered, List.length_flatMap]
  simp only [← List.countP_eq_length_filter, countP_covers_files]

/-! ## What suppliers hand out -/

/-- The artifacts that a component brings along come from its supplier, if that is due. -/
theorem artifacts_inventory? (m : AnchorMatch) :
    (inventory? context options suppliers ledger done m).elim [] Expansion.artifacts =
      (due options (ledger.called ++ calls context options ledger done) m).flatMap
        (handedOut suppliers) := by
  rw [inventory?, due]
  cases hexpand : options.expandInventories with
  | false => simp
  | true =>
    cases m.descriptor.supplier with
    | none => simp
    | some s =>
      have hdue : (s ∉ ledger.called ∧
          ∀ m' ∈ done, m'.enters context → m'.descriptor.supplier ≠ some s) ↔
            s ∉ ledger.called ++ calls context options ledger done := by
        rw [List.mem_append, mem_calls_iff]
        simp only [hexpand, true_and, not_or, not_and, not_exists]
        exact and_congr_right fun hs => ⟨fun h _ => h, fun h => h hs⟩
      simp only [true_and, hdue, Option.bind_some, Option.toList_some, List.filter_singleton]
      by_cases hs : s ∈ ledger.called ++ calls context options ledger done
      · simp [hs]
      · simp [hs, handedOut]

/-- What enters, counted: components, and what the suppliers that were called hand out. The count
has to be one that does not see how artifacts are marked when they enter. -/
theorem countP_arrivals {p : Artifact → Bool}
    (hp : ∀ (x : Expansion) (owners : List String),
      (x.artifactsOf owners).countP p = x.artifacts.countP p) (found : List AnchorMatch) :
    (arrivals (entrants context options suppliers ledger [] found)).countP p =
      ((found.filter (·.enters context)).map AnchorMatch.component).countP p +
        ((calls context options ledger found).flatMap (handedOut suppliers)).countP p := by
  induction found using List.reverseRecOn with
  | nil => simp [entrants, arrivals, calls, carried]
  | append_singleton found m ih =>
    rw [entrants_concat, arrivals_append, List.countP_append, ih, List.filter_append,
      List.map_append, List.countP_append]
    by_cases hm : m.enters context = true
    · have hbrought : (arrivals [(m, inventory? context options suppliers ledger found m)]).countP p =
          [m.component].countP p +
            ((inventory? context options suppliers ledger found m).elim [] Expansion.artifacts).countP
              p := by
        rw [arrivals, List.flatMap_singleton, ← List.singleton_append, List.countP_append]
        cases inventory? context options suppliers ledger found m with
        | none => rfl
        | some x => simp [hp]
      rw [if_pos hm, hbrought, artifacts_inventory?, calls_concat hm, List.flatMap_append,
        List.countP_append, List.filter_singleton, hm]
      simp only [cond_true, List.map_singleton]
      omega
    · rw [if_neg hm, calls_concat_of_not_enters hm]
      simp [hm, arrivals]

theorem length_artifactsOf (x : Expansion) (owners : List String) :
    (x.artifactsOf owners).length = x.artifacts.length :=
  List.length_map _

/-- What is in the inventory before absorbed artifacts are removed. -/
theorem length_unpurged :
    (unpurged context options suppliers ledger found).length =
      context.artifacts.length + found.countP (·.enters context) +
        ((calls context options ledger found).flatMap (handedOut suppliers)).length := by
  have harrivals : (arrivals (entrants context options suppliers ledger [] found)).length =
      found.countP (·.enters context) +
        ((calls context options ledger found).flatMap (handedOut suppliers)).length := by
    have hcount (x : Expansion) (owners : List String) :
        (x.artifactsOf owners).countP (fun _ => true) = x.artifacts.countP fun _ => true := by
      simpa using length_artifactsOf x owners
    simpa [List.countP_eq_length_filter] using countP_arrivals hcount found
  rw [unpurged, List.length_append, List.length_map, harrivals, Nat.add_assoc]

/-- What is removed has been in the inventory. -/
theorem length_final :
    (final context options suppliers ledger found).artifacts.length +
        (summary context options suppliers ledger found).removed =
      (unpurged context options suppliers ledger found).length := by
  rw [artifacts_final, summary, ← List.countP_eq_length_filter]
  cases hpurge : options.purgeAbsorbed with
  | false => simp [keeps_of_not_purge hpurge]
  | true =>
    have hsplit := List.length_eq_countP_add_countP Artifact.absorbed
      (l := unpurged context options suppliers ledger found)
    rw [if_pos rfl, keeps_of_purge hpurge, hsplit, Nat.add_comm]
    simp

/-- What enters does not depend on what is removed in the end. -/
theorem entrants_congr {options' : AbsorptionOptions}
    (h : options'.expandInventories = options.expandInventories) (earlier found : List AnchorMatch) :
    entrants context options' suppliers ledger earlier found =
      entrants context options suppliers ledger earlier found := by
  induction found generalizing earlier with
  | nil => rfl
  | cons m found ih => rw [entrants, entrants, ih, inventory?, inventory?, h]

/-- An absorption that removes nothing shows what another one removes. -/
theorem artifacts_final_of_kept :
    (final context { options with purgeAbsorbed := false } suppliers ledger found).artifacts =
      unpurged context options suppliers ledger found := by
  have hentrants : entrants context { options with purgeAbsorbed := false } suppliers ledger []
      found = entrants context options suppliers ledger [] found :=
    entrants_congr (by rfl) [] found
  rw [artifacts_final, keeps_of_not_purge rfl, List.filter_true, unpurged, hentrants, ← unpurged]

end Outcome

/-! ## The balance -/

namespace Absorbed

open ScanContext

/-- What the numbers of an absorption say about the matches, the ledger and the inventory. -/
structure Balance (found : List AnchorMatch) (context : ScanContext) (options : AbsorptionOptions)
    (suppliers : Suppliers) (ledger : Ledger) (a : Absorbed) : Prop where
  counted : a.summary.found = found.length
  /-- Every match is dropped or adds a component. -/
  split : a.summary.found = a.summary.dropped + a.summary.components
  dropped : a.summary.dropped = found.countP (·.isDropped context)
  /-- The components that were there and stay, and those of the matches that are not dropped. -/
  components : a.context.components =
    context.components.filter (fun c => !(options.purgeAbsorbed && c.absorbed)) ++
      (found.filter (!·.isDropped context)).map AnchorMatch.component
  /-- A file is counted for each match that covers it. -/
  absorbed : a.summary.absorbed = (found.map fun m => context.files.countP m.covers).sum
  called : a.ledger.called = ledger.called ++ a.calls
  expansions : a.ledger.size = ledger.size + a.summary.expansions
  /-- What is removed is what the same absorption would leave absorbed in the inventory. -/
  removed : ∃ kept,
    ofMatches found context { options with purgeAbsorbed := false } suppliers ledger = .ok kept ∧
      a.summary.removed = if options.purgeAbsorbed then kept.context.absorbedCount else 0
  /-- What is in the inventory or was removed was there, is a component, or was handed out. -/
  artifacts : a.context.artifacts.length + a.summary.removed =
    context.artifacts.length + a.summary.components +
      (a.calls.flatMap (handedOut suppliers)).length

/-- Absorptions that do not fail balance. -/
theorem ofMatches_balance (found : List AnchorMatch) (context : ScanContext)
    (options : AbsorptionOptions) (suppliers : Suppliers) (ledger : Ledger) (a : Absorbed)
    (h : ofMatches found context options suppliers ledger = .ok a) :
    a.Balance found context options suppliers ledger := by
  obtain ⟨hcalls, hcalled, hsummary⟩ := Outcome.account_ofMatches h
  have hcontext := Outcome.context_ofMatches h
  have hdropped : (fun m => AnchorMatch.isDropped context m) = fun m => !m.enters context :=
    funext (Outcome.isDropped_eq context)
  obtain ⟨kept, hkept⟩ := exists_ofMatches (exists_ofMatches_iff.1 ⟨a, h⟩) context
    { options with purgeAbsorbed := false } suppliers ledger
  have hunpurged : kept.context.artifacts =
      Outcome.unpurged context options suppliers ledger found := by
    rw [Outcome.context_ofMatches hkept, Outcome.artifacts_final_of_kept]
  constructor
  · rw [hsummary]
    rfl
  · rw [hsummary]
    exact Outcome.length_eq_dropped_add_entered context found
  · rw [hsummary, hdropped]
    rfl
  · simp only [Outcome.isDropped_eq, Bool.not_not]
    rw [hcontext]
    exact Outcome.components_final_of_keeps
  · rw [hsummary]
    exact Outcome.length_covered context found
  · rw [hcalled, hcalls]
  · rw [Ledger.size, hcalled, List.length_append, hsummary]
    rfl
  · refine ⟨kept, hkept, ?_⟩
    rw [hsummary, absorbedCount, hunpurged]
    rfl
  · rw [hcontext, hsummary, hcalls, Outcome.length_final, Outcome.length_unpurged]
    rfl

/-- A match that is dropped, two of one supplier, of whose artifacts one is absorbed already, and one
whose supplier fails. -/
theorem ofMatches_balance_nested :
    let site (part includes : String) (supplier : Option SupplierId) : AnchorMatch :=
      { descriptor := { name := part, version := "1", part, includes, supplier }
        path := some "app/pkg", checksum := "*", scanRoot := "/scan", ownership := ⟨"", "app"⟩
        assetIdChain := ["AID-image"], rootPaths := .empty }
    let found := [site "none" "x/*" (some 9), site "outer" "app/**" (some 7),
      site "inner" "app/lib/*" (some 8), site "again" "app/lib/*" (some 7)]
    let context : ScanContext :=
      .ofScanned "/scan" [{ path := "app/a" }, { path := "app/lib/b" }, { path := "c" }] []
    let suppliers : Suppliers := fun s =>
      if s = 7 then
        .ok { artifacts := [{ id := "dep", kind := .file },
          { id := "old", kind := .file, absorbed := true }] }
      else .error (.other "unreachable")
    ∃ a, ofMatches found context {} suppliers {} = .ok a ∧
      a.Balance found context {} suppliers {} ∧
      a.summary = { found := 4, dropped := 1, absorbed := 4, components := 3, expansions := 2
                    removed := 3 } ∧
      a.calls = [7, 8] ∧ a.context.artifacts.length = 5 := by
  intro site found context suppliers
  have hall : (ofMatches found context {} suppliers {}).toOption.map
      (fun a => (a.summary, a.calls, a.context.artifacts.length)) =
        some ({ found := 4, dropped := 1, absorbed := 4, components := 3, expansions := 2
                removed := 3 }, [7, 8], 5) := by
    decide +kernel
  cases h : ofMatches found context {} suppliers {} with
  | error e => simp [h, Except.toOption] at hall
  | ok a =>
    rw [h, Except.toOption, Option.map_some, Option.some.injEq] at hall
    obtain ⟨hsummary, hcalls, hlength⟩ := Prod.mk.inj hall |>.imp_right Prod.mk.inj
    exact ⟨a, rfl, ofMatches_balance found context {} suppliers {} a h, hsummary, hcalls, hlength⟩

end Absorbed

end ComponentScan
