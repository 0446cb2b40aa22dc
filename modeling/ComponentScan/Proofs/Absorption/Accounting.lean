import ComponentScan.Proofs.Absorption.Simulation
import ComponentScan.Proofs.Occurrences

/-!
# The account of an absorption

Which suppliers an absorption calls, and the numbers in its summary, told from the matches and the
inventory alone. Each number is a count over all matches; the suppliers are those of the matches
that enter, each at its first occurrence, unless they were called before.
-/

namespace ComponentScan

namespace Outcome

variable (context : ScanContext) (options : AbsorptionOptions) (suppliers : Suppliers)
  (ledger : Ledger) (found : List AnchorMatch)

/-- The suppliers of the matches that enter, in the order of the matches. -/
def carried : List SupplierId :=
  (found.filter (·.enters context)).filterMap (·.descriptor.supplier)

/-- The suppliers that an absorption calls, in order. -/
def calls : List SupplierId :=
  if options.expandInventories then
    ((carried context found).filter (· ∉ ledger.called)).eraseDups
  else []

/-- The suppliers that are called for a match that enters, when those in `called` were before. -/
def due (options : AbsorptionOptions) (called : List SupplierId) (m : AnchorMatch) :
    List SupplierId :=
  if options.expandInventories then m.descriptor.supplier.toList.filter (· ∉ called) else []

/-- The files that are covered, one match after another. A file comes once for each match that
covers it. -/
def covered : List Artifact :=
  found.flatMap fun m => context.artifacts.filter m.covers

/-- The artifacts after all matches, before absorbed ones are removed. -/
def unpurged : List Artifact :=
  context.artifacts.map (settle found) ++
    arrivals (entrants context options suppliers ledger [] found)

/-- The summary of an absorption. -/
def summary : AbsorptionSummary where
  found := found.length
  dropped := found.countP (!·.enters context)
  absorbed := (covered context found).length
  components := found.countP (·.enters context)
  expansions := (calls context options ledger found).length
  removed :=
    if options.purgeAbsorbed then
      (unpurged context options suppliers ledger found).countP Artifact.absorbed
    else 0

/-- Whether an artifact stays in the inventory at the end of an absorption. -/
def keeps (options : AbsorptionOptions) (a : Artifact) : Bool :=
  !(options.purgeAbsorbed && a.absorbed)

theorem keeps_of_purge {options : AbsorptionOptions} (h : options.purgeAbsorbed = true) :
    keeps options = fun a => !a.absorbed := by
  funext a
  simp [keeps, h]

theorem keeps_of_not_purge {options : AbsorptionOptions} (h : options.purgeAbsorbed = false) :
    keeps options = fun _ => true := by
  funext a
  simp [keeps, h]

theorem artifacts_final :
    (final context options suppliers ledger found).artifacts =
      (unpurged context options suppliers ledger found).filter (keeps options) := by
  rw [final, ← unpurged]
  cases h : options.purgeAbsorbed with
  | true =>
    rw [keeps_of_purge h]
    rfl
  | false =>
    rw [keeps_of_not_purge h, List.filter_true]
    rfl

theorem arrivals_append (entered entered' : List (AnchorMatch × Option Expansion)) :
    arrivals (entered ++ entered') = arrivals entered ++ arrivals entered' :=
  List.flatMap_append

variable {context options suppliers ledger found} in
theorem artifacts_of_purge (h : options.purgeAbsorbed = true) :
    (final context options suppliers ledger found).artifacts =
      (unpurged context options suppliers ledger found).filter (!·.absorbed) := by
  rw [artifacts_final, keeps_of_purge h]

end Outcome

/-! ## Calls -/

namespace Absorption

/-- The supplier that is due is called, counted and entered in the ledger. -/
theorem expand_account (options : AbsorptionOptions) (suppliers : Suppliers) (c : Claimant)
    (x : Absorption) :
    let new := Outcome.due options x.ledger.called c.hit
    let y := if options.expandInventories then x.expand suppliers c else x
    y.calls = x.calls ++ new ∧ y.ledger.called = x.ledger.called ++ new ∧
      y.summary = { x.summary with expansions := x.summary.expansions + new.length } := by
  intro new y
  cases hexpand : options.expandInventories with
  | false => simp [new, y, Outcome.due, hexpand]
  | true =>
    cases h : c.hit.descriptor.supplier with
    | none => simp [new, y, Outcome.due, hexpand, h, expand_of_none suppliers c x h]
    | some s =>
      by_cases hs : s ∈ x.ledger.called
      · simp [new, y, Outcome.due, hexpand, h, hs, expand_of_called suppliers c x h hs]
      · have hy : y = call suppliers c s { x with ledger := ⟨x.ledger.called ++ [s]⟩ } := by
          rw [← expand_of_new suppliers c x h hs]
          exact if_pos hexpand
        rw [hy, call]
        cases suppliers s with
        | ok inventory => simp [new, Outcome.due, hexpand, h, hs]
        | error e => simp [new, Outcome.due, hexpand, h, hs]

end Absorption

namespace Outcome

variable {context : ScanContext} {options : AbsorptionOptions} {suppliers : Suppliers}
  {ledger : Ledger} {done found : List AnchorMatch} {x : Absorption} {n : Nat}

theorem carried_concat (context : ScanContext) (done : List AnchorMatch) (m : AnchorMatch) :
    carried context (done ++ [m]) =
      carried context done ++ if m.enters context then m.descriptor.supplier.toList else [] := by
  rw [carried, List.filter_append, List.filterMap_append, ← carried, List.filter_singleton]
  cases m.enters context with
  | true => cases h : m.descriptor.supplier <;> simp [h]
  | false => simp

/-- A match that enters has the suppliers called that are due by then. -/
theorem calls_concat {m : AnchorMatch} (hm : m.enters context = true) :
    calls context options ledger (done ++ [m]) = calls context options ledger done ++
      due options (ledger.called ++ calls context options ledger done) m := by
  cases hexpand : options.expandInventories with
  | false => simp [calls, due, hexpand]
  | true =>
    simp only [calls, due, hexpand, if_true, carried_concat, hm, List.filter_append]
    cases m.descriptor.supplier with
    | none => simp
    | some s =>
      by_cases hs : s ∈ ledger.called
      · simp [hs]
      · rw [Option.toList_some, List.filter_singleton, decide_eq_true hs, cond_true,
          eraseDups_concat]
        by_cases hmem : s ∈ carried context done
        · simp [hs, hmem]
        · simp [hs, hmem]

theorem calls_concat_of_not_enters {m : AnchorMatch} (hm : ¬ m.enters context = true) :
    calls context options ledger (done ++ [m]) = calls context options ledger done := by
  simp [calls, carried_concat, hm]

theorem mem_carried_iff {i : SupplierId} :
    i ∈ carried context found ↔
      ∃ m ∈ found, m.enters context ∧ m.descriptor.supplier = some i := by
  simp only [carried, List.mem_filterMap, List.mem_filter, and_assoc]

theorem mem_calls_iff {i : SupplierId} :
    i ∈ calls context options ledger found ↔ options.expandInventories = true ∧
      i ∉ ledger.called ∧ ∃ m ∈ found, m.enters context ∧ m.descriptor.supplier = some i := by
  rw [← mem_carried_iff, calls]
  by_cases hexpand : options.expandInventories = true
  · simp [hexpand, and_comm]
  · simp [hexpand]

theorem nodup_calls (context : ScanContext) (options : AbsorptionOptions) (ledger : Ledger)
    (found : List AnchorMatch) : (calls context options ledger found).Nodup := by
  rw [calls]
  split
  · exact nodup_eraseDups _
  · exact List.nodup_nil

/-! ## One match after another -/

/-- An absorption that has applied the matches `done`, out of `n`. -/
structure Accounts (context : ScanContext) (options : AbsorptionOptions) (ledger : Ledger)
    (n : Nat) (done : List AnchorMatch) (x : Absorption) : Prop where
  calls : x.calls = Outcome.calls context options ledger done
  called : x.ledger.called = ledger.called ++ Outcome.calls context options ledger done
  found : x.summary.found = n
  dropped : x.summary.dropped = done.countP (!·.enters context)
  absorbed : x.summary.absorbed = (covered context done).length
  components : x.summary.components = done.countP (·.enters context)
  expansions : x.summary.expansions = (Outcome.calls context options ledger done).length

/-- Before the first match. -/
theorem Accounts.start (n : Nat) :
    Accounts context options ledger n []
      { residents := context.artifacts.map .ofArtifact
        assets := context.assets
        ledger
        summary := { found := n } } := by
  constructor <;> simp [Outcome.calls, carried, covered]

/-- The files that the next match covers. -/
theorem Follows.covered_eq (h : Follows context options suppliers ledger done x)
    {m : AnchorMatch} {c : Claimant} (hc : Claimant.ofMatch m = .ok c) :
    (x.residents.map fun r : Resident => r.claim c).countP Prod.fst =
      context.artifacts.countP m.covers := by
  rw [h.map_claim hc, List.countP_map]
  rfl

/-- A match is applied. -/
theorem Accounts.apply (h : Accounts context options ledger n done x)
    (hfollows : Follows context options suppliers ledger done x) {m : AnchorMatch} {c : Claimant}
    (hc : Claimant.ofMatch m = .ok c) :
    Accounts context options ledger n (done ++ [m]) (x.apply options suppliers c) := by
  have hhit : c.hit = m := (Claimant.ofMatch_eq_ok_iff.1 hc).1
  have hcovered := hfollows.covered_eq hc
  have habsorbed : (covered context (done ++ [m])).length =
      x.summary.absorbed + context.artifacts.countP m.covers := by
    rw [covered, List.flatMap_append, List.length_append, List.flatMap_singleton,
      ← List.countP_eq_length_filter, h.absorbed, covered]
  rw [Absorption.apply]
  dsimp only
  by_cases hm : m.enters context = true
  · rw [if_neg fun h' => (hfollows.dropped_iff hc).1 h' hm, hcovered]
    have hdropped : (done ++ [m]).countP (!·.enters context) = x.summary.dropped := by
      simp [h.dropped, List.countP_append, hm]
    have hcomponents : (done ++ [m]).countP (·.enters context) = x.summary.components + 1 := by
      simp [h.components, List.countP_append, hm]
    have hcalls : Outcome.calls context options ledger (done ++ [m]) =
        Outcome.calls context options ledger done ++ due options x.ledger.called m := by
      rw [h.called]
      exact calls_concat hm
    -- the absorption when the component has entered, before its supplier is called
    let y : Absorption := { x with
      residents := (x.residents.map fun r : Resident => r.claim c).map Prod.snd
      arrivals := x.arrivals ++ [c.artifact]
      summary := { x.summary with
        absorbed := x.summary.absorbed + context.artifacts.countP m.covers
        components := x.summary.components + 1 } }
    obtain ⟨hyCalls, hyCalled, hySummary⟩ := Absorption.expand_account options suppliers c y
    rw [hhit] at hyCalls hyCalled hySummary
    constructor
    · rw [hyCalls, hcalls, ← h.calls]
    · rw [hyCalled, hcalls, ← List.append_assoc, ← h.called]
    · rw [hySummary]
      exact h.found
    · rw [hySummary, hdropped]
    · rw [hySummary, habsorbed]
    · rw [hySummary, hcomponents]
    · rw [hySummary, hcalls, List.length_append, ← h.expansions]
  · rw [if_pos ((hfollows.dropped_iff hc).2 hm), hcovered]
    have hcalls : Outcome.calls context options ledger (done ++ [m]) =
        Outcome.calls context options ledger done := calls_concat_of_not_enters hm
    constructor
    · rw [hcalls, ← h.calls]
    · rw [hcalls, ← h.called]
    · exact h.found
    · simp [h.dropped, List.countP_append, hm]
    · exact habsorbed.symm
    · simp [h.components, List.countP_append, hm]
    · rw [hcalls, ← h.expansions]

/-- All matches are applied. -/
theorem Accounts.foldl (h : Accounts context options ledger n done x)
    (hfollows : Follows context options suppliers ledger done x) {cs : List Claimant}
    (hcs : List.Forall₂ (fun m c => Claimant.ofMatch m = .ok c) found cs) :
    Accounts context options ledger n (done ++ found)
      (cs.foldl (Absorption.apply options suppliers) x) := by
  induction hcs generalizing done x with
  | nil => simpa using h
  | cons hc _ ih =>
    rw [List.foldl_cons, List.append_cons]
    exact ih (h.apply hfollows hc) (hfollows.apply hc)

/-- The numbers of an absorption, whatever is removed in the end. -/
theorem Accounts.summary_eq (h : Accounts context options ledger n done x) (removed : Nat) :
    { x.summary with removed } =
      { found := n
        dropped := done.countP (!·.enters context)
        absorbed := (covered context done).length
        components := done.countP (·.enters context)
        expansions := (Outcome.calls context options ledger done).length
        removed : AbsorptionSummary } := by
  rw [← h.found, ← h.dropped, ← h.absorbed, ← h.components, ← h.expansions]

/-! ## All matches -/

theorem Follows.unpurged_eq (h : Follows context options suppliers ledger done x) :
    x.residents.map (·.artifact) ++ x.arrivals =
      unpurged context options suppliers ledger done := by
  rw [h.residents, h.arrivals, List.map_map]
  rfl

/-- The account of an absorption, when it does not fail. -/
theorem account_ofMatches {a : Absorbed}
    (h : Absorbed.ofMatches found context options suppliers ledger = .ok a) :
    a.calls = calls context options ledger found ∧
    a.ledger.called = ledger.called ++ calls context options ledger found ∧
    a.summary = summary context options suppliers ledger found := by
  obtain ⟨cs, hcs, ha⟩ := bind_eq_ok_iff.1 h
  obtain rfl := Except.ok.inj ha
  have hstart : Follows context options suppliers ledger [] _ := .start found.length
  have hfollows : Follows context options suppliers ledger found _ :=
    hstart.foldl (mapM_eq_ok_iff.1 hcs)
  have haccounts : Accounts context options ledger found.length found _ :=
    (Accounts.start found.length).foldl hstart (mapM_eq_ok_iff.1 hcs)
  refine ⟨haccounts.calls, haccounts.called, (haccounts.summary_eq _).trans ?_⟩
  rw [summary, ScanContext.absorbedCount, hfollows.unpurged_eq]

end Outcome

end ComponentScan
