import ComponentScan.Proofs.Absorption.Balance
import ComponentScan.Proofs.Absorption.Order

/-!
# The order of matches

Matches share the files they cover and the suppliers they refer to, but no match decides what
another one does: whatever their order, the same files are absorbed and marked the same way, the
same components enter, the same suppliers are called, and the numbers agree
(`Absorbed.ofMatches_perm`). Only what a supplier hands out is marked by the first match that
refers to it.
-/

namespace ComponentScan

/-- Whether an artifact that is handed out is absorbed does not change when it enters. -/
theorem Expansion.countP_absorbed_artifactsOf (x : Expansion) (owners : List String) :
    (x.artifactsOf owners).countP Artifact.absorbed = x.artifacts.countP Artifact.absorbed := by
  rw [artifactsOf, List.countP_map]
  congr 1
  funext a
  cases x.managesAssetIds <;> rfl

namespace Outcome

open ScanContext

variable {context : ScanContext} {options : AbsorptionOptions} {suppliers : Suppliers}
  {ledger : Ledger} {found found' : List AnchorMatch}

theorem files_final_perm (h : found.Perm found') :
    (final context options suppliers ledger found).files =
      (final context options suppliers ledger found').files := by
  have hsettle : settle found = settle found' := settle_alike (h.map AnchorMatch.placeless)
  rw [files_final, files_final, hsettle]

/-- The suppliers that are called are those of the matches that enter, whichever comes first. -/
theorem calls_perm (h : found.Perm found') :
    (calls context options ledger found).Perm (calls context options ledger found') := by
  rw [List.perm_ext_iff_of_nodup (nodup_calls ..) (nodup_calls ..)]
  intro i
  rw [mem_calls_iff, mem_calls_iff]
  simp only [h.mem_iff]

theorem countP_absorbed_unpurged_perm (h : found.Perm found') :
    (unpurged context options suppliers ledger found).countP Artifact.absorbed =
      (unpurged context options suppliers ledger found').countP Artifact.absorbed := by
  have hsettle : settle found = settle found' := settle_alike (h.map AnchorMatch.placeless)
  have hcomponents : ((found.filter (·.enters context)).map AnchorMatch.component).Perm
      ((found'.filter (·.enters context)).map AnchorMatch.component) :=
    (h.filter _).map _
  have hhanded : ((calls context options ledger found).flatMap (handedOut suppliers)).Perm
      ((calls context options ledger found').flatMap (handedOut suppliers)) :=
    (calls_perm h).flatMap_right _
  rw [unpurged, unpurged, List.countP_append, List.countP_append,
    countP_arrivals Expansion.countP_absorbed_artifactsOf,
    countP_arrivals Expansion.countP_absorbed_artifactsOf, hsettle, hcomponents.countP_eq,
    hhanded.countP_eq]

theorem summary_perm (h : found.Perm found') :
    summary context options suppliers ledger found =
      summary context options suppliers ledger found' := by
  have hcovered : (covered context found).Perm (covered context found') := h.flatMap_right _
  rw [summary, summary, h.length_eq, h.countP_eq, hcovered.length_eq, h.countP_eq,
    (calls_perm h).length_eq, countP_absorbed_unpurged_perm h]

end Outcome

namespace Absorbed

open ScanContext

/-- What two absorptions of one context agree on. -/
structure Agrees (context : ScanContext) (options : AbsorptionOptions) (a a' : Absorbed) :
    Prop where
  files : a.context.files = a'.context.files
  /-- The components that were there and stay, and those that were added, in some order. -/
  components : ∃ added added',
    a.context.components =
      context.components.filter (fun c => !(options.purgeAbsorbed && c.absorbed)) ++ added ∧
    a'.context.components =
      context.components.filter (fun c => !(options.purgeAbsorbed && c.absorbed)) ++ added' ∧
    added.Perm added'
  summary : a.summary = a'.summary
  calls : a.calls.Perm a'.calls

/-- Matches can be applied in any order or in none, and absorptions that apply them in two orders
agree. -/
theorem ofMatches_perm (found found' : List AnchorMatch) (context : ScanContext)
    (options : AbsorptionOptions) (suppliers : Suppliers) (ledger : Ledger)
    (h : found.Perm found') :
    (∃ e e', ofMatches found context options suppliers ledger = .error e ∧
      ofMatches found' context options suppliers ledger = .error e') ∨
    ∃ a a', ofMatches found context options suppliers ledger = .ok a ∧
      ofMatches found' context options suppliers ledger = .ok a' ∧
      a.Agrees context options a' := by
  have hsucceeds : (∃ a, ofMatches found context options suppliers ledger = .ok a) ↔
      ∃ a, ofMatches found' context options suppliers ledger = .ok a := by
    rw [exists_ofMatches_iff, exists_ofMatches_iff]
    simp only [h.mem_iff]
  cases ha : ofMatches found context options suppliers ledger with
  | error e =>
    cases ha' : ofMatches found' context options suppliers ledger with
    | error e' => exact .inl ⟨e, e', rfl, rfl⟩
    | ok a' =>
      obtain ⟨a, hok⟩ := hsucceeds.2 ⟨a', ha'⟩
      rw [ha] at hok
      cases hok
  | ok a =>
    obtain ⟨a', ha'⟩ := hsucceeds.1 ⟨a, ha⟩
    obtain ⟨hcalls, -, hsummary⟩ := Outcome.account_ofMatches ha
    obtain ⟨hcalls', -, hsummary'⟩ := Outcome.account_ofMatches ha'
    refine .inr ⟨a, a', rfl, ha', ?_⟩
    constructor
    · rw [Outcome.context_ofMatches ha, Outcome.context_ofMatches ha',
        Outcome.files_final_perm h]
    · refine ⟨(found.filter (·.enters context)).map AnchorMatch.component,
        (found'.filter (·.enters context)).map AnchorMatch.component, ?_, ?_,
        (h.filter _).map _⟩
      · rw [Outcome.context_ofMatches ha]
        exact Outcome.components_final_of_keeps
      · rw [Outcome.context_ofMatches ha']
        exact Outcome.components_final_of_keeps
    · rw [hsummary, hsummary', Outcome.summary_perm h]
    · rw [hcalls, hcalls']
      exact Outcome.calls_perm h

/-- Two matches that share a file and a supplier, and one that covers nothing. The artifact that
the supplier hands out belongs to the first of them, and nothing else tells them apart. -/
theorem ofMatches_perm_shared :
    let site (part : String) (includes : String) : AnchorMatch :=
      { descriptor := { name := part, version := "1", part, includes, supplier := some 7 }
        path := some "app/pkg", checksum := "*", scanRoot := "/scan", ownership := ⟨"", "app"⟩
        assetIdChain := [], rootPaths := .empty }
    let found := [site "none" "x/*", site "outer" "app/**", site "inner" "app/lib/*"]
    let context : ScanContext :=
      .ofScanned "/scan" [{ path := "app/a" }, { path := "app/lib/b" }, { path := "c" }] []
    let options : AbsorptionOptions := { purgeAbsorbed := false }
    let suppliers : Suppliers := fun _ => .ok { artifacts := [{ id := "dep", kind := .file }] }
    let shown (a : Absorbed) := a.context.artifacts.map fun r =>
      (r.id, r.absorbed, r.markers.entries.map Prod.fst)
    found.Perm found.reverse ∧
    ∃ a a', ofMatches found context options suppliers {} = .ok a ∧
      ofMatches found.reverse context options suppliers {} = .ok a' ∧
      a.Agrees context options a' ∧
      shown a =
        [("a", true, ["AID-outer"]), ("b", true, ["AID-inner", "AID-outer"]), ("c", false, []),
          ("outer", false, ["AID-outer"]), ("dep", false, ["AID-outer"]),
          ("inner", false, ["AID-inner"])] ∧
      shown a' =
        [("a", true, ["AID-outer"]), ("b", true, ["AID-inner", "AID-outer"]), ("c", false, []),
          ("inner", false, ["AID-inner"]), ("dep", false, ["AID-inner"]),
          ("outer", false, ["AID-outer"])] := by
  intro site found context options suppliers shown
  have hperm : found.Perm found.reverse := found.reverse_perm.symm
  have hshown : (ofMatches found context options suppliers {}).toOption.map shown =
      some [("a", true, ["AID-outer"]), ("b", true, ["AID-inner", "AID-outer"]), ("c", false, []),
          ("outer", false, ["AID-outer"]), ("dep", false, ["AID-outer"]),
          ("inner", false, ["AID-inner"])] := by
    decide +kernel
  have hshown' : (ofMatches found.reverse context options suppliers {}).toOption.map shown =
      some [("a", true, ["AID-outer"]), ("b", true, ["AID-inner", "AID-outer"]), ("c", false, []),
          ("inner", false, ["AID-inner"]), ("dep", false, ["AID-inner"]),
          ("outer", false, ["AID-outer"])] := by
    decide +kernel
  refine ⟨hperm, ?_⟩
  rcases ofMatches_perm found found.reverse context options suppliers {} hperm with
    ⟨e, -, he, -⟩ | ⟨a, a', ha, ha', hagrees⟩
  · rw [he] at hshown
    cases hshown
  · rw [ha] at hshown
    rw [ha'] at hshown'
    exact ⟨a, a', ha, ha', hagrees, Option.some.inj hshown, Option.some.inj hshown'⟩

end Absorbed

end ComponentScan
