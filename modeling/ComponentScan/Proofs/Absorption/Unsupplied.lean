import ComponentScan.Proofs.Absorption.Accounting

/-!
# Absorptions without suppliers

When no match refers to a supplier, nothing enters the inventory but the components of the matches,
and nobody is called.
-/

namespace ComponentScan.Outcome

variable {context : ScanContext} {options : AbsorptionOptions} {suppliers : Suppliers}
  {ledger : Ledger} {found : List AnchorMatch}

theorem arrivals_of_unsupplied (h : ∀ m ∈ found, m.descriptor.supplier = none)
    (earlier : List AnchorMatch) :
    arrivals (entrants context options suppliers ledger earlier found) =
      (found.filter (·.enters context)).map AnchorMatch.component := by
  induction found generalizing earlier with
  | nil => rfl
  | cons m found ih =>
    have hm : inventory? context options suppliers ledger earlier m = none := by
      rw [inventory?, h m (by simp)]
      rfl
    have hrest := ih (fun m' hm' => h m' (List.mem_cons_of_mem m hm')) (earlier ++ [m])
    rw [entrants, arrivals_append, hrest, hm]
    by_cases henters : m.enters context = true
    · simp [henters, arrivals]
    · simp [henters, arrivals]

theorem unpurged_of_unsupplied (h : ∀ m ∈ found, m.descriptor.supplier = none) :
    unpurged context options suppliers ledger found =
      context.artifacts.map (settle found) ++
        (found.filter (·.enters context)).map AnchorMatch.component := by
  rw [unpurged, arrivals_of_unsupplied h]

theorem calls_of_unsupplied (h : ∀ m ∈ found, m.descriptor.supplier = none) :
    calls context options ledger found = [] := by
  rw [List.eq_nil_iff_forall_not_mem]
  intro i hi
  obtain ⟨-, -, m, hm, -, hs⟩ := mem_calls_iff.1 hi
  rw [h m hm] at hs
  cases hs

end ComponentScan.Outcome
