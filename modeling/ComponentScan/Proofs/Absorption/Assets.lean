import ComponentScan.Proofs.Absorption.Accounting
import ComponentScan.Proofs.Absorption.Order

/-!
# Assets

An inventory keeps one asset for each id. Adding assets, one after the other, is told by the list of
what was added: the ids in the order in which they came first, and under each id the attributes of
all that was added under it, where a later value takes the place of an earlier one. It makes no
difference whether an asset is declared or comes with the inventory of a supplier, and nothing but
the assets depends on it (`run_merges`).
-/

namespace ComponentScan

/-! ## Unions -/

namespace StringMap

variable {β : Type}

theorem get?_foldl_put {entries : List (String × β)} (h : Ascending entries) (m : StringMap β)
    (key : String) :
    (entries.foldl (fun m e => m.put e.1 e.2) m).get? key =
      (entries.lookup key).or (m.get? key) := by
  induction entries generalizing m with
  | nil => rfl
  | cons e entries ih =>
    obtain ⟨hfirst, hrest⟩ := List.pairwise_cons.1 h
    rw [List.foldl_cons, ih hrest, get?_put, List.lookup_cons]
    by_cases hkey : key = e.1
    · -- the key does not come again
      have hnone : entries.lookup key = none := by
        rw [List.lookup_eq_none_iff]
        intro e' he'
        have hne : key ≠ e'.1 := fun h' => String.lt_irrefl key (by
          have hlt := hfirst e' he'
          rwa [← hkey, ← h'] at hlt)
        simpa using hne
      simp [hkey ▸ hnone, hkey]
    · simp [hkey, beq_false_of_ne hkey]

/-- Under a key of both maps stands the value of the second one. -/
theorem get?_union (m n : StringMap β) (key : String) :
    (m.union n).get? key = (n.get? key).or (m.get? key) :=
  get?_foldl_put n.ascending m key

theorem empty_union (m : StringMap β) : empty.union m = m :=
  ext_get? fun key => by rw [get?_union]; exact Option.or_none

end StringMap

/-! ## Merging -/

namespace Asset

/-- The attributes of all assets of an id, the later ones in the place of the earlier ones. -/
def attributesUnder (added : List Asset) (id : String) : StringMap String :=
  (added.filter (·.id = id)).foldl (fun m a => m.union a.attributes) .empty

/-- The assets that an inventory holds when some were added to an empty one. -/
def merged (added : List Asset) : List Asset :=
  (added.map (·.id)).eraseDups.map fun id => ⟨id, attributesUnder added id⟩

variable {a : Asset}

theorem attributesUnder_concat (added : List Asset) (a : Asset) (id : String) :
    attributesUnder (added ++ [a]) id =
      if a.id = id then (attributesUnder added id).union a.attributes
      else attributesUnder added id := by
  rw [attributesUnder, List.filter_append]
  by_cases h : a.id = id
  · simp [h, attributesUnder]
  · simp [h, attributesUnder]

/-- Of the values that were added under an id and a key, the last one counts. -/
theorem get?_attributesUnder (added : List Asset) (id key : String) :
    (attributesUnder added id).get? key =
      (added.filter (·.id = id)).reverse.findSome? fun a => a.attributes.get? key := by
  rw [attributesUnder]
  suffices h : ∀ m : StringMap String,
      ((added.filter (·.id = id)).foldl (fun m a => m.union a.attributes) m).get? key =
        ((added.filter (·.id = id)).reverse.findSome? fun a => a.attributes.get? key).or
          (m.get? key) from (h .empty).trans Option.or_none
  induction added.filter (·.id = id) with
  | nil => exact fun m => rfl
  | cons a rest ih =>
    intro m
    rw [List.foldl_cons, ih, StringMap.get?_union, List.reverse_cons, List.findSome?_append,
      List.findSome?_singleton, Option.or_assoc]

/-- An asset that is added to some with other ids is appended. -/
theorem mergeAsset_map {ids : List String} (h : ids.Nodup) (attributes : String → StringMap String)
    (a : Asset) :
    ScanContext.mergeAsset (ids.map fun id => ⟨id, attributes id⟩) a =
      if a.id ∈ ids then
        ids.map fun id =>
          ⟨id, if a.id = id then (attributes id).union a.attributes else attributes id⟩
      else ids.map (fun id => ⟨id, attributes id⟩) ++ [a] := by
  induction ids with
  | nil => rfl
  | cons id ids ih =>
    obtain ⟨hid, h⟩ := List.nodup_cons.1 h
    rw [List.map_cons, ScanContext.mergeAsset]
    by_cases heq : id = a.id
    · -- the id does not come again
      rw [if_pos heq, if_pos (heq ▸ List.mem_cons_self), List.map_cons, if_pos heq.symm]
      congr 1
      refine List.map_congr_left fun id' hid' => ?_
      have hne : a.id ≠ id' := fun h' => hid (heq ▸ h' ▸ hid')
      rw [if_neg hne]
    · have hmem : a.id ∈ id :: ids ↔ a.id ∈ ids := by simp [Ne.symm heq]
      rw [if_neg heq, ih h]
      by_cases hin : a.id ∈ ids
      · rw [if_pos hin, if_pos (hmem.2 hin), List.map_cons, if_neg (Ne.symm heq)]
      · rw [if_neg hin, if_neg (mt hmem.1 hin), List.cons_append]

theorem mergeAsset_merged (added : List Asset) (a : Asset) :
    ScanContext.mergeAsset (merged added) a = merged (added ++ [a]) := by
  have hids : ((added ++ [a]).map (·.id)).eraseDups =
      if a.id ∈ added.map (·.id) then (added.map (·.id)).eraseDups
      else (added.map (·.id)).eraseDups ++ [a.id] := by
    rw [List.map_append, List.map_singleton, eraseDups_concat]
  rw [merged, mergeAsset_map (nodup_eraseDups _), merged, hids]
  simp only [List.mem_eraseDups, attributesUnder_concat]
  split
  · rfl
  · rename_i hnew
    have hnone : added.filter (·.id = a.id) = [] := by simpa using hnew
    have hempty : attributesUnder added a.id = .empty := by rw [attributesUnder, hnone]; rfl
    rw [List.map_append, List.map_singleton, if_pos rfl, hempty, StringMap.empty_union]
    congr 1
    refine List.map_congr_left fun id hid => ?_
    have hne : a.id ≠ id := fun h => hnew (h ▸ List.mem_eraseDups.1 hid)
    rw [if_neg hne]

theorem foldl_mergeAsset_merged (added more : List Asset) :
    more.foldl ScanContext.mergeAsset (merged added) = merged (added ++ more) := by
  induction more generalizing added with
  | nil => rw [List.append_nil]; rfl
  | cons a more ih => rw [List.foldl_cons, mergeAsset_merged, ih, List.append_cons added a more]

theorem map_id_merged (added : List Asset) :
    (merged added).map (·.id) = (added.map (·.id)).eraseDups := by
  rw [merged, List.map_map]
  exact List.map_id _

theorem attributes_of_mem_merged {added : List Asset} (h : a ∈ merged added) :
    a.attributes = attributesUnder added a.id := by
  obtain ⟨id, -, rfl⟩ := List.mem_map.1 h
  rfl

/-- Assets of other ids stay where they are. -/
theorem getElem?_mergeAsset {assets : List Asset} {i : Nat} {b : Asset}
    (h : assets[i]? = some b) (hne : b.id ≠ a.id) :
    (ScanContext.mergeAsset assets a)[i]? = some b := by
  induction assets generalizing i with
  | nil => simp at h
  | cons c assets ih =>
    rw [ScanContext.mergeAsset]
    cases i with
    | zero =>
      obtain rfl : c = b := by simpa using h
      rw [if_neg hne]
      rfl
    | succ i =>
      have hrest : assets[i]? = some b := by simpa using h
      split
      · simpa using hrest
      · simpa using ih hrest

end Asset

/-! ## Absorptions -/

namespace Suppliers

/-- The assets that a supplier hands out. -/
def assetsOf (suppliers : Suppliers) (i : SupplierId) : List Asset :=
  match suppliers i with
  | .ok x => x.assets
  | .error _ => []

/-- The suppliers, when they hand out no assets. -/
def withoutAssets (suppliers : Suppliers) : Suppliers := fun i =>
  (suppliers i).map fun x => { x with assets := [] }

end Suppliers

/-- A context but for its assets. -/
def ScanContext.withoutAssets (c : ScanContext) : ScanContext := { c with assets := [] }

namespace Outcome

variable {context : ScanContext} {options : AbsorptionOptions} {suppliers : Suppliers}
  {ledger : Ledger} {found : List AnchorMatch} {a : Absorbed}

/-- A match brings along what the supplier hands out that is called for it. -/
theorem assets_due (done : List AnchorMatch) (m : AnchorMatch) :
    (due options (ledger.called ++ calls context options ledger done) m).flatMap
        suppliers.assetsOf =
      (inventory? context options suppliers ledger done m).elim [] Expansion.assets := by
  cases hexpand : options.expandInventories with
  | false => cases hs : m.descriptor.supplier <;> simp [due, inventory?, hexpand, hs]
  | true =>
    cases hs : m.descriptor.supplier with
    | none => simp [due, inventory?, hs]
    | some i =>
      have hdue : i ∉ ledger.called ++ calls context options ledger done ↔
          i ∉ ledger.called ∧ ∀ m' ∈ done, m'.enters context → m'.descriptor.supplier ≠ some i := by
        rw [List.mem_append, mem_calls_iff, hexpand]
        by_cases hi : i ∈ ledger.called <;> simp [hi]
      rw [due, inventory?, hexpand, hs, if_pos rfl, Option.toList_some, Option.bind_some,
        List.filter_singleton]
      by_cases hi : i ∉ ledger.called ++ calls context options ledger done
      · rw [decide_eq_true hi, cond_true, if_pos ⟨rfl, hdue.1 hi⟩, List.flatMap_singleton,
          Suppliers.assetsOf]
        cases suppliers i <;> rfl
      · rw [decide_eq_false hi, cond_false, if_neg fun h => hi (hdue.2 h.2)]
        rfl

theorem newAssets_entrants (context : ScanContext) (options : AbsorptionOptions)
    (suppliers : Suppliers) (ledger : Ledger) (found : List AnchorMatch) :
    newAssets (entrants context options suppliers ledger [] found) =
      (calls context options ledger found).flatMap suppliers.assetsOf := by
  induction found using List.reverseRecOn with
  | nil => cases h : options.expandInventories <;> simp [entrants, newAssets, calls, carried, h]
  | append_singleton done m ih =>
    rw [newAssets] at ih
    rw [entrants_concat, newAssets, List.flatMap_append, ih]
    by_cases hm : m.enters context = true
    · rw [if_pos hm, calls_concat hm, List.flatMap_append, assets_due, List.flatMap_singleton]
    · rw [if_neg hm, calls_concat_of_not_enters hm, List.flatMap_nil, List.append_nil]

/-- An absorption adds the assets of the suppliers it calls, in the order of the calls. -/
theorem assets_ofMatches (h : Absorbed.ofMatches found context options suppliers ledger = .ok a) :
    a.context.assets =
      (a.calls.flatMap suppliers.assetsOf).foldl ScanContext.mergeAsset context.assets := by
  rw [context_ofMatches h, (account_ofMatches h).1, ← newAssets_entrants, final]

/-! ## What does not depend on assets -/

/-- An inventory but for its assets. -/
def bare (x : Expansion) : Expansion := { x with assets := [] }

theorem inventory?_withoutAssets (earlier : List AnchorMatch) (m : AnchorMatch) :
    inventory? context.withoutAssets options suppliers.withoutAssets ledger earlier m =
      (inventory? context options suppliers ledger earlier m).map bare := by
  rw [inventory?, inventory?, Option.map_bind]
  congr 1
  funext i
  have hbare : (suppliers.withoutAssets i).toOption = (suppliers i).toOption.map bare := by
    rw [Suppliers.withoutAssets]
    cases suppliers i <;> rfl
  rw [Function.comp_apply, hbare, apply_ite (Option.map bare)]
  rfl

theorem entrants_withoutAssets (earlier found : List AnchorMatch) :
    entrants context.withoutAssets options suppliers.withoutAssets ledger earlier found =
      (entrants context options suppliers ledger earlier found).map fun e =>
        (e.1, e.2.map bare) := by
  induction found generalizing earlier with
  | nil => rfl
  | cons m found ih =>
    rw [entrants, entrants, ih, inventory?_withoutAssets, List.map_append, apply_ite (List.map _)]
    rfl

theorem arrivals_map_bare (entered : List (AnchorMatch × Option Expansion)) :
    arrivals (entered.map fun e => (e.1, e.2.map bare)) = arrivals entered := by
  rw [arrivals, List.flatMap_map, arrivals]
  refine List.flatMap_congr fun e _ => ?_
  cases e.2 <;> rfl

theorem newAssets_map_bare (entered : List (AnchorMatch × Option Expansion)) :
    newAssets (entered.map fun e => (e.1, e.2.map bare)) = [] := by
  rw [newAssets, List.flatMap_map, List.flatMap_eq_nil_iff]
  intro e _
  cases e.2 <;> rfl

theorem final_withoutAssets (context : ScanContext) (options : AbsorptionOptions)
    (suppliers : Suppliers) (ledger : Ledger) (found : List AnchorMatch) :
    (final context options suppliers ledger found).withoutAssets =
      final context.withoutAssets options suppliers.withoutAssets ledger found := by
  rw [final, final, entrants_withoutAssets, arrivals_map_bare, newAssets_map_bare]
  rfl

end Outcome

/-! ## Runs -/

/-- A way for assets to get into an inventory: one is declared, or matches are applied that bring
along the inventories of their suppliers. -/
inductive AssetStep where
  | declare (asset : Asset)
  | absorb (found : List AnchorMatch) (options : AbsorptionOptions) (suppliers : Suppliers)
      (ledger : Ledger)

namespace AssetStep

/-- The context after a step. An absorption that fails changes nothing. -/
def apply (c : ScanContext) : AssetStep → ScanContext
  | declare asset => c.addAsset asset
  | absorb found options suppliers ledger =>
    match Absorbed.ofMatches found c options suppliers ledger with
    | .ok a => a.context
    | .error _ => c

/-- The assets that a step adds, in order. -/
def added (c : ScanContext) : AssetStep → List Asset
  | declare asset => [asset]
  | absorb found options suppliers ledger =>
    match Absorbed.ofMatches found c options suppliers ledger with
    | .ok a => a.calls.flatMap suppliers.assetsOf
    | .error _ => []

/-- What a step does besides adding assets. -/
def withoutAssets? : AssetStep → Option AssetStep
  | declare _ => none
  | absorb found options suppliers ledger =>
    some (absorb found options suppliers.withoutAssets ledger)

/-- The context after some steps. -/
def run (c : ScanContext) (steps : List AssetStep) : ScanContext :=
  steps.foldl apply c

/-- The assets that some steps add, in order. -/
def allAdded (c : ScanContext) : List AssetStep → List Asset
  | [] => []
  | step :: steps => step.added c ++ allAdded (step.apply c) steps

variable {c : ScanContext} {before : List Asset}

theorem assets_apply (h : c.assets = Asset.merged before) (step : AssetStep) :
    (step.apply c).assets = Asset.merged (before ++ step.added c) := by
  cases step with
  | declare asset => rw [apply, added, ScanContext.addAsset, h, Asset.mergeAsset_merged]
  | absorb found options suppliers ledger =>
    rw [apply, added]
    split
    · rename_i a ha
      rw [Outcome.assets_ofMatches ha, h, Asset.foldl_mergeAsset_merged]
    · rw [h, List.append_nil]

theorem assets_run (h : c.assets = Asset.merged before) (steps : List AssetStep) :
    (run c steps).assets = Asset.merged (before ++ allAdded c steps) := by
  induction steps generalizing c before with
  | nil => rw [allAdded, List.append_nil]; exact h
  | cons step steps ih =>
    rw [allAdded, ← List.append_assoc]
    exact ih (assets_apply h step)

theorem withoutAssets_apply (c : ScanContext) (step : AssetStep) :
    (step.apply c).withoutAssets = run c.withoutAssets step.withoutAssets?.toList := by
  cases step with
  | declare asset => rfl
  | absorb found options suppliers ledger =>
    have hok : (∃ a, Absorbed.ofMatches found c options suppliers ledger = .ok a) ↔
        ∃ a, Absorbed.ofMatches found c.withoutAssets options suppliers.withoutAssets ledger =
          .ok a := by
      rw [Absorbed.exists_ofMatches_iff, Absorbed.exists_ofMatches_iff]
    show ((absorb found options suppliers ledger).apply c).withoutAssets =
      (absorb found options suppliers.withoutAssets ledger).apply c.withoutAssets
    rw [apply, apply]
    split
    · rename_i a ha
      obtain ⟨b, hb⟩ := hok.1 ⟨a, ha⟩
      rw [Outcome.context_ofMatches ha, Outcome.final_withoutAssets, hb]
      exact (Outcome.context_ofMatches hb).symm
    · rename_i e he
      split
      · rename_i b hb
        obtain ⟨a, ha⟩ := hok.2 ⟨b, hb⟩
        rw [he] at ha
        cases ha
      · rfl

theorem withoutAssets_run (c : ScanContext) (steps : List AssetStep) :
    (run c steps).withoutAssets = run c.withoutAssets (steps.filterMap withoutAssets?) := by
  induction steps generalizing c with
  | nil => rfl
  | cons step steps ih =>
    have hstep := withoutAssets_apply c step
    rw [run, List.foldl_cons, ← run, ih, hstep, List.filterMap_cons]
    cases step.withoutAssets? <;> rfl

/-- Assets are merged and never duplicated: an inventory that held none has one asset for each id
that was added, in the order in which the ids came first, and each attribute of it has the last
value that was added under the id. A further asset leaves those of other ids as they are, and
without the assets the inventory is the one that the same steps lead to when no assets are added. -/
theorem run_merges (c : ScanContext) (h : c.assets = []) (steps : List AssetStep) :
    let after := run c steps
    let added := allAdded c steps
    (after.assets.map (·.id)).Nodup ∧
    after.assets.map (·.id) = (added.map (·.id)).eraseDups ∧
    (∀ a ∈ added, ∃ b ∈ after.assets, b.id = a.id) ∧
    (∀ b ∈ after.assets, ∀ key, b.attributes.get? key =
      (added.filter (·.id = b.id)).reverse.findSome? fun a => a.attributes.get? key) ∧
    (∀ (a b : Asset) (i : Nat), after.assets[i]? = some b → b.id ≠ a.id →
      (after.addAsset a).assets[i]? = some b) ∧
    after.withoutAssets = run c (steps.filterMap withoutAssets?) := by
  intro after added
  have hassets : after.assets = Asset.merged ([] ++ added) := assets_run h steps
  rw [List.nil_append] at hassets
  have hids : after.assets.map (·.id) = (added.map (·.id)).eraseDups := by
    rw [hassets, Asset.map_id_merged]
  have hnone : c.withoutAssets = c := by rw [ScanContext.withoutAssets, ← h]
  refine ⟨hids ▸ nodup_eraseDups _, hids, fun a ha => ?_, fun b hb key => ?_,
    fun a b i hb hne => Asset.getElem?_mergeAsset hb hne, hnone ▸ withoutAssets_run c steps⟩
  · have hid : a.id ∈ after.assets.map (·.id) := by
      rw [hids, List.mem_eraseDups]
      exact List.mem_map_of_mem ha
    exact List.mem_map.1 hid
  · rw [Asset.attributes_of_mem_merged (hassets ▸ hb), Asset.get?_attributesUnder]

/-- An image that is declared, comes again with the inventory of a supplier, next to a library, and
is declared once more. -/
theorem run_merges_image :
    let asset (id : String) (attributes : List (String × String)) : Asset :=
      ⟨id, .ofList attributes⟩
    let lib : AnchorMatch :=
      { descriptor := { name := "lib", version := "1", part := "lib-1", supplier := some 7,
                        includes := "lib/*" }
        path := some "lib/p.json", checksum := "*", scanRoot := "/scan", ownership := ⟨"", ""⟩
        assetIdChain := [], rootPaths := .empty }
    let suppliers : Suppliers := fun _ => .ok
      { assets := [asset "lib" [("kind", "zip")], asset "image" [("os", "linux"), ("tag", "2")]] }
    let steps : List AssetStep :=
      [.declare (asset "image" [("arch", "arm"), ("tag", "1")]), .absorb [lib] {} suppliers {},
        .declare (asset "image" [("arch", "x86")])]
    let c : ScanContext := .ofScanned "/scan" [{ path := "lib/p.json" }, { path := "b" }] []
    c.assets = [] ∧ (run c steps).assets.map (·.id) = ["image", "lib"] ∧
      (∀ b ∈ (run c steps).assets, b.id = "image" →
        b.attributes.get? "arch" = some "x86" ∧ b.attributes.get? "tag" = some "2" ∧
          b.attributes.get? "os" = some "linux") ∧
      (run c steps).artifacts.map (·.id) = ["b", "lib-1"] := by
  intro asset lib suppliers steps c
  obtain ⟨-, hids, -, hattributes, -, -⟩ := run_merges c rfl steps
  refine ⟨rfl, hids.trans (by decide +kernel), fun b hb hid => ?_, by decide +kernel⟩
  rw [hattributes b hb, hattributes b hb, hattributes b hb, hid]
  exact ⟨by decide +kernel, by decide +kernel, by decide +kernel⟩

end AssetStep

end ComponentScan
