import ComponentScan.Proofs.Absorption.Loose
import ComponentScan.Proofs.Anchor.Sightings
import ComponentScan.Proofs.Traversal

/-!
# Absorptions after absorbed files are gone

A later absorption sees the absorbed files of an earlier one, unless they were removed: components
may stand at them, and may enter on their account. Where they were removed, matching finds the
matches that stand at a loose file (`all_thins`), and of these the ones enter that cover a loose
file or need none (`components_final_thins`).
-/

namespace ComponentScan

namespace ScanContext

variable {c c' : ScanContext}

/-- An inventory, and what is left of it when the absorbed files are taken out. Files at one path
are absorbed together, and components are not absorbed. -/
structure Thins (c c' : ScanContext) : Prop where
  baseDir : c'.baseDir = c.baseDir
  assetIdChain : c'.assetIdChain = c.assetIdChain
  files : c'.files = c.loose
  components : c'.components = c.components
  present : ∀ a ∈ c.components, a.absorbed = false
  together : ∀ a ∈ c.files, ∀ b ∈ c.files, a.normalizedPath = b.normalizedPath →
    a.absorbed = b.absorbed

theorem Thins.loose (h : Thins c c') : c'.loose = c.loose := by
  rw [loose_eq_filter_files, h.files, List.filter_eq_self]
  intro a ha
  simp [(mem_loose_iff.1 ha).2.2]

/-- A loose file stands at the path of a file that is loose itself. -/
theorem Thins.any_loose_iff (h : Thins c c') {a : Artifact} (ha : a ∈ c.files) :
    c.loose.any (·.normalizedPath == a.normalizedPath) = !a.absorbed := by
  obtain ⟨hmem, hfile⟩ := List.mem_filter.1 ha
  rw [Bool.eq_iff_iff, List.any_eq_true]
  constructor
  · rintro ⟨b, hb, hpath⟩
    obtain ⟨hbmem, hbkind, hbloose⟩ := mem_loose_iff.1 hb
    have hbfile : b ∈ c.files := List.mem_filter.2 ⟨hbmem, by simp [Artifact.isFile, hbkind]⟩
    have htogether := h.together b hbfile a ha (by simpa using hpath)
    rw [← htogether, hbloose]
    rfl
  · intro hloose
    refine ⟨a, mem_loose_iff.2 ⟨hmem, ?_, by simpa using hloose⟩, by simp⟩
    simpa [Artifact.isFile] using hfile

end ScanContext

open ScanContext

/-! ## The first absorption -/

namespace Outcome

variable {context : ScanContext} {options options' : AbsorptionOptions}
  {suppliers suppliers' : Suppliers} {ledger ledger' : Ledger} {found : List AnchorMatch}

/-- Where absorbed artifacts are removed, all files are loose. -/
theorem files_final_of_purge (hpurge : options.purgeAbsorbed = true) :
    (final context options suppliers ledger found).files =
      (final context options suppliers ledger found).loose := by
  rw [loose_eq_filter_files, eq_comm, List.filter_eq_self, files, artifacts_of_purge hpurge]
  intro a ha
  exact (List.mem_filter.1 (List.mem_filter.1 ha).1).2

theorem file_of_mem_final {a : Artifact}
    (h : a ∈ (final context options suppliers ledger found).files) :
    ∃ b ∈ context.artifacts, b.kind = .file ∧ settle found b = a := by
  rw [files_final] at h
  obtain ⟨b, hb, hsettle⟩ := List.mem_map.1 (List.mem_filter.1 h).1
  obtain ⟨hmem, hfile⟩ := List.mem_filter.1 hb
  exact ⟨b, hmem, by simpa [Artifact.isFile] using hfile, hsettle⟩

/-- One absorption of an inventory in which nothing is absorbed, told with and without removal. -/
theorem final_thins (hfresh : ∀ a ∈ context.artifacts, a.absorbed = false)
    (hpurge : options'.purgeAbsorbed = true) :
    (final context options suppliers ledger found).Thins
      (final context options' suppliers' ledger' found) where
  baseDir := rfl
  assetIdChain := rfl
  files := by rw [files_final_of_purge hpurge, loose_final, loose_final]
  components := by
    have hpresent : ∀ a ∈ context.components, a.absorbed = false :=
      fun a ha => hfresh a (mem_components_iff.1 ha).1
    rw [components_final hpresent, components_final hpresent]
  present := absorbed_of_mem_components_final fun a ha => hfresh a (mem_components_iff.1 ha).1
  together := by
    intro a ha b hb hpath
    obtain ⟨a, hamem, hakind, rfl⟩ := file_of_mem_final ha
    obtain ⟨b, hbmem, hbkind, rfl⟩ := file_of_mem_final hb
    have hcovers (m : AnchorMatch) : m.covers a = m.covers b :=
      covers_congr (hakind.trans hbkind.symm) hpath m
    simp only [absorbed_settle, hfresh a hamem, hfresh b hbmem, hcovers]

end Outcome

/-! ## Matching -/

theorem filter_filterMap_of_eq {α β : Type} {f : α → Option β} {q : β → Bool} {r : α → Bool}
    {l : List α} (h : ∀ a ∈ l, ∀ b, f a = some b → q b = r a) :
    (l.filterMap f).filter q = (l.filter r).filterMap f := by
  rw [List.filter_filterMap, List.filterMap_filter]
  refine List.filterMap_congr fun a ha => ?_
  cases hf : f a with
  | none => simp
  | some b => rw [Option.filter_some, h a ha b hf]

namespace AnchorMatch

variable {c c' : ScanContext} {d : Descriptor} {found : List AnchorMatch}

/-- Whether a match stands at a loose file, or at the scan root. -/
def standsLoose (c : ScanContext) (m : AnchorMatch) : Bool :=
  m.path.all fun path => c.loose.any (·.normalizedPath == some path)

theorem at?_congr (h : c.Thins c') : at? c' d = at? c d := by
  funext p count expected candidate
  rw [at?, at?, h.baseDir, h.assetIdChain]

/-- The matches that are left are those at loose files. -/
theorem filterMap_at?_thins (h : c.Thins c') (p : AnchorPattern) (count : Nat) (expected : String) :
    (candidates c').filterMap (at? c' d p count expected) =
      ((candidates c).filterMap (at? c d p count expected)).filter (standsLoose c) := by
  rw [at?_congr h, candidates, candidates, h.files, loose_eq_filter_files,
    List.filterMap_filterMap, List.filterMap_filterMap, eq_comm]
  refine filter_filterMap_of_eq fun a ha m hm => ?_
  obtain ⟨candidate, hcandidate, hm⟩ := Option.bind_eq_some_iff.1 hm
  obtain ⟨path, hpath, rfl⟩ := Option.map_eq_some_iff.1 hcandidate
  obtain ⟨-, hplace, -⟩ := origin_of_at? hm
  rw [standsLoose, hplace, Option.all_some, ← hpath, h.any_loose_iff ha]

theorem ofDescriptor_thins (h : c.Thins c')
    (hfound : ofDescriptor c (candidates c) d = .ok found) :
    ofDescriptor c' (candidates c') d = .ok (found.filter (standsLoose c)) := by
  obtain ⟨⟨anchor, expected⟩, hcheck, hfound⟩ := bind_eq_ok_iff.1 hfound
  rw [ofDescriptor, hcheck]
  dsimp only at hfound
  split at hfound
  · rename_i hroot
    obtain rfl := Except.ok.inj hfound
    refine (if_pos hroot).trans ?_
    rw [whole, whole, h.baseDir, h.assetIdChain]
    rfl
  · rename_i hroot
    obtain ⟨p, hp, hfound⟩ := bind_eq_ok_iff.1 hfound
    obtain rfl := Except.ok.inj hfound
    refine (if_neg hroot).trans ?_
    rw [hp, ← filterMap_at?_thins h]
    rfl

/-- Where absorbed files were removed, matching finds the matches that stand at a loose file. -/
theorem all_thins {descriptors : List Descriptor} {mode : Mode} (h : c.Thins c')
    (hfound : all descriptors c mode = .ok found) :
    all descriptors c' mode = .ok (found.filter (standsLoose c)) := by
  obtain ⟨lists, hlists, hfound⟩ := bind_eq_ok_iff.1 hfound
  obtain rfl : lists.flatten = found := Except.ok.inj hfound
  have hlists' : (descriptors.filter (·.mode == mode)).mapM (ofDescriptor c' (candidates c')) =
      .ok (lists.map (List.filter (standsLoose c))) := by
    rw [mapM_eq_ok_iff, List.forall₂_map_right_iff]
    exact (mapM_eq_ok_iff.1 hlists).imp fun d l hd => ofDescriptor_thins h hd
  rw [List.filter_flatten]
  exact bind_eq_ok_iff.2 ⟨_, hlists', rfl⟩

/-! ## Entering -/

/-- Whether a match stands at a loose file, and covers one or needs none. -/
def supported (c : ScanContext) (m : AnchorMatch) : Bool :=
  standsLoose c m && (c.loose.any m.covers || m.descriptor.needsNoFiles)

theorem enters_thins (h : c.Thins c') (m : AnchorMatch) :
    m.enters c' = (c.loose.any m.covers || m.descriptor.needsNoFiles) := by
  rw [enters, Outcome.any_covers_files, h.files]

theorem enters_of_supported {m : AnchorMatch} (h : m.supported c = true) : m.enters c = true := by
  rw [supported, Bool.and_eq_true, Bool.or_eq_true, List.any_eq_true] at h
  rw [enters, Bool.or_eq_true, List.any_eq_true]
  obtain ⟨-, ⟨a, ha, hcovers⟩ | hneeds⟩ := h
  · exact .inl ⟨a, (mem_loose_iff.1 ha).1, hcovers⟩
  · exact .inr hneeds

/-- Of the matches that are left, those enter that are supported. -/
theorem filter_enters_thins (h : c.Thins c') (found : List AnchorMatch) :
    (found.filter (standsLoose c)).filter (·.enters c') = found.filter (·.supported c) := by
  rw [List.filter_filter]
  simp only [enters_thins h, supported, Bool.and_comm]

/-- Every match that is supported enters. -/
theorem filter_supported (c : ScanContext) (found : List AnchorMatch) :
    (found.filter (·.enters c)).filter (·.supported c) = found.filter (·.supported c) := by
  rw [List.filter_filter]
  congr 1
  funext m
  cases hm : m.supported c with
  | false => simp
  | true => simp [enters_of_supported hm]

end AnchorMatch

/-! ## The second absorption -/

namespace Outcome

variable {c c' : ScanContext} {options options' : AbsorptionOptions}
  {suppliers suppliers' : Suppliers} {ledger ledger' : Ledger} {found : List AnchorMatch}

theorem components_final_thins (h : c.Thins c') :
    (final c' options' suppliers' ledger' (found.filter (AnchorMatch.standsLoose c))).components =
      c.components ++ (found.filter (·.supported c)).map AnchorMatch.component := by
  rw [components_final (h.components ▸ h.present), h.components,
    AnchorMatch.filter_enters_thins h]

/-- The components where absorbed files were removed are some of the components where they were
kept. -/
theorem components_sublist_of_thins (h : c.Thins c') :
    (final c' options' suppliers' ledger'
        (found.filter (AnchorMatch.standsLoose c))).components.Sublist
      (final c options suppliers ledger found).components := by
  rw [components_final_thins h, components_final h.present, ← AnchorMatch.filter_supported]
  exact (List.filter_sublist.map _).append_left _

/-- They are all of them exactly when every match that enters is supported. -/
theorem components_eq_iff_of_thins (h : c.Thins c') :
    (final c options suppliers ledger found).components =
        (final c' options' suppliers' ledger'
          (found.filter (AnchorMatch.standsLoose c))).components ↔
      ∀ m ∈ found, m.enters c = true → m.supported c = true := by
  rw [components_final_thins h, components_final h.present, List.append_cancel_left_eq,
    ← AnchorMatch.filter_supported]
  constructor
  · intro heq m hm henters
    have hlength := congrArg List.length heq
    rw [List.length_map, List.length_map, eq_comm, List.length_filter_eq_length_iff] at hlength
    exact hlength m (List.mem_filter.2 ⟨hm, henters⟩)
  · intro hall
    have hself : (found.filter (·.enters c)).filter (·.supported c) =
        found.filter (·.enters c) := by
      refine List.filter_eq_self.2 fun m hm => ?_
      obtain ⟨hmem, henters⟩ := List.mem_filter.1 hm
      exact hall m hmem henters
    rw [hself]

theorem loose_final_thins (h : c.Thins c') :
    (final c' options' suppliers' ledger' (found.filter (AnchorMatch.standsLoose c))).loose =
      c.loose.filter fun a => !(found.filter (AnchorMatch.standsLoose c)).any (·.covers a) := by
  rw [loose_final, h.loose]

/-- The loose files where absorbed files were kept are some of those where they were removed. -/
theorem loose_sublist_of_thins (h : c.Thins c') :
    (final c options suppliers ledger found).loose.Sublist
      (final c' options' suppliers' ledger'
        (found.filter (AnchorMatch.standsLoose c))).loose := by
  rw [loose_final_thins h, loose_final]
  refine List.monotone_filter_right c.loose fun a ha => ?_
  simp only [Bool.not_eq_true', List.any_eq_false] at ha ⊢
  exact fun m hm => ha m (List.mem_filter.1 hm).1

/-- They are the same when every match that enters is supported. -/
theorem loose_eq_of_thins (h : c.Thins c')
    (hall : ∀ m ∈ found, m.enters c = true → m.supported c = true) :
    (final c options suppliers ledger found).loose =
      (final c' options' suppliers' ledger'
        (found.filter (AnchorMatch.standsLoose c))).loose := by
  rw [loose_final_thins h, loose_final]
  refine List.filter_congr fun a ha => congrArg not ?_
  rw [Bool.eq_iff_iff, List.any_eq_true, List.any_eq_true]
  constructor
  · rintro ⟨m, hm, hcovers⟩
    -- a match that covers a loose file enters
    have henters : m.enters c = true := by
      rw [AnchorMatch.enters, Bool.or_eq_true, List.any_eq_true]
      exact .inl ⟨a, (mem_loose_iff.1 ha).1, hcovers⟩
    have hsupported := hall m hm henters
    rw [AnchorMatch.supported, Bool.and_eq_true] at hsupported
    exact ⟨m, List.mem_filter.2 ⟨hm, hsupported.1⟩, hcovers⟩
  · rintro ⟨m, hm, hcovers⟩
    exact ⟨m, (List.mem_filter.1 hm).1, hcovers⟩

end Outcome

end ComponentScan
