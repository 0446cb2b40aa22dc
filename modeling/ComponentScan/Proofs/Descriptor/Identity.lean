import ComponentScan.Descriptor.Store
import Mathlib.Data.List.Induction

/-!
# What the qualifier of a descriptor tells apart

A store turns a descriptor away when it has accepted one with the same qualifier. The qualifier is
the identity of a descriptor written as one text, the parts separated by colons, so it names the
identity only together with the number of colons inside the parts (`Identity.eq_iff`). Two
components that differ in where the colons stand are taken for one (`insert_of_moved_colon`).
-/

namespace ComponentScan

/-! ## Identities -/

/-- What makes two descriptors describe one component. -/
structure Identity where
  name : String
  version : String
  /-- The folded anchor, or the empty text. -/
  anchor : String
  /-- The checksum of the anchor, or the empty text. -/
  checksum : String
  deriving Repr, DecidableEq

namespace Identity

/-- The parts with a colon between each two of them. -/
def text (i : Identity) : String :=
  i.name ++ ":" ++ i.version ++ ":" ++ i.anchor ++ ":" ++ i.checksum

/-- The numbers of colons in the parts that a colon follows. -/
def colons (i : Identity) : Nat × Nat × Nat :=
  (i.name.toList.count ':', i.version.toList.count ':', i.anchor.toList.count ':')

/-- A separator is found again when it is known how many stand in front of it. -/
theorem append_cons_inj_of_count {α : Type} [DecidableEq α] {s : α}
    {front front' rest rest' : List α} (h : front ++ s :: rest = front' ++ s :: rest')
    (hcount : front.count s = front'.count s) : front = front' ∧ rest = rest' := by
  induction front generalizing front' with
  | nil =>
    cases front' with
    | nil => simpa using h
    | cons c cs =>
      obtain ⟨rfl, -⟩ := List.cons.inj h
      simp at hcount
  | cons c cs ih =>
    cases front' with
    | nil =>
      obtain ⟨rfl, -⟩ := List.cons.inj h
      simp at hcount
    | cons c' cs' =>
      obtain ⟨rfl, htail⟩ := List.cons.inj h
      rw [List.count_cons, List.count_cons, Nat.add_right_cancel_iff] at hcount
      obtain ⟨rfl, hrest⟩ := ih htail hcount
      exact ⟨rfl, hrest⟩

theorem toList_text (i : Identity) :
    i.text.toList = i.name.toList ++ ':' :: (i.version.toList ++ ':' :: (i.anchor.toList ++
      ':' :: i.checksum.toList)) := by
  simp [text]

/-- The text of an identity and the places of its colons determine it. -/
theorem eq_iff {i j : Identity} : i = j ↔ i.text = j.text ∧ i.colons = j.colons := by
  refine ⟨fun h => ⟨congrArg text h, congrArg colons h⟩, fun ⟨htext, hcolons⟩ => ?_⟩
  rw [← String.toList_inj, toList_text, toList_text] at htext
  simp only [colons, Prod.mk.injEq] at hcolons
  obtain ⟨hname, hversion, hanchor⟩ := hcolons
  obtain ⟨hname, htext⟩ := append_cons_inj_of_count htext hname
  obtain ⟨hversion, htext⟩ := append_cons_inj_of_count htext hversion
  obtain ⟨hanchor, hchecksum⟩ := append_cons_inj_of_count htext hanchor
  cases i
  cases j
  rw [mk.injEq]
  exact ⟨String.toList_inj.1 hname, String.toList_inj.1 hversion, String.toList_inj.1 hanchor,
    String.toList_inj.1 hchecksum⟩

end Identity

/-- The identity of a descriptor. -/
def Descriptor.identity (d : Descriptor) : Identity where
  name := d.name
  version := d.version
  anchor := Text.fold (d.effectiveAnchor.getD "")
  checksum := d.effectiveChecksum.getD ""

theorem Descriptor.text_identity (d : Descriptor) : d.identity.text = d.qualifier := rfl

/-! ## Stores -/

namespace DescriptorStore

variable {s : DescriptorStore} {d e : Descriptor} {ds : List Descriptor}

/-- The store after a sequence of insertions. -/
def insertAll (s : DescriptorStore) (ds : List Descriptor) : DescriptorStore :=
  ds.foldl (fun s d => (s.insert d).2) s

theorem insertAll_concat (s : DescriptorStore) (ds : List Descriptor) (d : Descriptor) :
    s.insertAll (ds ++ [d]) = ((s.insertAll ds).insert d).2 := by
  rw [insertAll, List.foldl_append]
  rfl

theorem contains_iff {qualifier : String} :
    s.contains qualifier = true ↔ ∃ e ∈ s.descriptors, e.qualifier = qualifier := by
  simp [contains]

theorem insert_fst : (s.insert d).1 = !s.contains d.qualifier := by
  rw [insert]
  split <;> simp_all

theorem mem_insert_iff :
    d ∈ (s.insert e).2.descriptors ↔ d ∈ s.descriptors ∨ (s.insert e).1 = true ∧ d = e := by
  rw [insert]
  split <;> simp

/-- What a store holds in the end was accepted when it was inserted. -/
theorem mem_insertAll_iff :
    d ∈ (insertAll {} ds).descriptors ↔
      ∃ before after, ds = before ++ d :: after ∧ ((insertAll {} before).insert d).1 = true := by
  induction ds using List.reverseRecOn with
  | nil => simp [insertAll]
  | append_singleton ds e ih =>
    rw [insertAll_concat, mem_insert_iff]
    constructor
    · rintro (h | ⟨haccepted, rfl⟩)
      · obtain ⟨before, after, rfl, haccepted⟩ := ih.1 h
        exact ⟨before, after ++ [e], by simp, haccepted⟩
      · exact ⟨ds, [], rfl, haccepted⟩
    · rintro ⟨before, after, hds, haccepted⟩
      rcases List.eq_nil_or_concat after with rfl | ⟨after, e', rfl⟩
      · obtain ⟨rfl, rfl⟩ : ds = before ∧ e = d := by simpa using hds
        exact .inr ⟨haccepted, rfl⟩
      · obtain ⟨rfl, rfl⟩ : ds = before ++ d :: after ∧ e = e' := by
          rw [List.concat_eq_append, ← List.cons_append, ← List.append_assoc] at hds
          simpa using List.append_inj' hds rfl
        exact .inl (ih.2 ⟨before, after, rfl, haccepted⟩)

/-- A store turns a descriptor away exactly when it has accepted one with the same qualifier. The
qualifier and the places of the colons make up the identity, so among descriptors with their
colons at the same places only the same component is turned away. -/
theorem insert_eq_false_iff (ds : List Descriptor) (d : Descriptor) :
    let accepted (e : Descriptor) : Prop :=
      ∃ before after, ds = before ++ e :: after ∧ ((insertAll {} before).insert e).1 = true
    let turnedAway : Prop := ((insertAll {} ds).insert d).1 = false
    (turnedAway ↔ ∃ e, accepted e ∧ e.qualifier = d.qualifier) ∧
    (∀ e : Descriptor, e.identity = d.identity ↔
      e.qualifier = d.qualifier ∧ e.identity.colons = d.identity.colons) ∧
    ((∀ e ∈ ds, e.identity.colons = d.identity.colons) →
      (turnedAway ↔ ∃ e, accepted e ∧ e.identity = d.identity)) := by
  intro accepted turnedAway
  have hturned : turnedAway ↔ ∃ e, accepted e ∧ e.qualifier = d.qualifier := by
    simp only [turnedAway, accepted, insert_fst, Bool.not_eq_false', contains_iff,
      mem_insertAll_iff]
  have hidentity (e : Descriptor) : e.identity = d.identity ↔
      e.qualifier = d.qualifier ∧ e.identity.colons = d.identity.colons := by
    rw [Identity.eq_iff, Descriptor.text_identity, Descriptor.text_identity]
  refine ⟨hturned, hidentity, fun hcolons => hturned.trans (exists_congr fun e => ?_)⟩
  refine and_congr_right fun ⟨before, after, hds, _⟩ => ?_
  rw [hidentity, and_iff_left (hcolons e (by simp [hds]))]

/-- Of two versions of a component whose name holds a colon, none is turned away. -/
theorem insert_eq_false_iff_versions :
    let first : Descriptor := { name := "org:lib", version := "1" }
    let second : Descriptor := { name := "org:lib", version := "2" }
    (∀ e ∈ [first], e.identity.colons = second.identity.colons) ∧
      ((insertAll {} [first]).insert second).1 = true := by
  intro first second
  have hcolons : ∀ e ∈ [first], e.identity.colons = second.identity.colons := by
    simp [first, second, Descriptor.identity, Identity.colons, Descriptor.effectiveAnchor]
  refine ⟨hcolons, ?_⟩
  obtain ⟨-, -, hturned⟩ := insert_eq_false_iff [first] second
  rw [← Bool.not_eq_false, hturned hcolons]
  rintro ⟨e, ⟨before, after, hds, -⟩, he⟩
  obtain rfl : e = first := by
    have hmem : e ∈ [first] := by simp [hds]
    simpa using hmem
  simp [first, second, Descriptor.identity] at he

/-- A colon that moves from one part into the next one keeps the qualifier, so another component is
turned away, also where the two are pinned to different content at one anchor. -/
theorem insert_of_moved_colon :
    let turnsAway (first second : Descriptor) : Prop :=
      first.identity ≠ second.identity ∧ ((insertAll {} [first]).insert second).1 = false
    turnsAway { name := "org:lib", version := "1" } { name := "org", version := "lib:1" } ∧
      turnsAway
        { name := "lib", version := "1", anchor := some "b", anchorChecksum := some "x:b:y" }
        { name := "lib", version := "1:b:x", anchor := some "b", anchorChecksum := some "y" } := by
  decide +kernel

end DescriptorStore

end ComponentScan
