/-!
# String maps

Finite maps from texts, kept as the list of their entries by ascending key. A map is determined
by its view `get?`, and each operation is known by what it does to that view.
-/

namespace ComponentScan

/-- Entries whose keys ascend strictly. -/
def Ascending {β : Type} (entries : List (String × β)) : Prop :=
  entries.Pairwise (fun a b => a.1 < b.1)

/-- A finite map from texts. -/
structure StringMap (β : Type) where
  entries : List (String × β)
  ascending : Ascending entries

namespace StringMap

variable {β : Type}

instance [DecidableEq β] : DecidableEq (StringMap β) := fun a b =>
  decidable_of_iff (a.entries = b.entries)
    ⟨fun h => by cases a; cases b; simp_all, fun h => h ▸ rfl⟩

instance [Repr β] : Repr (StringMap β) := ⟨fun m n => reprPrec m.entries n⟩

def empty : StringMap β := ⟨[], List.Pairwise.nil⟩

instance : Inhabited (StringMap β) := ⟨empty⟩

def keys (m : StringMap β) : List String := m.entries.map (·.1)

def isEmpty (m : StringMap β) : Bool := m.entries.isEmpty

/-- The value kept under a key. -/
def get? (m : StringMap β) (key : String) : Option β :=
  m.entries.lookup key

/-! ## Changing an entry -/

/-- Puts `f` of what is kept under `key` in its place. -/
def alterEntries (key : String) (f : Option β → β) : List (String × β) → List (String × β)
  | [] => [(key, f none)]
  | (k, v) :: rest =>
    if key < k then (key, f none) :: (k, v) :: rest
    else if key = k then (k, f (some v)) :: rest
    else (k, v) :: alterEntries key f rest

theorem mem_keys_alterEntries {key k : String} {f : Option β → β} {entries : List (String × β)}
    (h : k ∈ (alterEntries key f entries).map (·.1)) : k = key ∨ k ∈ entries.map (·.1) := by
  induction entries with
  | nil => simpa [alterEntries] using h
  | cons e rest ih =>
    obtain ⟨k', v⟩ := e
    simp only [alterEntries] at h
    split at h
    · simpa using h
    · split at h
      · exact .inr (by simpa using h)
      · simp only [List.map_cons, List.mem_cons] at h ⊢
        rcases h with h | h
        · exact .inr (.inl h)
        · exact (ih h).imp id .inr

/-- Texts are ordered totally. -/
theorem lt_of_not_lt_of_ne {a b : String} (h : ¬ a < b) (hn : a ≠ b) : b < a := by
  apply Decidable.byContradiction
  intro h'
  exact hn (String.le_antisymm (String.not_lt.1 h') (String.not_lt.1 h))

theorem ascending_alterEntries (key : String) (f : Option β → β) {entries : List (String × β)}
    (h : Ascending entries) : Ascending (alterEntries key f entries) := by
  induction entries with
  | nil => simp [alterEntries, Ascending]
  | cons e rest ih =>
    obtain ⟨k, v⟩ := e
    obtain ⟨hk, hr⟩ := List.pairwise_cons.1 h
    simp only [alterEntries]
    split
    · rename_i hlt
      refine List.pairwise_cons.2 ⟨fun e he => ?_, h⟩
      rcases List.mem_cons.1 he with rfl | he
      · exact hlt
      · exact String.lt_trans hlt (hk e he)
    · split
      · exact List.pairwise_cons.2 ⟨hk, hr⟩
      · rename_i hlt hne
        refine List.pairwise_cons.2 ⟨fun e he => ?_, ih hr⟩
        rcases mem_keys_alterEntries (List.mem_map_of_mem (f := (·.1)) he) with h | h
        · exact h ▸ lt_of_not_lt_of_ne hlt hne
        · obtain ⟨e', he', heq⟩ := List.mem_map.1 h
          exact heq ▸ hk e' he'

/-- Puts `f` of what is kept under `key` in its place. -/
def alter (m : StringMap β) (key : String) (f : Option β → β) : StringMap β :=
  ⟨alterEntries key f m.entries, ascending_alterEntries key f m.ascending⟩

/-- Keeps a value under a key, in the place of any other. -/
def put (m : StringMap β) (key : String) (value : β) : StringMap β :=
  m.alter key fun _ => value

/-- Keeps a value under a key unless there is one. -/
def putNew (m : StringMap β) (key : String) (value : β) : StringMap β :=
  m.alter key fun old => old.getD value

/-- The map of entries of which a later one takes the place of an earlier one. -/
def ofList (entries : List (String × β)) : StringMap β :=
  entries.foldl (fun m e => m.put e.1 e.2) empty

/-- The entries of both maps; under a key of both, that of `other`. -/
def union (m other : StringMap β) : StringMap β :=
  other.entries.foldl (fun m e => m.put e.1 e.2) m

/-! ## The view -/

theorem lookup_alterEntries_self (key : String) (f : Option β → β) {entries : List (String × β)}
    (h : Ascending entries) :
    (alterEntries key f entries).lookup key = some (f (entries.lookup key)) := by
  induction entries with
  | nil => simp [alterEntries]
  | cons e rest ih =>
    obtain ⟨k, v⟩ := e
    obtain ⟨hk, hr⟩ := List.pairwise_cons.1 h
    simp only [alterEntries]
    split
    · rename_i hlt
      have hne : key ≠ k := fun h => String.lt_irrefl k (h ▸ hlt)
      have hrest : rest.lookup key = none := by
        rw [List.lookup_eq_none_iff]
        intro e he
        have : key ≠ e.1 := fun h =>
          String.lt_irrefl key (String.lt_trans hlt (h ▸ hk e he))
        simpa using this
      simp [List.lookup_cons, beq_false_of_ne hne, hrest]
    · split
      · rename_i heq
        subst heq
        simp
      · rename_i hne
        simp [List.lookup_cons, beq_false_of_ne hne, ih hr]

theorem lookup_alterEntries_of_ne {key k : String} (hne : k ≠ key) (f : Option β → β)
    (entries : List (String × β)) :
    (alterEntries key f entries).lookup k = entries.lookup k := by
  induction entries with
  | nil => simp [alterEntries, List.lookup_cons, beq_false_of_ne hne]
  | cons e rest ih =>
    obtain ⟨k', v⟩ := e
    simp only [alterEntries]
    split
    · simp [List.lookup_cons, beq_false_of_ne hne]
    · split
      · rename_i heq
        subst heq
        simp [List.lookup_cons, beq_false_of_ne hne]
      · by_cases hk : k = k'
        · simp [hk]
        · simp [List.lookup_cons, beq_false_of_ne hk, ih]

theorem get?_alter (m : StringMap β) (key k : String) (f : Option β → β) :
    (m.alter key f).get? k = if k = key then some (f (m.get? key)) else m.get? k := by
  split
  · rename_i h
    exact h ▸ lookup_alterEntries_self key f m.ascending
  · rename_i h
    exact lookup_alterEntries_of_ne h f m.entries

theorem get?_put (m : StringMap β) (key k : String) (value : β) :
    (m.put key value).get? k = if k = key then some value else m.get? k :=
  get?_alter m key k _

theorem get?_putNew (m : StringMap β) (key k : String) (value : β) :
    (m.putNew key value).get? k =
      if k = key then some ((m.get? key).getD value) else m.get? k :=
  get?_alter m key k _

end StringMap

/-- A finite set of texts. -/
abbrev StringSet := StringMap Unit

namespace StringSet

/-- The set of the texts in a list. -/
def ofList (texts : List String) : StringSet :=
  StringMap.ofList (texts.map fun t => (t, ()))

/-- The texts of the set, ascending. -/
def toList (s : StringSet) : List String := s.keys

end StringSet

end ComponentScan
