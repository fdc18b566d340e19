/-!
# Maps sorted by key

A map from texts to values, kept as a list in ascending order of the keys (`SortedMap.sorted`), so
that its listing is determined by its content. Main statement: looking a key up after an insertion
(`find?_insert`).
-/

namespace Rollout

/-- Puts an entry at its place in a sorted list; an entry of the same key is replaced. -/
def insertEntry (key : String) (value : α) : List (String × α) → List (String × α)
  | [] => [(key, value)]
  | (k, v) :: rest =>
    if key < k then (key, value) :: (k, v) :: rest
    else if key = k then (key, value) :: rest
    else (k, v) :: insertEntry key value rest

/-- The value of the first entry with a key. -/
def valueOf? (key : String) : List (String × α) → Option α
  | [] => none
  | (k, v) :: rest => if k = key then some v else valueOf? key rest

theorem mem_insertEntry {key : String} {value : α} {entries : List (String × α)}
    {e : String × α} (h : e ∈ insertEntry key value entries) :
    e = (key, value) ∨ e ∈ entries := by
  induction entries with
  | nil => simpa [insertEntry] using h
  | cons head rest ih =>
    obtain ⟨k, v⟩ := head
    rw [insertEntry] at h
    split at h
    · simpa using h
    · split at h
      · rcases List.mem_cons.1 h with h | h
        · exact .inl h
        · exact .inr (List.mem_cons_of_mem _ h)
      · rcases List.mem_cons.1 h with h | h
        · exact .inr (h ▸ List.mem_cons_self)
        · rcases ih h with h | h
          · exact .inl h
          · exact .inr (List.mem_cons_of_mem _ h)

theorem lt_of_not_lt_of_ne {a b : String} (h : ¬a < b) (hne : a ≠ b) : b < a :=
  Classical.byContradiction fun hn => hne (String.le_antisymm hn h)

theorem pairwise_insertEntry {key : String} {value : α} {entries : List (String × α)}
    (h : entries.Pairwise fun a b => a.1 < b.1) :
    (insertEntry key value entries).Pairwise fun a b => a.1 < b.1 := by
  induction entries with
  | nil => simp [insertEntry]
  | cons head rest ih =>
    obtain ⟨k, v⟩ := head
    obtain ⟨hk, hrest⟩ := List.pairwise_cons.1 h
    rw [insertEntry]
    split
    · next hlt =>
      refine List.pairwise_cons.2 ⟨fun e he => ?_, h⟩
      rcases List.mem_cons.1 he with rfl | he
      · exact hlt
      · exact String.lt_trans hlt (hk e he)
    · next hnot =>
      split
      · next heq => exact List.pairwise_cons.2 ⟨fun e he => heq ▸ hk e he, hrest⟩
      · next hne =>
        refine List.pairwise_cons.2 ⟨fun e he => ?_, ih hrest⟩
        rcases mem_insertEntry he with rfl | he
        · exact lt_of_not_lt_of_ne hnot hne
        · exact hk e he

theorem valueOf?_insertEntry {key other : String} {value : α} {entries : List (String × α)} :
    valueOf? other (insertEntry key value entries) =
      if key = other then some value else valueOf? other entries := by
  induction entries with
  | nil => simp [insertEntry, valueOf?]
  | cons head rest ih =>
    obtain ⟨k, v⟩ := head
    rw [insertEntry]
    split
    · simp [valueOf?]
    · split
      · next heq =>
        subst heq
        simp only [valueOf?]
        split <;> rfl
      · next hne =>
        simp only [valueOf?, ih]
        split
        · next hk => rw [if_neg (fun h => hne (h.trans hk.symm))]
        · rfl

theorem mem_of_valueOf? {key : String} {value : α} :
    ∀ {entries : List (String × α)}, valueOf? key entries = some value → (key, value) ∈ entries
  | (k, v) :: rest, h => by
      rw [valueOf?] at h
      split at h
      · next hk =>
        obtain rfl := Option.some.inj h
        rw [hk]
        exact List.mem_cons_self
      · exact List.mem_cons_of_mem _ (mem_of_valueOf? h)

theorem valueOf?_of_mem {key : String} {value : α} :
    ∀ {entries : List (String × α)}, (key, value) ∈ entries → ∃ v, valueOf? key entries = some v
  | (k, v) :: rest, h => by
      rw [valueOf?]
      split
      · exact ⟨v, rfl⟩
      · next hk =>
        rcases List.mem_cons.mp h with heq | hrest
        · exact absurd (Prod.mk.inj heq).1.symm hk
        · exact valueOf?_of_mem hrest

/-- A map from texts to values. -/
structure SortedMap (α : Type u) where
  entries : List (String × α)
  sorted : entries.Pairwise fun a b => a.1 < b.1
deriving DecidableEq

namespace SortedMap

/-- The map without entries. -/
def empty : SortedMap α := ⟨[], .nil⟩

instance : Inhabited (SortedMap α) := ⟨empty⟩

/-- Gives a key a value. -/
def insert (m : SortedMap α) (key : String) (value : α) : SortedMap α :=
  ⟨insertEntry key value m.entries, pairwise_insertEntry m.sorted⟩

/-- The value of a key. -/
def find? (m : SortedMap α) (key : String) : Option α := valueOf? key m.entries

/-- The keys in ascending order. -/
def keys (m : SortedMap α) : List String := m.entries.map (·.1)

/-- The map of a list of entries; of several entries with one key the last one counts. -/
def ofList (entries : List (String × α)) : SortedMap α :=
  entries.foldl (fun m e => m.insert e.1 e.2) empty

@[simp] theorem find?_empty (key : String) : (empty : SortedMap α).find? key = none := rfl

theorem find?_insert (m : SortedMap α) (key other : String) (value : α) :
    (m.insert key value).find? other = if key = other then some value else m.find? other :=
  valueOf?_insertEntry

end SortedMap

end Rollout
