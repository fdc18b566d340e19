import Rollout.Json.Basic

/-!
# Canonical values

Sorting the fields of an object changes nothing that a look-up finds as long as no key occurs twice
(`lookup_sortFields`), and fields that are sorted already stay where they are
(`sortFields_of_sorted`). So the canonical form of a value is its own canonical form
(`canonical_canonical`): a message that has been taken in once is not changed again.
-/

namespace Rollout.Json

/-! ## Sorted fields -/

theorem pairwise_sortFields (fields : List (String × Json)) :
    (sortFields fields).Pairwise fun a b => a.1 < b.1 := by
  have hfold : ∀ (rest sorted : List (String × Json)), (sorted.Pairwise fun a b => a.1 < b.1) →
      (rest.foldl (fun sorted f => insertEntry f.1 f.2 sorted) sorted).Pairwise
        fun a b => a.1 < b.1 := by
    intro rest
    induction rest with
    | nil => exact fun _ h => h
    | cons f rest ih => exact fun sorted h => ih _ (pairwise_insertEntry h)
  exact hfold fields [] .nil

theorem mem_sortFields {fields : List (String × Json)} {f : String × Json}
    (h : f ∈ sortFields fields) : f ∈ fields := by
  have hfold : ∀ (rest sorted : List (String × Json)),
      f ∈ rest.foldl (fun sorted f => insertEntry f.1 f.2 sorted) sorted →
        f ∈ rest ∨ f ∈ sorted := by
    intro rest
    induction rest with
    | nil => exact fun _ h => .inr h
    | cons g rest ih =>
        intro sorted h
        rcases ih _ h with h | h
        · exact .inl (List.mem_cons_of_mem _ h)
        · rcases mem_insertEntry h with rfl | h
          · exact .inl List.mem_cons_self
          · exact .inr h
  rcases hfold fields [] h with h | h
  · exact h
  · cases h

/-- An entry whose key is beyond all others comes last. -/
theorem insertEntry_of_lt {key : String} {value : α} {entries : List (String × α)}
    (h : ∀ e ∈ entries, e.1 < key) : insertEntry key value entries = entries ++ [(key, value)] := by
  induction entries with
  | nil => rfl
  | cons e rest ih =>
      obtain ⟨k, v⟩ := e
      have hk : k < key := h (k, v) List.mem_cons_self
      have hne : key ≠ k := fun heq => String.lt_irrefl k (heq ▸ hk)
      rw [insertEntry, if_neg (String.lt_asymm hk), if_neg hne,
        ih fun e he => h e (List.mem_cons_of_mem _ he)]
      rfl

/-- Entries that are sorted are put one after the other. -/
theorem foldl_insertEntry : ∀ (rest : List (String × α)) {sorted : List (String × α)},
    ((sorted ++ rest).Pairwise fun a b => a.1 < b.1) →
      rest.foldl (fun sorted e => insertEntry e.1 e.2 sorted) sorted = sorted ++ rest
  | [], sorted, _ => (List.append_nil sorted).symm
  | e :: rest, sorted, h => by
      have hlast : insertEntry e.1 e.2 sorted = sorted ++ [e] :=
        insertEntry_of_lt fun f hf => (List.pairwise_append.mp h).2.2 f hf e List.mem_cons_self
      rw [List.append_cons] at h ⊢
      rw [List.foldl_cons, hlast, foldl_insertEntry rest h]

theorem sortFields_of_sorted {fields : List (String × Json)}
    (h : fields.Pairwise fun a b => a.1 < b.1) : sortFields fields = fields :=
  foldl_insertEntry fields h

theorem lookup_sortFields (fields : List (String × Json)) (h : (fields.map Prod.fst).Nodup)
    (key : String) : lookup (sortFields fields) key = lookup fields key := by
  have hfold : ∀ (rest sorted : List (String × Json)), (rest.map Prod.fst).Nodup →
      lookup (rest.foldl (fun sorted f => insertEntry f.1 f.2 sorted) sorted) key =
        (lookup rest key).or (lookup sorted key) := by
    intro rest
    induction rest with
    | nil => exact fun _ _ => rfl
    | cons f rest ih =>
        intro sorted hnodup
        obtain ⟨hfirst, hnodup⟩ := List.nodup_cons.mp hnodup
        rw [List.foldl_cons, ih _ hnodup, lookup, lookup, lookup, lookup, valueOf?_insertEntry,
          valueOf?]
        by_cases hkey : f.1 = key
        · have habsent : valueOf? key rest = none := by
            cases hrest : valueOf? key rest with
            | none => rfl
            | some v =>
                have hmem := List.mem_map_of_mem (f := Prod.fst) (mem_of_valueOf? hrest)
                exact absurd (hkey ▸ hmem) hfirst
          rw [if_pos hkey, if_pos hkey, habsent]
          rfl
        · rw [if_neg hkey, if_neg hkey]
  have hall := hfold fields [] h
  rwa [show lookup [] key = none from rfl, Option.or_none] at hall

theorem lookup_of_mem : ∀ {fields : List (String × Json)}, (fields.map Prod.fst).Nodup →
    ∀ {f : String × Json}, f ∈ fields → lookup fields f.1 = some f.2
  | g :: rest, h, f, hf => by
      obtain ⟨hfirst, hrest⟩ := List.nodup_cons.mp h
      rcases List.mem_cons.mp hf with rfl | hf
      · exact if_pos rfl
      · have hne : g.1 ≠ f.1 := fun heq => hfirst (heq ▸ List.mem_map_of_mem hf)
        exact (if_neg hne).trans (lookup_of_mem hrest hf)

theorem lookup_map (change : Json → Json) (fields : List (String × Json)) (key : String) :
    lookup (fields.map fun f => (f.1, change f.2)) key = (lookup fields key).map change := by
  induction fields with
  | nil => rfl
  | cons f rest ih =>
      change (if f.1 = key then _ else _) = Option.map change (if f.1 = key then _ else _)
      split
      · rfl
      · exact ih

/-! ## Canonical forms -/

theorem canonicalFields_of_canonical {fields : List (String × Json)}
    (h : ∀ f ∈ fields, f.2.canonical = f.2) : canonicalFields fields = fields := by
  induction fields with
  | nil => rfl
  | cons f rest ih =>
      have hfirst := h f List.mem_cons_self
      have hrest := ih fun g hg => h g (List.mem_cons_of_mem _ hg)
      rw [canonicalFields, hfirst, hrest]

mutual

theorem canonical_canonical : ∀ v : Json, v.canonical.canonical = v.canonical
  | .null | .bool _ | .int _ | .str _ => rfl
  | .real x => by
      by_cases h : Decimal.isFinite x = true
      · have hreal : (real x).canonical = real x := by rw [canonical, if_pos h]
        rw [hreal, hreal]
      · have hnull : (real x).canonical = null := by rw [canonical, if_neg h]
        rw [hnull]
        rfl
  | .arr xs => by rw [canonical, canonical, canonicalItems_canonicalItems xs]
  | .obj fs => by
      have hfields : canonicalFields (sortFields (canonicalFields fs)) =
          sortFields (canonicalFields fs) :=
        canonicalFields_of_canonical fun f hf => canonicalFields_canonical fs f (mem_sortFields hf)
      rw [canonical, canonical, hfields, sortFields_of_sorted (pairwise_sortFields _)]

theorem canonicalItems_canonicalItems :
    ∀ xs : List Json, canonicalItems (canonicalItems xs) = canonicalItems xs
  | [] => rfl
  | x :: xs => by
      rw [canonicalItems, canonicalItems, canonical_canonical x, canonicalItems_canonicalItems xs]

theorem canonicalFields_canonical :
    ∀ (fs : List (String × Json)), ∀ f ∈ canonicalFields fs, f.2.canonical = f.2
  | [], _, hf => absurd hf List.not_mem_nil
  | (k, v) :: fs, f, hf => by
      rw [canonicalFields] at hf
      rcases List.mem_cons.mp hf with rfl | hf
      · exact canonical_canonical v
      · exact canonicalFields_canonical fs f hf

end

/-! ## Finite values -/

/-- A value in which every number is finite. -/
inductive Finite : Json → Prop
  | null : Finite .null
  | bool (b : Bool) : Finite (.bool b)
  | int (n : Int) : Finite (.int n)
  | real {x : Float} (h : Decimal.isFinite x = true) : Finite (.real x)
  | str (s : String) : Finite (.str s)
  | arr {items : List Json} (h : ∀ v ∈ items, Finite v) : Finite (.arr items)
  | obj {fields : List (String × Json)} (h : ∀ f ∈ fields, Finite f.2) : Finite (.obj fields)

attribute [simp] Finite.null Finite.bool Finite.int Finite.str

@[simp] theorem finite_arr_iff {items : List Json} :
    (arr items).Finite ↔ ∀ v ∈ items, v.Finite := by
  constructor
  · rintro ⟨⟩
    assumption
  · exact .arr

@[simp] theorem finite_obj_iff {fields : List (String × Json)} :
    (obj fields).Finite ↔ ∀ f ∈ fields, f.2.Finite := by
  constructor
  · rintro ⟨⟩
    assumption
  · exact .obj

/-- Only a number that is not finite becomes `null`. -/
theorem Finite.canonical_ne_null {v : Json} (h : v.Finite) (hv : v ≠ .null) :
    v.canonical ≠ .null := by
  cases h with
  | null => exact absurd rfl hv
  | real h =>
      rw [canonical, if_pos h]
      exact hv
  | bool | int | str => exact hv
  | arr | obj => simp [canonical]

end Rollout.Json
