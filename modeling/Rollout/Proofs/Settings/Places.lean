import Rollout.Proofs.Schema.Reading
import Rollout.Settings.Source

/-!
# What layers leave at a place

A value of a configuration stands where keys lead to. `Json.standing` lists what an entry puts
there, in its order, and `Json.Left` says what is left of the old value: nothing put there leaves it
alone, a simple value takes its place, and a list or a table leaves some list or table. This holds
as long as an entry has nothing but tables on the way (`Json.Tabular`), since a list or a simple
value that is put over a table takes everything below it along; the configuration is then
`Json.Open` all the time.

`Json.lands_put` is the step, by induction on the place of an entry, and `Layer.lands_overlay` is
the run over all entries of a layer. An entry whose place is the keys themselves clears its way,
whatever it is put over (`Json.lands_put_keys`).
-/

namespace Rollout

/-- The place that keys lead to. -/
def Place.ofKeys (keys : List String) : Place := keys.map .key

namespace Json

/-! ## Values along keys -/

/-- Lists and tables. -/
inductive Compound : Json → Prop
  | list (items : List Json) : Compound (.arr items)
  | table (fields : List (String × Json)) : Compound (.obj fields)

/-- A value and the tables and lists on the way to it. -/
def nest : Place → Json → Json
  | [], v => v
  | .key k :: rest, v => .obj [(k, nest rest v)]
  | .index _ :: rest, v => .arr [nest rest v]

/-- What stands where keys lead to, in the order of the value. -/
def standing : List String → Json → List Json
  | [], v => [v]
  | k :: keys, .obj fields => fields.flatMap fun f => if f.1 = k then standing keys f.2 else []
  | _ :: _, _ => []

theorem standing_cons (k : String) (keys : List String) (v : Json) :
    standing (k :: keys) v = (standing [k] v).flatMap (standing keys) := by
  cases v with
  | obj fields =>
      simp only [standing, List.flatMap_assoc]
      refine List.flatMap_congr fun f _ => ?_
      split <;> simp
  | _ => rfl

/-- Wherever it is looked up along keys, a table is met before the last of them. -/
def Open : List String → Json → Prop
  | [], _ => True
  | k :: keys, v => ∃ fields, v = .obj fields ∧ ∀ w, lookup fields k = some w → Open keys w

/-- Nothing but tables stands before the last of some keys. -/
inductive Tabular : List String → Json → Prop
  | here (v : Json) : Tabular [] v
  | table {k : String} {keys : List String} {fields : List (String × Json)}
      (h : ∀ v, (k, v) ∈ fields → Tabular keys v) : Tabular (k :: keys) (.obj fields)

theorem tabular_of_tables : ∀ {keys : List String} {v : Json},
    (∀ n < keys.length, ∀ w ∈ standing (keys.take n) v, ∃ fields, w = .obj fields) → Tabular keys v
  | [], v, _ => .here v
  | k :: keys, v, h => by
      obtain ⟨fields, rfl⟩ := h 0 (Nat.zero_lt_succ _) v (List.mem_singleton_self v)
      refine .table fun u hu => tabular_of_tables fun n hn w hw => ?_
      exact h (n + 1) (Nat.succ_lt_succ hn) w
        (List.mem_flatMap.mpr ⟨(k, u), hu, by rwa [if_pos rfl]⟩)

theorem standing_nest (v : Json) : ∀ keys : List String, standing keys (nest (.ofKeys keys) v) = [v]
  | [] => rfl
  | k :: keys => by simpa [nest, Place.ofKeys, standing] using standing_nest v keys

/-- Nothing stands where keys lead to that part from the way to a value. -/
theorem standing_nest_apart {v : Json} : ∀ {keys others : List String}, ¬keys <+: others →
    ¬others <+: keys → standing keys (nest (.ofKeys others) v) = []
  | [], _, h, _ => absurd List.nil_prefix h
  | _ :: _, [], _, h => absurd List.nil_prefix h
  | k :: keys, other :: others, h, h' => by
      by_cases hk : other = k
      · subst hk
        have ih : standing keys (nest (.ofKeys others) v) = [] :=
          standing_nest_apart (fun hp => h (List.cons_prefix_cons.mpr ⟨rfl, hp⟩))
            fun hp => h' (List.cons_prefix_cons.mpr ⟨rfl, hp⟩)
        simpa [nest, Place.ofKeys, standing] using ih
      · simp [nest, Place.ofKeys, standing, hk]

/-- Nothing but tables stands on the way to a value. -/
theorem tables_of_nest {v : Json} : ∀ {keys others : List String}, ¬others <+: keys →
    ∀ w ∈ standing keys (nest (.ofKeys others) v), ∃ fields, w = .obj fields
  | _, [], h => absurd List.nil_prefix h
  | [], _ :: _, _ => fun _ hw => ⟨_, List.mem_singleton.mp hw⟩
  | k :: keys, other :: others, h => by
      intro w hw
      by_cases hk : other = k
      · subst hk
        have hmem : w ∈ standing keys (nest (.ofKeys others) v) := by
          simpa [nest, Place.ofKeys, standing] using hw
        exact tables_of_nest (fun hp => h (List.cons_prefix_cons.mpr ⟨rfl, hp⟩)) w hmem
      · simp [nest, Place.ofKeys, standing, hk] at hw

/-- What is left of an old value when others are put there one after the other. -/
inductive Left (old : Option Json) : List Json → Option Json → Prop
  | untouched : Left old [] old
  | replaced (before : List Json) {v : Json} (h : ¬v.Compound) : Left old (before ++ [v]) (some v)
  | mixed (before : List Json) {v w : Json} (hv : v.Compound) (hw : w.Compound) :
      Left old (before ++ [v]) (some w)

theorem Left.trans {old mid new : Option Json} {vs ws : List Json} (h : Left old vs mid)
    (h' : Left mid ws new) : Left old (vs ++ ws) new := by
  cases h' with
  | untouched => rwa [List.append_nil]
  | replaced before hv =>
      rw [← List.append_assoc]
      exact .replaced _ hv
  | mixed before hv hw =>
      rw [← List.append_assoc]
      exact .mixed _ hv hw

/-- Once something is put there, it does not matter what was there before. -/
theorem Left.forget {old new : Option Json} {vs : List Json} (h : Left old vs new) (hvs : vs ≠ [])
    (other : Option Json) : Left other vs new := by
  cases h with
  | untouched => exact absurd rfl hvs
  | replaced before hv => exact .replaced before hv
  | mixed before hv hw => exact .mixed before hv hw

/-- A value that is put over another one replaces it or is mixed with it. -/
theorem left_overlay (old : Option Json) (base v : Json) :
    Left old [v] (some (base.overlay v)) := by
  cases v with
  | arr items => exact .mixed [] (.list items) (.list items)
  | obj fields => exact .mixed [] (.table fields) (.table _)
  | null => exact .replaced [] nofun
  | bool b => exact .replaced [] nofun
  | int n => exact .replaced [] nofun
  | real x => exact .replaced [] nofun
  | str s => exact .replaced [] nofun

/-! ## One entry -/

/-- Values that are put along keys over what was there reach the end of the keys, and leave the way
open. -/
structure Lands (keys : List String) (old : Option Json) (vs : List Json) (new : Json) : Prop where
  way : Open keys new
  left : Left (old.bind (at? (.ofKeys keys))) vs (new.at? (.ofKeys keys))

/-- The same below a key of a table. -/
structure Lands.Field (k : String) (keys : List String) (fields : List (String × Json))
    (vs : List Json) (fields' : List (String × Json)) : Prop where
  way : ∀ v, lookup fields' k = some v → Open keys v
  left : Left ((lookup fields k).bind (at? (.ofKeys keys))) vs
    ((lookup fields' k).bind (at? (.ofKeys keys)))

theorem lookup_insertEntry {k other : String} {v : Json} {fields : List (String × Json)} :
    lookup (insertEntry k v fields) other = if k = other then some v else lookup fields other :=
  valueOf?_insertEntry

variable {k : String} {keys : List String} {fields : List (String × Json)}

theorem Lands.insert {v : Json} {vs : List Json} (hv : Lands keys (lookup fields k) vs v) :
    Lands.Field k keys fields vs (insertEntry k v fields) := by
  have hlookup : lookup (insertEntry k v fields) k = some v := by
    rw [lookup_insertEntry, if_pos rfl]
  constructor
  · intro w hw
    obtain rfl := Option.some.inj (hlookup.symm.trans hw)
    exact hv.way
  · rw [hlookup]
    exact hv.left

theorem Lands.insert_other {other : String} {v : Json}
    (h : ∀ v, lookup fields k = some v → Open keys v) (hother : other ≠ k) :
    Lands.Field k keys fields [] (insertEntry other v fields) := by
  have hlookup : lookup (insertEntry other v fields) k = lookup fields k := by
    rw [lookup_insertEntry, if_neg hother]
  constructor
  · rw [hlookup]
    exact h
  · rw [hlookup]
    exact .untouched

/-- Putting fields over those of a table, if it is known what a value does that is put over one of
them. -/
theorem lands_overlayFields
    (hoverlay : ∀ (old : Option Json) (v : Json), (∀ u ∈ old, Open keys u) → Tabular keys v →
      Lands keys old (standing keys v) ((old.getD .null).overlay v)) :
    ∀ (new : List (String × Json)) (fields : List (String × Json)),
      (∀ v, lookup fields k = some v → Open keys v) → (∀ v, (k, v) ∈ new → Tabular keys v) →
        Lands.Field k keys fields (standing (k :: keys) (.obj new)) (overlayFields fields new)
  | [], fields, hold, _ => ⟨hold, .untouched⟩
  | (key, v) :: new, fields, hold, hnew => by
      have hrest : ∀ v, (k, v) ∈ new → Tabular keys v := fun v hv =>
        hnew v (List.mem_cons_of_mem _ hv)
      have hfirst : Lands.Field k keys fields (if key = k then standing keys v else [])
          (insertEntry key (((lookup fields key).getD .null).overlay v) fields) := by
        by_cases hkey : key = k
        · subst hkey
          rw [if_pos rfl]
          exact Lands.insert (hoverlay _ v hold (hnew v List.mem_cons_self))
        · rw [if_neg hkey]
          exact Lands.insert_other hold hkey
      have ih := lands_overlayFields hoverlay new _ hfirst.way hrest
      exact ⟨ih.way, hfirst.left.trans ih.left⟩

theorem lookup_fieldsOf (old : Option Json) :
    (lookup (old.getD .null).fieldsOf k).bind (at? (.ofKeys keys)) =
      old.bind (at? (.ofKeys (k :: keys))) := by
  cases old with
  | none => rfl
  | some v => cases v <;> rfl

theorem open_fieldsOf {old : Option Json} (h : ∀ u ∈ old, Open (k :: keys) u) :
    ∀ v, lookup (old.getD .null).fieldsOf k = some v → Open keys v := by
  intro v hv
  cases old with
  | none => cases hv
  | some u =>
      obtain ⟨fields, rfl, hfields⟩ := h u rfl
      exact hfields v hv

/-- Fields that land make a table that does. -/
theorem Lands.Field.table {old : Option Json} {vs : List Json} {fields' : List (String × Json)}
    (h : Lands.Field k keys (old.getD .null).fieldsOf vs fields') :
    Lands (k :: keys) old vs (.obj fields') := by
  refine ⟨⟨fields', rfl, h.way⟩, ?_⟩
  rw [← lookup_fieldsOf]
  exact h.left

/-- A value put over another one. -/
theorem lands_overlay : ∀ (keys : List String) (old : Option Json) (v : Json),
    (∀ u ∈ old, Open keys u) → Tabular keys v →
      Lands keys old (standing keys v) ((old.getD .null).overlay v)
  | [], _, v, _, _ => ⟨trivial, left_overlay _ _ v⟩
  | _ :: keys, _, _, hold, .table h =>
      (lands_overlayFields (lands_overlay keys) _ _ (open_fieldsOf hold) h).table

/-- An entry put over a configuration. -/
theorem lands_put (v : Json) : ∀ (place : Place) (keys : List String) (old : Option Json),
    (∀ u ∈ old, Open keys u) → Tabular keys (nest place v) →
      Lands keys old (standing keys (nest place v)) ((old.getD .null).put place v)
  | [], keys, old, hold, hv => lands_overlay keys old v hold hv
  | .key _ :: _, [], _, _, _ => ⟨trivial, .mixed [] (.table _) (.table _)⟩
  | .index _ :: _, [], _, _, _ => ⟨trivial, .mixed [] (.list _) (.list _)⟩
  | .key name :: place, k :: keys, old, hold, .table h => by
      have hfields := open_fieldsOf hold
      by_cases hname : name = k
      · subst hname
        have ih := lands_put v place keys (lookup (old.getD .null).fieldsOf name) hfields
          (h _ List.mem_cons_self)
        have hstanding : standing (name :: keys) (nest (.key name :: place) v) =
            standing keys (nest place v) := by
          simp [nest, standing]
        rw [hstanding]
        exact (Lands.insert ih).table
      · have hstanding : standing (k :: keys) (nest (.key name :: place) v) = [] := by
          simp [nest, standing, hname]
        rw [hstanding]
        exact (Lands.insert_other hfields hname).table

/-- An entry that is put along keys lands at their end, whatever was on the way. -/
theorem lands_put_keys (v : Json) : ∀ (keys : List String) (old : Option Json) (u : Json),
    Lands keys old [v] (u.put (.ofKeys keys) v)
  | [], _, u => ⟨trivial, left_overlay _ u v⟩
  | k :: keys, _, u => by
      have ih := lands_put_keys v keys (lookup u.fieldsOf k) ((lookup u.fieldsOf k).getD .null)
      have htable : Lands (k :: keys) (some u) [v] (u.put (.ofKeys (k :: keys)) v) :=
        (Lands.insert ih).table
      exact ⟨htable.way, htable.left.forget (List.cons_ne_nil _ _) _⟩

end Json

/-! ## All entries of a layer -/

namespace Layer

/-- What a layer puts where keys lead to, in the order of its entries. -/
def standing (keys : List String) (l : Layer) : List Json :=
  l.flatMap fun e => (Json.nest e.1 e.2).standing keys

/-- Each entry of a layer has nothing but tables on the way along keys. -/
def Tabular (keys : List String) (l : Layer) : Prop := ∀ e ∈ l, (Json.nest e.1 e.2).Tabular keys

theorem lands_overlay {keys : List String} : ∀ (l : Layer) {v : Json}, v.Open keys →
    l.Tabular keys → Json.Lands keys (some v) (l.standing keys) (l.overlay v)
  | [], _, hv, _ => ⟨hv, .untouched⟩
  | (place, new) :: rest, v, hv, hl => by
      have hfirst := Json.lands_put new place keys (some v) (fun u hu => Option.some.inj hu ▸ hv)
        (hl (place, new) List.mem_cons_self)
      have ih := lands_overlay rest hfirst.way fun e he => hl e (List.mem_cons_of_mem _ he)
      exact ⟨ih.way, hfirst.left.trans ih.left⟩

end Layer

end Rollout
