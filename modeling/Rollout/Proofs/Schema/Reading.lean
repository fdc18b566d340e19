import Mathlib.Data.List.Forall2
import Rollout.Proofs.Json.Canonical
import Rollout.Schema

/-!
# What readers accept

A reader succeeds on a structured value or it does not, and a shape succeeds on a record exactly if
each of its fields is read (`Shape.read_field`, `Shape.read_fieldD`): for success nothing counts but
what a look-up by name finds. `Json.Gives` says what it is for a value to have the fields of a
record, as an object or as a list, and with `Json.gives_iff` a shape without optional fields accepts
such values and no others.

A reader `Inverts` a writer if it reads back whatever is written. A record is read back field by
field (`Shape.read_field_of`, `Shape.read_fieldD_of`). `Shape.Reads` goes the other way, from what a
shape has read to the fields that it comes from.
-/

namespace Rollout

/-! ## Results -/

theorem bind_eq_ok_iff {r : Except ε α} {next : α → Except ε β} {b : β} :
    r >>= next = .ok b ↔ ∃ a, r = .ok a ∧ next a = .ok b := by
  cases r <;> simp [bind, Except.bind]

theorem map_eq_ok_iff {r : Except ε α} {f : α → β} {b : β} :
    r.map f = .ok b ↔ ∃ a, r = .ok a ∧ f a = b := by
  cases r <;> simp [Except.map]

theorem mapError_eq_ok_iff {r : Except ε α} {f : ε → ε'} {a : α} :
    r.mapError f = .ok a ↔ r = .ok a := by
  cases r <;> simp [Except.mapError]

/-- A check that refuses, before what comes next. -/
theorem check_eq_ok_iff {refuses : Prop} [Decidable refuses] {fault : ε} {next : Except ε α}
    {a : α} : (if refuses then .error fault else next) = .ok a ↔ ¬refuses ∧ next = .ok a := by
  split <;> simp_all

/-- A result that passes a test is there. -/
theorem exists_ok_of_any {r : Except ε α} {p : α → Bool} (h : r.toOption.any p = true) :
    ∃ a, r = .ok a ∧ p a = true := by
  cases r with
  | ok a => exact ⟨a, rfl, h⟩
  | error e => cases h

theorem mapM_eq_ok_iff {f : α → Except ε β} {xs : List α} {ys : List β} :
    xs.mapM f = .ok ys ↔ List.Forall₂ (fun x y => f x = .ok y) xs ys := by
  induction xs generalizing ys with
  | nil => cases ys <;> simp [pure, Except.pure]
  | cons x rest ih =>
      rw [List.mapM_cons, bind_eq_ok_iff]
      constructor
      · rintro ⟨y, hy, h⟩
        obtain ⟨ys', hrest, h⟩ := bind_eq_ok_iff.mp h
        cases h
        exact .cons hy (ih.mp hrest)
      · intro h
        cases h with
        | cons hy hrest => exact ⟨_, hy, bind_eq_ok_iff.mpr ⟨_, ih.mpr hrest, rfl⟩⟩

/-- Of several items on which a function fails the first one counts. -/
theorem mapM_eq_error_iff {f : α → Except ε β} {xs : List α} {e : ε} :
    xs.mapM f = .error e ↔
      ∃ before x after, xs = before ++ x :: after ∧ f x = .error e
        ∧ ∀ y ∈ before, ∃ b, f y = .ok b := by
  induction xs with
  | nil => simp [pure, Except.pure]
  | cons x rest ih =>
      rw [List.mapM_cons]
      cases hx : f x with
      | error e' =>
          change Except.error e' = .error e ↔ _
          constructor
          · intro h
            cases h
            exact ⟨[], x, rest, rfl, hx, nofun⟩
          · rintro ⟨_ | ⟨y, before⟩, z, after, heq, hz, hbefore⟩
            · obtain ⟨rfl, rfl⟩ := List.cons.inj heq
              cases hx.symm.trans hz
              rfl
            · obtain ⟨rfl, -⟩ := List.cons.inj heq
              obtain ⟨b, hb⟩ := hbefore x List.mem_cons_self
              cases hx.symm.trans hb
      | ok b =>
          have hrest : (do let ys ← rest.mapM f; pure (b :: ys)) = .error e ↔
              rest.mapM f = .error e := by
            cases rest.mapM f <;> simp [bind, Except.bind, pure, Except.pure]
          change (do let ys ← rest.mapM f; pure (b :: ys)) = .error e ↔ _
          rw [hrest, ih]
          constructor
          · rintro ⟨before, z, after, rfl, hz, hbefore⟩
            exact ⟨x :: before, z, after, rfl, hz, List.forall_mem_cons.mpr ⟨⟨b, hx⟩, hbefore⟩⟩
          · rintro ⟨_ | ⟨y, before⟩, z, after, heq, hz, hbefore⟩
            · obtain ⟨rfl, rfl⟩ := List.cons.inj heq
              cases hx.symm.trans hz
            · obtain ⟨rfl, rfl⟩ := List.cons.inj heq
              exact ⟨before, z, after, rfl, hz, (List.forall_mem_cons.mp hbefore).2⟩

theorem exists_of_forall₂ {R : α → β → Prop} {xs : List α} {ys : List β}
    (h : List.Forall₂ R xs ys) : ∀ y ∈ ys, ∃ x ∈ xs, R x y := by
  induction h with
  | nil => exact fun y hy => absurd hy List.not_mem_nil
  | cons hfirst _ ih =>
      intro y hy
      rcases List.mem_cons.mp hy with rfl | hy
      · exact ⟨_, List.mem_cons_self, hfirst⟩
      · obtain ⟨x, hx, hxy⟩ := ih y hy
        exact ⟨x, List.mem_cons_of_mem _ hx, hxy⟩

theorem forall₂_through_iff {R : α → β → Prop} {S : β → γ → Prop} {xs : List α} {zs : List γ} :
    (∃ ys, List.Forall₂ R xs ys ∧ List.Forall₂ S ys zs) ↔
      List.Forall₂ (fun x z => ∃ y, R x y ∧ S y z) xs zs := by
  constructor
  · rintro ⟨ys, hxy, hyz⟩
    induction hxy generalizing zs with
    | nil =>
        cases hyz
        exact .nil
    | cons hfirst _ ih =>
        cases hyz with
        | cons hsecond hrest => exact .cons ⟨_, hfirst, hsecond⟩ (ih hrest)
  · intro h
    induction h with
    | nil => exact ⟨[], .nil, .nil⟩
    | cons hfirst _ ih =>
        obtain ⟨y, hxy, hyz⟩ := hfirst
        obtain ⟨ys, hxs, hzs⟩ := ih
        exact ⟨y :: ys, .cons hxy hxs, .cons hyz hzs⟩

/-! ## Simple values -/

namespace Decode

theorem text_eq_ok_iff {v : Json} {s : String} : text v = .ok s ↔ v = .str s := by
  cases v <;> simp [text]

theorem below_eq_ok_iff {bound : Nat} {v : Json} {n : Nat} :
    below bound v = .ok n ↔ v = .int n ∧ n < bound := by
  cases v with
  | int i =>
      cases i with
      | ofNat k =>
          by_cases h : k < bound
          · simp only [below, if_pos h, Except.ok.injEq, Json.int.injEq, Int.ofNat_eq_natCast,
              Int.natCast_inj]
            exact ⟨fun heq => ⟨heq, heq ▸ h⟩, And.left⟩
          · simp only [below, if_neg h, Json.int.injEq, Int.ofNat_eq_natCast, Int.natCast_inj]
            exact ⟨nofun, fun ⟨heq, hlt⟩ => absurd (heq ▸ hlt) h⟩
      | negSucc k => simp [below]
  | _ => simp [below]

theorem uint64_eq_ok_iff {v : Json} {n : UInt64} : uint64 v = .ok n ↔ v = .int n.toNat := by
  rw [uint64, map_eq_ok_iff]
  constructor
  · rintro ⟨m, hm, rfl⟩
    obtain ⟨rfl, hsize⟩ : v = .int m ∧ m < UInt64.size := below_eq_ok_iff.mp hm
    rw [UInt64.toNat_ofNat_of_lt' hsize]
  · rintro rfl
    exact ⟨n.toNat, below_eq_ok_iff.mpr ⟨rfl, n.toNat_lt_size⟩, UInt64.ofNat_toNat⟩

theorem amount_eq_ok_iff {v : Json} {a : Amount} :
    amount v = .ok a ↔ ∃ s, v = .str s ∧ Amount.parse? s = some a := by
  cases v with
  | str s => cases h : Amount.parse? s <;> simp [amount, h]
  | _ => simp [amount]

theorem option_eq_ok_iff {decode : Decode α} {v : Json} {o : Option α} :
    option decode v = .ok o ↔
      (v = .null ∧ o = none) ∨ (v ≠ .null ∧ ∃ a, decode v = .ok a ∧ o = some a) := by
  cases v with
  | null => simp [option, eq_comm]
  | _ => simp [option, map_eq_ok_iff, eq_comm (a := some _)]

theorem list_eq_ok_iff {decode : Decode α} {v : Json} {xs : List α} :
    list decode v = .ok xs ↔
      ∃ items, v = .arr items ∧ List.Forall₂ (fun v x => decode v = .ok x) items xs := by
  cases v <;> simp [list, mapM_eq_ok_iff]

end Decode

/-! ## Fields of a record -/

namespace Record

variable {r : Record} {name : String}

theorem find?_of_lookup {v : Json} (h : Json.lookup r.fields name = some v) :
    ∃ i, r.find? name = some (i, v) := by
  have hmem : (name, v) ∈ r.fields := mem_of_valueOf? h
  have hindex : (r.fields.findIdx? fun f => f.1 = name).isSome = true := by
    rw [List.findIdx?_isSome, List.any_eq_true]
    exact ⟨(name, v), hmem, decide_eq_true rfl⟩
  obtain ⟨i, hi⟩ := Option.isSome_iff_exists.mp hindex
  exact ⟨i, by rw [find?, hi, h]⟩

theorem find?_of_absent (h : Json.lookup r.fields name = none) : r.find? name = none := by
  rw [find?, h]
  split <;> simp_all

theorem fieldOr_eq_ok_iff {absent : Except Faults α} {decode : Decode α} {a : α} :
    r.fieldOr absent name decode = .ok a ↔
      (∃ v, Json.lookup r.fields name = some v ∧ decode v = .ok a)
        ∨ (Json.lookup r.fields name = none ∧ absent = .ok a) := by
  cases h : Json.lookup r.fields name with
  | none => simp [fieldOr, find?_of_absent h]
  | some v =>
      obtain ⟨i, hi⟩ := find?_of_lookup h
      simp [fieldOr, hi, mapError_eq_ok_iff]

end Record

/-! ## Shapes -/

namespace Shape

theorem merge_eq_ok_iff {f : Except Faults (α → β)} {a : Except Faults α} {b : β} :
    merge f a = .ok b ↔ ∃ g x, f = .ok g ∧ a = .ok x ∧ g x = b := by
  cases f <;> cases a <;> simp [merge]

variable {r : Record} {name : String} {decode : Decode α}

theorem read_of {a b : α} : (of a).read r = .ok b ↔ a = b := by
  simp [of]

theorem read_field {s : Shape (α → β)} {b : β} :
    (s.field name decode).read r = .ok b ↔
      ∃ g a, s.read r = .ok g ∧ (∃ v, Json.lookup r.fields name = some v ∧ decode v = .ok a)
        ∧ g a = b := by
  have hmissing (a : α) : ¬(Json.lookup r.fields name = none ∧
      (Except.error r.missing : Except Faults α) = .ok a) := by
    rintro ⟨-, h⟩
    cases h
  simp only [field, add, merge_eq_ok_iff, Record.fieldOr_eq_ok_iff, hmissing, or_false]

theorem read_fieldD {s : Shape (α → β)} {default : α} {b : β} :
    (s.fieldD name decode default).read r = .ok b ↔
      ∃ g a, s.read r = .ok g
        ∧ ((∃ v, Json.lookup r.fields name = some v ∧ decode v = .ok a)
          ∨ (Json.lookup r.fields name = none ∧ default = a)) ∧ g a = b := by
  simp only [fieldD, add, merge_eq_ok_iff, Record.fieldOr_eq_ok_iff, Except.ok.injEq]

/-- One more field of a record is read. -/
theorem read_field_of {s : Shape (α → β)} {g : α → β} {v : Json} {a : α} (hs : s.read r = .ok g)
    (hv : Json.lookup r.fields name = some v) (ha : decode v = .ok a) :
    (s.field name decode).read r = .ok (g a) :=
  read_field.mpr ⟨g, a, hs, ⟨v, hv, ha⟩, rfl⟩

theorem read_fieldD_of {s : Shape (α → β)} {default : α} {g : α → β} {v : Json} {a : α}
    (hs : s.read r = .ok g) (hv : Json.lookup r.fields name = some v) (ha : decode v = .ok a) :
    (s.fieldD name decode default).read r = .ok (g a) :=
  read_fieldD.mpr ⟨g, a, hs, .inl ⟨v, hv, ha⟩, rfl⟩

theorem read_fieldD_absent {s : Shape (α → β)} {default : α} {g : α → β} (hs : s.read r = .ok g)
    (hv : Json.lookup r.fields name = none) :
    (s.fieldD name decode default).read r = .ok (g default) :=
  read_fieldD.mpr ⟨g, default, hs, .inr ⟨hv, rfl⟩, rfl⟩

theorem read_nullable_of {s : Shape (Option α → β)} {g : Option α → β} {v : Json} {a : Option α}
    (hs : s.read r = .ok g) (hv : Json.lookup r.fields name = some v)
    (ha : decode.option v = .ok a) : (s.nullable name decode).read r = .ok (g a) :=
  merge_eq_ok_iff.mpr ⟨g, a, hs, Record.fieldOr_eq_ok_iff.mpr (.inl ⟨v, hv, ha⟩), rfl⟩

/-- Whatever is read in a record has a property. -/
def Reads (s : Shape α) (r : Record) (P : α → Prop) : Prop := ∀ a, s.read r = .ok a → P a

theorem reads_of {P : α → Prop} {a : α} (h : P a) : (of a).Reads r P := by
  intro b hb
  cases hb
  exact h

theorem Reads.field {P : β → Prop} {s : Shape (α → β)}
    (h : s.Reads r fun g => ∀ a,
      (∃ v, Json.lookup r.fields name = some v ∧ decode v = .ok a) → P (g a)) :
    (s.field name decode).Reads r P := by
  intro b hb
  obtain ⟨g, a, hg, ha, rfl⟩ := read_field.mp hb
  exact h g hg a ha

theorem Reads.fieldD {P : β → Prop} {s : Shape (α → β)} {default : α}
    (h : s.Reads r fun g => ∀ a,
      ((∃ v, Json.lookup r.fields name = some v ∧ decode v = .ok a)
        ∨ (Json.lookup r.fields name = none ∧ default = a)) → P (g a)) :
    (s.fieldD name decode default).Reads r P := by
  intro b hb
  obtain ⟨g, a, hg, ha, rfl⟩ := read_fieldD.mp hb
  exact h g hg a ha

end Shape

/-! ## Values that are read as records -/

/-- The record that a shape with the given names reads in a value. -/
inductive Record.Of (names : List String) : Json → Record → Prop
  | object (fields : List (String × Json)) : Of names (.obj fields) ⟨fields, false⟩
  | list {items : List Json} (h : items.length ≤ names.length) :
      Of names (.arr items) ⟨names.zip items, true⟩

theorem Shape.decode_eq_ok_iff {s : Shape α} {v : Json} {a : α} :
    s.decode v = .ok a ↔ ∃ r, Record.Of s.names v r ∧ s.read r = .ok a := by
  cases v with
  | obj fields =>
      constructor
      · intro h
        exact ⟨_, .object fields, mapError_eq_ok_iff.mp h⟩
      · rintro ⟨-, ⟨⟩, h⟩
        exact mapError_eq_ok_iff.mpr h
  | arr items =>
      rw [decode, bind_eq_ok_iff]
      constructor
      · rintro ⟨b, hb, h⟩
        split at h
        · cases h
        · next hlength =>
          cases h
          exact ⟨_, .list (Nat.not_lt.mp hlength), mapError_eq_ok_iff.mp hb⟩
      · rintro ⟨-, ⟨⟩ | ⟨hlength⟩, h⟩
        exact ⟨a, mapError_eq_ok_iff.mpr h, if_neg (Nat.not_lt.mpr hlength)⟩
  | _ =>
      constructor
      · intro h
        cases h
      · rintro ⟨r, hr, -⟩
        cases hr

theorem Shape.decodeObject_eq_ok_iff {s : Shape α} {fields : List (String × Json)} {a : α} :
    s.decodeObject (.obj fields) = .ok a ↔ s.read ⟨fields, false⟩ = .ok a :=
  mapError_eq_ok_iff

theorem Decode.tagged_eq_ok_iff {alternatives : List (String × Shape α)} {v : Json} {a : α} :
    tagged alternatives v = .ok a ↔
      ∃ tag shape fields, v = .obj [(tag, .obj fields)]
        ∧ valueOf? tag alternatives = some shape ∧ shape.read ⟨fields, false⟩ = .ok a := by
  constructor
  · intro h
    rw [tagged.eq_def] at h
    split at h
    · next tag v =>
      split at h
      · next shape hshape =>
        cases v with
        | obj fields => exact ⟨tag, shape, fields, rfl, hshape, Shape.decodeObject_eq_ok_iff.mp h⟩
        | _ => cases h
      · cases h
    · cases h
  · rintro ⟨tag, shape, fields, rfl, hshape, h⟩
    rw [tagged, hshape]
    exact Shape.decodeObject_eq_ok_iff.mpr h

namespace Json

/-- A value has the given fields and no need for others: an object has them by name, in any order
and perhaps among more, a list has exactly them in their order. -/
inductive Gives (names : List String) (values : List Json) : Json → Prop
  | object {fields : List (String × Json)}
      (h : names.map (lookup fields) = values.map some) : Gives names values (.obj fields)
  | list (h : values.length = names.length) : Gives names values (.arr values)

theorem map_lookup_zip : ∀ (names : List String) (items values : List Json), names.Nodup →
    items.length ≤ names.length →
      (names.map (lookup (names.zip items)) = values.map some ↔
        items = values ∧ values.length = names.length)
  | [], [], [], _, _ => by simp
  | [], [], _ :: _, _, _ => by simp
  | name :: names, [], [], _, _ => by simp
  | name :: names, [], _ :: _, _, _ => by simp [lookup, valueOf?]
  | name :: names, item :: items, [], _, _ => by simp
  | name :: names, item :: items, value :: values, hnames, hlength => by
      obtain ⟨hname, hnames⟩ := List.nodup_cons.mp hnames
      have ih := map_lookup_zip names items values hnames (Nat.le_of_succ_le_succ hlength)
      have hfirst : lookup ((name, item) :: names.zip items) name = some item := if_pos rfl
      have hrest : names.map (lookup ((name, item) :: names.zip items)) =
          names.map (lookup (names.zip items)) :=
        List.map_congr_left fun other hother =>
          if_neg fun heq : name = other => hname (heq ▸ hother)
      rw [List.zip_cons_cons, List.map_cons, List.map_cons, hfirst, hrest, List.cons.injEq, ih]
      simp only [Option.some.injEq, List.cons.injEq, List.length_cons, Nat.add_right_cancel_iff,
        and_assoc]

/-- What is found under a name in a list of fields stands where the name stands. -/
theorem getElem?_of_lookup_zip {name : String} {v : Json} :
    ∀ {names : List String} {items : List Json} {i : Nat}, names.Nodup → names[i]? = some name →
      lookup (names.zip items) name = some v → items[i]? = some v
  | [], _, _, _, hname, _ => by simp at hname
  | _ :: _, [], _, _, _, h => by simp [lookup, valueOf?] at h
  | _ :: _, _ :: _, 0, _, hname, h => by
      obtain rfl := Option.some.inj hname
      exact (if_pos rfl).symm.trans h
  | first :: names, item :: items, i + 1, hnames, hname, h => by
      obtain ⟨hfirst, hnames⟩ := List.nodup_cons.mp hnames
      have hrest : names[i]? = some name := hname
      have hne : first ≠ name := fun heq => hfirst (heq ▸ List.mem_of_getElem? hrest)
      have hlookup : lookup (names.zip items) name = some v := (if_neg hne).symm.trans h
      have ih : items[i]? = some v := getElem?_of_lookup_zip hnames hrest hlookup
      exact ih

/-- A value gives fields if every look-up in the record that is read in it finds its field. -/
theorem gives_iff {names : List String} {values : List Json} {v : Json} (hnames : names.Nodup) :
    v.Gives names values ↔
      ∃ r, Record.Of names v r ∧ names.map (lookup r.fields) = values.map some := by
  constructor
  · rintro (h | h)
    · exact ⟨_, .object _, h⟩
    · have hlength := Nat.le_of_eq h
      exact ⟨_, .list hlength, (map_lookup_zip _ _ _ hnames hlength).mpr ⟨rfl, h⟩⟩
  · rintro ⟨r, ⟨⟩ | ⟨hlength⟩, h⟩
    · exact .object h
    · obtain ⟨rfl, h⟩ := (map_lookup_zip _ _ _ hnames hlength).mp h
      exact .list h

/-- An object that is made from fields gives them. -/
theorem gives_object (fields : List (String × Json)) (h : (fields.map Prod.fst).Nodup) :
    (object fields).Gives (fields.map Prod.fst) (fields.map Prod.snd) := by
  refine .object ?_
  have hzip : (fields.map Prod.fst).zip (fields.map Prod.snd) = fields := by simp [List.zip_map']
  have hlookup := (map_lookup_zip _ _ (fields.map Prod.snd) h (by simp)).mpr ⟨rfl, by simp⟩
  rw [hzip] at hlookup
  rw [← hlookup]
  exact List.map_congr_left fun name _ => lookup_sortFields fields h name

end Json

/-! ## Reading what was written -/

namespace Decode

/-- A reader reads back what is written. -/
def Inverts (decode : Decode α) (encode : α → Json) : Prop := ∀ a, decode (encode a) = .ok a

theorem inverts_text : text.Inverts .str := fun _ => rfl

theorem inverts_bool : bool.Inverts .bool := fun _ => rfl

theorem inverts_uint64 : uint64.Inverts fun n => .int n.toNat := fun _ => uint64_eq_ok_iff.mpr rfl

/-- A word is read back if it is listed for what it stands for. -/
theorem inverts_word {words : List (String × α)} {text : α → String}
    (h : ∀ a, valueOf? (text a) words = some a) : (word words).Inverts fun a => .str (text a) := by
  intro a
  simp only [word, h]

theorem Inverts.list {decode : Decode α} {encode : α → Json} (h : decode.Inverts encode) :
    (list decode).Inverts (Json.ofList encode) := by
  intro as
  refine list_eq_ok_iff.mpr ⟨_, rfl, ?_⟩
  rw [List.forall₂_map_left_iff]
  exact List.forall₂_same.mpr fun a _ => h a

theorem Inverts.option {decode : Decode α} {encode : α → Json} (h : decode.Inverts encode)
    (hnull : ∀ a, encode a ≠ .null) : (option decode).Inverts (Json.ofOption encode)
  | none => rfl
  | some a => option_eq_ok_iff.mpr (.inr ⟨hnull a, a, h a, rfl⟩)

end Decode

end Rollout
