import Rollout.Wire.Basic

/-!
# Fields are read back as they were written

What is written in front of other bytes is read from them again, with the other bytes left: a
number (`readVarint?_varintBytes`, by induction on the bytes that it may take), the content of a
field (`content?_payload`), and a list of fields (`decodeFields?_encodeFields`, by induction on
the list). A field is `Plain` if its key and the count of its bytes fit into a number on the
wire; a group is not, for nothing writes one.
-/

namespace Rollout.Wire

/-! ## Numbers -/

/-- The last byte of a number is the one below 128. -/
theorem readVarint?_last {n : Nat} (h : n < 128) (count : Nat) (rest : Bytes) :
    readVarint? (count + 1) (UInt8.ofNat n :: rest) = some (n, rest) := by
  have hbyte : (UInt8.ofNat n).toNat = n := by
    rw [UInt8.toNat_ofNat']
    omega
  have hlow : UInt8.ofNat n < 128 := by
    rw [UInt8.lt_iff_toNat_lt, hbyte]
    exact h
  rw [readVarint?, if_pos hlow, hbyte]

theorem readVarint?_more (n count : Nat) (bytes : Bytes) :
    readVarint? (count + 1) (UInt8.ofNat (n % 128 + 128) :: bytes) =
      (readVarint? count bytes).map fun p => (n % 128 + 128 * p.1, p.2) := by
  have hbyte : (UInt8.ofNat (n % 128 + 128)).toNat = n % 128 + 128 := by
    rw [UInt8.toNat_ofNat']
    omega
  have hhigh : ¬UInt8.ofNat (n % 128 + 128) < 128 := by
    rw [UInt8.lt_iff_toNat_lt, hbyte]
    exact Nat.not_lt.mpr (Nat.le_add_left 128 (n % 128))
  have hlow : (n % 128 + 128) % 128 = n % 128 := by omega
  rw [readVarint?, if_neg hhigh, hbyte, hlow]
  cases readVarint? count bytes <;> rfl

/-- A number is read from the front of bytes if it has been written there. -/
theorem readVarint?_varintBytes : ∀ {more count n : Nat} (rest : Bytes), more < count →
    n < Nat.pow 128 (more + 1) → readVarint? count (varintBytes more n ++ rest) = some (n, rest)
  | 0, count + 1, n, rest, _, hn => readVarint?_last (by simpa using hn) count rest
  | more + 1, count + 1, n, rest, hcount, hn => by
      rw [varintBytes]
      by_cases hsmall : n < 128
      · rw [if_pos hsmall]
        exact readVarint?_last hsmall count rest
      · have hhigh : n / 128 < Nat.pow 128 (more + 1) := by
          rw [Nat.div_lt_iff_lt_mul (by decide)]
          exact hn
        have hrest := readVarint?_varintBytes rest (Nat.lt_of_succ_lt_succ hcount) hhigh
        rw [if_neg hsmall, List.cons_append, readVarint?_more, hrest, Option.map_some,
          Nat.mod_add_div]

theorem readBelow?_varint {bound n : Nat} (h : n < bound) (hbound : bound ≤ UInt64.size)
    (rest : Bytes) : readBelow? bound (varint n ++ rest) = some (n, rest) := by
  have hn : n < Nat.pow 128 (9 + 1) := by
    have hsize : UInt64.size ≤ Nat.pow 128 (9 + 1) := by decide
    omega
  have hread : readVarint? 10 (varint n ++ rest) = some (n, rest) :=
    readVarint?_varintBytes rest (by decide) hn
  rw [readBelow?, hread]
  exact if_pos h

theorem varint_ne_nil (n : Nat) : varint n ≠ [] := by
  rw [varint, varintBytes]
  split <;> exact List.cons_ne_nil _ _

/-! ## Contents -/

/-- The form of a content, as it stands in the key of a field. -/
def Content.form : Content → Nat
  | number _ => 0
  | eight _ => 1
  | bytes _ => 2
  | group => 3
  | four _ => 5

/-- The bytes of a content after the key of its field. -/
def Content.payload : Content → Bytes
  | number n => varint n.toNat
  | bytes b => varint b.length ++ b
  | eight b | four b => b
  | group => []

/-- A content that is read back: its bytes have the count that the form asks for, and a count that
can be written. -/
def Content.Plain : Content → Prop
  | number _ => True
  | bytes b => b.length < UInt64.size
  | eight b => b.length = 8
  | four b => b.length = 4
  | group => False

theorem take?_length {count : Nat} {b : Bytes} (h : b.length = count) (rest : Bytes) :
    take? count (b ++ rest) = some (b, rest) := by
  have henough : ¬(b ++ rest).length < count := by
    rw [List.length_append]
    omega
  rw [take?, if_neg henough, ← h, List.take_left, List.drop_left]

theorem content?_payload {c : Content} (h : c.Plain) (rest : Bytes) :
    content? c.form (c.payload ++ rest) = some (c, rest) := by
  cases c with
  | number n =>
      have hread := readBelow?_varint n.toNat_lt_size (Nat.le_refl _) rest
      have hword : UInt64.ofNat n.toNat = n := UInt64.ofNat_toNat
      rw [Content.form, Content.payload, content?, hread]
      change some (Content.number (UInt64.ofNat n.toNat), rest) = _
      rw [hword]
  | bytes b =>
      have hread := readBelow?_varint h (Nat.le_refl _) (b ++ rest)
      have htake := take?_length (rfl : b.length = b.length) rest
      rw [Content.form, Content.payload, content?, List.append_assoc, hread]
      change ((take? b.length (b ++ rest)).bind fun p => some (Content.bytes p.1, p.2)) = _
      rw [htake]
      rfl
  | eight b =>
      rw [Content.form, Content.payload, content?, take?_length h rest]
      rfl
  | four b =>
      rw [Content.form, Content.payload, content?, take?_length h rest]
      rfl
  | group => exact h.elim

/-! ## Fields -/

/-- A field that is read back. -/
structure Field.Plain (f : Field) : Prop where
  positive : 0 < f.number
  below : f.number < UInt32.size / 8
  content : f.content.Plain

variable {f : Field}

theorem Field.Plain.encode_eq (h : f.Plain) :
    f.encode = key f.number f.content.form ++ f.content.payload := by
  obtain ⟨number, content⟩ := f
  cases content with
  | group => exact h.content.elim
  | bytes b => exact List.append_assoc _ _ _
  | _ => rfl

/-- The key of a field that is read back brackets nothing. -/
theorem Content.Plain.form_ne {c : Content} (h : c.Plain) :
    c.form < 8 ∧ c.form ≠ 3 ∧ c.form ≠ 4 := by
  cases c with
  | group => exact h.elim
  | _ =>
      rw [form]
      decide

/-- One more field is read, and then the rest. -/
theorem readFields?_field (h : f.Plain) (fuel depth : Nat) (rest : Bytes) :
    readFields? (fuel + 1) depth none (f.encode ++ rest) =
      (readFields? fuel depth none rest).map fun p => (f :: p.1, p.2) := by
  obtain ⟨hform, hgroup, hend⟩ := h.content.form_ne
  have hpositive := h.positive
  have hbelow := h.below
  have hkey : f.number * 8 + f.content.form < UInt32.size := by omega
  have hread : readBelow? UInt32.size (f.encode ++ rest) =
      some (f.number * 8 + f.content.form, f.content.payload ++ rest) := by
    rw [h.encode_eq, List.append_assoc]
    exact readBelow?_varint hkey (by decide) _
  have hnumber : (f.number * 8 + f.content.form) / 8 = f.number := by omega
  have hmod : (f.number * 8 + f.content.form) % 8 = f.content.form := by omega
  have hcontent := content?_payload h.content rest
  cases hbytes : f.encode ++ rest with
  | nil =>
      rw [hbytes] at hread
      cases hread
  | cons b more =>
      rw [hbytes] at hread
      rw [readFields?, hread]
      simp only [Option.bind_eq_bind, Option.bind_some, hnumber, hmod, hcontent,
        if_neg (Nat.ne_of_gt hpositive), if_neg hend, if_neg hgroup, Option.isSome_none,
        Bool.false_and, Bool.false_eq_true, if_false]
      · cases readFields? fuel depth none rest <;> rfl
      · exact List.cons_ne_nil b more

theorem readFields?_encodeFields : ∀ {fields : List Field} {fuel : Nat} (depth : Nat),
    (∀ f ∈ fields, f.Plain) → fields.length < fuel →
      readFields? fuel depth none (encodeFields fields) = some (fields, [])
  | [], fuel + 1, depth, _, _ => rfl
  | f :: rest, fuel + 1, depth, hplain, hfuel => by
      have hrest : readFields? fuel depth none (encodeFields rest) = some (rest, []) :=
        readFields?_encodeFields depth (fun f' hf' => hplain f' (List.mem_cons_of_mem _ hf'))
          (Nat.lt_of_succ_lt_succ hfuel)
      have hfirst := readFields?_field (hplain f List.mem_cons_self) fuel depth
        (encodeFields rest)
      rw [hrest] at hfirst
      exact hfirst

theorem length_le_encodeFields (fields : List Field) (h : ∀ f ∈ fields, f.Plain) :
    fields.length ≤ (encodeFields fields).length := by
  induction fields with
  | nil => exact Nat.le_refl 0
  | cons f rest ih =>
      have hrest := ih fun f' hf' => h f' (List.mem_cons_of_mem _ hf')
      have hfield : 0 < f.encode.length := by
        rw [(h f List.mem_cons_self).encode_eq, List.length_append]
        have hkey := List.length_pos_iff.mpr (varint_ne_nil (f.number * 8 + f.content.form))
        exact Nat.add_pos_left hkey _
      rw [encodeFields, List.flatMap_cons, List.length_append, List.length_cons]
      rw [encodeFields] at hrest
      omega

/-- Fields are read back as they were written. -/
theorem decodeFields?_encodeFields (depth : Nat) {fields : List Field}
    (h : ∀ f ∈ fields, f.Plain) : decodeFields? depth (encodeFields fields) = some fields := by
  have hfuel : fields.length < (encodeFields fields).length + 1 :=
    Nat.lt_succ_of_le (length_le_encodeFields fields h)
  rw [decodeFields?, readFields?_encodeFields depth h hfuel]
  rfl

/-- Bytes that are written in a field are no longer than all that is written. -/
theorem length_le_of_mem {fields : List Field} {number : Nat} {b : Bytes}
    (h : ⟨number, .bytes b⟩ ∈ fields) : b.length ≤ (encodeFields fields).length := by
  have hfield : b.length ≤ (Field.encode ⟨number, .bytes b⟩).length := by
    rw [Field.encode, List.length_append]
    exact Nat.le_add_left _ _
  refine Nat.le_trans hfield ?_
  obtain ⟨before, after, rfl⟩ := List.append_of_mem h
  rw [encodeFields, List.flatMap_append, List.flatMap_cons, List.length_append, List.length_append]
  omega

end Rollout.Wire
