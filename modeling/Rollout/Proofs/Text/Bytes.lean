import Mathlib.Tactic.SplitIfs
import Rollout.Text.Utf8

/-!
# The bytes of a text

The bytes of a text are the forms of its characters one after the other. A text is read back from
them (`ofBytes?_toBytes`), and texts are in the order of their bytes (`toBytes_lt`): the form of the
smaller of two characters is the smaller one, and it is so before the shorter form ends, whatever
follows. For forms of one length that is shown byte by byte from the first one on (`Ascending.more`).
-/

namespace Rollout.Text

theorem getElem_of_lt {b : ByteArray} {i : Nat} (h : i < b.data.toList.length) :
    b.get! i = b.data.toList[i] := by
  have hget : b.get! i = b.data[i]! := rfl
  rw [hget, getElem!_pos b.data i h]
  rfl

theorem toList_loop (b : ByteArray) (i : Nat) (r : Bytes) :
    ByteArray.toList.loop b i r = r.reverse ++ b.data.toList.drop i := by
  have hsize : b.size = b.data.toList.length := rfl
  fun_induction ByteArray.toList.loop b i r with
  | case1 i r h ih =>
      rw [hsize] at h
      rw [ih, List.drop_eq_getElem_cons h, List.reverse_cons, List.append_assoc, getElem_of_lt h]
      rfl
  | case2 i r h =>
      rw [hsize] at h
      rw [List.drop_eq_nil_of_le (Nat.not_lt.mp h), List.append_nil]

theorem toBytes_eq (s : String) : toBytes s = s.toByteArray.data.toList := by
  rw [toBytes, String.toUTF8_eq_toByteArray, ByteArray.toList, toList_loop]
  rfl

/-- A text is read back from its form in bytes. -/
theorem ofBytes?_toBytes (s : String) : ofBytes? (toBytes s) = some s := by
  have hbytes : (⟨(toBytes s).toArray⟩ : ByteArray) = s.toByteArray := by
    rw [toBytes_eq]
  rw [ofBytes?, hbytes, String.fromUTF8?, dif_pos s.isValidUTF8]
  rfl

theorem toBytes_eq_flatMap (s : String) : toBytes s = s.toList.flatMap String.utf8EncodeChar := by
  rw [toBytes_eq, ← s.ofList_toList, String.toByteArray_ofList, String.toList_ofList]
  simp [List.utf8Encode]

/-! ## Order -/

/-- The smaller of two numbers below `b` has the smaller form, whatever follows the two. -/
def Ascending (b : Nat) (form : Nat → Bytes) : Prop :=
  ∀ m n : Nat, m < n → n < b → ∀ xs ys, form m ++ xs < form n ++ ys

theorem cons_lt_cons_of_lt {a b : Nat} (h : a < b) (hb : b < 256) (xs ys : Bytes) :
    UInt8.ofNat a :: xs < UInt8.ofNat b :: ys := by
  refine List.cons_lt_cons_iff.mpr (.inl (UInt8.lt_iff_toNat_lt.mpr ?_))
  rwa [UInt8.toNat_ofNat_of_lt' (Nat.lt_trans h hb), UInt8.toNat_ofNat_of_lt' hb]

theorem ascending_first (b base : Nat) (h : b + base ≤ 256) :
    Ascending b fun v => [UInt8.ofNat (v % b + base)] := by
  intro m n hlt hn xs ys
  have hm : m < b := Nat.lt_trans hlt hn
  simp only [Nat.mod_eq_of_lt hn, Nat.mod_eq_of_lt hm]
  exact cons_lt_cons_of_lt (Nat.add_lt_add_right hlt base) (by omega) xs ys

/-- One more byte for the last six bits. -/
theorem Ascending.more {b : Nat} {form : Nat → Bytes} (h : Ascending b form) :
    Ascending (b * 64) fun v => form (v / 64) ++ [UInt8.ofNat (v % 64 + 128)] := by
  intro m n hlt hn xs ys
  rw [List.append_assoc, List.append_assoc]
  rcases Nat.lt_or_ge (m / 64) (n / 64) with hfront | hfront
  · exact h _ _ hfront (Nat.div_lt_of_lt_mul (Nat.mul_comm b 64 ▸ hn)) _ _
  · have hsame : m / 64 = n / 64 :=
      Nat.le_antisymm (Nat.div_le_div_right (Nat.le_of_lt hlt)) hfront
    rw [hsame]
    exact List.append_left_lt (cons_lt_cons_of_lt (by omega) (by omega) xs ys)

theorem ascending_two : Ascending 2048 fun v =>
    [UInt8.ofNat (v / 64 % 32 + 192), UInt8.ofNat (v % 64 + 128)] :=
  (ascending_first 32 192 (by decide)).more

theorem ascending_three : Ascending 65536 fun v =>
    [UInt8.ofNat (v / 4096 % 16 + 224), UInt8.ofNat (v / 64 % 64 + 128),
      UInt8.ofNat (v % 64 + 128)] := by
  have h := (ascending_first 16 224 (by decide)).more.more
  simp only [Nat.div_div_eq_div_mul] at h
  exact h

theorem ascending_four : Ascending 2097152 fun v =>
    [UInt8.ofNat (v / 262144 % 8 + 240), UInt8.ofNat (v / 4096 % 64 + 128),
      UInt8.ofNat (v / 64 % 64 + 128), UInt8.ofNat (v % 64 + 128)] := by
  have h := (ascending_first 8 240 (by decide)).more.more.more
  simp only [Nat.div_div_eq_div_mul] at h
  exact h

theorem utf8EncodeChar_lt {c d : Char} (h : c < d) (xs ys : Bytes) :
    String.utf8EncodeChar c ++ xs < String.utf8EncodeChar d ++ ys := by
  have hlt : c.val.toNat < d.val.toNat := h
  have hd : d.val.toNat < 1114112 := by
    rcases d.valid with h | h
    · exact Nat.lt_trans h (by decide)
    · exact h.2
  simp only [String.utf8EncodeChar]
  generalize c.val.toNat = m at hlt
  generalize d.val.toNat = n at hlt hd
  split_ifs
  all_goals try omega
  -- the longer of two forms has the greater first byte, and so has the greater of two short ones
  all_goals try exact cons_lt_cons_of_lt (by omega) (by omega) _ _
  · exact ascending_two m n hlt (by omega) xs ys
  · exact ascending_three m n hlt (by omega) xs ys
  · exact ascending_four m n hlt (by omega) xs ys

theorem flatMap_utf8EncodeChar_lt {cs ds : List Char} (h : cs < ds) :
    cs.flatMap String.utf8EncodeChar < ds.flatMap String.utf8EncodeChar := by
  induction h with
  | @nil d ds =>
      have hsome : String.utf8EncodeChar d ≠ [] := by simp
      obtain ⟨b, bs, hb⟩ := List.exists_cons_of_ne_nil hsome
      rw [List.flatMap_cons, hb]
      exact .nil
  | rel h => exact utf8EncodeChar_lt h _ _
  | cons _ ih => exact List.append_left_lt ih

/-- Texts are in the order of their bytes. -/
theorem toBytes_lt {s t : String} (h : s < t) : toBytes s < toBytes t := by
  rw [toBytes_eq_flatMap, toBytes_eq_flatMap]
  exact flatMap_utf8EncodeChar_lt h

end Rollout.Text
