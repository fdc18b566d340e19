import Rollout.Proofs.Text.Bytes
import Rollout.Proofs.Wire.Fields
import Rollout.Wire.Layout

/-!
# Messages are read back as they were written

A layout is `Exact` if every message that is written by it is read back, as long as the bytes of
the message can be counted. That holds slot by slot: a part of a message is `Part.Exact` if its
occurrences, added to the empty value, give the value again, and a layout is filled from the empty
message by one slot after the other (`Fills`). The headline is `Layout.exact_of_fills`; with it a
layout is exact once each of its parts is, and so is a part that holds messages of an exact layout
(`Part.exact_message`, `Part.exact_messages`).
-/

namespace Rollout

namespace Wire

/-! ## Parts -/

/-- A content that a part may be written as. -/
def Content.Written : Content → Prop
  | number _ | bytes _ => True
  | eight _ | four _ | group => False

/-- A part that is read back from its occurrences. -/
structure Part.Exact (p : Part α) : Prop where
  written : ∀ a, ∀ c ∈ p.write a, c.Written
  reads : ∀ depth a, (∀ c ∈ p.write a, c.Plain) →
    (p.write a).foldlM (p.add depth) p.empty = some a

/-- A layout whose messages are read back from their bytes, if these can be counted. -/
def Layout.Exact (l : Layout α) : Prop :=
  ∀ depth a, (l.encode a).length < UInt64.size → l.merge? depth l.empty (l.encode a) = some a

theorem Layout.Exact.decode?_encode {l : Layout α} (h : l.Exact) {a : α}
    (hlength : (l.encode a).length < UInt64.size) : l.decode? (l.encode a) = some a :=
  h 100 a hlength

namespace Part

/-- A value that is not written when it is empty. -/
theorem written_unless {p : Prop} [Decidable p] {c c' : Content} (hwritten : c'.Written)
    (hc : c ∈ if p then [] else [c']) : c.Written := by
  split at hc
  · cases hc
  · obtain rfl := List.mem_singleton.mp hc
    exact hwritten

theorem exact_number : number.Exact where
  written n _ hc := written_unless (show (Content.number n).Written from trivial) hc
  reads _ n _ := by
    by_cases hn : n = 0
    · subst hn
      rfl
    · simp only [number, if_neg hn]
      rfl

theorem exact_bytes : bytes.Exact where
  written b _ hc := written_unless (show (Content.bytes b).Written from trivial) hc
  reads _ b _ := by
    cases b with
    | nil => rfl
    | cons first rest => rfl

theorem exact_text : text.Exact where
  written s _ hc :=
    written_unless (show (Content.bytes (Text.toBytes s)).Written from trivial) hc
  reads _ s _ := by
    by_cases hs : s = ""
    · subst hs
      rfl
    · have hread := Text.ofBytes?_toBytes s
      simp only [text, if_neg hs, List.foldlM_cons, List.foldlM_nil, hread]
      rfl

theorem exact_manyBytes : manyBytes.Exact where
  written bs c hc := by
    obtain ⟨b, -, rfl⟩ := List.mem_map.mp hc
    trivial
  reads depth bs _ := by
    have hfold : ∀ (bs done : List Bytes),
        (bs.map Content.bytes).foldlM (manyBytes.add depth) done = some (done ++ bs) := by
      intro bs
      induction bs with
      | nil => exact fun done => congrArg some (List.append_nil done).symm
      | cons b rest ih =>
          intro done
          have hrest := ih (done ++ [b])
          rw [List.append_assoc] at hrest
          exact hrest
    exact hfold bs []

section Messages

variable {l : Layout α}

theorem exact_message (h : l.Exact) : (message l).Exact where
  written a c hc := by
    cases a with
    | none => cases hc
    | some a =>
        obtain rfl := List.mem_singleton.mp hc
        trivial
  reads depth a hplain := by
    cases a with
    | none => rfl
    | some a =>
        have hread := h (depth - 1) a (hplain _ List.mem_cons_self)
        have hadd : (message l).add depth none (.bytes (l.encode a)) =
            (l.merge? (depth - 1) l.empty (l.encode a)).map some := rfl
        rw [hread] at hadd
        change [Content.bytes (l.encode a)].foldlM ((message l).add depth) none = _
        rw [List.foldlM_cons, hadd]
        rfl

theorem exact_messages (h : l.Exact) : (messages l).Exact where
  written as c hc := by
    obtain ⟨a, -, rfl⟩ := List.mem_map.mp hc
    trivial
  reads depth as hplain := by
    have hfold : ∀ (as done : List α), (∀ c ∈ (messages l).write as, c.Plain) →
        ((messages l).write as).foldlM ((messages l).add depth) done = some (done ++ as) := by
      intro as
      induction as with
      | nil => exact fun done _ => congrArg some (List.append_nil done).symm
      | cons a rest ih =>
          intro done hplain
          have hread := h (depth - 1) a (hplain _ List.mem_cons_self)
          have hadd : (messages l).add depth done (.bytes (l.encode a)) =
              (l.merge? (depth - 1) l.empty (l.encode a)).map fun a => done ++ [a] := rfl
          have hrest := ih (done ++ [a]) fun c hc => hplain c (List.mem_cons_of_mem _ hc)
          rw [hread] at hadd
          rw [List.append_assoc] at hrest
          change (Content.bytes (l.encode a) :: (messages l).write rest).foldlM _ done = _
          rw [List.foldlM_cons, hadd]
          exact hrest
    exact hfold as [] hplain

end Messages

end Part

/-! ## Slots -/

/-- A field of a record is read and replaced. -/
structure Lens (get : α → β) (put : α → β → α) : Prop where
  get_put : ∀ a b, get (put a b) = b
  put_put : ∀ a b b', put (put a b) b' = put a b'
  put_get : ∀ a, put a (get a) = a

/-- The slots of a message `a` that are read one after the other lead from one message to another. -/
inductive Fills (a : α) : List (Slot α) → α → α → Prop
  | nil (x : α) : Fills a [] x x
  | cons {s : Slot α} {rest : List (Slot α)} {x y z : α}
      (hwritten : ∀ c ∈ s.write a, c.Written)
      (hreads : ∀ depth, (∀ c ∈ s.write a, c.Plain) →
        (s.write a).foldlM (s.add depth) x = some y)
      (hrest : Fills a rest y z) : Fills a (s :: rest) x z

section Slots

variable {part : Part β} {get : α → β} {put : α → β → α}

/-- What is added to a slot is added to its part of the message. -/
theorem foldlM_slot (hlens : Lens get put) (number depth : Nat) : ∀ (cs : List Content) (x : α),
    cs.foldlM ((slot number part get put).add depth) x =
      (cs.foldlM (part.add depth) (get x)).map (put x)
  | [], x => congrArg some (hlens.put_get x).symm
  | c :: cs, x => by
      have hadd : (slot number part get put).add depth x c =
          (part.add depth (get x) c).map (put x) := rfl
      rw [List.foldlM_cons, List.foldlM_cons, hadd]
      cases part.add depth (get x) c with
      | none => rfl
      | some b =>
          have hrest := foldlM_slot hlens number depth cs (put x b)
          have hput : put (put x b) = put x := funext fun b' => hlens.put_put x b b'
          rw [hlens.get_put, hput] at hrest
          exact hrest

/-- An exact part fills its slot, if the slot is a field of the message and as yet empty. -/
theorem Part.Exact.fills {number : Nat} {a x z : α} {rest : List (Slot α)} (h : part.Exact)
    (hlens : Lens get put) (hempty : get x = part.empty)
    (hrest : Fills a rest (put x (get a)) z) :
    Fills a (slot number part get put :: rest) x z := by
  refine .cons (h.written (get a)) (fun depth hplain => ?_) hrest
  have hreads := h.reads depth (get a) hplain
  have hfold : (part.write (get a)).foldlM ((slot number part get put).add depth) x =
      ((part.write (get a)).foldlM (part.add depth) (get x)).map (put x) :=
    foldlM_slot hlens number depth _ x
  rw [hempty, hreads] at hfold
  exact hfold

theorem Fills.written {a : α} {slots : List (Slot α)} {x z : α} (h : Fills a slots x z) :
    ∀ s ∈ slots, ∀ c ∈ s.write a, c.Written := by
  induction h with
  | nil => exact fun s hs => absurd hs List.not_mem_nil
  | cons hwritten _ _ ih =>
      intro s hs
      rcases List.mem_cons.mp hs with rfl | hs
      · exact hwritten
      · exact ih s hs

end Slots

/-! ## Layouts -/

/-- Each slot of a layout has a number of its own, which fits into a key. -/
structure Layout.Numbered (l : Layout α) : Prop where
  distinct : (l.slots.map Slot.number).Nodup
  bounded : ∀ number ∈ l.slots.map Slot.number, 0 < number ∧ number < UInt32.size / 8

theorem find?_slot : ∀ {slots : List (Slot α)} {s : Slot α}, (slots.map Slot.number).Nodup →
    s ∈ slots → slots.find? (fun s' => s'.number = s.number) = some s
  | first :: rest, s, hdistinct, hs => by
      obtain ⟨hfirst, hrest⟩ := List.nodup_cons.mp hdistinct
      rcases List.mem_cons.mp hs with rfl | hs
      · exact List.find?_cons_of_pos (by simp)
      · have hne : first.number ≠ s.number := fun heq =>
          hfirst (heq ▸ List.mem_map_of_mem hs)
        rw [List.find?_cons_of_neg (by simpa using hne)]
        exact find?_slot hrest hs

namespace Layout

variable {l : Layout α}

theorem add_of_mem (h : l.Numbered) {s : Slot α} (hs : s ∈ l.slots) (depth : Nat) (x : α)
    (c : Content) : l.add depth x ⟨s.number, c⟩ = s.add depth x c := by
  rw [add, find?_slot h.distinct hs]

/-- The fields of slots are added as the slots are filled. -/
theorem foldlM_of_fills (h : l.Numbered) {a : α} {slots : List (Slot α)} {x z : α}
    (hfills : Fills a slots x z) (hslots : ∀ s ∈ slots, s ∈ l.slots)
    (hplain : ∀ s ∈ slots, ∀ c ∈ s.write a, c.Plain) (depth : Nat) :
    (slots.flatMap fun s => (s.write a).map (Field.mk s.number)).foldlM (l.add depth) x =
      some z := by
  induction hfills with
  | nil x => rfl
  | @cons s rest x y z _ hreads _ ih =>
      have hrest := ih (fun s' hs' => hslots s' (List.mem_cons_of_mem _ hs'))
        fun s' hs' => hplain s' (List.mem_cons_of_mem _ hs')
      have hadd : (fun x c => l.add depth x ⟨s.number, c⟩) = s.add depth :=
        funext fun x => funext fun c => add_of_mem h (hslots s List.mem_cons_self) depth x c
      have hslot : ((s.write a).map (Field.mk s.number)).foldlM (l.add depth) x = some y := by
        rw [List.foldlM_map, hadd]
        exact hreads depth (hplain s List.mem_cons_self)
      rw [List.flatMap_cons, List.foldlM_append, hslot]
      exact hrest

theorem mem_fields {a : α} {s : Slot α} (hs : s ∈ l.slots) {c : Content} (hc : c ∈ s.write a) :
    ⟨s.number, c⟩ ∈ l.fields a :=
  List.mem_flatMap.mpr ⟨s, hs, List.mem_map_of_mem hc⟩

/-- What stands in a slot is no longer than the message. -/
theorem length_le_encode {a : α} {s : Slot α} (hs : s ∈ l.slots) {b : Bytes}
    (hb : .bytes b ∈ s.write a) : b.length ≤ (l.encode a).length :=
  length_le_of_mem (mem_fields hs hb)

/-- The bytes of a part are no more than those of the whole. -/
theorem length_le_of_bytes {number : Nat} {get : α → Bytes} {put : α → Bytes → α}
    (hslot : slot number .bytes get put ∈ l.slots) (a : α) :
    (get a).length ≤ (l.encode a).length := by
  cases hbytes : get a with
  | nil => exact Nat.zero_le _
  | cons first rest =>
      have hwritten : Content.bytes (first :: rest) ∈ (slot number .bytes get put).write a := by
        change Content.bytes (first :: rest) ∈ Part.bytes.write (get a)
        rw [hbytes]
        exact List.mem_cons_self
      exact length_le_encode hslot hwritten

theorem length_le_of_messages {l' : Layout β} {number : Nat} {get : α → List β}
    {put : α → List β → α} (hslot : slot number (.messages l') get put ∈ l.slots) {a : α} {b : β}
    (hb : b ∈ get a) : (l'.encode b).length ≤ (l.encode a).length :=
  length_le_encode hslot (List.mem_map_of_mem hb)

/-- A layout is exact if its slots have numbers of their own and fill a message from the empty
one. -/
theorem exact_of_fills (h : l.Numbered) (hfills : ∀ a, Fills a l.slots l.empty a) : l.Exact := by
  intro depth a hlength
  have hcontents : ∀ s ∈ l.slots, ∀ c ∈ s.write a, c.Plain := by
    intro s hs c hc
    have hwritten := (hfills a).written s hs c hc
    cases c with
    | number n => trivial
    | bytes b => exact Nat.lt_of_le_of_lt (length_le_encode hs hc) hlength
    | eight b => exact hwritten.elim
    | four b => exact hwritten.elim
    | group => exact hwritten.elim
  have hplain : ∀ f ∈ l.fields a, f.Plain := by
    intro f hf
    obtain ⟨s, hs, hf⟩ := List.mem_flatMap.mp hf
    obtain ⟨c, hc, rfl⟩ := List.mem_map.mp hf
    obtain ⟨hpositive, hbelow⟩ := h.bounded s.number (List.mem_map_of_mem hs)
    exact ⟨hpositive, hbelow, hcontents s hs c hc⟩
  have hfields : decodeFields? depth (l.encode a) = some (l.fields a) :=
    decodeFields?_encodeFields depth hplain
  rw [merge?, hfields]
  exact foldlM_of_fills h (hfills a) (fun _ hs => hs) hcontents depth

end Layout

end Wire

end Rollout
