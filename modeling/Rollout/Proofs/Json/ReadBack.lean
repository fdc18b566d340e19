import Rollout.Proofs.Json.Canonical
import Rollout.Proofs.Json.Scalars

/-!
# Values read back from their texts

The indented text of a value is read back as the value that is `reread` (`parse?_indented`), if its
containers are not nested too deep and its integers fit 64 bits (`Readable`). The items of an array
and the fields of an object are read one after the other (`readItems?_indentedItems`,
`readFields?_indentedFields`), each as far as the comma or the line end after it; the fuel of the
reader lasts because each item takes at least one character.
-/

namespace Rollout.Json

variable {depth : Nat}

/-! ## Containers -/

theorem skipSpace_newline (level : Nat) (cs : List Char) :
    skipSpace ((newline level).toList ++ cs) = skipSpace cs := by
  have hspace : ∀ c ∈ (newline level).toList, isSpace c = true := by
    intro c hc
    rw [newline, String.toList_ofList] at hc
    rcases List.mem_cons.mp hc with rfl | hc
    · rfl
    · rw [List.eq_of_mem_replicate hc]
      rfl
  exact List.dropWhile_append_of_pos hspace

theorem skipSpace_skipSpace (cs : List Char) : skipSpace (skipSpace cs) = skipSpace cs :=
  Text.dropWhile_of_head Text.head_dropWhile

theorem skipSpace_of_head {cs : List Char} (h : ∀ c ∈ cs.head?, isSpace c = false) :
    skipSpace cs = cs := Text.dropWhile_of_head h

theorem endsValue_newline (level : Nat) (cs : List Char) :
    EndsValue ((newline level).toList ++ cs) := by
  rw [newline, String.toList_ofList]
  rintro c ⟨⟩
  exact .inr rfl

theorem length_newline (level : Nat) : 0 < (newline level).toList.length := by
  rw [newline, String.toList_ofList]
  exact Nat.succ_pos _

/-- A character that begins a value: it is no blank and closes no array. -/
def Begins (c : Char) : Prop := isSpace c = false ∧ c ≠ ']'

theorem begins_number {c : Char} (h : c.isDigit = true ∨ c = '-') : Begins c := by
  rcases h with h | rfl
  · have hdigit := Text.toNat_of_isDigit h
    simp only [Begins, isSpace, Bool.or_eq_false_iff, beq_eq_false_iff_ne]
    refine ⟨⟨⟨⟨?_, ?_⟩, ?_⟩, ?_⟩, ?_⟩ <;> rintro rfl <;> exact absurd hdigit (by decide)
  · exact ⟨rfl, by decide⟩

theorem toList_indentedAt_arr (level : Nat) {xs : List Json} (h : xs ≠ []) :
    (indentedAt level (.arr xs)).toList =
      '[' :: ((indentedItems (level + 1) xs).toList ++ ((newline level).toList ++ [']'])) := by
  rw [indentedAt]
  · simp
  · exact h

theorem toList_indentedAt_obj (level : Nat) {fs : List (String × Json)} (h : fs ≠ []) :
    (indentedAt level (.obj fs)).toList =
      '\x7b' ::
        ((indentedFields (level + 1) fs).toList ++ ((newline level).toList ++ ['\x7d'])) := by
  rw [indentedAt]
  · simp
  · exact h

theorem toList_indentedAt_arr_nil (level : Nat) :
    (indentedAt level (.arr [])).toList = ['[', ']'] := by
  rw [indentedAt]
  rfl

theorem toList_indentedAt_obj_nil (level : Nat) :
    (indentedAt level (.obj [])).toList = ['\x7b', '\x7d'] := by
  rw [indentedAt]
  rfl

theorem toList_indentedItems_cons (level : Nat) (x y : Json) (ys : List Json) :
    (indentedItems level (x :: y :: ys)).toList = (newline level).toList
      ++ ((indentedAt level x).toList ++ ',' :: (indentedItems level (y :: ys)).toList) := by
  have htext : indentedItems level (x :: y :: ys) =
      newline level ++ indentedAt level x ++ "," ++ indentedItems level (y :: ys) := rfl
  rw [htext]
  simp

theorem toList_indentedFields_one (level : Nat) (k : String) (v : Json) (tail : List Char) :
    (indentedFields level [(k, v)]).toList ++ tail = (newline level).toList
      ++ ((quoted k).toList ++ (": ".toList ++ ((indentedAt level v).toList ++ tail))) := by
  simp [indentedFields]

theorem toList_indentedFields_cons (level : Nat) (k : String) (v : Json) (g : String × Json)
    (gs : List (String × Json)) (tail : List Char) :
    (indentedFields level ((k, v) :: g :: gs)).toList ++ tail = (newline level).toList
      ++ ((quoted k).toList ++ (": ".toList ++ ((indentedAt level v).toList
        ++ ',' :: ((indentedFields level (g :: gs)).toList ++ tail)))) := by
  have htext : indentedFields level ((k, v) :: g :: gs) = newline level ++ quoted k ++ ": "
      ++ indentedAt level v ++ "," ++ indentedFields level (g :: gs) := rfl
  rw [htext]
  simp

theorem exists_head_indentedAt (level : Nat) (v : Json) :
    ∃ c cs, (indentedAt level v).toList = c :: cs ∧ Begins c := by
  cases v with
  | arr xs =>
      cases xs with
      | nil => exact ⟨'[', _, toList_indentedAt_arr_nil level, rfl, by decide⟩
      | cons x xs =>
          exact ⟨'[', _, toList_indentedAt_arr level (List.cons_ne_nil x xs), rfl, by decide⟩
  | obj fs =>
      cases fs with
      | nil => exact ⟨'\x7b', _, toList_indentedAt_obj_nil level, rfl, by decide⟩
      | cons f fs =>
          exact ⟨'\x7b', _, toList_indentedAt_obj level (List.cons_ne_nil f fs), rfl, by decide⟩
  | null =>
      rw [indentedAt_eq_compact (v := .null) rfl]
      exact ⟨'n', ['u', 'l', 'l'], rfl, rfl, by decide⟩
  | bool b =>
      rw [indentedAt_eq_compact (v := .bool b) rfl]
      cases b with
      | true => exact ⟨'t', ['r', 'u', 'e'], rfl, rfl, by decide⟩
      | false => exact ⟨'f', ['a', 'l', 's', 'e'], rfl, rfl, by decide⟩
  | int n =>
      obtain ⟨c, cs, htext, hc⟩ := exists_head_intText n
      rw [indentedAt_eq_compact (v := .int n) rfl]
      exact ⟨c, cs, htext, begins_number hc⟩
  | real x =>
      rw [indentedAt_eq_compact (v := .real x) rfl, compact]
      cases hfinite : Decimal.isFinite x with
      | false =>
          rw [realText_of_not_finite hfinite]
          exact ⟨'n', ['u', 'l', 'l'], rfl, rfl, by decide⟩
      | true =>
          obtain ⟨c, cs, htext, hc⟩ := exists_head_realText hfinite
          exact ⟨c, cs, htext, begins_number hc⟩
  | str s =>
      have htext := toList_quoted s []
      rw [List.append_nil] at htext
      rw [indentedAt_eq_compact (v := .str s) rfl, compact]
      exact ⟨'"', _, htext, rfl, by decide⟩

theorem skipSpace_indentedAt (level : Nat) (v : Json) (rest : List Char) :
    skipSpace ((indentedAt level v).toList ++ rest) = (indentedAt level v).toList ++ rest := by
  obtain ⟨c, cs, htext, hc, -⟩ := exists_head_indentedAt level v
  rw [htext]
  refine skipSpace_of_head ?_
  rintro d ⟨⟩
  exact hc

theorem exists_skipSpace_indentedItems (level : Nat) {xs : List Json} (h : xs ≠ [])
    (tail : List Char) :
    ∃ c cs, skipSpace ((indentedItems level xs).toList ++ tail) = c :: cs ∧ c ≠ ']' := by
  obtain ⟨x, rest, hxs⟩ : ∃ x rest, (indentedItems level xs).toList ++ tail =
      (newline level).toList ++ ((indentedAt level x).toList ++ rest) := by
    match xs, h with
    | [x], _ => exact ⟨x, tail, by simp [indentedItems]⟩
    | x :: y :: ys, _ =>
      refine ⟨x, ',' :: ((indentedItems level (y :: ys)).toList ++ tail), ?_⟩
      rw [toList_indentedItems_cons, List.append_assoc, List.append_assoc, List.cons_append]
  obtain ⟨c, cs, htext, -, hc⟩ := exists_head_indentedAt level x
  rw [hxs, skipSpace_newline, skipSpace_indentedAt, htext]
  exact ⟨c, cs ++ rest, rfl, hc⟩

theorem exists_skipSpace_indentedFields (level : Nat) {fs : List (String × Json)} (h : fs ≠ [])
    (tail : List Char) :
    ∃ cs, skipSpace ((indentedFields level fs).toList ++ tail) = '"' :: cs := by
  obtain ⟨k, rest, hfs⟩ : ∃ k rest, (indentedFields level fs).toList ++ tail =
      (newline level).toList ++ ((quoted k).toList ++ rest) := by
    match fs, h with
    | [(k, v)], _ =>
      exact ⟨k, _, toList_indentedFields_one level k v tail⟩
    | (k, v) :: g :: gs, _ =>
      exact ⟨k, _, toList_indentedFields_cons level k v g gs tail⟩
  rw [hfs, skipSpace_newline, toList_quoted]
  exact ⟨_, rfl⟩

/-- The items of an array are read back one after the other. -/
theorem readItems?_indentedItems {level : Nat} {tail rest : List Char} (hend : EndsValue tail)
    (htail : skipSpace tail = ']' :: rest) :
    ∀ {xs : List Json} {fuel : Nat} {cs : List Char} (items : List Json), xs ≠ [] →
      (∀ v ∈ xs, ReadsBack depth v) →
      skipSpace cs = skipSpace ((indentedItems level xs).toList ++ tail) →
      (indentedItems level xs).toList.length ≤ fuel →
      readItems? fuel depth items cs = some (.arr (items.reverse ++ rereadItems xs), rest)
  | [x], fuel, cs, items, _, h, hcs, hfuel => by
      have hlength := length_newline level
      rw [indentedItems, String.toList_append, List.length_append] at hfuel
      rw [indentedItems, String.toList_append, List.append_assoc, skipSpace_newline,
        skipSpace_indentedAt] at hcs
      obtain ⟨fuel, rfl⟩ : ∃ n, fuel = n + 1 := ⟨fuel - 1, by omega⟩
      have hread := h x List.mem_cons_self level fuel cs tail hend hcs (by omega)
      rw [readItems?, hread]
      simp only [Option.bind_eq_bind, Option.bind_some, htail]
      simp [rereadItems]
  | x :: y :: ys, fuel, cs, items, _, h, hcs, hfuel => by
      have hlength := length_newline level
      have htext := toList_indentedItems_cons level x y ys
      rw [htext, List.length_append, List.length_append, List.length_cons] at hfuel
      rw [htext, List.append_assoc, List.append_assoc, skipSpace_newline,
        skipSpace_indentedAt] at hcs
      obtain ⟨fuel, rfl⟩ : ∃ n, fuel = n + 1 := ⟨fuel - 1, by omega⟩
      have hcomma : EndsValue (',' :: (indentedItems level (y :: ys)).toList ++ tail) := by
        rintro c ⟨⟩
        exact .inl rfl
      have hread := h x List.mem_cons_self level fuel cs _ hcomma hcs (by omega)
      have hskip : skipSpace (',' :: (indentedItems level (y :: ys)).toList ++ tail) =
          ',' :: ((indentedItems level (y :: ys)).toList ++ tail) := rfl
      have hrest := readItems?_indentedItems hend htail (x.reread :: items)
        (List.cons_ne_nil y ys) (fun v hv => h v (List.mem_cons_of_mem x hv)) rfl
        (Nat.le_of_lt (by omega : (indentedItems level (y :: ys)).toList.length < fuel))
      rw [readItems?, hread]
      simp only [Option.bind_eq_bind, Option.bind_some, hskip, hrest]
      simp [rereadItems]

theorem skipSpace_quote (cs : List Char) : skipSpace ('"' :: cs) = '"' :: cs := rfl

/-- One field of an object and what stands after it. -/
theorem toList_field (k : String) (level : Nat) (v : Json) (rest : List Char) :
    (quoted k).toList ++ (": ".toList ++ ((indentedAt level v).toList ++ rest)) =
      '"' :: (k.toList.flatMap escaped
        ++ '"' :: ':' :: ' ' :: ((indentedAt level v).toList ++ rest)) := by
  rw [toList_quoted]
  rfl

/-- A field is read up to what follows its value. -/
theorem readFields?_field {level fuel : Nat} {cs rest : List Char} {k : String} {v : Json}
    (fields : List (String × Json)) (h : ReadsBack depth v) (hend : EndsValue rest)
    (hcs : skipSpace cs =
      (quoted k).toList ++ (": ".toList ++ ((indentedAt level v).toList ++ rest)))
    (hfuel : (indentedAt level v).toList.length ≤ fuel) :
    readFields? (fuel + 1) depth fields cs =
      match skipSpace rest with
      | ',' :: rest => readFields? fuel depth ((k, v.reread) :: fields) rest
      | '\x7d' :: rest => some (.obj (sortFields ((k, v.reread) :: fields).reverse), rest)
      | _ => none := by
  have hvalue : skipSpace (' ' :: ((indentedAt level v).toList ++ rest)) =
      (indentedAt level v).toList ++ rest := skipSpace_indentedAt level v rest
  have hread := h level fuel _ rest hend hvalue hfuel
  have hcolon : skipSpace (':' :: ' ' :: ((indentedAt level v).toList ++ rest)) =
      ':' :: ' ' :: ((indentedAt level v).toList ++ rest) := rfl
  rw [toList_field] at hcs
  rw [readFields?, hcs]
  simp only [readString?_quoted, Option.bind_eq_bind, Option.bind_some, hcolon]
  rewrite [hread]
  rfl

/-- The fields of an object are read back one after the other. -/
theorem readFields?_indentedFields {level : Nat} {tail rest : List Char} (hend : EndsValue tail)
    (htail : skipSpace tail = '\x7d' :: rest) :
    ∀ {fs : List (String × Json)} {fuel : Nat} {cs : List Char} (fields : List (String × Json)),
      fs ≠ [] → (∀ f ∈ fs, ReadsBack depth f.2) →
      skipSpace cs = skipSpace ((indentedFields level fs).toList ++ tail) →
      (indentedFields level fs).toList.length ≤ fuel →
      readFields? fuel depth fields cs =
        some (.obj (sortFields (fields.reverse ++ rereadFields fs)), rest)
  | [(k, v)], fuel, cs, fields, _, h, hcs, hfuel => by
      have hlength := length_newline level
      have hlong : (indentedAt level v).toList.length + (newline level).toList.length ≤ fuel := by
        simp only [indentedFields, String.toList_append, List.length_append] at hfuel
        omega
      rw [toList_indentedFields_one, skipSpace_newline, toList_field, skipSpace_quote,
        ← toList_field] at hcs
      obtain ⟨fuel, rfl⟩ : ∃ n, fuel = n + 1 := ⟨fuel - 1, by omega⟩
      have hvalue : ReadsBack depth v := h (k, v) List.mem_cons_self
      rw [readFields?_field fields hvalue hend hcs (by omega)]
      simp only [htail, rereadFields, List.reverse_cons]
  | (k, v) :: g :: gs, fuel, cs, fields, _, h, hcs, hfuel => by
      have hlength := length_newline level
      have hlong : (indentedAt level v).toList.length + (newline level).toList.length
          + (indentedFields level (g :: gs)).toList.length ≤ fuel := by
        have hlength := congrArg List.length (toList_indentedFields_cons level k v g gs [])
        simp only [List.length_append, List.length_cons, List.length_nil] at hlength
        omega
      have hcomma : EndsValue (',' :: ((indentedFields level (g :: gs)).toList ++ tail)) := by
        rintro c ⟨⟩
        exact .inl rfl
      have hskip : skipSpace (',' :: ((indentedFields level (g :: gs)).toList ++ tail)) =
          ',' :: ((indentedFields level (g :: gs)).toList ++ tail) := rfl
      rw [toList_indentedFields_cons, skipSpace_newline, toList_field, skipSpace_quote,
        ← toList_field] at hcs
      obtain ⟨fuel, rfl⟩ : ∃ n, fuel = n + 1 := ⟨fuel - 1, by omega⟩
      have hvalue : ReadsBack depth v := h (k, v) List.mem_cons_self
      rw [readFields?_field fields hvalue hcomma hcs (by omega)]
      have hrest := readFields?_indentedFields hend htail ((k, v.reread) :: fields)
        (List.cons_ne_nil g gs) (fun f hf => h f (List.mem_cons_of_mem _ hf)) rfl
        (by omega : (indentedFields level (g :: gs)).toList.length ≤ fuel)
      simp only [hskip, hrest, rereadFields, List.reverse_cons, List.append_assoc,
        List.singleton_append]

/-! ## Nested values -/

theorem readsBack_arr {items : List Json} (h : ∀ v ∈ items, ReadsBack depth v) :
    ReadsBack (depth + 1) (.arr items) := by
  intro level fuel cs rest hrest hcs hfuel
  cases items with
  | nil =>
      rw [toList_indentedAt_arr_nil] at hcs hfuel
      obtain ⟨fuel, rfl⟩ : ∃ n, fuel = n + 1 := ⟨fuel - 1, by simp at hfuel; omega⟩
      rw [readValue?, hcs]
      rfl
  | cons x xs =>
      have hne := List.cons_ne_nil x xs
      generalize x :: xs = items at h hcs hfuel hne ⊢
      rw [toList_indentedAt_arr level hne] at hcs hfuel
      simp only [List.length_cons, List.length_append] at hfuel
      obtain ⟨fuel, rfl⟩ : ∃ n, fuel = n + 1 := ⟨fuel - 1, by omega⟩
      have htail : skipSpace ((newline level).toList ++ ']' :: rest) = ']' :: rest :=
        skipSpace_newline level _
      have hlong : (indentedItems (level + 1) items).toList.length ≤ fuel := by omega
      have hread := readItems?_indentedItems (endsValue_newline level (']' :: rest)) htail [] hne h
        (skipSpace_skipSpace _) hlong
      obtain ⟨c, cs', hskip, hc⟩ := exists_skipSpace_indentedItems (level + 1) hne
        ((newline level).toList ++ ']' :: rest)
      have hopen : skipSpace cs = '[' :: ((indentedItems (level + 1) items).toList
          ++ ((newline level).toList ++ ']' :: rest)) := by
        rw [hcs]
        simp
      rw [hskip] at hread
      rw [readValue?, hopen]
      simp only [hskip]
      split
      · next heq => exact absurd (List.cons.inj heq).1 hc
      · exact hread

theorem readsBack_obj {fields : List (String × Json)} (h : ∀ f ∈ fields, ReadsBack depth f.2) :
    ReadsBack (depth + 1) (.obj fields) := by
  intro level fuel cs rest hrest hcs hfuel
  cases fields with
  | nil =>
      rw [toList_indentedAt_obj_nil] at hcs hfuel
      obtain ⟨fuel, rfl⟩ : ∃ n, fuel = n + 1 := ⟨fuel - 1, by simp at hfuel; omega⟩
      rw [readValue?, hcs]
      rfl
  | cons f fs =>
      have hne := List.cons_ne_nil f fs
      generalize f :: fs = fields at h hcs hfuel hne ⊢
      rw [toList_indentedAt_obj level hne] at hcs hfuel
      simp only [List.length_cons, List.length_append] at hfuel
      obtain ⟨fuel, rfl⟩ : ∃ n, fuel = n + 1 := ⟨fuel - 1, by omega⟩
      have htail : skipSpace ((newline level).toList ++ '\x7d' :: rest) = '\x7d' :: rest :=
        skipSpace_newline level _
      have hlong : (indentedFields (level + 1) fields).toList.length ≤ fuel := by omega
      have hread := readFields?_indentedFields (endsValue_newline level ('\x7d' :: rest)) htail []
        hne h (skipSpace_skipSpace _) hlong
      obtain ⟨cs', hskip⟩ := exists_skipSpace_indentedFields (level + 1) hne
        ((newline level).toList ++ '\x7d' :: rest)
      have hopen : skipSpace cs = '\x7b' :: ((indentedFields (level + 1) fields).toList
          ++ ((newline level).toList ++ '\x7d' :: rest)) := by
        rw [hcs]
        simp
      rw [hskip] at hread
      rw [readValue?, hopen]
      simp only [hskip]
      exact hread

/-- A value whose containers are not nested deeper than a limit and whose integers fit 64 bits, with
or without a sign. -/
inductive Readable : Nat → Json → Prop
  | null {depth : Nat} : Readable depth .null
  | bool {depth : Nat} (b : Bool) : Readable depth (.bool b)
  | int {depth : Nat} {n : Int} (hlow : -2 ^ 63 ≤ n) (hhigh : n < 2 ^ 64) : Readable depth (.int n)
  | real {depth : Nat} (x : Float) : Readable depth (.real x)
  | str {depth : Nat} (s : String) : Readable depth (.str s)
  | arr {depth : Nat} {items : List Json} (h : ∀ v ∈ items, Readable depth v) :
      Readable (depth + 1) (.arr items)
  | obj {depth : Nat} {fields : List (String × Json)} (h : ∀ f ∈ fields, Readable depth f.2) :
      Readable (depth + 1) (.obj fields)

theorem Readable.readsBack {v : Json} (h : Readable depth v) : ReadsBack depth v := by
  induction h with
  | null => exact readsBack_null
  | bool b => exact readsBack_bool b
  | int hlow hhigh => exact readsBack_int hlow hhigh
  | real x => exact readsBack_real x
  | str s => exact readsBack_str s
  | arr _ ih => exact readsBack_arr ih
  | obj _ ih => exact readsBack_obj ih

/-- What is read back from the indented text of a value. -/
theorem parse?_indented {v : Json} (h : v.Readable 127) : parse? v.indented = some v.reread := by
  have hlong : (indentedAt 0 v).toList.length ≤ 2 * (indentedAt 0 v).toList.length + 2 := by omega
  have hskip := skipSpace_indentedAt 0 v []
  have hread := h.readsBack 0 _ (indentedAt 0 v).toList [] nofun
    (by rwa [List.append_nil] at hskip ⊢) hlong
  rw [parse?, parseNested?, indented]
  simp only [hread]
  rfl

/-! ## Writers of values -/

section

variable {encode : α → Json}

theorem Readable.ofOption (h : ∀ a, (encode a).Readable depth) :
    ∀ o, (ofOption encode o).Readable depth
  | none => .null
  | some a => h a

theorem Readable.ofList (h : ∀ a, (encode a).Readable depth) (as : List α) :
    (ofList encode as).Readable (depth + 1) := by
  refine .arr fun v hv => ?_
  obtain ⟨a, -, rfl⟩ := List.mem_map.mp hv
  exact h a

theorem Readable.uint64 (n : UInt64) : Readable depth (.int n.toNat) := by
  have hsize := n.toNat_lt_size
  rw [UInt64.size] at hsize
  exact .int (by omega) (by omega)

theorem reread_ofOption (o : Option α) :
    (ofOption encode o).reread = ofOption (fun a => (encode a).reread) o := by
  cases o with
  | none => rfl
  | some a => rfl

theorem reread_ofList (as : List α) :
    (ofList encode as).reread = ofList (fun a => (encode a).reread) as := by
  rw [ofList, reread, rereadItems_eq_map, List.map_map]
  rfl

end

/-- Every field is found in the object that has been read back. -/
theorem lookup_reread {fields : List (String × Json)} (h : (fields.map Prod.fst).Nodup) :
    ∀ f ∈ fields, lookup (sortFields (rereadFields fields)) f.1 = some f.2.reread := by
  intro f hf
  have hnames : ((fields.map fun f => (f.1, f.2.reread)).map Prod.fst).Nodup := by
    rwa [List.map_map]
  rw [rereadFields_eq_map, lookup_sortFields _ hnames, lookup_map, lookup_of_mem h hf,
    Option.map_some]

end Rollout.Json
