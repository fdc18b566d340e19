import Rollout.Proofs.Json.Numbers

/-!
# Simple values read back from their texts

A value `ReadsBack` if the reader finds it again at the head of a text that begins with what is
written for it, whatever the level of indentation and whatever stands behind, and stops right after
it. What it finds is `reread`: integers, strings and words are kept, a finite double is read as some
double (`exists_rereadReal_of_finite`), another one as `null`. Here are the values that hold no
others. What may stand behind a value (`EndsValue`) ends a number.
-/

namespace Rollout.Json

/-! ## Strings -/

theorem readHex?_hexDigit : ∀ n < 32,
    Text.readHex? ['0', '0', hexDigit (n / 16), hexDigit n] = some n := by
  decide

/-- A character is written as itself or as an escape that names it. -/
theorem escaped_cases (c : Char) :
    (escaped c = [c] ∧ c ≠ '"' ∧ c ≠ '\\' ∧ ¬c.toNat < 0x20)
      ∨ ∃ body, escaped c = '\\' :: body ∧ ∀ rest, readEscape? (body ++ rest) = some (c, rest) := by
  rw [escaped]
  repeat' split
  all_goals first
    | subst_vars; exact .inr ⟨_, rfl, fun _ => rfl⟩
    | skip
  · next hlow =>
    refine .inr ⟨_, rfl, fun rest => ?_⟩
    have hunit : readUnit? ('0' :: '0' :: hexDigit (c.toNat / 16) :: hexDigit c.toNat :: rest) =
        some (c.toNat, rest) := by
      rw [readUnit?, readHex?_hexDigit _ hlow]
      rfl
    simp only [List.cons_append, List.nil_append]
    rw [readEscape?, hunit]
    simp only [Option.bind_eq_bind, Option.bind_some]
    rw [if_neg (by omega), if_neg (by omega), Char.ofNat_toNat]
  · exact .inl ⟨rfl, by assumption, by assumption, by assumption⟩

theorem readString?_escaped (s : List Char) {fuel : Nat} (gathered rest : List Char)
    (h : s.length < fuel) :
    readString? fuel gathered (s.flatMap escaped ++ '"' :: rest) =
      some (String.ofList (gathered.reverse ++ s), rest) := by
  induction s generalizing fuel gathered with
  | nil =>
      obtain ⟨fuel, rfl⟩ := Nat.exists_eq_succ_of_ne_zero (Nat.ne_of_gt h)
      rw [List.flatMap_nil, List.nil_append, readString?, List.append_nil]
  | cons c s ih =>
      obtain ⟨fuel, rfl⟩ := Nat.exists_eq_succ_of_ne_zero (Nat.ne_of_gt (Nat.zero_lt_of_lt h))
      have hstep := ih (c :: gathered) (Nat.lt_of_succ_lt_succ h)
      have hgather : (c :: gathered).reverse ++ s = gathered.reverse ++ c :: s := by simp
      rw [hgather] at hstep
      rw [List.flatMap_cons, List.append_assoc]
      rcases escaped_cases c with ⟨hplain, hquote, hslash, hlow⟩ | ⟨body, hbody, hread⟩
      · rw [hplain, List.singleton_append, readString?, if_neg hlow, hstep]
        · rintro rfl; exact hquote rfl
        · rintro rfl; exact hslash rfl
      · rw [hbody, List.cons_append, readString?, hread]
        exact hstep

theorem length_le_escaped (s : List Char) : s.length ≤ (s.flatMap escaped).length := by
  induction s with
  | nil => exact Nat.le_refl _
  | cons c s ih =>
      have hne : 1 ≤ (escaped c).length := by
        rcases escaped_cases c with ⟨h, -⟩ | ⟨body, h, -⟩ <;> rw [h] <;> simp
      rw [List.flatMap_cons, List.length_append, List.length_cons]
      omega

/-- A string is read back from its quotes. -/
theorem readString?_quoted (s : String) (rest : List Char) :
    readString? ((s.toList.flatMap escaped ++ '"' :: rest).length + 1) []
      (s.toList.flatMap escaped ++ '"' :: rest) = some (s, rest) := by
  have hlength := length_le_escaped s.toList
  rw [readString?_escaped s.toList [] rest (by rw [List.length_append]; omega), List.reverse_nil,
    List.nil_append, String.ofList_toList]

theorem toList_quoted (s : String) (rest : List Char) :
    (quoted s).toList ++ rest = '"' :: (s.toList.flatMap escaped ++ '"' :: rest) := by
  simp [quoted]

/-! ## Values read back -/

/-- What a double is read back as: a double, or `null` if it is not finite. -/
def rereadReal (x : Float) : Json :=
  match readNumber? (realText x).toList with
  | some (v, _) => v
  | none => .null

mutual

/-- What a value is read back as: its objects are sorted, and its doubles may have changed. -/
def reread : Json → Json
  | .real x => rereadReal x
  | .arr xs => .arr (rereadItems xs)
  | .obj fs => .obj (sortFields (rereadFields fs))
  | v => v

def rereadItems : List Json → List Json
  | [] => []
  | x :: xs => reread x :: rereadItems xs

def rereadFields : List (String × Json) → List (String × Json)
  | [] => []
  | (k, v) :: fs => (k, reread v) :: rereadFields fs

end

theorem rereadItems_eq_map (xs : List Json) : rereadItems xs = xs.map reread := by
  induction xs with
  | nil => rfl
  | cons x xs ih => rw [rereadItems, ih, List.map_cons]

theorem rereadFields_eq_map (fs : List (String × Json)) :
    rereadFields fs = fs.map fun f => (f.1, f.2.reread) := by
  induction fs with
  | nil => rfl
  | cons f fs ih => rw [rereadFields, ih, List.map_cons]

/-- What stands after a value: the next item or field, or the line end before the container is
closed. -/
def EndsValue (rest : List Char) : Prop := ∀ c ∈ rest.head?, c = ',' ∨ c = '\n'

theorem EndsValue.endsNumber {rest : List Char} (h : EndsValue rest) : EndsNumber rest := by
  intro c hc
  rcases h c hc with rfl | rfl <;> decide

/-- A value is read back from its text, at any level and with any text after it. -/
def ReadsBack (depth : Nat) (v : Json) : Prop :=
  ∀ (level fuel : Nat) (cs rest : List Char), EndsValue rest →
    skipSpace cs = (indentedAt level v).toList ++ rest →
    (indentedAt level v).toList.length ≤ fuel →
    readValue? fuel depth cs = some (v.reread, rest)

/-- The space in front of a value does not matter. -/
theorem readValue?_skipped {fuel depth : Nat} {cs cs' : List Char} (hcs : skipSpace cs = cs')
    (hcs' : skipSpace cs' = cs') :
    readValue? (fuel + 1) depth cs = readValue? (fuel + 1) depth cs' := by
  rw [readValue?, readValue?, hcs, hcs']

theorem readValue?_number {fuel depth : Nat} {cs rest : List Char} {c : Char}
    (hcs : skipSpace cs = c :: rest) (hc : c.isDigit = true ∨ c = '-') :
    readValue? (fuel + 1) depth cs = readNumber? (c :: rest) := by
  rw [readValue?, hcs]
  split
  all_goals first
    | rfl
    | next heq =>
        obtain ⟨rfl, -⟩ := List.cons.inj heq
        exact absurd hc (by decide)

/-- Whether a value is a container of others. -/
def isContainer : Json → Bool
  | .arr _ | .obj _ => true
  | _ => false

/-- A value that is no container is written the same at all levels. -/
theorem indentedAt_eq_compact {v : Json} (hv : v.isContainer = false) (level : Nat) :
    indentedAt level v = compact v := by
  cases v with
  | arr xs | obj fs => cases hv
  | _ => rfl

theorem readsBack_of_compact {depth : Nat} {v : Json} (hv : v.isContainer = false)
    (h : ∀ (fuel : Nat) (cs rest : List Char), EndsValue rest →
      skipSpace cs = (compact v).toList ++ rest →
      readValue? (fuel + 1) depth cs = some (v.reread, rest)) (hne : (compact v).toList ≠ []) :
    ReadsBack depth v := by
  intro level fuel cs rest hrest hcs hfuel
  rw [indentedAt_eq_compact hv] at hcs hfuel
  obtain ⟨fuel, rfl⟩ : ∃ n, fuel = n + 1 := by
    have := List.length_pos_iff.mpr hne
    exact ⟨fuel - 1, by omega⟩
  exact h fuel cs rest hrest hcs

variable {depth : Nat}

theorem readsBack_null : ReadsBack depth .null := by
  refine readsBack_of_compact rfl (fun fuel cs rest _ hcs => ?_) (by decide)
  rw [readValue?_skipped hcs rfl]
  rfl

theorem readsBack_bool (b : Bool) : ReadsBack depth (.bool b) := by
  refine readsBack_of_compact rfl (fun fuel cs rest _ hcs => ?_) (by cases b <;> decide)
  cases b with
  | true =>
      rw [readValue?_skipped hcs rfl]
      rfl
  | false =>
      rw [readValue?_skipped hcs rfl]
      rfl

theorem readsBack_str (s : String) : ReadsBack depth (.str s) := by
  refine readsBack_of_compact rfl (fun fuel cs rest _ hcs => ?_) ?_
  · rw [compact, toList_quoted] at hcs
    rw [readValue?, hcs]
    simp only [readString?_quoted]
    rfl
  · simp [compact, quoted]

theorem Literal.Valid.exists_head {l : Literal} (h : l.Valid) (negative : Bool) :
    ∃ c cs, l.signed negative = c :: cs
      ∧ (c.isDigit = true ∨ c = '-') := by
  cases negative with
  | true => exact ⟨'-', l.text, rfl, .inr rfl⟩
  | false =>
      cases hwhole : l.whole with
      | nil => exact absurd hwhole h.whole_ne
      | cons c ds =>
          have hc := h.whole_digits c (hwhole ▸ List.mem_cons_self)
          refine ⟨c, ds ++ l.fractionText ++ l.exponentText, ?_, .inl hc⟩
          rw [Literal.signed, Literal.text, hwhole]
          rfl

theorem exists_head_intText (n : Int) :
    ∃ c cs, (intText n).toList = c :: cs ∧ (c.isDigit = true ∨ c = '-') := by
  cases n with
  | ofNat n =>
      have h := (valid_numeral n).exists_head false
      simpa [intText, Literal.signed, Literal.text, Literal.fractionText,
        Literal.exponentText] using h
  | negSucc n => exact ⟨'-', Text.numeral (n + 1), String.toList_ofList, .inr rfl⟩

theorem readsBack_int {n : Int} (hlow : -2 ^ 63 ≤ n) (hhigh : n < 2 ^ 64) :
    ReadsBack depth (.int n) := by
  obtain ⟨c, cs', htext, hc⟩ := exists_head_intText n
  refine readsBack_of_compact rfl (fun fuel cs rest hrest hcs => ?_) ?_
  · have hnumber := readNumber?_intText hlow hhigh hrest.endsNumber
    rw [compact, htext] at hcs
    rw [htext] at hnumber
    rw [readValue?_number hcs hc]
    exact hnumber
  · rw [compact, htext]
    exact List.cons_ne_nil c cs'

theorem realText_of_not_finite {x : Float} (h : Decimal.isFinite x = false) :
    realText x = "null" := by
  rw [Decimal.isFinite] at h
  rw [realText]
  cases hx : Decimal.Reading.of x with
  | finite b => simp [hx] at h
  | notANumber | infinite => rfl

theorem rereadReal_of_not_finite {x : Float} (h : Decimal.isFinite x = false) :
    rereadReal x = .null := by
  rw [rereadReal, realText_of_not_finite h]
  rfl

theorem exists_rereadReal_of_finite {x : Float} (h : Decimal.isFinite x = true) :
    ∃ y, rereadReal x = .real y ∧ ∀ rest, EndsNumber rest →
      readNumber? ((realText x).toList ++ rest) = some (.real y, rest) := by
  obtain ⟨y, hy⟩ := exists_readNumber?_realText h
  have halone := hy [] nofun
  rw [List.append_nil] at halone
  exact ⟨y, by rw [rereadReal, halone], hy⟩

theorem exists_head_realText {x : Float} (h : Decimal.isFinite x = true) :
    ∃ c cs, (realText x).toList = c :: cs ∧ (c.isDigit = true ∨ c = '-') := by
  obtain ⟨b, hb⟩ := Decimal.exists_reading_of_finite h
  obtain ⟨l, hreal, htext⟩ := exists_real_realText hb
  exact htext ▸ hreal.valid.exists_head b.negative

theorem readsBack_real (x : Float) : ReadsBack depth (.real x) := by
  cases hfinite : Decimal.isFinite x with
  | false =>
      have htext : (compact (.real x)).toList = ['n', 'u', 'l', 'l'] := by
        rw [compact, realText_of_not_finite hfinite]
        rfl
      refine readsBack_of_compact rfl (fun fuel cs rest _ hcs => ?_) (by simp [htext])
      rw [htext] at hcs
      rw [readValue?_skipped hcs rfl, reread, rereadReal_of_not_finite hfinite]
      rfl
  | true =>
      obtain ⟨c, cs', hhead, hc⟩ := exists_head_realText hfinite
      obtain ⟨y, hy, hread⟩ := exists_rereadReal_of_finite hfinite
      refine readsBack_of_compact rfl (fun fuel cs rest hrest hcs => ?_) ?_
      · have hnumber := hread rest hrest.endsNumber
        rw [compact, hhead] at hcs
        rw [hhead] at hnumber
        rw [readValue?_number hcs hc, reread, hy]
        exact hnumber
      · rw [compact, hhead]
        exact List.cons_ne_nil c cs'

end Rollout.Json
