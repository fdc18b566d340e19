import Rollout.Json.Parser
import Rollout.Json.Printer
import Rollout.Proofs.Decimal.Shortest
import Rollout.Proofs.Text.Pieces

/-!
# Numbers read back from their texts

A number's text is put together from the parts of a `Literal` and taken apart into the same parts
again, as long as nothing follows that could belong to it (`Literal.Valid.readNumber?_text`). An
integer of 64 bits is read back as it was (`readNumber?_intText`).

A finite double is written in its shortest decimal notation. That this is read as a double at all
(`exists_readNumber?_realText`) is not plain: the reader scales the digits by a power of ten in
double arithmetic and refuses a number that becomes infinite on the way. The digits are few enough
to be gathered without loss (`doubleOf?_of_le`), scaling down never fails, and scaling up stays
below the limit unless the double is the largest of all (`scales_shortest`), where the only power
that is not below the limit is tried out.
-/

namespace Rollout.Json

/-! ## Scaling -/

/-- A significand is scaled down whatever comes out. -/
theorem exists_scaleDouble?_of_neg :
    ∀ (fuel : Nat) (x : Float) {e : Int}, e < 0 → ∃ y, scaleDouble? x e fuel = some y
  | 0, _, _, _ => ⟨_, rfl⟩
  | fuel + 1, x, e, he => by
      rw [scaleDouble?]
      split
      · exact ⟨_, if_neg (by omega)⟩
      · split
        · exact ⟨x, rfl⟩
        · rw [if_neg (by omega)]
          exact exists_scaleDouble?_of_neg fuel _ (by omega)

/-- A number is scaled up as long as the product stays below the largest double. -/
theorem exists_scaleDouble?_ofNat {n e : Nat} (hn : n ≤ 10 ^ 18)
    (h : n * 10 ^ e ≤ Decimal.scaleLimit) (fuel : Nat) :
    ∃ y, scaleDouble? (Float.ofNat n) e (fuel + 1) = some y := by
  rw [scaleDouble?, Int.natAbs_natCast]
  split
  · next he =>
    dsimp only
    rw [if_pos (Int.natCast_nonneg e), if_pos (Decimal.isFinite_mul_power hn he h)]
    exact ⟨_, rfl⟩
  · next he =>
    have hzero : n = 0 := by
      refine Nat.eq_zero_of_not_pos fun hpos => absurd h (Nat.not_le.mpr ?_)
      obtain ⟨-, -, -, -, -, hlimit, -⟩ := Decimal.limits
      have hpower : 10 ^ 309 ≤ 10 ^ e := by
        gcongr
        · decide
        · omega
      exact Nat.lt_of_lt_of_le hlimit (Nat.le_trans hpower (Nat.le_mul_of_pos_left _ hpos))
    have hfloat : (Float.ofNat n == 0.0) = true := by
      subst hzero
      rfl
    rw [if_pos hfloat]
    exact ⟨_, rfl⟩

/-! ## Significands -/

theorem le_ofDigitChars (cs : List Char) (n : Nat) : n ≤ Nat.ofDigitChars 10 cs n := by
  rw [Nat.ofDigitChars_eq_ofDigitChars_zero]
  have h : 1 * n ≤ 10 ^ cs.length * n := Nat.mul_le_mul_right n (Nat.pow_pos (by decide))
  omega

/-- Digits are taken as long as their number fits. -/
theorem gatherDigits_of_le {cs : List Char} {n : Nat}
    (h : Nat.ofDigitChars 10 cs n ≤ significandLimit) :
    gatherDigits n cs = (Nat.ofDigitChars 10 cs n, []) := by
  induction cs generalizing n with
  | nil => rw [gatherDigits, Nat.ofDigitChars_nil]
  | cons c cs ih =>
      rw [Nat.ofDigitChars_cons, Nat.mul_comm] at h ⊢
      have hfits : ¬significandLimit < n * 10 + (c.toNat - 48) :=
        Nat.not_lt.mpr (Nat.le_trans (le_ofDigitChars cs _) h)
      rw [gatherDigits, if_neg hfits]
      exact ih h

theorem doubleOf?_of_le {whole fraction : List Char} {exponent : Int}
    (h : Text.digitsValue (whole ++ fraction) ≤ significandLimit) :
    doubleOf? whole fraction exponent =
      scaleDouble? (Float.ofNat (Text.digitsValue (whole ++ fraction)))
        (max (exponent - fraction.length) (-1000000)) 4000 := by
  have hsplit : Text.digitsValue (whole ++ fraction) =
      Nat.ofDigitChars 10 fraction (Nat.ofDigitChars 10 whole 0) := Nat.ofDigitChars_append 0
  rw [hsplit] at h ⊢
  have hwhole := gatherDigits_of_le (Nat.le_trans (le_ofDigitChars fraction _) h)
  rw [doubleOf?, hwhole]
  dsimp only
  rw [gatherDigits_of_le h]
  simp

/-! ## Texts of numbers -/

/-- What may stand after a number without being taken for a part of it. -/
def EndsNumber (rest : List Char) : Prop :=
  ∀ c ∈ rest.head?, c.isDigit = false ∧ c ≠ '.' ∧ c ≠ 'e' ∧ c ≠ 'E'

/-- The parts of a number's text: digits before the point, digits after it, and an exponent with its
sign. -/
structure Literal where
  whole : List Char
  fraction : Option (List Char)
  exponent : Option (Bool × List Char)

namespace Literal

def fractionText (l : Literal) : List Char :=
  match l.fraction with
  | none => []
  | some ds => '.' :: ds

def exponentText (l : Literal) : List Char :=
  match l.exponent with
  | none => []
  | some (minus, ds) => 'e' :: (if minus then '-' else '+') :: ds

def text (l : Literal) : List Char := l.whole ++ l.fractionText ++ l.exponentText

/-- The text with its sign. -/
def signed (l : Literal) (negative : Bool) : List Char :=
  (if negative then ['-'] else []) ++ l.text

/-- The exponent, within the limits that are kept to. -/
def power (l : Literal) : Option Int :=
  l.exponent.map fun (minus, ds) =>
    let n : Int := min (Text.digitsValue ds) Int32.maxValue.toInt
    if minus then -n else n

/-- The parts are digits, and there is no zero in front of others. -/
structure Valid (l : Literal) : Prop where
  whole_ne : l.whole ≠ []
  whole_digits : ∀ c ∈ l.whole, c.isDigit = true
  no_zero : l.whole.head? = some '0' → l.whole.length = 1
  fraction : ∀ ds ∈ l.fraction, ds ≠ [] ∧ ∀ c ∈ ds, c.isDigit = true
  exponent : ∀ p ∈ l.exponent, p.2 ≠ [] ∧ ∀ c ∈ p.2, c.isDigit = true

variable {l : Literal} {rest : List Char}

theorem readExponent?_exponentText (h : l.Valid) (hrest : EndsNumber rest) :
    readExponent? (l.exponentText ++ rest) = some (l.power, rest) := by
  have hdigits : ∀ c ∈ rest.head?, c.isDigit = false := fun c hc => (hrest c hc).1
  cases hexponent : l.exponent with
  | none =>
      have htext : l.exponentText = [] := by rw [exponentText, hexponent]
      have hpower : l.power = none := by rw [power, hexponent]; rfl
      rw [htext, hpower, List.nil_append]
      cases rest with
      | nil => rfl
      | cons c rest =>
          obtain ⟨-, -, he, hE⟩ := hrest c rfl
          rw [readExponent?, if_neg (not_or.mpr ⟨he, hE⟩)]
  | some p =>
      obtain ⟨minus, ds⟩ := p
      obtain ⟨hne, hds⟩ := h.exponent (minus, ds) hexponent
      have htext : l.exponentText = 'e' :: (if minus then '-' else '+') :: ds := by
        rw [exponentText, hexponent]
      have hsign : readExponentSign ((if minus then '-' else '+') :: (ds ++ rest)) =
          (minus, ds ++ rest) := by
        cases minus <;> rfl
      have hempty : ds.isEmpty = false := List.isEmpty_eq_false_iff.mpr hne
      rw [htext, power, hexponent]
      simp only [List.cons_append, readExponent?, true_or, if_true, hsign,
        Text.takeWhile_append_of_head hds hdigits, Text.dropWhile_append_of_head hds hdigits,
        hempty, Bool.false_eq_true, if_false, Option.map_some]

theorem head_exponentText (hrest : EndsNumber rest) :
    ∀ c ∈ (l.exponentText ++ rest).head?, c.isDigit = false ∧ c ≠ '.' := by
  rw [exponentText]
  split
  · exact fun c hc => ⟨(hrest c hc).1, (hrest c hc).2.1⟩
  · intro c hc
    cases hc
    decide

theorem readFraction?_fractionText (h : l.Valid) {rest : List Char}
    (hrest : ∀ c ∈ rest.head?, c.isDigit = false ∧ c ≠ '.') :
    readFraction? (l.fractionText ++ rest) = some (l.fraction, rest) := by
  cases hfraction : l.fraction with
  | none =>
      rw [fractionText, hfraction]
      cases rest with
      | nil => rfl
      | cons c rest =>
          have hpoint := (hrest c rfl).2
          simp only [List.nil_append]
          rw [readFraction?]
          rintro rest' heq
          exact hpoint (List.cons.inj heq).1
  | some ds =>
      obtain ⟨hne, hds⟩ := h.fraction ds hfraction
      have hdigits : ∀ c ∈ rest.head?, c.isDigit = false := fun c hc => (hrest c hc).1
      have hempty : ds.isEmpty = false := List.isEmpty_eq_false_iff.mpr hne
      rw [fractionText, hfraction]
      simp only [List.cons_append, readFraction?, Text.takeWhile_append_of_head hds hdigits,
        Text.dropWhile_append_of_head hds hdigits, hempty, Bool.false_eq_true, if_false]

theorem head_fractionText {rest : List Char}
    (hrest : ∀ c ∈ rest.head?, c.isDigit = false ∧ c ≠ '.') :
    ∀ c ∈ (l.fractionText ++ rest).head?, c.isDigit = false := by
  rw [fractionText]
  split
  · exact fun c hc => (hrest c hc).1
  · intro c hc
    cases hc
    decide

theorem readSign_signed (h : l.Valid) (negative : Bool) :
    readSign (l.signed negative ++ rest) = (negative, l.text ++ rest) := by
  rw [signed, List.append_assoc]
  cases negative with
  | true => rfl
  | false =>
      cases hwhole : l.whole with
      | nil => exact absurd hwhole h.whole_ne
      | cons c ds =>
          have hc : c ≠ '-' := by
            rintro rfl
            have := h.whole_digits '-' (hwhole ▸ List.mem_cons_self)
            exact absurd this (by decide)
          rw [text, hwhole]
          simp only [List.cons_append, Bool.false_eq_true, if_false, List.nil_append]
          rw [readSign]
          rintro rest' heq
          exact hc (List.cons.inj heq).1

/-- A number is read from its parts, whatever may follow. -/
theorem Valid.readNumber?_text (h : l.Valid) (negative : Bool) (hrest : EndsNumber rest) :
    readNumber? (l.signed negative ++ rest) =
      (numberOf? negative l.whole l.fraction l.power).map (·, rest) := by
  have hexponent := head_exponentText (l := l) hrest
  have hfraction := head_fractionText (l := l) hexponent
  have htext : l.text ++ rest = l.whole ++ (l.fractionText ++ (l.exponentText ++ rest)) := by
    simp only [text, List.append_assoc]
  have hvalid :
      (l.whole.isEmpty || (l.whole.head? == some '0' && l.whole.length != 1)) = false := by
    have hne := h.whole_ne
    have hzero := h.no_zero
    grind
  rw [readNumber?, readSign_signed h]
  simp only [htext, Text.takeWhile_append_of_head h.whole_digits hfraction,
    Text.dropWhile_append_of_head h.whole_digits hfraction, hvalid, Bool.false_eq_true, if_false,
    readFraction?_fractionText h hexponent, readExponent?_exponentText h hrest,
    Option.bind_eq_bind, Option.bind_some]
  cases numberOf? negative l.whole l.fraction l.power <;> rfl

end Literal

/-! ## Integers -/

theorem digits_of_mem_numeral (n : Nat) : ∀ c ∈ Text.numeral n, c.isDigit = true :=
  List.all_eq_true.mp (Text.all_isDigit_numeral n)

theorem length_numeral_of_head (n : Nat) (h : (Text.numeral n).head? = some '0') :
    (Text.numeral n).length = 1 := by
  rcases Nat.eq_zero_or_pos n with rfl | hpos
  · rfl
  · exact absurd h (Text.head?_numeral_ne hpos)

theorem valid_numeral (n : Nat) : (⟨Text.numeral n, none, none⟩ : Literal).Valid where
  whole_ne := Text.numeral_ne_nil n
  whole_digits := digits_of_mem_numeral n
  no_zero := length_numeral_of_head n
  fraction := nofun
  exponent := nofun

/-- An integer is read back if it fits 64 bits, with or without a sign. -/
theorem readNumber?_intText {n : Int} (hlow : -2 ^ 63 ≤ n) (hhigh : n < 2 ^ 64) {rest : List Char}
    (hrest : EndsNumber rest) : readNumber? ((intText n).toList ++ rest) = some (.int n, rest) := by
  cases n with
  | ofNat n =>
      have hnumber : numberOf? false (Text.numeral n) none none = some (.int n) := by
        have hsize : n < UInt64.size := by
          rw [Int.ofNat_eq_natCast] at hhigh
          rw [UInt64.size]
          omega
        simp [numberOf?, Text.digitsValue_numeral, hsize]
      have h := (valid_numeral n).readNumber?_text false hrest
      simpa [intText, Literal.signed, Literal.text, Literal.fractionText, Literal.exponentText,
        Literal.power, hnumber] using h
  | negSucc n =>
      have hnumber :
          numberOf? true (Text.numeral (n + 1)) none none = some (.int (.negSucc n)) := by
        have hsize : n + 1 ≤ Nat.pow 2 63 := by
          rw [Nat.pow_eq]
          omega
        simp [numberOf?, Text.digitsValue_numeral, hsize]
        omega
      have h := (valid_numeral (n + 1)).readNumber?_text true hrest
      simpa [intText, Literal.signed, Literal.text, Literal.fractionText, Literal.exponentText,
        Literal.power, hnumber] using h

/-! ## Doubles -/

theorem exists_doubleOf?_of_neg {whole fraction : List Char} {exponent : Int}
    (h : Text.digitsValue (whole ++ fraction) ≤ significandLimit)
    (hexponent : exponent < fraction.length) : ∃ y, doubleOf? whole fraction exponent = some y := by
  rw [doubleOf?_of_le h]
  exact exists_scaleDouble?_of_neg 4000 _ (by omega)

/-- A text that is read as a double. -/
structure Literal.Real (l : Literal) : Prop where
  valid : l.Valid
  notInteger : (l.fraction.isNone && l.power.isNone) = false
  scales : ∃ y, doubleOf? l.whole (l.fraction.getD []) (l.power.getD 0) = some y

theorem Literal.Real.exists_read {l : Literal} (h : l.Real) (negative : Bool) :
    ∃ y, ∀ rest, EndsNumber rest →
      readNumber? (l.signed negative ++ rest) = some (.real y, rest) := by
  obtain ⟨y, hy⟩ := h.scales
  refine ⟨if negative then -y else y, fun rest hrest => ?_⟩
  have hnumber : numberOf? negative l.whole l.fraction l.power =
      some (.real (if negative then -y else y)) := by
    simp only [numberOf?, h.notInteger, Bool.false_and, Bool.false_eq_true, if_false, hy,
      Option.map_some]
  rw [h.valid.readNumber?_text negative hrest, hnumber]
  rfl

theorem real_zero : (⟨['0'], some ['0'], none⟩ : Literal).Real where
  valid := by
    refine ⟨nofun, List.all_eq_true.mp rfl, fun _ => rfl, ?_, nofun⟩
    rintro ds ⟨⟩
    exact ⟨nofun, List.all_eq_true.mp rfl⟩
  notInteger := rfl
  scales := exists_doubleOf?_of_neg (by decide) (by decide)

theorem digitsValue_zeros (k : Nat) : Text.digitsValue (List.replicate k '0') = 0 := by
  rw [Text.digitsValue, Nat.ofDigitChars_replicate_zero, Nat.mul_zero]

theorem digitsValue_zeros_append (k : Nat) (ds : List Char) :
    Text.digitsValue (List.replicate k '0' ++ ds) = Text.digitsValue ds := by
  rw [Text.digitsValue_append, digitsValue_zeros, Nat.zero_mul, Nat.zero_add]

theorem digitsValue_append_zeros (ds : List Char) (k : Nat) :
    Text.digitsValue (ds ++ List.replicate k '0') = Text.digitsValue ds * 10 ^ k := by
  rw [Text.digitsValue_append, digitsValue_zeros, List.length_replicate, Nat.add_zero, Nat.pow_eq]

theorem digits_of_mem_replicate {k : Nat} : ∀ c ∈ List.replicate k '0', c.isDigit = true := by
  intro c hc
  rw [List.eq_of_mem_replicate hc]
  rfl

/-- Digits, zeros after them, and one decimal. -/
theorem real_zeros {digits e : Nat} (hpos : 0 < digits)
    (h : (Text.numeral digits).length + e ≤ 16) :
    (⟨Text.numeral digits ++ List.replicate e '0', some ['0'], none⟩ : Literal).Real where
  valid := by
    refine ⟨by simp [Text.numeral_ne_nil], ?_, ?_, ?_, nofun⟩
    · intro c hc
      rcases List.mem_append.mp hc with hc | hc
      · exact digits_of_mem_numeral digits c hc
      · exact digits_of_mem_replicate c hc
    · intro hzero
      rw [List.head?_append, Option.or_of_isSome (by simp [Text.numeral_ne_nil])] at hzero
      exact absurd hzero (Text.head?_numeral_ne hpos)
    · rintro ds ⟨⟩
      exact ⟨nofun, List.all_eq_true.mp rfl⟩
  notInteger := rfl
  scales := by
    have hvalue : Text.digitsValue (Text.numeral digits ++ List.replicate e '0' ++ ['0']) =
        digits * 10 ^ (e + 1) := by
      rw [List.append_assoc, ← List.replicate_succ', digitsValue_append_zeros,
        Text.digitsValue_numeral]
    have hlt : digits * 10 ^ (e + 1) < 10 ^ 17 := by
      calc digits * 10 ^ (e + 1) < 10 ^ (Text.numeral digits).length * 10 ^ (e + 1) :=
            Nat.mul_lt_mul_of_pos_right (Text.lt_pow_length_numeral digits)
              (Nat.pow_pos (by decide))
        _ = 10 ^ ((Text.numeral digits).length + (e + 1)) := (Nat.pow_add ..).symm
        _ ≤ 10 ^ 17 := Nat.pow_le_pow_right (by decide) (by omega)
    refine exists_doubleOf?_of_neg ?_ (show (0 : Int) < 1 by decide)
    exact hvalue ▸ Nat.le_trans (Nat.le_of_lt hlt) (by decide)

/-! ### Digits with a point -/

/-- Digits with a point after some of them, which is left out if nothing follows it. -/
def Literal.pointed (digits : List Char) (before : Nat) (exponent : Option (Bool × List Char)) :
    Literal :=
  ⟨digits.take before, if before < digits.length then some (digits.drop before) else none, exponent⟩

theorem Literal.fraction_pointed (digits : List Char) (before : Nat)
    (exponent : Option (Bool × List Char)) :
    (pointed digits before exponent).fraction.getD [] = digits.drop before := by
  rw [pointed]
  split
  · rfl
  · next hall => exact (List.drop_eq_nil_of_le (Nat.not_lt.mp hall)).symm

/-- A zero may only be the first of several digits if the point comes right after it. -/
theorem Literal.valid_pointed {digits : List Char} {before : Nat}
    {exponent : Option (Bool × List Char)} (hdigits : ∀ c ∈ digits, c.isDigit = true)
    (hbefore : 0 < before) (hle : before ≤ digits.length)
    (hzero : digits.head? = some '0' → before = 1)
    (hexponent : ∀ p ∈ exponent, p.2 ≠ [] ∧ ∀ c ∈ p.2, c.isDigit = true) :
    (pointed digits before exponent).Valid where
  whole_ne := List.ne_nil_of_length_pos (by simp [pointed]; omega)
  whole_digits c hc := hdigits c (List.mem_of_mem_take hc)
  no_zero hhead := by
    rw [pointed, List.head?_take, if_neg (Nat.ne_of_gt hbefore)] at hhead
    rw [pointed, List.length_take, Nat.min_eq_left hle, hzero hhead]
  fraction ds hds := by
    rw [pointed] at hds
    split at hds
    · next hlt =>
      obtain rfl := Option.some.inj hds
      exact ⟨List.ne_nil_of_length_pos (by rw [List.length_drop]; omega),
        fun c hc => hdigits c (List.mem_of_mem_drop hc)⟩
    · cases hds
  exponent := hexponent

/-- The digits of a number, with zeros in front of them if they are fewer than is asked for. -/
def padded (n length : Nat) : List Char :=
  List.replicate (length - (Text.numeral n).length) '0' ++ Text.numeral n

theorem digits_of_mem_padded {n length : Nat} : ∀ c ∈ padded n length, c.isDigit = true := by
  intro c hc
  rcases List.mem_append.mp hc with hc | hc
  · exact digits_of_mem_replicate c hc
  · exact digits_of_mem_numeral n c hc

theorem digitsValue_padded (n length : Nat) : Text.digitsValue (padded n length) = n := by
  rw [padded, digitsValue_zeros_append, Text.digitsValue_numeral]

theorem length_padded (n length : Nat) :
    (padded n length).length = max length (Text.numeral n).length := by
  rw [padded, List.length_append, List.length_replicate]
  omega

theorem length_padded_of_head {n length : Nat} (hlength : 0 < length)
    (h : (padded n length).head? = some '0') : (padded n length).length = length := by
  rw [length_padded]
  rcases Nat.lt_or_ge (Text.numeral n).length length with hshort | hlong
  · omega
  · rw [padded, Nat.sub_eq_zero_of_le hlong, List.replicate_zero, List.nil_append] at h
    have hone := length_numeral_of_head n h
    omega

/-- Digits with a point among them or in front of them. -/
theorem exists_real_positional {digits places : Nat} (hplaces : 0 < places)
    (hdigits : digits ≤ 10 ^ 18) :
    ∃ l : Literal, l.Real ∧ l.text = Decimal.positional (Text.numeral digits) places := by
  have htext : Decimal.positional (Text.numeral digits) places =
      (padded digits (places + 1)).take ((padded digits (places + 1)).length - places)
        ++ '.' :: (padded digits (places + 1)).drop ((padded digits (places + 1)).length - places) :=
    if_neg (Nat.ne_of_gt hplaces)
  have hds := @digits_of_mem_padded digits (places + 1)
  have hvalue := digitsValue_padded digits (places + 1)
  have hlength : places < (padded digits (places + 1)).length := by
    rw [length_padded]
    omega
  have hhead := @length_padded_of_head digits _ (Nat.succ_pos places)
  generalize padded digits (places + 1) = ds at htext hds hvalue hlength hhead
  have hlt : ds.length - places < ds.length := by omega
  refine ⟨.pointed ds (ds.length - places) none, ⟨?_, ?_, ?_⟩, ?_⟩
  · refine Literal.valid_pointed hds (by omega) (Nat.sub_le _ _) (fun hzero => ?_) nofun
    have := hhead hzero
    omega
  · rw [Literal.pointed, if_pos hlt]
    rfl
  · rw [Literal.fraction_pointed]
    refine exists_doubleOf?_of_neg ?_ ?_
    · rw [Literal.pointed, List.take_append_drop, hvalue]
      exact Nat.le_trans hdigits (by decide)
    · change (0 : Int) < _
      rw [List.length_drop]
      omega
  · rw [htext, Literal.pointed, if_pos hlt]
    simp [Literal.text, Literal.fractionText, Literal.exponentText]

/-- What a decimal in scientific notation needs to be read as a double: it has a negative power of
ten, or it can be scaled up. -/
def Scales (d : Decimal.Expansion) : Prop :=
  ∀ e : Nat, (e : Int) ≤ d.exponent →
    ∃ y, scaleDouble? (Float.ofNat d.digits) e 4000 = some y

theorem exists_real_scientific {d : Decimal.Expansion} (hdigits : d.digits ≤ 10 ^ 18)
    (h : Scales d) : ∃ l : Literal, l.Real ∧ l.text = d.scientific := by
  rw [Decimal.Expansion.scientific]
  have hvalue := Text.digitsValue_numeral d.digits
  have hds := digits_of_mem_numeral d.digits
  have hlength : 0 < (Text.numeral d.digits).length :=
    List.length_pos_iff.mpr (Text.numeral_ne_nil d.digits)
  generalize Text.numeral d.digits = ds at hvalue hds hlength ⊢
  have hscale : ∀ x : Int, x < 0 ∨ x ≤ d.exponent + ds.length - 1 →
      ∃ y, doubleOf? (ds.take 1) (ds.drop 1) x = some y := by
    intro x hx
    have hle : Text.digitsValue (ds.take 1 ++ ds.drop 1) ≤ significandLimit := by
      rw [List.take_append_drop, hvalue]
      exact Nat.le_trans hdigits (by decide)
    rcases Int.lt_or_le x (ds.drop 1).length with hneg | hnonneg
    · exact exists_doubleOf?_of_neg hle hneg
    · obtain ⟨k, hk⟩ := Int.eq_ofNat_of_zero_le (Int.sub_nonneg_of_le hnonneg)
      have hmax : max (k : Int) (-1000000) = k := by omega
      rw [List.length_drop] at hk
      rw [doubleOf?_of_le hle, List.take_append_drop, hvalue, List.length_drop, hk, hmax]
      exact h k (by omega)
  generalize hexponent : d.exponent + (ds.length : Int) - 1 = e at hscale ⊢
  refine ⟨.pointed ds 1 (some (decide (e < 0), Text.numeral e.natAbs)), ⟨?_, ?_, ?_⟩, ?_⟩
  · refine Literal.valid_pointed hds Nat.one_pos hlength (fun _ => rfl) ?_
    rintro p ⟨⟩
    exact ⟨Text.numeral_ne_nil _, digits_of_mem_numeral _⟩
  · exact Bool.and_false _
  · rw [Literal.fraction_pointed]
    refine hscale _ ?_
    have hcap : 0 < Int32.maxValue.toInt := by decide
    simp only [Literal.pointed, Literal.power, Option.map_some, Option.getD_some,
      Text.digitsValue_numeral, decide_eq_true_eq]
    split
    · exact .inl (by omega)
    · exact .inr (by omega)
  · simp only [Literal.pointed, Literal.text, Literal.fractionText, Literal.exponentText,
      decide_eq_true_eq]
    split <;> split <;> simp_all

theorem scales_shortest {b : Decimal.Binary64} (hpos : 0 < b.mantissa) (hm : b.mantissa < 2 ^ 53)
    (he : b.exponent ≤ 971) : Scales (b.shortest .toEven) := by
  intro e hle
  by_cases hlargest : b.mantissa = 2 ^ 53 - 1 ∧ b.exponent = 971
  · -- rounding the digits of the largest double leaves them just small enough
    obtain ⟨negative, mantissa, exponent⟩ := b
    obtain ⟨rfl, rfl⟩ : mantissa = 2 ^ 53 - 1 ∧ exponent = 971 := hlargest
    rw [Decimal.shortest_largest] at hle ⊢
    rcases Nat.lt_or_eq_of_le (Int.ofNat_le.mp hle) with hlt | rfl
    · obtain ⟨-, -, -, -, -, -, hlimit⟩ := Decimal.limits
      refine exists_scaleDouble?_ofNat (by decide) ?_ 3999
      calc 17976931348623157 * 10 ^ e ≤ 17976931348623157 * 10 ^ 291 := by
            gcongr
            · decide
            · exact Nat.le_of_lt_succ hlt
        _ ≤ Decimal.scaleLimit := hlimit
    · exact Option.isSome_iff_exists.mp (by decide +kernel)
  · have hdigits := (Decimal.approximates_shortest hpos .toEven).digits_le
    obtain ⟨k, hk⟩ := Int.eq_ofNat_of_zero_le (Int.le_trans (Int.natCast_nonneg e) hle)
    refine exists_scaleDouble?_ofNat hdigits ?_ 3999
    refine Nat.le_trans ?_ (Decimal.shortest_mul_le hpos hm he hlargest hk)
    exact Nat.mul_le_mul_left _ (Nat.pow_le_pow_right (by decide) (by omega))

/-- Every notation of a finite double is read as a double. -/
theorem exists_real_realText {x : Float} {b : Decimal.Binary64}
    (h : Decimal.Reading.of x = .finite b) :
    ∃ l : Literal, l.Real ∧ (realText x).toList = l.signed b.negative := by
  obtain ⟨hm, -, he⟩ := Decimal.Reading.bounds_of_finite h
  rw [realText, h]
  dsimp only
  split
  · exact ⟨_, real_zero, String.toList_ofList⟩
  next hzero =>
  have hpos : 0 < b.mantissa := Nat.pos_of_ne_zero hzero
  have hshort := Decimal.approximates_shortest hpos .toEven
  have hscales := scales_shortest hpos hm he
  generalize b.shortest .toEven = d at hshort hscales ⊢
  split
  · next hscale =>
    rw [String.toList_ofList, Decimal.Expansion.plain]
    cases hexponent : d.exponent with
    | ofNat e =>
        rw [hexponent] at hscale
        have hdigits := hshort.pos (hexponent ▸ Int.natCast_nonneg e)
        refine ⟨_, real_zeros hdigits (e := e) ?_, ?_⟩
        · have := hscale.2
          rw [Int.ofNat_eq_natCast] at this
          omega
        · have hnonneg : 0 ≤ Int.ofNat e := Int.natCast_nonneg e
          rw [if_pos hnonneg]
          simp [Literal.signed, Literal.text, Literal.fractionText, Literal.exponentText]
    | negSucc e =>
        obtain ⟨l, hreal, htext⟩ := exists_real_positional (Nat.succ_pos e) hshort.digits_le
        refine ⟨l, hreal, ?_⟩
        rw [Literal.signed, htext, if_neg (Int.not_le.mpr (Int.negSucc_lt_zero e))]
  · obtain ⟨l, hreal, htext⟩ := exists_real_scientific hshort.digits_le hscales
    exact ⟨l, hreal, by rw [Literal.signed, htext, String.toList_ofList]⟩

/-- A finite double is read back as a double, whatever may follow. -/
theorem exists_readNumber?_realText {x : Float} (h : Decimal.isFinite x = true) :
    ∃ y, ∀ rest, EndsNumber rest →
      readNumber? ((realText x).toList ++ rest) = some (.real y, rest) := by
  obtain ⟨b, hb⟩ := Decimal.exists_reading_of_finite h
  obtain ⟨l, hreal, htext⟩ := exists_real_realText hb
  rw [htext]
  exact hreal.exists_read b.negative

end Rollout.Json
