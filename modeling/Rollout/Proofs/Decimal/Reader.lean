import Rollout.Decimal.Reader
import Rollout.Proofs.Decimal.Nearest
import Rollout.Proofs.Text.Pieces

/-!
# Reading the nearest double

A decimal text gives the double nearest to the number it names (`nearest_readAmount?`), whichever of
the ways is taken: a number and a power of ten that are doubles themselves are multiplied or divided
and rounded once (`nearest_fast_mul`, `nearest_fast_div`), longer ones are scaled exactly, and a
quotient is taken to so many bits that the rest only tells it from the numbers beside it
(`quotient_long`). What is so large or so small that the count of its digits settles it is nearest
to infinity or to zero (`nearest_huge`, `nearest_tiny`). A text of digits and points is read exactly
if it has a digit and at most one point (`IsDecimal`, `readAmount?_eq_none`).
-/

open Float.Model Float.Model.UnpackedFloat

namespace Rollout.Decimal

variable {n m₁ m₂ : Nat} {e₁ e₂ : Int} {x y : Float} {q : ℚ}

/-! ## Products and quotients of doubles -/

theorem Normal.nearest_mul (hx : Normal x m₁ e₁) (hy : Normal y m₂ e₂) :
    Nearest (m₁ * 2 ^ e₁ * (m₂ * 2 ^ e₂)) (x * y) := by
  rw [hx.mul_eq hy, ← product_value]
  exact nearest_rounded (standsFor_exact _) (.inl (Nat.le_trans (by decide) (hx.le_log2_mul hy)))

theorem Normal.nearest_div (hx : Normal x m₁ e₁) (hy : Normal y m₂ e₂) (he : -1021 ≤ e₁ - e₂) :
    Nearest (m₁ * 2 ^ e₁ / (m₂ * 2 ^ e₂)) (x / y) := by
  have hpos : 0 < m₂ := Nat.lt_of_lt_of_le (by decide) hy.low
  have hlong := hx.le_quotient hy
  have hlog : 52 ≤ (m₁ * 2 ^ 53 / m₂).log2 := (Nat.le_log2 (by omega)).mpr hlong
  have hvalue : (m₁ * 2 ^ e₁ / (m₂ * 2 ^ e₂) : ℚ) =
      (m₁ * 2 ^ 53 : Nat) / m₂ * 2 ^ (e₁ - e₂ - 53) := by
    rw [zpow_sub₀ (by norm_num), zpow_sub₀ (by norm_num)]
    push_cast
    field_simp
  rw [hx.div_eq hy he, hvalue]
  exact nearest_rounded (standsFor_fraction _ hpos) (.inl hlog)

/-! ## Powers of ten -/

/-- The powers of ten that numbers of up to 53 bits are scaled by. -/
theorem parts_exact_power : ∀ e : Fin 23, 2 ^ 52 ≤ 10 ^ e.val * 2 ^ 53 / 2 ^ ((10 ^ e.val).log2 + 1)
    ∧ 10 ^ e.val * 2 ^ 53 / 2 ^ ((10 ^ e.val).log2 + 1) < 2 ^ 53
    ∧ 10 ^ e.val * 2 ^ 53 % 2 ^ ((10 ^ e.val).log2 + 1) = 0
    ∧ (10 ^ e.val).log2 < 74
    ∧ positiveParts? Float.exactlyRepresentablePowersOfTen[e.val] =
      some (10 ^ e.val * 2 ^ 53 / 2 ^ ((10 ^ e.val).log2 + 1), ((10 ^ e.val).log2 : Int) - 52) := by
  decide +kernel

theorem exists_normal_exact_power (e : Fin 23) :
    ∃ m x, Normal Float.exactlyRepresentablePowersOfTen[e.val] m x ∧ x < 22
      ∧ (m : ℚ) * 2 ^ x = 10 ^ e.val := by
  obtain ⟨hlow, hhigh, hexact, hlog, hparts⟩ := parts_exact_power e
  refine ⟨_, _, ⟨hlow, hhigh, hparts⟩, by omega, ?_⟩
  generalize (10 ^ e.val).log2 = j at *
  have hfactor :
      ((10 ^ e.val * 2 ^ 53 / 2 ^ (j + 1) : Nat) : ℚ) * 2 ^ (j + 1) = 10 ^ e.val * 2 ^ 53 := by
    exact_mod_cast Nat.div_mul_cancel (Nat.dvd_of_mod_eq_zero hexact)
  have hexponent : (j : Int) - 52 = ((j + 1 : Nat) : Int) + -53 := by omega
  rw [hexponent, zpow_add₀ (by norm_num), zpow_natCast, ← mul_assoc, hfactor, mul_assoc]
  norm_num

theorem nearest_fast_mul (h : 0 < n) (hn : n < 2 ^ 53) (e : Fin 23) :
    Nearest (n * 10 ^ e.val)
      (n.toUInt64.toFloat * Float.exactlyRepresentablePowersOfTen[e.val]) := by
  obtain ⟨m₁, e₁, hnumber, -, hvalue₁⟩ := exists_normal_toFloat h hn
  obtain ⟨m₂, e₂, hpower, -, hvalue₂⟩ := exists_normal_exact_power e
  rw [← hvalue₁, ← hvalue₂]
  exact hnumber.nearest_mul hpower

theorem nearest_fast_div (h : 0 < n) (hn : n < 2 ^ 53) (e : Fin 23) :
    Nearest (n / 10 ^ e.val)
      (n.toUInt64.toFloat / Float.exactlyRepresentablePowersOfTen[e.val]) := by
  obtain ⟨m₁, e₁, hnumber, he₁, hvalue₁⟩ := exists_normal_toFloat h hn
  obtain ⟨m₂, e₂, hpower, he₂, hvalue₂⟩ := exists_normal_exact_power e
  rw [← hvalue₁, ← hvalue₂]
  exact hnumber.nearest_div hpower (by omega)

/-! ## Long numbers -/

theorem nearest_ofScientific_mul (h : 0 < n) {e : Nat} (he : e ≤ 2048) :
    Nearest (n * 10 ^ e) (Float.ofScientific n false e) := by
  by_cases hfast : n < 2 ^ 53 ∧ e ≤ 22
  · rw [Float.ofScientific, dif_pos hfast]
    exact nearest_fast_mul h hfast.1 ⟨e, by omega⟩
  · have hpos : 0 < n * 10 ^ e := Nat.mul_pos h (Nat.pow_pos (by decide))
    have hlog : 52 ≤ (n * 10 ^ e * 2 ^ 53).log2 := by
      rw [log2_mul_two_pow hpos]
      omega
    have hvalue : (n * 10 ^ e : ℚ) = (n * 10 ^ e * 2 ^ 53 : Nat) * 2 ^ (-53 : Int) := by
      rw [natCast_mul_zpow_neg]
      push_cast
      rfl
    rw [ofScientific_eq h he hfast, hvalue]
    exact nearest_rounded (standsFor_exact _) (.inl hlog)

/-- How many bits are put after a number before it is divided by another one. -/
def spareBits (n d : Nat) : Nat := (min (53 + d.log2 - n.log2 : Int) 1074).toNat

theorem divCore_eq (n d : Nat) :
    divCore Format.binary64 n 0 d 0 = (n * 2 ^ spareBits n d / d, -(spareBits n d : Int),
      accuracyOfFraction (n * 2 ^ spareBits n d % d) d) := by
  have htarget : min ((0 : Int) - 0)
      (Format.binary64.targetExponent (totalExponent n 0 - totalExponent d 0)) =
        -(spareBits n d : Int) := by
    simp only [Format.targetExponent, totalExponent, Format.mantissaBits, Format.minExponent,
      spareBits]
    norm_num
    omega
  have hamount : ((0 : Int) - 0 - -(spareBits n d : Int)).toNat = spareBits n d := by omega
  simp only [divCore, htarget, hamount, Nat.shiftLeft_eq]

/-- These bits are enough for a quotient of 53 bits, unless they go below the least exponent. -/
theorem quotient_long (h : 0 < n) {d : Nat} (hd : 0 < d) :
    52 ≤ (n * 2 ^ spareBits n d / d).log2 ∨ -(spareBits n d : Int) ≤ -1074 := by
  rcases Nat.lt_or_ge (spareBits n d) 1074 with hfew | hmany
  · have hbits : 52 + (d.log2 + 1) ≤ n.log2 + spareBits n d := by
      rw [spareBits] at hfew ⊢
      omega
    have hlead : 2 ^ 52 * d ≤ n * 2 ^ spareBits n d := by
      calc 2 ^ 52 * d ≤ 2 ^ 52 * 2 ^ (d.log2 + 1) := by
            gcongr
            exact Nat.lt_log2_self.le
        _ = 2 ^ (52 + (d.log2 + 1)) := (Nat.pow_add ..).symm
        _ ≤ 2 ^ (n.log2 + spareBits n d) := Nat.pow_le_pow_right (by decide) hbits
        _ = 2 ^ n.log2 * 2 ^ spareBits n d := Nat.pow_add ..
        _ ≤ n * 2 ^ spareBits n d := by
            gcongr
            exact Nat.log2_self_le (Nat.ne_of_gt h)
    have hquotient : 2 ^ 52 ≤ n * 2 ^ spareBits n d / d := (Nat.le_div_iff_mul_le hd).mpr hlead
    exact .inl ((Nat.le_log2 (by omega)).mpr hquotient)
  · exact .inr (by omega)

theorem ofScientific_eq_div (h : 0 < n) {e : Nat} (hpos : 0 < e) (he : e ≤ 2048 + n.log2)
    (hslow : ¬(n < 2 ^ 53 ∧ e ≤ 22)) :
    Float.ofScientific n true e = rounded
      (accuracyOfFraction (n * 2 ^ spareBits n (10 ^ e) % 10 ^ e) (10 ^ e))
      (n * 2 ^ spareBits n (10 ^ e) / 10 ^ e) (-(spareBits n (10 ^ e) : Int)) := by
  have hfinite : UnpackedFloat.ofScientific Format.binary64 n (Int.negOfNat e) =
      UnpackedFloat.div Format.binary64 (.finite .positive n 0 h)
        (.finite .positive (10 ^ e) 0 (Nat.pow_pos (by decide))) := by
    have hsafe : (2 : Int) ^ Format.binary64.exponentBits = 2048 := rfl
    have hnegative : Int.negOfNat e = -(e : Int) := Int.negOfNat_eq
    have hpower : (- -(e : Int)).toNat = e := by omega
    rw [UnpackedFloat.ofScientific, dif_neg (Nat.ne_of_gt h), hsafe, hnegative, if_neg (by omega),
      if_neg (by omega), if_neg (by omega)]
    simp only [hpower]
  rw [Float.ofScientific, dif_neg hslow]
  change Float.ofModel (.pack (UnpackedFloat.ofScientific Format.binary64 n (Int.negOfNat e))) = _
  rw [hfinite, UnpackedFloat.div, divCore_eq, rounded]
  rfl

theorem nearest_ofScientific_div (h : 0 < n) {e : Nat} (hpos : 0 < e) (he : e ≤ 2048 + n.log2) :
    Nearest (n / 10 ^ e) (Float.ofScientific n true e) := by
  by_cases hfast : n < 2 ^ 53 ∧ e ≤ 22
  · rw [Float.ofScientific, dif_pos hfast]
    exact nearest_fast_div h hfast.1 ⟨e, by omega⟩
  · have hpower : 0 < 10 ^ e := Nat.pow_pos (by decide)
    have hvalue : (n / 10 ^ e : ℚ) = (n * 2 ^ spareBits n (10 ^ e) : Nat) / (10 ^ e : Nat)
        * 2 ^ (-(spareBits n (10 ^ e) : Int)) := by
      rw [zpow_neg, zpow_natCast]
      push_cast
      field_simp
    rw [ofScientific_eq_div h hpos he hfast, hvalue]
    exact nearest_rounded (standsFor_fraction _ hpower) (quotient_long h hpower)

/-! ## Numbers beyond the doubles -/

theorem stands_zero : Stands 0.0 0 (-1074) :=
  stands_of_zero (by decide +kernel)

theorem nearest_tiny (h : 0 ≤ q) (hq : q ≤ 2 ^ (-1075 : Int)) : Nearest q 0.0 := by
  have hvalue : q = q * 2 ^ (1074 : Int) * 2 ^ (-1074 : Int) := by
    rw [mul_assoc, ← zpow_add₀ (by norm_num)]
    simp
  have hhalf : q * 2 ^ (1074 : Int) ≤ 1 / 2 := by
    calc q * 2 ^ (1074 : Int) ≤ 2 ^ (-1075 : Int) * 2 ^ (1074 : Int) := by gcongr
      _ = 1 / 2 := by
        rw [← zpow_add₀ (by norm_num)]
        norm_num
  rw [hvalue]
  refine stands_zero.nearest (by positivity) (.inr rfl) (by decide) ?_ fun _ => rfl
  rw [Nat.cast_zero, zero_sub, abs_neg, abs_of_nonneg (by positivity)]
  exact hhalf

theorem nearest_huge (h : 2 ^ (1024 : Int) ≤ q) : Nearest q (1.0 / 0.0) := by
  have hreading : Reading.of (1.0 / 0.0) = .infinite false := by decide +kernel
  exact nearest_of_infinite (by rw [hreading]; rfl) (place_infinity hreading) h

/-! ## Digits and powers of ten -/

/-- A number with `k` digits in front of its point is at least `10 ^ (k - 1)`. -/
theorem le_scaled (h : 0 < n) {e k : Int} (hk : k < (Text.numeral n).length + e) :
    (10 : ℚ) ^ k ≤ n * 10 ^ e := by
  have hlead : (10 : ℚ) ^ ((Text.numeral n).length - 1) ≤ n := by
    exact_mod_cast Text.pow_length_numeral_le h
  have hlength := List.length_pos_iff.mpr (Text.numeral_ne_nil n)
  calc (10 : ℚ) ^ k ≤ 10 ^ (((Text.numeral n).length - 1 : Nat) + e) :=
        zpow_le_zpow_right₀ (by norm_num) (by omega)
    _ = 10 ^ ((Text.numeral n).length - 1) * 10 ^ e := by
        rw [zpow_add₀ (by norm_num), zpow_natCast]
    _ ≤ n * 10 ^ e := by gcongr

theorem scaled_le {e k : Int} (hk : (Text.numeral n).length + e ≤ k) :
    (n : ℚ) * 10 ^ e ≤ 10 ^ k := by
  have hlead : (n : ℚ) ≤ 10 ^ (Text.numeral n).length := by
    exact_mod_cast (Text.lt_pow_length_numeral n).le
  calc (n : ℚ) * 10 ^ e ≤ 10 ^ (Text.numeral n).length * 10 ^ e := by gcongr
    _ = 10 ^ ((Text.numeral n).length + e) := by rw [zpow_add₀ (by norm_num), zpow_natCast]
    _ ≤ 10 ^ k := zpow_le_zpow_right₀ (by norm_num) hk

/-- Beyond these powers of ten there are no doubles. -/
theorem power_limits : 2 ^ 1024 ≤ 10 ^ 400 ∧ 2 ^ 1075 ≤ 10 ^ 401 := by decide +kernel

theorem length_numeral_le (h : 0 < n) : (Text.numeral n).length ≤ n.log2 + 1 := by
  have hlead : 2 ^ ((Text.numeral n).length - 1) ≤ n :=
    Nat.le_trans (Nat.pow_le_pow_left (by decide) _) (Text.pow_length_numeral_le h)
  have := (Nat.le_log2 (Nat.ne_of_gt h)).mpr hlead
  omega

/-- Digits and a power of ten give the double nearest to their product. -/
theorem nearest_nearestDouble (n : Nat) (e : Int) :
    Nearest (n * 10 ^ e) (nearestDouble n e) := by
  obtain ⟨hhuge, htiny⟩ := power_limits
  unfold nearestDouble
  dsimp only
  split
  · next hzero =>
    rw [hzero, Nat.cast_zero, zero_mul]
    exact nearest_tiny (le_refl _) (by positivity)
  next hne =>
  have hpos : 0 < n := Nat.pos_of_ne_zero hne
  have hlength := length_numeral_le hpos
  have hsome := List.length_pos_iff.mpr (Text.numeral_ne_nil n)
  split
  · next hlarge =>
    refine nearest_huge (le_trans ?_ (le_scaled hpos hlarge))
    exact_mod_cast hhuge
  split
  · next hsmall =>
    refine nearest_tiny (by positivity) (le_trans (scaled_le (k := -401) (by omega)) ?_)
    rw [zpow_neg, zpow_neg]
    exact inv_anti₀ (by positivity) (by exact_mod_cast htiny)
  · cases e with
    | ofNat e =>
        simp only [Int.ofNat_eq_natCast, zpow_natCast] at *
        exact nearest_ofScientific_mul hpos (by omega)
    | negSucc e =>
        simp only [zpow_negSucc, ← div_eq_mul_inv]
        exact nearest_ofScientific_div hpos (Nat.succ_pos e) (by omega)

/-! ## Decimals -/

/-- Digits with at most one point among them, and at least one digit. -/
structure IsDecimal (cs : List Char) : Prop where
  chars : ∀ c ∈ cs, c.isDigit = true ∨ c = '.'
  digit : ∃ c ∈ cs, c.isDigit = true
  points : cs.count '.' ≤ 1

/-- The number that a decimal stands for: the digits in front of the point, and those after it as a
fraction. -/
def decimalValue (cs : List Char) : ℚ :=
  let fraction := (cs.dropWhile (· != '.')).drop 1
  Text.digitsValue (cs.takeWhile (· != '.')) + Text.digitsValue fraction / 10 ^ fraction.length

variable {whole fraction cs : List Char} {c : Char}

theorem bne_point_of_isDigit (h : c.isDigit = true) : (c != '.') = true := by
  rw [bne_iff_ne]
  rintro rfl
  cases h

theorem count_point_eq_zero (h : ∀ c ∈ cs, c.isDigit = true) : cs.count '.' = 0 :=
  List.count_eq_zero.mpr fun hpoint => absurd (h '.' hpoint) (by decide)

theorem decimalValue_whole (h : ∀ c ∈ whole, c.isDigit = true) :
    decimalValue whole = Text.digitsValue whole := by
  have hpoint : ∀ c ∈ whole, (c != '.') = true := fun c hc => bne_point_of_isDigit (h c hc)
  rw [decimalValue, List.takeWhile_eq_self_iff.mpr hpoint, List.dropWhile_eq_nil_iff.mpr hpoint]
  simp [Text.digitsValue]

theorem decimalValue_point (h : ∀ c ∈ whole, c.isDigit = true) (fraction : List Char) :
    decimalValue (whole ++ '.' :: fraction) =
      Text.digitsValue (whole ++ fraction) / 10 ^ fraction.length := by
  have hpoint : ∀ c ∈ whole, (c != '.') = true := fun c hc => bne_point_of_isDigit (h c hc)
  have hhead : ∀ c ∈ ('.' :: fraction).head?, (c != '.') = false := by simp
  rw [decimalValue, Text.takeWhile_append_of_head hpoint hhead,
    Text.dropWhile_append_of_head hpoint hhead, List.drop_one, List.tail_cons,
    Text.digitsValue_append, Nat.pow_eq]
  push_cast
  rw [add_div, mul_div_cancel_right₀ _ (by positivity)]

theorem decimalValue_nonneg (cs : List Char) : 0 ≤ decimalValue cs := by
  rw [decimalValue]
  positivity

theorem readPlain?_whole (h : ∀ c ∈ whole, c.isDigit = true) :
    readPlain? whole = if whole.isEmpty then none else some (Text.digitsValue whole, 0) := by
  rw [readPlain?, List.takeWhile_eq_self_iff.mpr h, List.dropWhile_eq_nil_iff.mpr h]

theorem readPlain?_point (h : ∀ c ∈ whole, c.isDigit = true) (fraction : List Char) :
    readPlain? (whole ++ '.' :: fraction) =
      if fraction.all Char.isDigit && !(whole.isEmpty && fraction.isEmpty) then
        some (Text.digitsValue (whole ++ fraction), fraction.length)
      else none := by
  have hhead : ∀ c ∈ ('.' :: fraction).head?, c.isDigit = false := by simp
  rw [readPlain?, Text.takeWhile_append_of_head h hhead, Text.dropWhile_append_of_head h hhead]
  rfl

/-- A text of digits and points has no point, or goes on after its first one. -/
theorem exists_whole (h : ∀ c ∈ cs, c.isDigit = true ∨ c = '.') :
    (∀ c ∈ cs, c.isDigit = true) ∨ ∃ whole fraction, cs = whole ++ '.' :: fraction
      ∧ (∀ c ∈ whole, c.isDigit = true) ∧ ∀ c ∈ fraction, c.isDigit = true ∨ c = '.' := by
  have hwhole : ∀ c ∈ cs.takeWhile Char.isDigit, c.isDigit = true :=
    fun c hc => List.mem_takeWhile_imp hc
  have hhead : ∀ c ∈ (cs.dropWhile Char.isDigit).head?, c.isDigit = false := Text.head_dropWhile
  have hcs : cs = cs.takeWhile Char.isDigit ++ cs.dropWhile Char.isDigit :=
    List.takeWhile_append_dropWhile.symm
  generalize cs.takeWhile Char.isDigit = whole at *
  generalize cs.dropWhile Char.isDigit = rest at *
  subst hcs
  rcases rest with _ | ⟨c, fraction⟩
  · exact .inl (by simpa using hwhole)
  · obtain rfl : c = '.' := (h c (by simp)).resolve_left (by simp [hhead c rfl])
    exact .inr ⟨whole, fraction, rfl, hwhole, fun c hc => h c (by simp [hc])⟩

theorem isDecimal_whole (h : ∀ c ∈ whole, c.isDigit = true) : IsDecimal whole ↔ whole ≠ [] := by
  refine ⟨fun ⟨_, ⟨c, hc, _⟩, _⟩ => List.ne_nil_of_mem hc, fun hsome => ?_⟩
  obtain ⟨c, hc⟩ := List.exists_mem_of_ne_nil whole hsome
  exact ⟨fun c hc => .inl (h c hc), ⟨c, hc, h c hc⟩, (count_point_eq_zero h).trans_le (by decide)⟩

theorem isDecimal_point (h : ∀ c ∈ whole, c.isDigit = true)
    (hchars : ∀ c ∈ fraction, c.isDigit = true ∨ c = '.') :
    IsDecimal (whole ++ '.' :: fraction) ↔
      (∀ c ∈ fraction, c.isDigit = true) ∧ (whole ≠ [] ∨ fraction ≠ []) := by
  have hcount : (whole ++ '.' :: fraction).count '.' = fraction.count '.' + 1 := by
    rw [List.count_append, List.count_cons_self, count_point_eq_zero h, Nat.zero_add]
  constructor
  · rintro ⟨-, ⟨d, hd, hdigit⟩, hpoints⟩
    have hnone : '.' ∉ fraction := List.count_eq_zero.mp (by omega)
    refine ⟨fun c hc => (hchars c hc).resolve_right ?_, ?_⟩
    · rintro rfl
      exact hnone hc
    · by_contra hnil
      obtain ⟨rfl, rfl⟩ : whole = [] ∧ fraction = [] := by simpa using hnil
      obtain rfl : d = '.' := by simpa using hd
      cases hdigit
  · rintro ⟨hfraction, hsome⟩
    have hdigits : ∀ c ∈ whole ++ fraction, c.isDigit = true :=
      List.forall_mem_append.mpr ⟨h, hfraction⟩
    obtain ⟨c, hc⟩ := List.exists_mem_of_ne_nil (whole ++ fraction)
      (by simpa [imp_iff_not_or] using hsome)
    refine ⟨?_, ⟨c, ?_, hdigits c hc⟩, by rw [hcount, count_point_eq_zero hfraction]⟩
    · simp only [List.mem_append, List.mem_cons]
      rintro c (hc | rfl | hc)
      · exact .inl (h c hc)
      · exact .inr rfl
      · exact hchars c hc
    · simp only [List.mem_append, List.mem_cons] at hc ⊢
      exact hc.imp_right .inr

theorem exists_readPlain? (h : IsDecimal cs) :
    ∃ digits places, readPlain? cs = some (digits, places)
      ∧ decimalValue cs = digits / 10 ^ places := by
  rcases exists_whole h.chars with hdigits | ⟨whole, fraction, rfl, hwhole, hchars⟩
  · have hsome := (isDecimal_whole hdigits).mp h
    refine ⟨_, 0, by rw [readPlain?_whole hdigits, if_neg (by simpa using hsome)], ?_⟩
    rw [decimalValue_whole hdigits, pow_zero, div_one]
  · obtain ⟨hfraction, hsome⟩ := (isDecimal_point hwhole hchars).mp h
    refine ⟨_, _, ?_, decimalValue_point hwhole fraction⟩
    rw [readPlain?_point hwhole, if_pos]
    simpa using ⟨hfraction, hsome⟩

theorem readPlain?_eq_none (hchars : ∀ c ∈ cs, c.isDigit = true ∨ c = '.') (h : ¬IsDecimal cs) :
    readPlain? cs = none := by
  rcases exists_whole hchars with hdigits | ⟨whole, fraction, rfl, hwhole, hchars⟩
  · rw [isDecimal_whole hdigits, not_not] at h
    rw [h]
    rfl
  · rw [isDecimal_point hwhole hchars] at h
    rw [readPlain?_point hwhole, if_neg]
    simpa [imp_iff_not_or] using h

/-- A decimal is read as the double nearest to it. -/
theorem nearest_readAmount? (h : IsDecimal cs) :
    ∃ x, readAmount? cs = some x ∧ Nearest (decimalValue cs) x := by
  obtain ⟨digits, places, hread, hvalue⟩ := exists_readPlain? h
  refine ⟨nearestDouble digits (-(places : Int)), by rw [readAmount?, hread]; rfl, ?_⟩
  have hnearest := nearest_nearestDouble digits (-(places : Int))
  rwa [zpow_neg, zpow_natCast, ← div_eq_mul_inv, ← hvalue] at hnearest

theorem readAmount?_eq_none (hchars : ∀ c ∈ cs, c.isDigit = true ∨ c = '.') (h : ¬IsDecimal cs) :
    readAmount? cs = none := by
  rw [readAmount?, readPlain?_eq_none hchars h]
  rfl

end Rollout.Decimal
