import Rollout.Proofs.Decimal.Rounding

/-!
# Natural numbers as doubles

A positive 64-bit number (`exists_normal_ofNat`) and a power of ten up to `10 ^ 308`
(`exists_normal_power`) are rounded to doubles. A number `n` grows by at most `n / 2 ^ 53` cut off
to a whole number: by nothing below `2 ^ 53`, where each number is a double of its own. So a number
scaled by a power of ten is finite (`isFinite_mul_power`) as long as the exact product stays below
all that is rounded to the largest double; the two roundings may then leave it at the largest one.
A percentage of two such numbers is far from that (`isFinite_percentage`).
-/

open Float.Model Float.Model.UnpackedFloat

namespace Rollout.Decimal

variable {n : Nat}

theorem log2_mul_two_pow (h : 0 < n) (j : Nat) : (n * 2 ^ j).log2 = n.log2 + j := by
  have hne : n ≠ 0 := Nat.ne_of_gt h
  refine (Nat.log2_eq_iff (Nat.mul_ne_zero hne (Nat.ne_of_gt (Nat.two_pow_pos j)))).mpr ⟨?_, ?_⟩
  · rw [Nat.pow_add]
    exact Nat.mul_le_mul_right _ (Nat.log2_self_le hne)
  · rw [Nat.add_right_comm, Nat.pow_add]
    exact Nat.mul_lt_mul_of_pos_right Nat.lt_log2_self (Nat.two_pow_pos j)

/-! ## Limits -/

/-- Halfway from the double next to the largest one up to the largest one. -/
@[irreducible] def scaleLimit : Nat := (2 ^ 54 - 3) * 2 ^ 970

theorem scaleLimit_eq : (scaleLimit : ℚ) = (2 ^ 54 - 3) * 2 ^ (970 : Int) := by
  unfold scaleLimit
  exact natCast_mul_two_pow (by norm_num) 970

/-- The two limits beside powers of ten, and what rounding may add to these. -/
theorem limits : 2 ^ 73 < overflow ∧ 10 ^ 308 < overflow
    ∧ (10 ^ 18 + 10 ^ 18 / 2 ^ 53) * (10 ^ 290 + 10 ^ 290 / 2 ^ 53) < overflow
    ∧ scaleLimit + scaleLimit / 2 ^ 53 < overflow
    ∧ scaleLimit < 2 ^ 53 * 10 ^ 293 ∧ scaleLimit < 10 ^ 309
    ∧ 17976931348623157 * 10 ^ 291 ≤ scaleLimit := by
  decide +kernel

theorem lt_overflow (h : n < 2 ^ 73) : n < overflow := Nat.lt_trans h limits.1

/-! ## Rounding a natural number -/

/-- The value that a natural number is rounded to. -/
theorem shifted_value_le (h : 0 < n) :
    (shifted .exact (n * 2 ^ 53) (n.log2 + 1) : ℚ) * 2 ^ ((n.log2 : Int) - 52) ≤
      (n + n / 2 ^ 53 : Nat) := by
  rcases Nat.lt_or_ge 52 n.log2 with hlarge | hsmall
  · obtain ⟨j, hj⟩ : ∃ j, n.log2 = 53 + j := Nat.exists_eq_add_of_le hlarge
    -- the doubles are `2 ^ (j + 1)` apart, and half of that fits `n / 2 ^ 53`
    have hlow : 2 ^ (53 + j) ≤ n := hj ▸ Nat.log2_self_le (Nat.ne_of_gt h)
    have hhalf : 2 ^ j ≤ n / 2 ^ 53 := by
      rw [Nat.le_div_iff_mul_le (by decide), ← Nat.pow_add, Nat.add_comm]
      exact hlow
    have hround : 2 ^ (j + 1) * shifted .exact (n * 2 ^ 53) (n.log2 + 1) ≤ n + 2 ^ j := by
      refine Nat.le_of_mul_le_mul_left ?_ (by decide : 0 < 2 ^ 54)
      have hshift := shifted_mul_le (n * 2 ^ 53) (n.log2 + 1)
      generalize shifted .exact (n * 2 ^ 53) (n.log2 + 1) = r at hshift ⊢
      rw [hj] at hshift
      calc 2 ^ 54 * (2 ^ (j + 1) * r) = 2 ^ (53 + j + 1 + 1) * r := by ring
        _ ≤ 2 * (n * 2 ^ 53) + 2 ^ (53 + j + 1) := hshift
        _ = 2 ^ 54 * (n + 2 ^ j) := by ring
    have hvalue : 2 ^ (j + 1) * shifted .exact (n * 2 ^ 53) (n.log2 + 1) ≤ n + n / 2 ^ 53 := by
      omega
    have hexponent : (n.log2 : Int) - 52 = ((j + 1 : Nat) : Int) := by omega
    rw [hexponent, zpow_natCast, mul_comm]
    exact_mod_cast hvalue
  · obtain ⟨j, hj⟩ := Nat.exists_eq_add_of_le hsmall
    have hfactor : n * 2 ^ 53 = n * 2 ^ j * 2 ^ (n.log2 + 1) := by
      rw [Nat.mul_assoc, ← Nat.pow_add]
      congr 2
      omega
    have hexponent : (n.log2 : Int) - 52 = -(j : Int) := by omega
    have hpow : (2 : ℚ) ^ j ≠ 0 := by positivity
    rw [hfactor, shifted_mul, hexponent, zpow_neg, zpow_natCast]
    push_cast
    rw [mul_assoc, mul_inv_cancel₀ hpow, mul_one]
    exact_mod_cast Nat.le_add_right n (n / 2 ^ 53)

theorem natCast_mul_zpow_neg (n : Nat) : ((n * 2 ^ 53 : Nat) : ℚ) * 2 ^ (-53 : Int) = n := by
  push_cast
  rw [mul_assoc, zpow_neg]
  norm_num

theorem exists_normal_natural (h : 0 < n) (hn : n < overflow) :
    ∃ m e, Normal (rounded .exact (n * 2 ^ 53) (-53)) m e ∧ -52 ≤ e
      ∧ (m : ℚ) * 2 ^ e ≤ (n + n / 2 ^ 53 : Nat) := by
  have hlog : (n * 2 ^ 53).log2 = 52 + (n.log2 + 1) := by
    rw [log2_mul_two_pow h]
    omega
  have hexponent : (-53 : Int) + (n.log2 + 1 : Nat) = n.log2 - 52 := by omega
  obtain ⟨m, e, hnormal, he, hround⟩ :=
    exists_normal_rounded hlog (by omega) (natCast_mul_zpow_neg n ▸ Nat.cast_lt.mpr hn)
  rw [hexponent] at he hround
  exact ⟨m, e, hnormal, by omega, hround ▸ shifted_value_le h⟩

/-- Numbers and powers that are not both small are scaled exactly and rounded once. -/
theorem ofScientific_eq {e : Nat} (h : 0 < n) (he : e ≤ 2048) (hslow : ¬(n < 2 ^ 53 ∧ e ≤ 22)) :
    Float.ofScientific n false e = rounded .exact (n * 10 ^ e * 2 ^ 53) (-53) := by
  have hfinite : UnpackedFloat.ofScientific Format.binary64 n e =
      roundWithAccuracy Format.binary64 .positive (n * 10 ^ e * 2 ^ 53) (-53) .exact := by
    have hsafe : (2 : Int) ^ Format.binary64.exponentBits = 2048 := rfl
    have hm : (n <<< Format.binary64.mantissaBits) * 10 ^ (e : Int).toNat =
        n * 10 ^ e * 2 ^ 53 := by
      rw [Nat.shiftLeft_eq, Int.toNat_natCast, Nat.mul_right_comm]
      rfl
    rw [UnpackedFloat.ofScientific, dif_neg (Nat.ne_of_gt h), hsafe, if_neg (by omega),
      if_neg (by omega), if_pos (Int.natCast_nonneg e), ← hm]
    rfl
  rw [Float.ofScientific, dif_neg hslow, rounded, ← hfinite]
  rfl

/-! ## Numbers of 64 bits -/

theorem toFloat_eq (h : 0 < n) (hn : n < 2 ^ 53) :
    n.toUInt64.toFloat = rounded .exact (n * 2 ^ (52 - n.log2)) (n.log2 - 52) := by
  have hlog : n.log2 < 53 := (Nat.log2_lt (Nat.ne_of_gt h)).mpr hn
  have hsize : n.toUInt64.toNat = n := UInt64.toNat_ofNat_of_lt' (Nat.lt_trans hn (by decide))
  have hcompare : compare (n : Int) 0 = .gt := Int.compare_eq_gt.mpr (by omega)
  have htarget : Format.binary64.targetExponent (totalExponent n 0) = n.log2 - 52 := by
    simp only [Format.targetExponent, totalExponent, Format.mantissaBits, Format.minExponent]
    norm_num
    omega
  have hamount : (0 - ((n.log2 : Int) - 52)).toNat = 52 - n.log2 := by omega
  have hexponent : (0 : Int) - ((52 - n.log2 : Nat) : Int) = n.log2 - 52 := by omega
  have hround : UnpackedFloat.ofUInt64 Format.binary64 n.toUInt64 =
      roundWithAccuracy Format.binary64 .positive (n * 2 ^ (52 - n.log2)) (n.log2 - 52) .exact := by
    rw [UnpackedFloat.ofUInt64, UnpackedFloat.ofNat, UnpackedFloat.ofInt, UnpackedFloat.normalize,
      hsize, hcompare]
    simp only [UnpackedFloat.round, decreaseExponent, Int.toNat_natCast, htarget, hamount,
      hexponent, Nat.shiftLeft_eq]
  rw [UInt64.toFloat, Float.Model.ofUInt64, hround, rounded]

/-- A natural number below `2 ^ 53` is a double. -/
theorem exists_normal_toFloat (h : 0 < n) (hn : n < 2 ^ 53) :
    ∃ m e, Normal n.toUInt64.toFloat m e ∧ -52 ≤ e ∧ (m : ℚ) * 2 ^ e = n := by
  have hlog : n.log2 < 53 := (Nat.log2_lt (Nat.ne_of_gt h)).mpr hn
  have hm : (n * 2 ^ (52 - n.log2)).log2 = 52 + 0 := by
    rw [log2_mul_two_pow h]
    omega
  have hexponent : (n.log2 : Int) - 52 = -((52 - n.log2 : Nat) : Int) := by omega
  have hvalue : ((n * 2 ^ (52 - n.log2) : Nat) : ℚ) * 2 ^ ((n.log2 : Int) - 52) = n := by
    have hpow : (2 : ℚ) ^ (52 - n.log2) ≠ 0 := by positivity
    rw [hexponent, zpow_neg, zpow_natCast]
    push_cast
    rw [mul_assoc, mul_inv_cancel₀ hpow, mul_one]
  have hfits : n < overflow := lt_overflow (Nat.lt_trans hn (by decide))
  obtain ⟨m, e, hnormal, he, hround⟩ :=
    exists_normal_rounded hm (by omega) (hvalue ▸ Nat.cast_lt.mpr hfits)
  rw [shifted_zero, Int.natCast_zero, Int.add_zero] at hround
  exact ⟨m, e, toFloat_eq h hn ▸ hnormal, by omega, hround.trans hvalue⟩

theorem normal_one : Normal (Float.ofBits 0x3FF0000000000000) (2 ^ 52) (-52) where
  low := Nat.le_refl _
  high := by decide
  parts := rfl

/-- A product with one is exact. -/
theorem Normal.exists_mul_one {x : Float} {m₁ : Nat} {e₁ : Int} (hx : Normal x m₁ e₁)
    (he : -52 ≤ e₁) (h : (m₁ : ℚ) * 2 ^ e₁ < overflow) :
    ∃ m e, Normal (x * Float.ofBits 0x3FF0000000000000) m e ∧ -52 ≤ e
      ∧ (m : ℚ) * 2 ^ e = m₁ * 2 ^ e₁ := by
  have hpos : 0 < m₁ := Nat.lt_of_lt_of_le (by decide) hx.low
  have hm : (m₁ * 2 ^ 52).log2 = 52 + 52 := by rw [log2_mul_two_pow hpos, hx.log2_eq]
  have hone : ((2 ^ 52 : Nat) : ℚ) * 2 ^ (-52 : Int) = 1 := by norm_num
  have hexponent : e₁ + -52 + (52 : Nat) = e₁ := by omega
  obtain ⟨m, e, hnormal, hle, hvalue⟩ :=
    hx.exists_mul normal_one hm (by omega) (by rwa [hone, mul_one])
  rw [shifted_mul, hexponent] at hvalue
  exact ⟨m, e, hnormal, by omega, hvalue⟩

theorem exists_normal_ofNat (h : 0 < n) (hn : n < 2 ^ 64) :
    ∃ m e, Normal (Float.ofNat n) m e ∧ -52 ≤ e
      ∧ (m : ℚ) * 2 ^ e ≤ (n + n / 2 ^ 53 : Nat) := by
  have hfits : n < overflow := lt_overflow (Nat.lt_trans hn (by decide))
  by_cases hsmall : n < 2 ^ 53
  · have hfast : Float.ofNat n = n.toUInt64.toFloat * Float.ofBits 0x3FF0000000000000 := by
      unfold Float.ofNat
      simp only [OfScientific.ofScientific, Float.ofScientific]
      rw [dif_pos ⟨hsmall, by decide⟩]
      rfl
    obtain ⟨m₁, e₁, hnormal₁, he₁, hvalue₁⟩ := exists_normal_toFloat h hsmall
    obtain ⟨m, e, hnormal, he, hvalue⟩ :=
      hnormal₁.exists_mul_one he₁ (hvalue₁ ▸ Nat.cast_lt.mpr hfits)
    refine ⟨m, e, hfast ▸ hnormal, he, ?_⟩
    rw [hvalue, hvalue₁]
    exact_mod_cast Nat.le_add_right n (n / 2 ^ 53)
  · have hslow : Float.ofNat n = rounded .exact (n * 10 ^ 0 * 2 ^ 53) (-53) :=
      ofScientific_eq h (by decide) fun hfast => hsmall hfast.1
    rw [hslow, Nat.pow_zero, Nat.mul_one]
    exact exists_normal_natural h hfits

/-! ## Powers of ten -/

/-- The powers up to `10 ^ 22` are doubles. -/
theorem parts_power : ∀ e < 23, 2 ^ 52 ≤ 10 ^ e * 2 ^ 53 / 2 ^ ((10 ^ e).log2 + 1)
    ∧ 10 ^ e * 2 ^ 53 / 2 ^ ((10 ^ e).log2 + 1) < 2 ^ 53
    ∧ positiveParts? (Float.ofScientific 1 false e) =
      some (10 ^ e * 2 ^ 53 / 2 ^ ((10 ^ e).log2 + 1), ((10 ^ e).log2 : Int) - 52) := by
  decide +kernel

theorem exists_normal_power {e : Nat} (he : e ≤ 308) :
    ∃ m x, Normal (Float.ofScientific 1 false e) m x ∧ -52 ≤ x
      ∧ (m : ℚ) * 2 ^ x ≤ (10 ^ e + 10 ^ e / 2 ^ 53 : Nat) := by
  by_cases hsmall : e < 23
  · obtain ⟨hlow, hhigh, hparts⟩ := parts_power e hsmall
    refine ⟨_, _, ⟨hlow, hhigh, hparts⟩, by omega, ?_⟩
    generalize (10 ^ e).log2 = j
    have hfloor : ((10 ^ e * 2 ^ 53 / 2 ^ (j + 1) : Nat) : ℚ) * 2 ^ (j + 1) ≤ 10 ^ e * 2 ^ 53 := by
      exact_mod_cast Nat.div_mul_le_self _ _
    have hexponent : (j : Int) - 52 = ((j + 1 : Nat) : Int) + -53 := by omega
    rw [hexponent, zpow_add₀ (by norm_num), zpow_natCast, ← mul_assoc]
    calc ((10 ^ e * 2 ^ 53 / 2 ^ (j + 1) : Nat) : ℚ) * 2 ^ (j + 1) * 2 ^ (-53 : Int)
        ≤ 10 ^ e * 2 ^ 53 * 2 ^ (-53 : Int) := by gcongr
      _ = ((10 ^ e : Nat) : ℚ) := by
        push_cast
        rw [mul_assoc]
        norm_num
      _ ≤ (10 ^ e + 10 ^ e / 2 ^ 53 : Nat) := by exact_mod_cast Nat.le_add_right _ _
  · obtain ⟨-, hlimit, -⟩ := limits
    have hpower : 10 ^ e ≤ 10 ^ 308 := by gcongr; decide
    have hfits : 10 ^ e < overflow := Nat.lt_of_le_of_lt hpower hlimit
    rw [ofScientific_eq (by decide) (by omega) (by omega), Nat.one_mul]
    exact exists_normal_natural (Nat.pow_pos (by decide)) hfits

/-! ## Scaled numbers -/

/-- For these two powers half a unit on top of both factors would be too much. -/
theorem power_near_limit : ∀ e ∈ [291, 292],
    (positiveParts? (Float.ofScientific 1 false e)).any fun (m, x) => 0 ≤ x
      ∧ (scaleLimit / 10 ^ e + scaleLimit / 10 ^ e / 2 ^ 53) * (m * 2 ^ x.toNat) < overflow := by
  decide +kernel

theorem unpack_ofNat_zero : (Float.ofNat 0).toModel.unpack = .zero .positive := rfl

/-- A double is normal, and its value is no more than a natural number. -/
def AtMost (x : Float) (a : Nat) : Prop :=
  ∃ m e, Normal x m e ∧ -52 ≤ e ∧ (m : ℚ) * 2 ^ e ≤ a

theorem AtMost.isFinite_mul {x y : Float} {a b : Nat} (hx : AtMost x a) (hy : AtMost y b)
    (h : a * b < overflow) : isFinite (x * y) = true := by
  obtain ⟨m₁, e₁, hx, he₁, ha⟩ := hx
  obtain ⟨m₂, e₂, hy, he₂, hb⟩ := hy
  refine hx.isFinite_mul hy (by omega) ?_
  calc (m₁ : ℚ) * 2 ^ e₁ * (m₂ * 2 ^ e₂) ≤ a * b := by gcongr
    _ < overflow := by exact_mod_cast h

theorem atMost_power {e : Nat} (he : e ≤ 308) :
    AtMost (Float.ofScientific 1 false e) (10 ^ e + 10 ^ e / 2 ^ 53) :=
  exists_normal_power he

theorem exists_atMost_power_near_limit {e : Nat} (he : e ∈ [291, 292]) :
    ∃ b, AtMost (Float.ofScientific 1 false e) b
      ∧ (scaleLimit / 10 ^ e + scaleLimit / 10 ^ e / 2 ^ 53) * b < overflow := by
  have hle : e ≤ 308 := (by decide : ∀ e ∈ [291, 292], e ≤ 308) e he
  obtain ⟨m, x, hnormal, hx, -⟩ := exists_normal_power hle
  have hnear := power_near_limit e he
  rw [hnormal.parts, Option.any_some, decide_eq_true_eq] at hnear
  obtain ⟨hwhole, hnear⟩ := hnear
  refine ⟨_, ⟨m, x, hnormal, hx, ?_⟩, hnear⟩
  obtain ⟨j, rfl⟩ := Int.eq_ofNat_of_zero_le hwhole
  push_cast
  simp

theorem isFinite_mul_power {e : Nat} (hn : n ≤ 10 ^ 18) (he : e ≤ 308)
    (h : n * 10 ^ e ≤ scaleLimit) :
    isFinite (Float.ofNat n * Float.ofScientific 1 false e) = true := by
  obtain ⟨-, -, hproduct, hslack, hhuge, -⟩ := limits
  rcases Nat.eq_zero_or_pos n with rfl | hpos
  · obtain ⟨m, x, hpower, -, -⟩ := exists_normal_power he
    exact Normal.isFinite_zero_mul unpack_ofNat_zero hpower
  have hnumber : AtMost (Float.ofNat n) (n + n / 2 ^ 53) :=
    exists_normal_ofNat hpos (Nat.lt_of_le_of_lt hn (by decide))
  rcases Nat.lt_or_ge e 291 with hsmall | hlarge
  · have hpow : 10 ^ e ≤ 10 ^ 290 := by
      gcongr
      · decide
      · omega
    refine hnumber.isFinite_mul (atMost_power he) ?_
    calc (n + n / 2 ^ 53) * (10 ^ e + 10 ^ e / 2 ^ 53)
        ≤ (10 ^ 18 + 10 ^ 18 / 2 ^ 53) * (10 ^ 290 + 10 ^ 290 / 2 ^ 53) := by gcongr
      _ < overflow := hproduct
  rcases Nat.lt_or_ge e 293 with hmiddle | hlast
  · have hmem : e ∈ [291, 292] := by
      rw [List.mem_cons, List.mem_singleton]
      omega
    obtain ⟨b, hpower, hnear⟩ := exists_atMost_power_near_limit hmem
    have hlimit : n ≤ scaleLimit / 10 ^ e :=
      (Nat.le_div_iff_mul_le (Nat.pow_pos (by decide))).mpr h
    refine hnumber.isFinite_mul hpower ?_
    calc (n + n / 2 ^ 53) * b ≤ (scaleLimit / 10 ^ e + scaleLimit / 10 ^ e / 2 ^ 53) * b := by
          gcongr
      _ < overflow := hnear
  · have hsmall : n < 2 ^ 53 := by
      refine Nat.lt_of_mul_lt_mul_right (a := 10 ^ 293) ?_
      calc n * 10 ^ 293 ≤ n * 10 ^ e := by gcongr; decide
        _ ≤ scaleLimit := h
        _ < 2 ^ 53 * 10 ^ 293 := hhuge
    rw [Nat.div_eq_of_lt hsmall, Nat.add_zero] at hnumber
    refine hnumber.isFinite_mul (atMost_power he) ?_
    calc n * (10 ^ e + 10 ^ e / 2 ^ 53) = n * 10 ^ e + n * (10 ^ e / 2 ^ 53) := Nat.mul_add ..
      _ ≤ n * 10 ^ e + n * 10 ^ e / 2 ^ 53 := by gcongr; exact Nat.mul_div_le_mul_div_assoc ..
      _ ≤ scaleLimit + scaleLimit / 2 ^ 53 := by gcongr
      _ < overflow := hslack

/-! ## Percentages -/

theorem exponent_le_of_lt {x : Float} {m : Nat} {e : Int} (h : Normal x m e) (hn : n < 2 ^ 64)
    (hvalue : (m : ℚ) * 2 ^ e ≤ (n + n / 2 ^ 53 : Nat)) : e < 13 := by
  have hlow : (2 : ℚ) ^ (52 : Int) ≤ m := by exact_mod_cast h.low
  have hhigh : ((n + n / 2 ^ 53 : Nat) : ℚ) < 2 ^ (65 : Int) := by
    have hsum : n + n / 2 ^ 53 < 2 ^ 65 := by omega
    exact_mod_cast hsum
  have hpow : (2 : ℚ) ^ (52 + e) < 2 ^ (65 : Int) := by
    rw [zpow_add₀ (by norm_num)]
    calc (2 : ℚ) ^ (52 : Int) * 2 ^ e ≤ m * 2 ^ e := by gcongr
      _ ≤ (n + n / 2 ^ 53 : Nat) := hvalue
      _ < 2 ^ (65 : Int) := hhigh
  have := (zpow_lt_zpow_iff_right₀ (by norm_num : (1 : ℚ) < 2)).mp hpow
  omega

theorem normal_hundred : Normal 100.0 (100 * 2 ^ 46) (-46) where
  low := by decide
  high := by decide
  parts := rfl

theorem unpack_zero_div {x : Float} {m : Nat} {e : Int} (h : Normal x m e) :
    (Float.ofNat 0 / x).toModel.unpack = .zero .positive := by
  obtain ⟨_, hx⟩ := h.unpack
  have hdiv : Float.ofNat 0 / x = .ofModel (.pack (.zero .positive)) := by
    rw [div_eq_pack, unpack_ofNat_zero, hx]
    rfl
  rw [hdiv]
  rfl

/-- A share of two numbers is finite as a percentage. -/
theorem isFinite_percentage {a b : Nat} (ha : a < 2 ^ 64) (hpos : 0 < b) (hb : b < 2 ^ 64) :
    isFinite (Float.ofNat a / Float.ofNat b * 100.0) = true := by
  obtain ⟨m₂, e₂, hwhole, he₂, hvalue₂⟩ := exists_normal_ofNat hpos hb
  rcases Nat.eq_zero_or_pos a with rfl | hsome
  · exact Normal.isFinite_zero_mul (unpack_zero_div hwhole) normal_hundred
  obtain ⟨m₁, e₁, hpart, he₁, hvalue₁⟩ := exists_normal_ofNat hsome ha
  have he₁' := exponent_le_of_lt hpart ha hvalue₁
  have he₂' := exponent_le_of_lt hwhole hb hvalue₂
  obtain ⟨m, e, hshare, he, hvalue⟩ := hpart.exists_div hwhole (by omega) (by omega)
  refine hshare.isFinite_mul normal_hundred (by omega) ?_
  have hlimit : (2 : ℚ) ^ (73 : Int) < overflow := by exact_mod_cast limits.1
  calc (m : ℚ) * 2 ^ e * ((100 * 2 ^ 46 : Nat) * 2 ^ (-46 : Int))
      ≤ 2 ^ (66 : Int) * 2 ^ (7 : Int) := by
        gcongr
        · calc (m : ℚ) * 2 ^ e ≤ 2 ^ (e₁ - e₂ + 1) := hvalue
            _ ≤ 2 ^ (66 : Int) := by
              gcongr
              · norm_num
              · omega
        · norm_num
    _ = 2 ^ (73 : Int) := by rw [← zpow_add₀ (by norm_num)]; rfl
    _ < overflow := hlimit

end Rollout.Decimal
