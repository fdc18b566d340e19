import Mathlib
import Rollout.Decimal.Binary64

/-!
# Rounding to doubles

A number is rounded to a double by dropping bits of its mantissa until 53 are left (`shifted`). What
is left is at most half a unit too large (`shifted_mul_le`), and nothing is lost if only zeros are
dropped (`shifted_mul`). The double has the value of what is left (`exists_normal_rounded`) unless
the number reaches `overflow`; so a product of two doubles is finite as long as the exact product
stays below that (`Normal.isFinite_mul`). The bits of a quotient go on after those that are rounded,
which are at least 53 of them (`Normal.exists_div`).
-/

open Float.Model Float.Model.UnpackedFloat

namespace Rollout.Decimal

/-! ## Dropping bits -/

/-- A mantissa without its last `k` bits, and what is known of these; the number that it stands for
may go on after its bits. -/
def shortened (a : Accuracy) (m k : Nat) : ExtendedMantissa :=
  ExtendedMantissa.ofMantissaAndAccuracy m a >>> k

/-- `m / 2 ^ k` as the nearest whole number. -/
def shifted (a : Accuracy) (m k : Nat) : Nat := (shortened a m k).roundedMantissa

theorem shifted_zero (m : Nat) : shifted .exact m 0 = m := rfl

theorem mantissa_shortened (a : Accuracy) (m k : Nat) :
    (shortened a m k).mantissa = m / 2 ^ k := by
  induction k with
  | zero =>
      rw [Nat.pow_zero, Nat.div_one]
      rcases a with _ | (_ | _ | _) <;> rfl
  | succ k ih =>
      change (shortened a m k).mantissa / 2 = _
      rw [ih, Nat.div_div_eq_div_mul, Nat.pow_succ]

theorem mantissa_le_rounded (em : ExtendedMantissa) : em.mantissa ≤ em.roundedMantissa := by
  obtain ⟨m, r, s⟩ := em
  cases r <;> cases s <;>
    simp [ExtendedMantissa.roundedMantissa, ExtendedMantissa.accuracy, Accuracy.roundToNearestEven]

/-- Rounding goes up only if the bit after the mantissa is set. -/
theorem rounded_le_mantissa_add (em : ExtendedMantissa) :
    em.roundedMantissa ≤ em.mantissa + em.roundBit.toNat := by
  obtain ⟨m, r, s⟩ := em
  cases r <;> cases s <;>
    simp [ExtendedMantissa.roundedMantissa, ExtendedMantissa.accuracy, Accuracy.roundToNearestEven]
  omega

theorem div_le_shifted (a : Accuracy) (m k : Nat) : m / 2 ^ k ≤ shifted a m k :=
  mantissa_shortened a m k ▸ mantissa_le_rounded (shortened a m k)

theorem shifted_le_succ (a : Accuracy) (m k : Nat) : shifted a m k ≤ m / 2 ^ k + 1 := by
  rw [← mantissa_shortened a m k]
  exact Nat.le_trans (rounded_le_mantissa_add _) (Nat.add_le_add_left (Bool.toNat_le _) _)

theorem shifted_mul_le (m k : Nat) : 2 ^ (k + 1) * shifted .exact m k ≤ 2 * m + 2 ^ k := by
  cases k with
  | zero =>
      rw [shifted_zero]
      omega
  | succ k =>
      -- the bit after the mantissa is the lowest one of `m / 2 ^ k`
      have hround : shifted .exact m (k + 1) ≤ m / 2 ^ k / 2 + (m / 2 ^ k % 2 != 0).toNat := by
        rw [← mantissa_shortened .exact m k]
        exact rounded_le_mantissa_add (shortened .exact m k).shiftRightOne
      have hbit : (m / 2 ^ k % 2 != 0).toNat = m / 2 ^ k % 2 := by
        rcases Nat.mod_two_eq_zero_or_one (m / 2 ^ k) with h | h <;> rw [h] <;> rfl
      have hhalf : 2 * shifted .exact m (k + 1) ≤ m / 2 ^ k + 1 := by omega
      have hfloor : 2 ^ k * (m / 2 ^ k) ≤ m := Nat.mul_div_le m (2 ^ k)
      calc 2 ^ (k + 1 + 1) * shifted .exact m (k + 1)
          = 2 * (2 ^ k * (2 * shifted .exact m (k + 1))) := by ring
        _ ≤ 2 * (2 ^ k * (m / 2 ^ k + 1)) := by gcongr
        _ = 2 * (2 ^ k * (m / 2 ^ k)) + 2 ^ (k + 1) := by ring
        _ ≤ 2 * m + 2 ^ (k + 1) := by gcongr

theorem shifted_mul (q k : Nat) : shifted .exact (q * 2 ^ k) k = q := by
  have hpos := Nat.two_pow_pos k
  refine Nat.le_antisymm (Nat.le_of_lt_succ ?_) ?_
  · refine Nat.lt_of_mul_lt_mul_left (a := 2 ^ (k + 1)) ?_
    refine Nat.lt_of_le_of_lt (shifted_mul_le (q * 2 ^ k) k) ?_
    rw [Nat.pow_succ]
    nlinarith
  · have h := div_le_shifted .exact (q * 2 ^ k) k
    rwa [Nat.mul_div_cancel _ hpos] at h

/-! ## Rounding -/

variable {s : Sign} {a : Accuracy} {m k : Nat} {e : Int}

theorem ne_zero_of_log2_eq (hm : m.log2 = 52 + k) : m ≠ 0 := by
  rintro rfl
  rw [Nat.log2_zero] at hm
  omega

theorem shifted_bounds (hm : m.log2 = 52 + k) :
    2 ^ 52 ≤ shifted a m k ∧ shifted a m k ≤ 2 ^ 53 := by
  obtain ⟨hlow, hhigh⟩ := (Nat.log2_eq_iff (ne_zero_of_log2_eq hm)).mp hm
  have hpos := Nat.two_pow_pos k
  constructor
  · refine Nat.le_trans ?_ (div_le_shifted a m k)
    rw [Nat.le_div_iff_mul_le hpos, ← Nat.pow_add]
    exact hlow
  · refine Nat.le_trans (shifted_le_succ a m k) (Nat.succ_le_of_lt ?_)
    rw [Nat.div_lt_iff_lt_mul hpos, ← Nat.pow_add]
    rwa [Nat.add_right_comm] at hhigh

/-- As many bits are dropped as it takes to leave 53, or to come to the least exponent. -/
theorem shiftToTargetExponent_shortened (hk : (max (m.log2 + e - 52) (-1074) - e).toNat = k) :
    shiftToTargetExponent Format.binary64 m e a = (shortened a m k, e + k) := by
  have htarget : Format.binary64.targetExponent (totalExponent m e) =
      max (m.log2 + e - 52) (-1074) := by
    simp only [Format.targetExponent, totalExponent, Format.mantissaBits, Format.minExponent]
    norm_num
    omega
  rw [shiftToTargetExponent, htarget, shiftToExponent]
  simp only [hk, shortened]

theorem shiftToTargetExponent_eq (hm : m.log2 = 52 + k) (he : -1074 ≤ e + k) :
    shiftToTargetExponent Format.binary64 m e a = (shortened a m k, e + k) :=
  shiftToTargetExponent_shortened (by omega)

/-- What is done after the bits are dropped: a mantissa that has become too long is shortened once
more. -/
theorem roundWithAccuracy_shortened (hk : (max (m.log2 + e - 52) (-1074) - e).toNat = k) :
    roundWithAccuracy Format.binary64 s m e a =
      (let (em, e') := shiftToTargetExponent Format.binary64 (shifted a m k) (e + k) .exact
      if h : em.mantissa = 0 then .zero s
      else .finite s em.mantissa e' (Nat.pos_of_ne_zero h)) := by
  rw [roundWithAccuracy, shiftToTargetExponent_shortened hk]
  rfl

theorem round_of_lt (hm : m.log2 = 52 + k) (he : -1074 ≤ e + k) (h : shifted a m k < 2 ^ 53) :
    ∃ hpos, roundWithAccuracy Format.binary64 s m e a =
      .finite s (shifted a m k) (e + k) hpos := by
  obtain ⟨hlow, -⟩ := shifted_bounds (a := a) hm
  have hne : shifted a m k ≠ 0 := by omega
  have hlog : (shifted a m k).log2 = 52 + 0 := (Nat.log2_eq_iff hne).mpr ⟨hlow, h⟩
  have hexponent : e + k + (0 : Nat) = e + k := Int.add_zero _
  refine ⟨Nat.pos_of_ne_zero hne, ?_⟩
  rw [roundWithAccuracy_shortened (k := k) (by omega), shiftToTargetExponent_eq hlog (by omega),
    hexponent]
  exact dif_neg hne

theorem round_of_not_lt (hm : m.log2 = 52 + k) (he : -1074 ≤ e + k) (h : ¬shifted a m k < 2 ^ 53) :
    ∃ hpos, roundWithAccuracy Format.binary64 s m e a =
      .finite s (2 ^ 52) (e + k + 1) hpos := by
  obtain ⟨-, hhigh⟩ := shifted_bounds (a := a) hm
  have hcarry : shifted a m k = 2 ^ 53 := Nat.le_antisymm hhigh (Nat.le_of_not_lt h)
  have hlog : (shifted a m k).log2 = 52 + 1 := by rw [hcarry, Nat.log2_two_pow]
  refine ⟨by decide, ?_⟩
  rw [roundWithAccuracy_shortened (k := k) (by omega), shiftToTargetExponent_eq hlog (by omega),
    hcarry]
  rfl

/-! ## Bits of a double -/

theorem unpackSign_packComponents (spec : Format) (s : Sign) (e : BitVec spec.exponentBits)
    (m : BitVec spec.mantissaBitsWithoutImplicit) :
    unpackSign (packComponents spec s e m) = s.toBitVec := by
  ext i hi
  have hm := spec.hm
  obtain rfl : i = 0 := by omega
  simp [unpackSign, packComponents, BitVec.getLsbD_eq_getElem, BitVec.getLsbD_append,
    BitVec.getElem_append]

theorem pack_normal {b : Nat} {hpos : 0 < m} (hlow : 2 ^ 52 ≤ m) (hhigh : m < 2 ^ 53)
    (hb : 0 < b) (hb' : b < 2047) :
    UnpackedFloat.pack Format.binary64 (.finite .positive m ((b : Int) - 1075) hpos) =
      packComponents Format.binary64 .positive (BitVec.ofNat _ b) (BitVec.ofNat _ m) := by
  have hlog : m.log2 = 52 := (Nat.log2_eq_iff (Nat.ne_of_gt hpos)).mpr ⟨hlow, hhigh⟩
  have hbiased : ((b : Int) - 1075 + Format.binary64.exponentBias
      + Format.binary64.mantissaBitsWithoutImplicit).toNat = b := by
    simp only [Format.exponentBias]
    omega
  simp only [UnpackedFloat.pack, hbiased, hlog]
  rw [if_neg (by simp; omega), if_pos (by decide)]

theorem unpack_packComponents_normal {b : Nat} {hpos : 0 < m} (hlow : 2 ^ 52 ≤ m)
    (hhigh : m < 2 ^ 53) (hb : 0 < b) (hb' : b < 2047) :
    UnpackedFloat.unpack Format.binary64
      (packComponents Format.binary64 .positive (BitVec.ofNat 11 b) (BitVec.ofNat 52 m)) =
        .finite .positive m ((b : Int) - 1075) hpos := by
  have hexponent : (BitVec.ofNat 11 b).toNat = b := by
    rw [BitVec.toNat_ofNat, Nat.mod_eq_of_lt (by omega)]
  have hnotOnes : BitVec.ofNat 11 b ≠ -1#11 := by
    rw [← BitVec.toNat_ne_iff_ne, hexponent]
    exact Nat.ne_of_lt hb'
  have hnotZero : BitVec.ofNat 11 b ≠ 0#11 := by
    rw [← BitVec.toNat_ne_iff_ne, hexponent]
    exact Nat.ne_of_gt hb
  have hmantissa : (1#1 ++ BitVec.ofNat 52 m).toNat = m := by
    rw [BitVec.toNat_append, BitVec.toNat_ofNat, ← Nat.shiftLeft_add_eq_or_of_lt (by omega),
      Nat.shiftLeft_eq]
    change 1 * 2 ^ 52 + m % 2 ^ 52 = m
    omega
  simp only [UnpackedFloat.unpack, unpackExponent_packComponents, unpackMantissa_packComponents,
    unpackSign_packComponents]
  rw [if_neg hnotOnes, if_neg hnotZero]
  simp only [hmantissa, hexponent]
  congr 1

/-- A number with 53 bits and an exponent in the range of the doubles is kept by its bits. -/
theorem unpack_pack {hpos : 0 < m} (hlow : 2 ^ 52 ≤ m) (hhigh : m < 2 ^ 53) (he : -1074 ≤ e)
    (he' : e ≤ 971) :
    (Float.Model.pack (.finite .positive m e hpos)).unpack = .finite .positive m e hpos := by
  obtain ⟨b, rfl⟩ : ∃ b : Nat, e = (b : Int) - 1075 := ⟨(e + 1075).toNat, by omega⟩
  have hb : 0 < b := by omega
  have hb' : b < 2047 := by omega
  change UnpackedFloat.unpack Format.binary64
    (UnpackedFloat.pack Format.binary64 (.finite .positive m ((b : Int) - 1075) hpos)) = _
  rw [pack_normal hlow hhigh hb hb']
  exact unpack_packComponents_normal hlow hhigh hb hb'

/-- A double is finite unless all bits of its exponent are set. -/
theorem isFinite_iff (x : Float) :
    isFinite x = true ↔ @unpackExponent Format.binary64 x.toBits.toBitVec ≠ -1#11 := by
  have hfield : (@unpackExponent Format.binary64 x.toBits.toBitVec).toNat =
      x.toBits.toNat / Nat.pow 2 52 % Nat.pow 2 11 := by
    simp [unpackExponent, BitVec.extractLsb_toNat, Nat.shiftRight_eq_div_pow]
  have hones : @unpackExponent Format.binary64 x.toBits.toBitVec = -1#11 ↔
      x.toBits.toNat / Nat.pow 2 52 % Nat.pow 2 11 = 2047 := by
    rw [← BitVec.toNat_inj, hfield]
    rfl
  rw [Ne, hones, isFinite, Reading.of, Reading.ofBits]
  by_cases h : x.toBits.toNat / Nat.pow 2 52 % Nat.pow 2 11 = 2047
  · by_cases h0 : x.toBits.toNat % Nat.pow 2 52 = 0 <;> simp [h, h0]
  · by_cases h0 : x.toBits.toNat / Nat.pow 2 52 % Nat.pow 2 11 = 0 <;> simp [h, h0]

/-! ## Positive doubles -/

/-- Mantissa and exponent of a positive double. -/
def positiveParts? (x : Float) : Option (Nat × Int) :=
  match x.toModel.unpack with
  | .finite .positive m e _ => some (m, e)
  | _ => none

theorem isFinite_of_parts {x : Float} {p : Nat × Int} (h : positiveParts? x = some p) :
    isFinite x = true := by
  refine (isFinite_iff x).mpr fun hones => ?_
  have hunpack : x.toModel.unpack = .notANumber ∨ ∃ s, x.toModel.unpack = .infinity s := by
    change UnpackedFloat.unpack Format.binary64 x.toBits.toBitVec = _ ∨ ∃ s,
      UnpackedFloat.unpack Format.binary64 x.toBits.toBitVec = _
    rw [UnpackedFloat.unpack]
    dsimp only
    rw [if_pos hones]
    split
    · exact .inr ⟨_, rfl⟩
    · exact .inl rfl
  rcases hunpack with hunpack | ⟨s, hunpack⟩ <;> simp [positiveParts?, hunpack] at h

/-- A positive double that uses all the bits a mantissa may have. -/
structure Normal (x : Float) (m : Nat) (e : Int) : Prop where
  low : 2 ^ 52 ≤ m
  high : m < 2 ^ 53
  parts : positiveParts? x = some (m, e)

theorem Normal.unpack {x : Float} (h : Normal x m e) :
    ∃ hpos, x.toModel.unpack = .finite .positive m e hpos := by
  have hparts := h.parts
  rw [positiveParts?] at hparts
  split at hparts
  · next hpos hx =>
    obtain ⟨rfl, rfl⟩ := Prod.mk.inj (Option.some.inj hparts)
    exact ⟨hpos, hx⟩
  · cases hparts

theorem Normal.log2_eq {m : Nat} {e : Int} (h : Normal x m e) : m.log2 = 52 :=
  (Nat.log2_eq_iff (Nat.ne_of_gt (Nat.lt_of_lt_of_le (by decide) h.low))).mpr ⟨h.low, h.high⟩

/-- The double that `m · 2 ^ e` is rounded to, or a number that goes on after the bits of `m`. -/
def rounded (a : Accuracy) (m : Nat) (e : Int) : Float :=
  .ofModel (.pack (roundWithAccuracy Format.binary64 .positive m e a))

/-- The least number that is rounded to infinity. -/
@[irreducible] def overflow : Nat := (2 ^ 54 - 1) * 2 ^ 970

theorem natCast_mul_two_pow {a : Nat} {q : ℚ} (h : (a : ℚ) = q) (k : Nat) :
    ((a * 2 ^ k : Nat) : ℚ) = q * 2 ^ (k : Int) := by
  rw [zpow_natCast, ← h]
  push_cast
  rfl

theorem overflow_eq : (overflow : ℚ) = (2 ^ 54 - 1) * 2 ^ (970 : Int) := by
  unfold overflow
  exact natCast_mul_two_pow (by norm_num) 970

/-- Below `overflow` the exponent stays in its range, also if the mantissa becomes too long. -/
theorem fits_of_lt_overflow (hm : m.log2 = 52 + k) (h : (m : ℚ) * 2 ^ e < overflow) :
    e + k ≤ 970 ∨ e + k = 971 ∧ shifted .exact m k < 2 ^ 53 := by
  have hlow : (2 : ℚ) ^ (52 + k) ≤ m := by
    exact_mod_cast ((Nat.log2_eq_iff (ne_zero_of_log2_eq hm)).mp hm).1
  have hpos : (0 : ℚ) < 2 ^ e := zpow_pos (by norm_num) e
  have hexponent : e + k ≤ 971 := by
    have hlt : (2 : ℚ) ^ (((52 + k : Nat) : Int) + e) < 2 ^ (1024 : Int) := by
      rw [zpow_add₀ (by norm_num), zpow_natCast]
      calc (2 : ℚ) ^ (52 + k) * 2 ^ e ≤ m * 2 ^ e := by gcongr
        _ < overflow := h
        _ = (2 ^ 54 - 1) * 2 ^ (970 : Int) := overflow_eq
        _ < 2 ^ (54 : Int) * 2 ^ (970 : Int) := by gcongr; norm_num
        _ = 2 ^ (1024 : Int) := by rw [← zpow_add₀ (by norm_num)]; rfl
    have := (zpow_lt_zpow_iff_right₀ (by norm_num : (1 : ℚ) < 2)).mp hlt
    omega
  rcases Int.lt_or_eq_of_le hexponent with hlt | heq
  · exact .inl (by omega)
  · refine .inr ⟨heq, Nat.lt_of_not_le fun hcarry => absurd h (not_lt.mpr ?_)⟩
    have hround : (2 : ℚ) ^ (k + 1) * 2 ^ 53 ≤ 2 * m + 2 ^ k := by
      exact_mod_cast Nat.le_trans (Nat.mul_le_mul_left _ hcarry) (shifted_mul_le m k)
    have hscale : (2 : ℚ) ^ k * 2 ^ e = 2 * 2 ^ (970 : Int) := by
      rw [← zpow_natCast, ← zpow_add₀ (by norm_num), Int.add_comm, heq,
        ← zpow_one_add₀ (by norm_num)]
      rfl
    have hvalue : (2 : ℚ) ^ (k + 1) * 2 ^ 53 * 2 ^ e ≤ (2 * m + 2 ^ k) * 2 ^ e := by gcongr
    have hleft : (2 : ℚ) ^ (k + 1) * 2 ^ 53 * 2 ^ e = 2 ^ 54 * (2 ^ k * 2 ^ e) := by ring
    have hright : (2 * (m : ℚ) + 2 ^ k) * 2 ^ e = 2 * (m * 2 ^ e) + 2 ^ k * 2 ^ e := by ring
    rw [hleft, hright, hscale] at hvalue
    rw [overflow_eq]
    generalize (2 : ℚ) ^ (970 : Int) = unit at hvalue ⊢
    linarith

theorem exists_normal_of_fits (hm : m.log2 = 52 + k) (he : -1074 ≤ e + k)
    (hfits : e + k ≤ 970 ∨ e + k = 971 ∧ shifted a m k < 2 ^ 53) :
    ∃ m' e', Normal (rounded a m e) m' e' ∧ e + k ≤ e'
      ∧ (m' : ℚ) * 2 ^ e' = shifted a m k * 2 ^ (e + k) := by
  obtain ⟨hlow, hhigh⟩ := shifted_bounds (a := a) hm
  by_cases hlt : shifted a m k < 2 ^ 53
  · obtain ⟨hpos, hround⟩ := round_of_lt (s := .positive) hm he hlt
    refine ⟨shifted a m k, e + k, ⟨hlow, hlt, ?_⟩, Int.le_refl _, rfl⟩
    rw [rounded, hround, positiveParts?, unpack_pack hlow hlt he (by omega)]
  · obtain ⟨hpos, hround⟩ := round_of_not_lt (s := .positive) hm he hlt
    have hcarry : shifted a m k = 2 ^ 53 := Nat.le_antisymm hhigh (Nat.le_of_not_lt hlt)
    refine ⟨2 ^ 52, e + k + 1, ⟨Nat.le_refl _, by decide, ?_⟩, by omega, ?_⟩
    · rw [rounded, hround, positiveParts?,
        unpack_pack (Nat.le_refl _) (by decide) (by omega) (by omega)]
    · rw [hcarry, zpow_add_one₀ (by norm_num)]
      push_cast
      ring

theorem exists_normal_rounded (hm : m.log2 = 52 + k) (he : -1074 ≤ e + k)
    (h : (m : ℚ) * 2 ^ e < overflow) :
    ∃ m' e', Normal (rounded .exact m e) m' e' ∧ e + k ≤ e'
      ∧ (m' : ℚ) * 2 ^ e' = shifted .exact m k * 2 ^ (e + k) :=
  exists_normal_of_fits hm he (fits_of_lt_overflow hm h)

/-! ## Products -/

variable {x y : Float} {m₁ m₂ : Nat} {e₁ e₂ : Int}

theorem mul_eq_pack (x y : Float) :
    x * y = .ofModel (.pack
      (UnpackedFloat.mul Format.binary64 x.toModel.unpack y.toModel.unpack)) := rfl

theorem Normal.mul_eq (hx : Normal x m₁ e₁) (hy : Normal y m₂ e₂) :
    x * y = rounded .exact (m₁ * m₂) (e₁ + e₂) := by
  obtain ⟨_, hx⟩ := hx.unpack
  obtain ⟨_, hy⟩ := hy.unpack
  rw [mul_eq_pack, hx, hy]
  rfl

theorem Normal.le_log2_mul (hx : Normal x m₁ e₁) (hy : Normal y m₂ e₂) : 104 ≤ (m₁ * m₂).log2 := by
  have hlow := Nat.mul_le_mul hx.low hy.low
  rw [← Nat.pow_add] at hlow
  exact (Nat.le_log2 (Nat.ne_of_gt (Nat.lt_of_lt_of_le (by decide) hlow))).mpr hlow

theorem product_value (m₁ m₂ : Nat) (e₁ e₂ : Int) :
    ((m₁ * m₂ : Nat) : ℚ) * 2 ^ (e₁ + e₂) = m₁ * 2 ^ e₁ * (m₂ * 2 ^ e₂) := by
  rw [zpow_add₀ (by norm_num)]
  push_cast
  ring

/-- The product of two doubles is rounded to a double, unless the exact product is too large. -/
theorem Normal.exists_mul (hx : Normal x m₁ e₁) (hy : Normal y m₂ e₂)
    (hm : (m₁ * m₂).log2 = 52 + k) (he : -1074 ≤ e₁ + e₂ + k)
    (h : (m₁ * 2 ^ e₁ : ℚ) * (m₂ * 2 ^ e₂) < overflow) :
    ∃ m e, Normal (x * y) m e ∧ e₁ + e₂ + k ≤ e
      ∧ (m : ℚ) * 2 ^ e = shifted .exact (m₁ * m₂) k * 2 ^ (e₁ + e₂ + k) := by
  rw [hx.mul_eq hy]
  exact exists_normal_rounded hm he (product_value m₁ m₂ e₁ e₂ ▸ h)

theorem Normal.isFinite_mul (hx : Normal x m₁ e₁) (hy : Normal y m₂ e₂) (he : -1126 ≤ e₁ + e₂)
    (h : (m₁ * 2 ^ e₁ : ℚ) * (m₂ * 2 ^ e₂) < overflow) :
    isFinite (x * y) = true := by
  have hlog := hx.le_log2_mul hy
  obtain ⟨k, hk⟩ := Nat.exists_eq_add_of_le (Nat.le_trans (by decide : 52 ≤ 104) hlog)
  obtain ⟨m, e, hnormal, -⟩ := hx.exists_mul hy hk (by omega) h
  exact isFinite_of_parts hnormal.parts

theorem Normal.isFinite_zero_mul (hx : x.toModel.unpack = .zero .positive) (hy : Normal y m e) :
    isFinite (x * y) = true := by
  obtain ⟨_, hy⟩ := hy.unpack
  have hmul : x * y = .ofModel (.pack (.zero .positive)) := by
    rw [mul_eq_pack, hx, hy]
    rfl
  rw [hmul]
  rfl

/-! ## Quotients -/

theorem div_eq_pack (x y : Float) :
    x / y = .ofModel (.pack
      (UnpackedFloat.div Format.binary64 x.toModel.unpack y.toModel.unpack)) := rfl

/-- A quotient is taken to 53 bits or one more and goes on with what is left of the division. -/
theorem Normal.div_eq (hx : Normal x m₁ e₁) (hy : Normal y m₂ e₂) (he : -1021 ≤ e₁ - e₂) :
    x / y = rounded (accuracyOfFraction (m₁ * 2 ^ 53 % m₂) m₂) (m₁ * 2 ^ 53 / m₂)
      (e₁ - e₂ - 53) := by
  obtain ⟨_, hx'⟩ := hx.unpack
  obtain ⟨_, hy'⟩ := hy.unpack
  have htarget : Format.binary64.targetExponent (totalExponent m₁ e₁ - totalExponent m₂ e₂) =
      e₁ - e₂ - 53 := by
    simp only [Format.targetExponent, totalExponent, Format.mantissaBits, Format.minExponent,
      hx.log2_eq, hy.log2_eq]
    norm_num
    omega
  have hmin : min (e₁ - e₂) (e₁ - e₂ - 53) = e₁ - e₂ - 53 := by omega
  have hamount : (e₁ - e₂ - (e₁ - e₂ - 53)).toNat = 53 := by omega
  have hcore : divCore Format.binary64 m₁ e₁ m₂ e₂ = (m₁ * 2 ^ 53 / m₂, e₁ - e₂ - 53,
      accuracyOfFraction (m₁ * 2 ^ 53 % m₂) m₂) := by
    simp only [divCore, htarget, hmin, hamount, Nat.shiftLeft_eq]
  rw [div_eq_pack, hx', hy', rounded, UnpackedFloat.div, hcore]
  rfl

theorem Normal.le_quotient (hx : Normal x m₁ e₁) (hy : Normal y m₂ e₂) :
    2 ^ 52 ≤ m₁ * 2 ^ 53 / m₂ := by
  have hx₁ := hx.low
  have hy₁ := hy.high
  rw [Nat.le_div_iff_mul_le (Nat.lt_of_lt_of_le (by decide) hy.low)]
  nlinarith

theorem Normal.exists_div (hx : Normal x m₁ e₁) (hy : Normal y m₂ e₂) (he : -1021 ≤ e₁ - e₂)
    (he' : e₁ - e₂ ≤ 970) :
    ∃ m e, Normal (x / y) m e ∧ e₁ - e₂ - 53 ≤ e
      ∧ (m : ℚ) * 2 ^ e ≤ 2 ^ (e₁ - e₂ + 1) := by
  have hlow := hx.le_quotient hy
  have hhigh : m₁ * 2 ^ 53 / m₂ < 2 ^ 54 := by
    have hx₂ := hx.high
    have hy₂ := hy.low
    rw [Nat.div_lt_iff_lt_mul (Nat.lt_of_lt_of_le (by decide) hy.low)]
    nlinarith
  rw [hx.div_eq hy he]
  generalize m₁ * 2 ^ 53 / m₂ = q at hlow hhigh
  generalize accuracyOfFraction _ _ = a
  obtain ⟨k, hk, hlog⟩ : ∃ k ≤ 1, q.log2 = 52 + k := by
    have hge : 52 ≤ q.log2 := (Nat.le_log2 (by omega)).mpr hlow
    have hlt : q.log2 < 54 := (Nat.log2_lt (by omega)).mpr hhigh
    exact ⟨q.log2 - 52, by omega, by omega⟩
  obtain ⟨m, e, hnormal, hle, hvalue⟩ := exists_normal_of_fits (a := a) (e := e₁ - e₂ - 53) hlog
    (by omega) (.inl (by omega))
  refine ⟨m, e, hnormal, by omega, ?_⟩
  have hcarry : (shifted a q k : ℚ) ≤ 2 ^ (53 : Int) := by
    exact_mod_cast (shifted_bounds (a := a) hlog).2
  calc (m : ℚ) * 2 ^ e = shifted a q k * 2 ^ (e₁ - e₂ - 53 + k) := hvalue
    _ ≤ 2 ^ (53 : Int) * 2 ^ (e₁ - e₂ - 53 + 1) := by
      gcongr
      · norm_num
      · omega
    _ = 2 ^ (e₁ - e₂ + 1) := by
      rw [← zpow_add₀ (by norm_num)]
      congr 1
      omega

end Rollout.Decimal
