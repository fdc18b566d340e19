import Mathlib.Algebra.Order.Field.Power
import Mathlib.Algebra.Order.Field.Rat
import Mathlib.Data.Nat.Cast.Order.Field
import Mathlib.Tactic.FieldSimp
import Mathlib.Tactic.Linarith
import Mathlib.Tactic.NormNum
import Mathlib.Tactic.Positivity
import Mathlib.Tactic.Ring
import Rollout.Decimal.Shortest
import Rollout.Proofs.Decimal.Naturals

/-!
# Bounds on shortest decimals

The search for the shortest decimal of a double stays within the interval of the double: whatever
it ends with is at most the upper end, has no more than 18 digits, and is a number unless its power
of ten is negative (`Interval.Approximates`, `approximates_shortest`). The upper ends of all doubles
but the largest keep to the limit below which scaling is finite (`shortest_mul_le`); what the search
gives for the largest one is computed (`shortest_largest`).
-/

namespace Rollout.Decimal

/-- The number that a decimal stands for. -/
def Expansion.value (d : Expansion) : ℚ := d.digits * 10 ^ d.exponent

/-! ## Fractions -/

theorem scaled_snd_pos {num den : Nat} (h : 0 < den) (e : Int) : 0 < (scaled num den e).2 := by
  cases e with
  | ofNat e => exact Nat.mul_pos h (Nat.pow_pos (by decide))
  | negSucc e => exact h

theorem scaled_snd (num num' den : Nat) (e : Int) :
    (scaled num den e).2 = (scaled num' den e).2 := by
  cases e <;> rfl

/-- Scaling moves the point. -/
theorem scaled_value (num : Nat) {den : Nat} (h : 0 < den) (e : Int) :
    ((scaled num den e).1 : ℚ) / (scaled num den e).2 * 10 ^ e = num / den := by
  have hden : (den : ℚ) ≠ 0 := by positivity
  cases e with
  | ofNat e =>
      have hpow : (10 : ℚ) ^ e ≠ 0 := by positivity
      simp only [scaled, Nat.pow_eq, Int.ofNat_eq_natCast, zpow_natCast]
      push_cast
      field_simp
  | negSucc e =>
      have hpow : (10 : ℚ) ^ (e + 1) ≠ 0 := by positivity
      simp only [scaled, Nat.pow_eq, zpow_negSucc]
      push_cast
      field_simp

theorem mul_zpow_le_of_le_scaled {num den d : Nat} {e : Int} (h : 0 < den)
    (hd : d * (scaled num den e).2 ≤ (scaled num den e).1) : (d : ℚ) * 10 ^ e ≤ num / den := by
  have hpos : (0 : ℚ) < (scaled num den e).2 := by exact_mod_cast scaled_snd_pos h e
  rw [← scaled_value num h e]
  gcongr
  rw [le_div_iff₀ hpos]
  exact_mod_cast hd

theorem div_scaled_lt {num den j : Nat} {e k : Int} (h : 0 < den) (hlt : (num : ℚ) / den < 10 ^ k)
    (hk : k ≤ e + j) : (scaled num den e).1 / (scaled num den e).2 < 10 ^ j := by
  have hpos : (0 : ℚ) < (scaled num den e).2 := by exact_mod_cast scaled_snd_pos h e
  have hpow : (0 : ℚ) < 10 ^ e := by positivity
  rw [Nat.div_lt_iff_lt_mul (scaled_snd_pos h e)]
  have hvalue : ((scaled num den e).1 : ℚ) / (scaled num den e).2 < 10 ^ j := by
    refine lt_of_mul_lt_mul_right ?_ hpow.le
    rw [scaled_value num h e]
    refine lt_of_lt_of_le hlt ?_
    rw [← zpow_natCast, ← zpow_add₀ (by norm_num)]
    exact zpow_le_zpow_right₀ (by norm_num) (by omega)
  rw [div_lt_iff₀ hpos] at hvalue
  exact_mod_cast hvalue

theorem div_scaled_pos {num den : Nat} {e : Int} (h : 0 < den) (hle : (10 : ℚ) ^ e ≤ num / den) :
    0 < (scaled num den e).1 / (scaled num den e).2 := by
  have hpos : (0 : ℚ) < (scaled num den e).2 := by exact_mod_cast scaled_snd_pos h e
  have hpow : (0 : ℚ) < 10 ^ e := by positivity
  refine Nat.div_pos ?_ (scaled_snd_pos h e)
  rw [← scaled_value num h e, le_mul_iff_one_le_left hpow, one_le_div₀ hpos] at hle
  exact_mod_cast hle

/-! ## The leading digit -/

theorem mul_pow_lt_of_lt_leadingZeros {num den : Nat} :
    ∀ {fuel j : Nat}, j < leadingZeros num den fuel → num * 10 ^ j < den
  | 0, j, h => absurd h (Nat.not_lt_zero j)
  | fuel + 1, j, h => by
      rw [leadingZeros] at h
      split at h
      · cases h
      · next hlt =>
        cases j with
        | zero => simpa using hlt
        | succ j =>
            have ih := mul_pow_lt_of_lt_leadingZeros (Nat.lt_of_succ_lt_succ h)
            rwa [Nat.mul_assoc, ← Nat.pow_succ'] at ih

theorem lt_pow_decade {num den : Nat} (h : 0 < den) :
    (num : ℚ) / den < 10 ^ decade num den := by
  have hpos : (0 : ℚ) < den := by exact_mod_cast h
  rw [decade, div_lt_iff₀ hpos]
  split
  · rw [zpow_natCast]
    have hlt := (Nat.div_lt_iff_lt_mul h).mp (Text.lt_pow_length_numeral (num / den))
    exact_mod_cast hlt
  · next hsmall =>
    obtain ⟨z, hz⟩ : ∃ z, leadingZeros num den 400 = z + 1 := by
      rw [leadingZeros, if_neg hsmall]
      exact ⟨_, rfl⟩
    have hlast : z < leadingZeros num den 400 := by omega
    have hlt : num * 10 ^ z < den := mul_pow_lt_of_lt_leadingZeros hlast
    have hexponent : 1 - (leadingZeros num den 400 : Int) = -(z : Int) := by omega
    have hpow : (0 : ℚ) < 10 ^ z := by positivity
    rw [hexponent, zpow_neg, zpow_natCast, ← div_eq_inv_mul, lt_div_iff₀ hpow]
    exact_mod_cast hlt

/-- A positive exponent is that of the leading digit. -/
theorem pow_decade_le {num den : Nat} (h : 0 < den) (hk : 0 < decade num den) :
    (10 : ℚ) ^ (decade num den - 1) ≤ num / den := by
  have hpos : (0 : ℚ) < den := by exact_mod_cast h
  rw [decade] at hk ⊢
  split at hk
  · next hlarge =>
    have hfloor : 0 < num / den := Nat.div_pos hlarge h
    have hle := Text.pow_length_numeral_le hfloor
    have hexponent : ((Text.numeral (num / den)).length : Int) - 1 =
        (((Text.numeral (num / den)).length - 1 : Nat) : Int) := by omega
    rw [if_pos hlarge, hexponent, zpow_natCast]
    calc (10 : ℚ) ^ ((Text.numeral (num / den)).length - 1) ≤ (num / den : Nat) := by
          exact_mod_cast hle
      _ ≤ num / den := Nat.cast_div_le
  · next hsmall =>
    rw [leadingZeros, if_neg hsmall] at hk
    omega

/-! ## Hits -/

namespace Interval

/-- What holds of the interval of a positive double. -/
structure Sound (i : Interval) : Prop where
  denominator_pos : 0 < i.denominator
  low_pos : 0 < i.low
  value_le : i.value ≤ i.high

variable {i : Interval} {tie : Tie} {d : Nat} {e : Int}

theorem contains_le (h : i.contains d e = true) :
    (scaled i.low i.denominator e).1 ≤ d * (scaled i.low i.denominator e).2
      ∧ d * (scaled i.high i.denominator e).2 ≤ (scaled i.high i.denominator e).1 := by
  rw [contains] at h
  rw [scaled_snd i.high i.low]
  dsimp only at h
  split at h <;> simp only [Bool.and_eq_true, decide_eq_true_eq] at h <;> omega

theorem Sound.value_le_of_contains (hi : i.Sound) (h : i.contains d e = true) :
    (d : ℚ) * 10 ^ e ≤ i.high / i.denominator :=
  mul_zpow_le_of_le_scaled hi.denominator_pos (contains_le h).2

theorem Sound.pos_of_contains (hi : i.Sound) (h : i.contains d e = true) : 0 < d := by
  have hlow : 0 < (scaled i.low i.denominator e).1 := by
    cases e with
    | ofNat e => exact hi.low_pos
    | negSucc e => exact Nat.mul_pos hi.low_pos (Nat.pow_pos (by decide))
  refine Nat.pos_of_ne_zero fun hzero => ?_
  have hle := (contains_le h).1
  rw [hzero, Nat.zero_mul] at hle
  omega

theorem gridPoint?_eq_some (h : i.gridPoint? tie e = some d) :
    i.contains d e = true
      ∧ d ≤ (scaled i.value i.denominator e).1 / (scaled i.value i.denominator e).2 + 1 := by
  rw [gridPoint?] at h
  dsimp only at h
  repeat' split at h
  all_goals grind

/-- What a decimal for an interval keeps to. -/
structure Approximates (i : Interval) (d : Expansion) : Prop where
  value_le : d.value ≤ i.high / i.denominator
  digits_le : d.digits ≤ 10 ^ 18
  pos : 0 ≤ d.exponent → 0 < d.digits

theorem approximates_search (hi : i.Sound) :
    ∀ {fuel : Nat} {e : Int}, e ≤ decade i.value i.denominator - 1 →
      decade i.value i.denominator ≤ e - fuel + 18 → i.Approximates (i.search tie e fuel)
  | 0, e, htop, hbottom => by
      have hden := hi.denominator_pos
      have hpos : (0 : ℚ) < i.denominator := by exact_mod_cast hden
      refine ⟨?_, ?_, fun he => ?_⟩
      · calc (i.search tie e 0).value ≤ i.value / i.denominator :=
              mul_zpow_le_of_le_scaled hden (Nat.div_mul_le_self _ _)
          _ ≤ i.high / i.denominator := by
              gcongr
              exact_mod_cast hi.value_le
      · exact Nat.le_of_lt (div_scaled_lt hden (lt_pow_decade hden) (by omega))
      · change 0 ≤ e at he
        refine div_scaled_pos hden (le_trans ?_ (pow_decade_le hden (by omega)))
        exact zpow_le_zpow_right₀ (by norm_num) htop
  | fuel + 1, e, htop, hbottom => by
      rw [search]
      split
      · next d hd =>
        obtain ⟨hcontains, hd⟩ := gridPoint?_eq_some hd
        have hden := hi.denominator_pos
        refine ⟨hi.value_le_of_contains hcontains, ?_, fun _ => hi.pos_of_contains hcontains⟩
        have hlt : (scaled i.value i.denominator e).1 / (scaled i.value i.denominator e).2 <
            10 ^ 17 := div_scaled_lt hden (lt_pow_decade hden) (by omega)
        change d ≤ 10 ^ 18
        omega
      · exact approximates_search hi (by omega) (by omega)

theorem Approximates.normal :
    ∀ {fuel : Nat} {d : Expansion}, i.Approximates d → i.Approximates (d.normal fuel)
  | 0, _, h => h
  | fuel + 1, d, h => by
      rw [Expansion.normal]
      split
      · next hd =>
        obtain ⟨hne, hmod⟩ := hd
        obtain ⟨q, hq⟩ : ∃ q, d.digits = 10 * q := ⟨d.digits / 10, by omega⟩
        have hdiv : d.digits / 10 = q := by omega
        have hvalue : (⟨d.digits / 10, d.exponent + 1⟩ : Expansion).value = d.value := by
          rw [Expansion.value, Expansion.value, hdiv, hq, zpow_add_one₀ (by norm_num)]
          push_cast
          ring
        have hdigits := h.digits_le
        exact Approximates.normal
          ⟨hvalue ▸ h.value_le, by simp only; omega, fun _ => by simp only; omega⟩
      · exact h

end Interval

/-! ## Shortest decimals of a double -/

variable {b : Binary64}

theorem sound_interval (h : 0 < b.mantissa) : b.interval.Sound := by
  rw [Binary64.interval]
  dsimp only
  have hgap : (if b.mantissa = Nat.pow 2 52 ∧ -1074 < b.exponent then 1 else 2) ≤ 2 := by
    split <;> decide
  generalize (if b.mantissa = Nat.pow 2 52 ∧ -1074 < b.exponent then 1 else 2) = gap at hgap ⊢
  split
  · next e he =>
    have hscale : 0 < Nat.pow 2 e := Nat.pow_pos (by decide)
    exact ⟨Nat.one_pos, Nat.mul_pos (by omega) hscale, Nat.mul_le_mul_right _ (by omega)⟩
  · exact ⟨Nat.pow_pos (by decide), by simp only; omega, by simp only; omega⟩

theorem interval_high : (b.interval.high : ℚ) / b.interval.denominator =
    (4 * b.mantissa + 2) * 2 ^ (b.exponent - 2) := by
  rw [Binary64.interval]
  dsimp only
  split
  · next e he =>
    simp only [he, Nat.pow_eq, Int.ofNat_eq_natCast, zpow_natCast]
    push_cast
    ring
  · next e he =>
    simp only [he, Nat.pow_eq, zpow_negSucc]
    push_cast
    rfl

theorem approximates_shortest (h : 0 < b.mantissa) (tie : Tie) :
    b.interval.Approximates (b.shortest tie) := by
  rw [Binary64.shortest]
  exact (Interval.approximates_search (sound_interval h) (by omega) (by omega)).normal

/-- The bound on the decimals of all doubles but the largest. -/
theorem interval_high_le (hm : b.mantissa < 2 ^ 53) (he : b.exponent ≤ 971)
    (hlargest : ¬(b.mantissa = 2 ^ 53 - 1 ∧ b.exponent = 971)) :
    (b.interval.high : ℚ) / b.interval.denominator ≤ scaleLimit := by
  rw [interval_high, scaleLimit_eq]
  rcases Int.lt_or_eq_of_le he with hlt | heq
  · have hmantissa : (4 * b.mantissa + 2 : ℚ) ≤ 2 ^ 55 := by exact_mod_cast (by omega)
    calc (4 * b.mantissa + 2 : ℚ) * 2 ^ (b.exponent - 2) ≤ 2 ^ 55 * 2 ^ (968 : Int) := by
          gcongr
          · norm_num
          · omega
      _ = 2 ^ 53 * 2 ^ (970 : Int) := by
          rw [show (970 : Int) = 2 + 968 from rfl, zpow_add₀ (by norm_num)]
          ring
      _ ≤ (2 ^ 54 - 3) * 2 ^ (970 : Int) := by
          gcongr
          norm_num
  · have hmantissa : (4 * b.mantissa + 2 : ℚ) + 6 ≤ 2 ^ 55 := by exact_mod_cast (by omega)
    have hexponent : b.exponent - 2 = 969 := by omega
    calc (4 * b.mantissa + 2 : ℚ) * 2 ^ (b.exponent - 2)
        ≤ 2 * (2 ^ 54 - 3) * 2 ^ (969 : Int) := by
          rw [hexponent]
          gcongr
          linarith
      _ = (2 ^ 54 - 3) * 2 ^ (970 : Int) := by
          rw [show (970 : Int) = 1 + 969 from rfl, zpow_add₀ (by norm_num), zpow_one]
          ring

/-- A decimal with a power of ten that is not negative is a number, and that keeps to the limit up
to which such products are finite. -/
theorem shortest_mul_le (hpos : 0 < b.mantissa) (hm : b.mantissa < 2 ^ 53) (he : b.exponent ≤ 971)
    (hlargest : ¬(b.mantissa = 2 ^ 53 - 1 ∧ b.exponent = 971)) {tie : Tie} {e : Nat}
    (hexponent : (b.shortest tie).exponent = e) :
    (b.shortest tie).digits * 10 ^ e ≤ scaleLimit := by
  have hvalue :=
    le_trans (approximates_shortest hpos tie).value_le (interval_high_le hm he hlargest)
  rw [Expansion.value, hexponent, zpow_natCast] at hvalue
  exact_mod_cast hvalue

theorem shortest_largest (negative : Bool) :
    (⟨negative, 2 ^ 53 - 1, 971⟩ : Binary64).shortest .toEven = ⟨17976931348623157, 292⟩ := by
  revert negative
  decide +kernel

theorem exists_reading_of_finite {x : Float} (h : isFinite x = true) :
    ∃ b, Reading.of x = .finite b := by
  rw [isFinite] at h
  split at h
  · next b hb => exact ⟨b, hb⟩
  · cases h

theorem Reading.bounds_of_finite {x : Float} (h : Reading.of x = .finite b) :
    b.mantissa < 2 ^ 53 ∧ -1074 ≤ b.exponent ∧ b.exponent ≤ 971 := by
  have hfraction : x.toBits.toNat % Nat.pow 2 52 < 2 ^ 52 := Nat.mod_lt _ (by decide)
  have hfield : x.toBits.toNat / Nat.pow 2 52 % Nat.pow 2 11 < 2 ^ 11 := Nat.mod_lt _ (by decide)
  rw [Reading.of, Reading.ofBits] at h
  generalize x.toBits.toNat % Nat.pow 2 52 = fraction at h hfraction
  generalize x.toBits.toNat / Nat.pow 2 52 % Nat.pow 2 11 = field at h hfield
  simp only [beq_iff_eq, Nat.pow_eq] at h
  repeat' split at h
  all_goals cases h <;> dsimp only <;> omega

end Rollout.Decimal
