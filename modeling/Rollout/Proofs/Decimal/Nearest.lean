import Rollout.Proofs.Decimal.Places

/-!
# The nearest double

A number is rounded to the double nearest to it, and of two equally near ones to the even one
(`Nearest`); there is one such double (`Nearest.unique`), and it is finite exactly below `overflow`
(`Nearest.isFinite_iff`). Rounding finds it: the mantissa that bits are dropped from stands for the
number all the while, together with its two more bits (`StandsFor.shiftRightOne`), so what is left
is off by at most half a unit (`StandsFor.rounded_near`), and a whole unit is what the doubles
of that exponent are apart (`place_of_step`).
-/

open Float.Model Float.Model.UnpackedFloat

namespace Rollout.Decimal

variable {m n k : Nat} {e t : Int} {a : Accuracy} {q r : ℚ} {x y : Float}

/-! ## What a mantissa stands for -/

/-- A mantissa stands for a number between it and the next one; its two more bits tell on which side
of the middle the number is, and whether it is at the start or in the middle itself. -/
structure StandsFor (em : ExtendedMantissa) (r : ℚ) : Prop where
  low : em.mantissa ≤ r
  high : r < em.mantissa + 1
  round : em.roundBit = true ↔ em.mantissa + 1 / 2 ≤ r
  sticky : em.stickyBit = true ↔ r ≠ em.mantissa ∧ r ≠ em.mantissa + 1 / 2

theorem standsFor_exact (m : Nat) : StandsFor (.ofMantissaAndAccuracy m .exact) m where
  low := le_refl _
  high := by simp [ExtendedMantissa.ofMantissaAndAccuracy]
  round := by norm_num [ExtendedMantissa.ofMantissaAndAccuracy]
  sticky := by simp [ExtendedMantissa.ofMantissaAndAccuracy]

/-- A quotient stands for the fraction together with what is left of the division. -/
theorem standsFor_fraction (num : Nat) {den : Nat} (h : 0 < den) :
    StandsFor (.ofMantissaAndAccuracy (num / den) (accuracyOfFraction (num % den) den))
      (num / den) := by
  have hden : (0 : ℚ) < den := by exact_mod_cast h
  have hvalue : (num : ℚ) / den = (num / den : Nat) + (num % den : Nat) / den := by
    rw [div_eq_iff hden.ne', add_mul, div_mul_cancel₀ _ hden.ne']
    exact_mod_cast (Nat.div_add_mod' num den).symm
  have hrest : (num % den : Nat) / (den : ℚ) < 1 :=
    (div_lt_one hden).mpr (by exact_mod_cast Nat.mod_lt num h)
  have hhalf : (1 : ℚ) / 2 ≤ (num % den : Nat) / den ↔ den ≤ 2 * (num % den) := by
    rw [div_le_div_iff₀ (by norm_num) hden, one_mul, mul_comm]
    exact_mod_cast Iff.rfl
  have hmiddle : ((num % den : Nat) : ℚ) / den = 1 / 2 ↔ 2 * (num % den) = den := by
    rw [div_eq_div_iff hden.ne' (by norm_num), one_mul, mul_comm]
    exact_mod_cast Iff.rfl
  have hstart : ((num % den : Nat) : ℚ) / den = 0 ↔ num % den = 0 := by
    rw [div_eq_zero_iff, or_iff_left hden.ne', Nat.cast_eq_zero]
  have hpos : (0 : ℚ) ≤ (num % den : Nat) / den := by positivity
  rw [hvalue]
  generalize ((num % den : Nat) : ℚ) / den = d at *
  generalize num % den = rest at *
  generalize num / den = quotient
  rw [accuracyOfFraction]
  by_cases hzero : rest = 0
  · obtain rfl := hstart.mpr hzero
    rw [if_pos hzero, add_zero]
    exact standsFor_exact quotient
  · rw [if_neg hzero]
    rcases hcompare : compare (2 * rest) den
    · have := Nat.compare_eq_lt.mp hcompare
      constructor <;> simp [ExtendedMantissa.ofMantissaAndAccuracy] <;> grind
    · have := Nat.compare_eq_eq.mp hcompare
      constructor <;> simp [ExtendedMantissa.ofMantissaAndAccuracy] <;> grind
    · have := Nat.compare_eq_gt.mp hcompare
      constructor <;> simp [ExtendedMantissa.ofMantissaAndAccuracy] <;> grind

theorem StandsFor.shiftRightOne {em : ExtendedMantissa} (h : StandsFor em r) :
    StandsFor em.shiftRightOne (r / 2) := by
  obtain ⟨m, round, sticky⟩ := em
  obtain ⟨hlow, hhigh, hround, hsticky⟩ := h
  have hm : (m : ℚ) = 2 * (m / 2 : Nat) + (m % 2 : Nat) := by
    exact_mod_cast (Nat.div_add_mod m 2).symm
  -- the last bit becomes the round bit, and what was known after it is now sticky
  rcases Nat.mod_two_eq_zero_or_one m with hbit | hbit
  all_goals
    rw [hbit] at hm
    constructor <;> simp only [ExtendedMantissa.shiftRightOne, hbit] at * <;> grind

theorem standsFor_shortened (h : StandsFor (.ofMantissaAndAccuracy m a) r) (k : Nat) :
    StandsFor (shortened a m k) (r / 2 ^ k) := by
  induction k with
  | zero =>
      rw [pow_zero, div_one]
      exact h
  | succ k ih =>
      rw [pow_succ, ← div_div]
      exact ih.shiftRightOne

theorem StandsFor.rounded_near {em : ExtendedMantissa} (h : StandsFor em r) :
    |(em.roundedMantissa : ℚ) - r| ≤ 1 / 2
      ∧ (|(em.roundedMantissa : ℚ) - r| = 1 / 2 → em.roundedMantissa % 2 = 0) := by
  obtain ⟨m, round, sticky⟩ := em
  obtain ⟨hlow, hhigh, hround, hsticky⟩ := h
  cases round <;> cases sticky
  all_goals
    simp only [ExtendedMantissa.roundedMantissa, ExtendedMantissa.accuracy,
      Accuracy.roundToNearestEven, Bool.false_eq_true, false_iff, true_iff] at *
  · obtain rfl : r = m := by grind
    norm_num
  · have hbetween : (m : ℚ) < r ∧ r < m + 1 / 2 := by grind
    rw [abs_sub_comm, abs_of_pos (by linarith)]
    exact ⟨by linarith, fun h => by linarith⟩
  · obtain rfl : r = m + 1 / 2 := by grind
    refine ⟨?_, fun _ => by omega⟩
    rcases Nat.mod_two_eq_zero_or_one m with hbit | hbit <;> rw [hbit] <;> push_cast <;>
      norm_num [abs_of_pos, abs_of_neg]
  · have hbetween : (m : ℚ) + 1 / 2 < r := by grind
    push_cast
    rw [abs_of_pos (by linarith)]
    exact ⟨by linarith, fun h => by linarith⟩

/-- Whole numbers are a unit apart, so at most one of them is nearer than half of it. -/
theorem half_le_of_ne {n j : ℤ} (h : |(n : ℚ) - r| ≤ 1 / 2) (hj : j ≠ n) :
    1 / 2 ≤ |(j : ℚ) - r| := by
  have hapart : (1 : ℚ) ≤ |(j : ℚ) - n| := by
    exact_mod_cast Int.one_le_abs (sub_ne_zero.mpr hj)
  have htriangle : |(j : ℚ) - n| ≤ |(j : ℚ) - r| + |(n : ℚ) - r| := by
    rw [abs_sub_comm (n : ℚ) r]
    exact abs_sub_le _ _ _
  linarith

theorem near_le_of_half {n : Nat} (h : |(n : ℚ) - r| ≤ 1 / 2) (j : ℤ) :
    |(n : ℚ) - r| ≤ |(j : ℚ) - r| := by
  by_cases hj : j = n
  · rw [hj, Int.cast_natCast]
  · exact h.trans (half_le_of_ne (n := n) h hj)

theorem nearer_of_half {n : Nat} {j : ℤ} (h : |(n : ℚ) - r| ≤ 1 / 2)
    (heven : |(n : ℚ) - r| = 1 / 2 → n % 2 = 0) (hj : j ≠ n) :
    |(n : ℚ) - r| < |(j : ℚ) - r| ∨ |(n : ℚ) - r| = |(j : ℚ) - r| ∧ n % 2 = 0 ∧ j % 2 = 1 := by
  rcases (near_le_of_half h j).lt_or_eq with hlt | htie
  · exact .inl hlt
  · have hn : |(n : ℚ) - r| = 1 / 2 :=
      le_antisymm h (htie ▸ half_le_of_ne (n := n) h hj)
    -- both are half a unit away, so there is no other whole number between them
    have hnext : |j - n| ≤ 1 := by
      have hbetween : |(j : ℚ) - n| ≤ 1 := by
        calc |(j : ℚ) - n| ≤ |(j : ℚ) - r| + |r - n| := abs_sub_le _ _ _
          _ = 1 := by rw [abs_sub_comm r, ← htie, hn]; norm_num
      exact_mod_cast hbetween
    have hparity := heven hn
    refine .inr ⟨htie, hparity, ?_⟩
    rw [abs_le] at hnext
    omega

/-! ## Nearest doubles -/

/-- The double that a number is rounded to: it has the sign of the number and is nearer to it than
all others are; of two doubles that are equally near it is the even one. -/
structure Nearest (q : ℚ) (x : Float) : Prop where
  sign : (Reading.of x).isNegative = decide (q < 0)
  least : ∃ v, (Reading.of x).place? = some v ∧ ∀ y w, (Reading.of y).place? = some w → w ≠ v →
    |v - q| < |w - q| ∨
      |v - q| = |w - q| ∧ (Reading.of x).isEven = true ∧ (Reading.of y).isEven = false

/-- A number is rounded to one double. -/
theorem Nearest.unique (hx : Nearest q x) (hy : Nearest q y) : x = y := by
  obtain ⟨v, hv, hxleast⟩ := hx.least
  obtain ⟨w, hw, hyleast⟩ := hy.least
  have hplace : w = v := by
    by_contra hne
    rcases hxleast y w hw hne with hlt | ⟨htie, -, hodd⟩ <;>
      rcases hyleast x v hv (Ne.symm hne) with hgt | ⟨htie', heven, -⟩
    · exact lt_asymm hlt hgt
    · exact hlt.ne htie'.symm
    · exact hgt.ne htie.symm
    · cases hodd.symm.trans heven
  exact eq_of_place_eq hv (hplace ▸ hw) (hx.sign.trans hy.sign.symm)

/-! ## Finite doubles -/

/-- Half of what the largest doubles are apart. -/
@[irreducible] def lastHalf : ℚ := 2 ^ (970 : Int)

theorem lastHalf_pos : 0 < lastHalf := by
  unfold lastHalf
  positivity

theorem limit_eq : (2 : ℚ) ^ (1024 : Int) = overflow + lastHalf := by
  have hlimit : (2 : ℚ) ^ (1024 : Int) = 2 ^ (54 : Int) * 2 ^ (970 : Int) :=
    (two_zpow_mul (by decide)).symm
  rw [hlimit, overflow_eq, lastHalf]
  ring

/-- The largest number with 53 bits and the largest exponent of the doubles. -/
theorem largest_eq : ((2 ^ 53 - 1 : Nat) : ℚ) * 2 ^ (971 : Int) = overflow - lastHalf := by
  have hunit : (2 : ℚ) ^ (971 : Int) = 2 ^ (1 : Int) * 2 ^ (970 : Int) :=
    (two_zpow_mul (by decide)).symm
  rw [hunit, overflow_eq, lastHalf]
  generalize (2 : ℚ) ^ (970 : Int) = u
  norm_num
  ring

theorem exists_largest :
    ∃ y, (Reading.of y).place? = some ((overflow : ℚ) - lastHalf) := by
  have hreading : Reading.of (Float.ofBits 0x7FEFFFFFFFFFFFFF) =
      .finite ⟨false, 2 ^ 53 - 1, 971⟩ := by decide +kernel
  exact ⟨_, by rw [place_positive hreading rfl, largest_eq]⟩

theorem exists_infinity : ∃ y, (Reading.of y).place? = some ((overflow : ℚ) + lastHalf)
    ∧ (Reading.of y).isEven = true := by
  have hreading : Reading.of (1.0 / 0.0) = .infinite false := by decide +kernel
  exact ⟨_, by rw [place_infinity hreading, limit_eq], by rw [hreading]; rfl⟩

theorem place_le_largest {b : Binary64} (h : Reading.of x = .finite b) :
    b.value ≤ overflow - lastHalf := by
  obtain ⟨hm, -, he⟩ := Reading.bounds_of_finite h
  calc b.value ≤ b.mantissa * 2 ^ b.exponent := signOf_mul_le _ (by positivity)
    _ ≤ (2 ^ 53 - 1 : Nat) * 2 ^ (971 : Int) := by
      gcongr
      · exact Nat.le_sub_one_of_lt hm
      · norm_num
    _ = overflow - lastHalf := largest_eq

/-- A number is rounded to a finite double if it is nearer to the largest one than to the place
of infinity; in the middle infinity is the even one. -/
theorem Nearest.isFinite_iff (h : Nearest q x) (hq : 0 ≤ q) : isFinite x = true ↔ q < overflow := by
  have hunit := lastHalf_pos
  obtain ⟨v, hv, hleast⟩ := h.least
  constructor
  · intro hfinite
    obtain ⟨b, hb⟩ := exists_reading_of_finite hfinite
    obtain ⟨y, hy, heven⟩ := exists_infinity
    have hle := place_le_largest hb
    obtain rfl : b.value = v := by rwa [hb, Reading.place?, Option.some_inj] at hv
    by_contra hlarge
    have hfar : |overflow + lastHalf - q| ≤ |b.value - q| := by
      rw [abs_sub_comm b.value, abs_of_nonneg (by linarith : 0 ≤ q - b.value), abs_le]
      constructor <;> linarith
    rcases hleast y _ hy (by linarith) with hlt | ⟨-, -, hodd⟩
    · exact hlt.not_ge hfar
    · cases hodd.symm.trans heven
  · intro hsmall
    obtain ⟨y, hy⟩ := exists_largest
    cases hx : Reading.of x with
    | finite b => simp [isFinite, hx]
    | notANumber => simp [hx, Reading.place?] at hv
    | infinite negative =>
        have hsign := h.sign
        rw [hx, decide_eq_false hq.not_gt] at hsign
        obtain rfl : negative = false := hsign
        obtain rfl : overflow + lastHalf = v := by
          rwa [place_infinity hx, limit_eq, Option.some_inj] at hv
        have hfar : |overflow - lastHalf - q| < |overflow + lastHalf - q| := by
          rw [abs_of_pos (by linarith : 0 < overflow + lastHalf - q), abs_lt]
          constructor <;> linarith
        rcases hleast y _ hy (by linarith) with hlt | ⟨htie, -, -⟩
        · exact absurd hfar hlt.not_gt
        · exact absurd hfar htie.not_gt

/-! ## Points of a grid -/

theorem nearest_of_infinite (hsign : (Reading.of x).isNegative = false)
    (h : (Reading.of x).place? = some (2 ^ (1024 : Int))) (hq : 2 ^ (1024 : Int) ≤ q) :
    Nearest q x := by
  have hpos : (0 : ℚ) < 2 ^ (1024 : Int) := by positivity
  refine ⟨?_, _, h, fun y w hw hne => .inl ?_⟩
  · rw [hsign, decide_eq_false (not_lt.mpr (hpos.le.trans hq))]
  · have hlt := lt_of_le_of_ne (place_le hw) hne
    rw [abs_sub_comm, abs_of_nonneg (sub_nonneg.mpr hq), abs_sub_comm,
      abs_of_nonneg (by linarith)]
    linarith

theorem le_of_le_near {i n : Nat} (h : |(n : ℚ) - r| ≤ 1 / 2) (hi : i ≤ r) : i ≤ n := by
  have hlow := (abs_le.mp h).1
  have hlt : (i : ℚ) < n + 1 := by linarith
  exact Nat.le_of_lt_succ (by exact_mod_cast hlt)

/-- On the grid of step `2 ^ t` the nearest point is the nearest double; below the grid the doubles
are further away than its first point. -/
theorem nearest_of_step (hsign : (Reading.of x).isNegative = false)
    (hplace : (Reading.of x).place? = some ((n : ℚ) * 2 ^ t))
    (hparity : n % 2 = 0 → (Reading.of x).isEven = true) (ht : t ≤ 971) (hr : 0 ≤ r)
    (hnormal : 2 ^ 52 ≤ r ∨ t = -1074) (hn : |(n : ℚ) - r| ≤ 1 / 2)
    (heven : |(n : ℚ) - r| = 1 / 2 → n % 2 = 0) : Nearest (r * 2 ^ t) x := by
  have hunit : (0 : ℚ) < 2 ^ t := by positivity
  have hscale (j : ℚ) : |j * 2 ^ t - r * 2 ^ t| = |j - r| * 2 ^ t := by
    rw [← sub_mul, abs_mul, abs_of_pos hunit]
  have hnonneg : 0 ≤ r * 2 ^ t := by positivity
  refine ⟨by rw [hsign, decide_eq_false hnonneg.not_gt], _, hplace, fun y w hw hne => ?_⟩
  rcases place_of_step hw ht with ⟨j, rfl, hodd⟩ | ⟨hlow, hmin⟩
  · have hj : j ≠ n := by
      rintro rfl
      exact hne rfl
    rw [hscale, hscale]
    rcases nearer_of_half hn heven hj with hlt | ⟨htie, hn, hj⟩
    · exact .inl (mul_lt_mul_of_pos_right hlt hunit)
    · exact .inr ⟨htie ▸ rfl, hparity hn, hodd hj⟩
  · have hr : (2 : ℚ) ^ 52 ≤ r := hnormal.resolve_right (by omega)
    have hfirst : |(n : ℚ) - r| ≤ r - 2 ^ 52 := by
      calc |(n : ℚ) - r| ≤ |((2 ^ 52 : ℤ) : ℚ) - r| := near_le_of_half hn (2 ^ 52)
        _ = r - 2 ^ 52 := by
          rw [Int.cast_pow, Int.cast_ofNat, abs_sub_comm, abs_of_nonneg (sub_nonneg.mpr hr)]
    have hfar : |w - r * 2 ^ t| = r * 2 ^ t - w := by
      rw [abs_sub_comm, abs_of_pos (sub_pos.mpr (hlow.trans_le (by gcongr)))]
    refine .inl ?_
    rw [hscale, hfar]
    calc |(n : ℚ) - r| * 2 ^ t ≤ (r - 2 ^ 52) * 2 ^ t := by gcongr
      _ = r * 2 ^ t - 2 ^ 52 * 2 ^ t := sub_mul ..
      _ < r * 2 ^ t - w := by linarith

/-! ## Rounding -/

/-- A double stands at a multiple of `2 ^ t`, and is even if the factor is; beyond the largest
double it is infinite. -/
structure Stands (x : Float) (n : Nat) (t : Int) : Prop where
  positive : (Reading.of x).isNegative = false
  place : (Reading.of x).place? = some (min ((n : ℚ) * 2 ^ t) (2 ^ (1024 : Int)))
  even : n % 2 = 0 → (Reading.of x).isEven = true

theorem reading_zero :
    Reading.of (.ofModel (.pack (.zero .positive))) = .finite ⟨false, 0, -1074⟩ := rfl

theorem stands_of_zero (h : Reading.of x = .finite ⟨false, 0, -1074⟩) : Stands x 0 t where
  positive := by rw [h]; rfl
  place := by
    rw [place_positive h rfl, Nat.cast_zero, zero_mul, zero_mul, min_eq_left (by positivity)]
  even _ := by rw [h]; rfl

/-- The exponent that a number is rounded at. -/
theorem exponent_of_shift (hc : 52 ≤ m.log2 ∨ e ≤ -1074)
    (hk : (max (m.log2 + e - 52) (-1074) - e).toNat = k) :
    -1074 ≤ e + k ∧ m.log2 ≤ 52 + k ∧ (m.log2 = 52 + k ∨ e + k = -1074) := by
  omega

theorem shifted_le_of_log2_le (h : m.log2 ≤ 52 + k) : shifted a m k ≤ 2 ^ 53 := by
  refine Nat.le_trans (shifted_le_succ a m k) (Nat.succ_le_of_lt ?_)
  rw [Nat.div_lt_iff_lt_mul (Nat.two_pow_pos k), ← Nat.pow_add]
  exact Nat.lt_of_lt_of_le Nat.lt_log2_self (Nat.pow_le_pow_right (by decide) (by omega))

/-- A positive double stands at the value of its bits. -/
theorem stands_pack (hpos : 0 < n) (hn : n < 2 ^ 53) (ht : -1074 ≤ t)
    (hnormal : 2 ^ 52 ≤ n ∨ t = -1074) :
    Stands (.ofModel (.pack (.finite .positive n t hpos))) n t := by
  have hreading := reading_pack hpos hn ht hnormal
  by_cases hlarge : t ≤ 971
  · rw [if_pos hlarge] at hreading
    refine ⟨by rw [hreading]; rfl, ?_, fun heven => ?_⟩
    · rw [place_positive hreading rfl, min_eq_left (lt_limit hn hlarge).le]
    · rw [hreading]
      simpa [Reading.isEven] using heven
  · rw [if_neg hlarge] at hreading
    have hlow : (2 : ℚ) ^ 52 ≤ n := by exact_mod_cast hnormal.resolve_right (by omega)
    refine ⟨by rw [hreading]; rfl, ?_, fun _ => by rw [hreading]; rfl⟩
    rw [place_infinity hreading, min_eq_right (limit_le hlow (by omega))]

theorem stands_rounded (hc : 52 ≤ m.log2 ∨ e ≤ -1074)
    (hk : (max (m.log2 + e - 52) (-1074) - e).toNat = k) :
    Stands (rounded a m e) (shifted a m k) (e + k) := by
  obtain ⟨hlow, hlong, hnormal⟩ := exponent_of_shift hc hk
  have hn : shifted a m k ≤ 2 ^ 53 := shifted_le_of_log2_le hlong
  have hnormal' : 2 ^ 52 ≤ shifted a m k ∨ e + k = -1074 :=
    hnormal.imp_left fun hlog => (shifted_bounds hlog).1
  rw [rounded, roundWithAccuracy_shortened hk]
  generalize shifted a m k = n at *
  generalize e + (k : Int) = t at *
  rcases Nat.lt_or_ge n (2 ^ 53) with hlt | hge
  · have hlog : n.log2 < 53 := by
      by_cases hzero : n = 0
      · rw [hzero]; decide
      · exact (Nat.log2_lt hzero).mpr hlt
    rw [shiftToTargetExponent_shortened (k := 0) (by omega)]
    change Stands (.ofModel (.pack (if h : n = 0 then .zero .positive
      else .finite .positive n (t + (0 : Nat)) (Nat.pos_of_ne_zero h)))) _ _
    rw [Int.natCast_zero, Int.add_zero]
    split
    · next hzero =>
      obtain rfl := hzero
      exact stands_of_zero reading_zero
    · next hzero => exact stands_pack _ hlt hlow hnormal'
  · obtain rfl : n = 2 ^ 53 := Nat.le_antisymm hn hge
    have hlog : (2 ^ 53 : Nat).log2 = 53 := Nat.log2_two_pow
    rw [shiftToTargetExponent_shortened (k := 1) (by omega)]
    obtain ⟨hpositive, hplace, heven⟩ :=
      stands_pack (by decide : 0 < 2 ^ 52) (by decide) (Int.le_add_one hlow)
        (.inl (Nat.le_refl _))
    have hvalue : ((2 ^ 53 : Nat) : ℚ) * 2 ^ t = (2 ^ 52 : Nat) * 2 ^ (t + 1) := by
      rw [zpow_add_one₀ (by norm_num)]
      push_cast
      ring
    exact ⟨hpositive, hvalue ▸ hplace, fun _ => heven rfl⟩

theorem Stands.nearest (h : Stands x n t) (hr : 0 ≤ r) (hnormal : 2 ^ 52 ≤ r ∨ t = -1074)
    (hlong : n ≤ 2 ^ 53) (hn : |(n : ℚ) - r| ≤ 1 / 2)
    (heven : |(n : ℚ) - r| = 1 / 2 → n % 2 = 0) : Nearest (r * 2 ^ t) x := by
  have hplace := h.place
  rcases Int.lt_or_le 971 t with hlarge | hle
  · have hr : (2 : ℚ) ^ 52 ≤ r := hnormal.resolve_right (by omega)
    have hfirst : (2 : ℚ) ^ 52 ≤ n := by
      exact_mod_cast le_of_le_near (i := 2 ^ 52) hn (by exact_mod_cast hr)
    rw [min_eq_right (limit_le hfirst hlarge)] at hplace
    exact nearest_of_infinite h.positive hplace (limit_le hr hlarge)
  · rw [min_eq_left (le_limit hlong hle)] at hplace
    exact nearest_of_step h.positive hplace h.even hle hr hnormal hn heven

/-- What a number is rounded to is the double nearest to it. -/
theorem nearest_rounded (h : StandsFor (.ofMantissaAndAccuracy m a) r)
    (hc : 52 ≤ m.log2 ∨ e ≤ -1074) : Nearest (r * 2 ^ e) (rounded a m e) := by
  obtain ⟨k, hk⟩ : ∃ k, (max (m.log2 + e - 52) (-1074) - e).toNat = k := ⟨_, rfl⟩
  obtain ⟨-, hlong, hexponent⟩ := exponent_of_shift hc hk
  have hlow : m ≤ r := by
    have hm : (ExtendedMantissa.ofMantissaAndAccuracy m a).mantissa = m :=
      (mantissa_shortened a m 0).trans (Nat.div_one m)
    exact hm ▸ h.low
  have hr : 0 ≤ r / 2 ^ k := div_nonneg (le_trans (Nat.cast_nonneg m) hlow) (by positivity)
  have hnormal : 2 ^ 52 ≤ r / 2 ^ k ∨ e + k = -1074 := by
    refine hexponent.imp_left fun hlog => ?_
    have hlead : (2 : ℚ) ^ (52 + k) ≤ m := by
      exact_mod_cast ((Nat.log2_eq_iff (ne_zero_of_log2_eq hlog)).mp hlog).1
    rw [le_div_iff₀ (by positivity), ← pow_add]
    exact hlead.trans hlow
  have hshift : r * 2 ^ e = r / 2 ^ k * 2 ^ (e + k) := by
    rw [zpow_add₀ (by norm_num), zpow_natCast]
    field_simp
  obtain ⟨hn, heven⟩ := (standsFor_shortened h k).rounded_near
  rw [hshift]
  exact (stands_rounded hc hk).nearest hr hnormal (shifted_le_of_log2_le hlong) hn heven

end Rollout.Decimal
