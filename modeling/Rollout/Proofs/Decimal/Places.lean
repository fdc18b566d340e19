import Rollout.Proofs.Decimal.Shortest

/-!
# Where doubles stand

A finite double stands at its value, and an infinite one where the next double would be if exponents
went on (`Reading.place?`). At and above the exponent `t` the doubles stand at multiples of `2 ^ t`,
and a double with a smaller exponent stands below `2 ^ 52 * 2 ^ t` (`place_of_step`). The place of
a double together with its sign leaves nothing open: the mantissa has all its bits unless the
exponent is the least one, so two doubles with one place and one sign are the same
(`eq_of_place_eq`).
-/

open Float.Model Float.Model.UnpackedFloat

namespace Rollout.Decimal

variable {m n : Nat} {e t : Int} {r : ℚ} {x y : Float} {b c : Binary64}

/-! ## Places -/

/-- The factor for the sign of a double. -/
def signOf (negative : Bool) : ℤ := if negative then -1 else 1

/-- The value of a finite double. -/
def Binary64.value (b : Binary64) : ℚ := signOf b.negative * (b.mantissa * 2 ^ b.exponent)

/-- The number at which a double stands. When numbers are rounded, an infinite double stands where
the next double would be if exponents went on. -/
def Reading.place? : Reading → Option ℚ
  | .notANumber => none
  | .infinite negative => some (signOf negative * 2 ^ (1024 : Int))
  | .finite b => some b.value

/-- Whether the last bit of the mantissa is zero; that of an infinite double counts as zero. -/
def Reading.isEven : Reading → Bool
  | .finite b => b.mantissa % 2 == 0
  | _ => true

/-- Whether the sign of a double is negative; zero has both signs. -/
def Reading.isNegative : Reading → Bool
  | .notANumber => false
  | .infinite negative => negative
  | .finite b => b.negative

theorem signOf_mul_le (negative : Bool) (h : 0 ≤ r) : signOf negative * r ≤ r := by
  have hle : signOf negative ≤ 1 := by cases negative <;> decide
  exact mul_le_of_le_one_left h (by exact_mod_cast hle)

theorem signOf_ne_zero (negative : Bool) : (signOf negative : ℚ) ≠ 0 := by
  cases negative <;> norm_num [signOf]

theorem place_positive (hx : Reading.of x = .finite b) (h : b.negative = false) :
    (Reading.of x).place? = some ((b.mantissa : ℚ) * 2 ^ b.exponent) := by
  rw [hx, Reading.place?, Binary64.value, h]
  simp [signOf]

theorem place_infinity (hx : Reading.of x = .infinite false) :
    (Reading.of x).place? = some (2 ^ (1024 : Int)) := by
  rw [hx]
  simp [Reading.place?, signOf]

/-! ## Limits -/

theorem two_zpow_mul {i j k : Int} (h : i + j = k) : (2 : ℚ) ^ i * 2 ^ j = 2 ^ k := by
  rw [← zpow_add₀ (by norm_num), h]

theorem lt_step (hm : m < 2 ^ 53) (he : e ≤ t) : (m : ℚ) * 2 ^ e < 2 ^ (53 : Int) * 2 ^ t := by
  have hm' : (m : ℚ) < 2 ^ (53 : Int) := by exact_mod_cast hm
  calc (m : ℚ) * 2 ^ e < 2 ^ (53 : Int) * 2 ^ e := by gcongr
    _ ≤ 2 ^ (53 : Int) * 2 ^ t := by gcongr; norm_num

theorem lt_limit (hm : m < 2 ^ 53) (he : e ≤ 971) : (m : ℚ) * 2 ^ e < 2 ^ (1024 : Int) :=
  (lt_step hm he).trans_eq (two_zpow_mul rfl)

theorem le_limit (hm : m ≤ 2 ^ 53) (he : e ≤ 971) : (m : ℚ) * 2 ^ e ≤ 2 ^ (1024 : Int) := by
  have hm' : (m : ℚ) ≤ 2 ^ (53 : Int) := by exact_mod_cast hm
  calc (m : ℚ) * 2 ^ e ≤ 2 ^ (53 : Int) * 2 ^ (971 : Int) := by gcongr; norm_num
    _ = 2 ^ (1024 : Int) := two_zpow_mul (by decide)

theorem limit_le (hr : 2 ^ 52 ≤ r) (ht : 971 < t) : 2 ^ (1024 : Int) ≤ r * 2 ^ t := by
  calc (2 : ℚ) ^ (1024 : Int) = 2 ^ (52 : Int) * 2 ^ (972 : Int) := (two_zpow_mul (by decide)).symm
    _ ≤ r * 2 ^ t := by
      gcongr
      · exact_mod_cast hr
      · norm_num
      · omega

/-- No double stands beyond the infinite one. -/
theorem place_le {w : ℚ} (h : (Reading.of y).place? = some w) : w ≤ 2 ^ (1024 : Int) := by
  cases hy : Reading.of y with
  | notANumber => simp [hy, Reading.place?] at h
  | infinite negative =>
      rw [hy, Reading.place?, Option.some_inj] at h
      exact h ▸ signOf_mul_le negative (by positivity)
  | finite b =>
      obtain ⟨hm, -, he⟩ := Reading.bounds_of_finite hy
      rw [hy, Reading.place?, Option.some_inj] at h
      exact h ▸ (signOf_mul_le _ (by positivity)).trans (lt_limit hm he).le

/-! ## Steps -/

theorem two_zpow_add_nat (t : Int) (j : Nat) : (2 : ℚ) ^ (t + j) = (2 ^ j : ℤ) * 2 ^ t := by
  rw [zpow_add₀ (by norm_num), zpow_natCast, mul_comm]
  push_cast
  rfl

/-- A double stands at a multiple of `2 ^ t`, and is odd if the factor is, or it stands below all
the doubles of that step. -/
theorem place_of_step {w : ℚ} (h : (Reading.of y).place? = some w) (ht : t ≤ 971) :
    (∃ j : ℤ, w = j * 2 ^ t ∧ (j % 2 = 1 → (Reading.of y).isEven = false)) ∨
      w < 2 ^ 52 * 2 ^ t ∧ -1074 < t := by
  cases hy : Reading.of y with
  | notANumber => simp [hy, Reading.place?] at h
  | infinite negative =>
      rw [hy, Reading.place?, Option.some_inj] at h
      obtain ⟨j, hj⟩ := Int.le.dest (Int.le_trans ht (by decide : (971 : Int) ≤ 1023))
      have hlimit : (1024 : Int) = t + (j + 1 : Nat) := by omega
      refine .inl ⟨signOf negative * 2 ^ (j + 1), ?_, fun hodd => ?_⟩
      · rw [← h, hlimit, two_zpow_add_nat]
        push_cast
        ring
      · obtain ⟨-, hpow⟩ := Int.odd_mul.mp (Int.odd_iff.mpr hodd)
        rw [pow_succ, Int.odd_mul] at hpow
        exact absurd hpow.2 (by decide)
  | finite b =>
      obtain ⟨hm, hlow, -⟩ := Reading.bounds_of_finite hy
      rw [hy, Reading.place?, Option.some_inj] at h
      rcases Int.lt_or_le b.exponent t with hlt | hle
      · refine .inr ⟨?_, by omega⟩
        calc w = b.value := h.symm
          _ ≤ b.mantissa * 2 ^ b.exponent := signOf_mul_le _ (by positivity)
          _ < 2 ^ (53 : Int) * 2 ^ (t - 1) := lt_step hm (Int.le_sub_one_of_lt hlt)
          _ = 2 ^ (52 : Int) * 2 ^ t := by
            rw [two_zpow_mul rfl, two_zpow_mul rfl]
            congr 1
            omega
          _ = 2 ^ 52 * 2 ^ t := by norm_cast
      · obtain ⟨j, hj⟩ := Int.le.dest hle
        refine .inl ⟨signOf b.negative * (b.mantissa * 2 ^ j), ?_, fun hodd => ?_⟩
        · rw [← h, Binary64.value, ← hj, two_zpow_add_nat]
          push_cast
          ring
        · obtain ⟨-, hmantissa⟩ := Int.odd_mul.mp (Int.odd_iff.mpr hodd)
          have hbit := Int.odd_iff.mp (Int.odd_mul.mp hmantissa).1
          simpa [Reading.isEven] using (by omega : b.mantissa % 2 = 1)

/-! ## One double for each place -/

/-- The mantissa of a double has all its bits, unless the exponent is the least one. -/
theorem Reading.normal_of_finite (h : Reading.of x = .finite b) :
    2 ^ 52 ≤ b.mantissa ∨ b.exponent = -1074 := by
  rw [Reading.of, Reading.ofBits] at h
  simp only [beq_iff_eq, Nat.pow_eq] at h
  repeat' split at h
  all_goals cases h <;> simp

theorem exponent_le_of_value_eq {m₁ m₂ : Nat} {e₁ e₂ : Int} (hm₁ : m₁ < 2 ^ 53) (he₁ : -1074 ≤ e₁)
    (hnormal : 2 ^ 52 ≤ m₂ ∨ e₂ = -1074) (h : (m₁ : ℚ) * 2 ^ e₁ = m₂ * 2 ^ e₂) : e₂ ≤ e₁ := by
  by_contra hlt
  have hlow : (2 : ℚ) ^ (52 : Int) ≤ m₂ := by
    exact_mod_cast hnormal.resolve_right (by omega)
  have hless : (m₁ : ℚ) * 2 ^ e₁ < m₂ * 2 ^ e₂ := by
    calc (m₁ : ℚ) * 2 ^ e₁ < 2 ^ (53 : Int) * 2 ^ (e₂ - 1) := lt_step hm₁ (by omega)
      _ = 2 ^ (52 : Int) * 2 ^ e₂ := by
        rw [two_zpow_mul rfl, two_zpow_mul rfl]
        congr 1
        omega
      _ ≤ m₂ * 2 ^ e₂ := by gcongr
  exact hless.ne h

/-- Finite doubles of one value and one sign have the same parts. -/
theorem Reading.finite_eq (hx : Reading.of x = .finite b) (hy : Reading.of y = .finite c)
    (hsign : b.negative = c.negative) (h : b.value = c.value) : b = c := by
  obtain ⟨hm₁, he₁, -⟩ := bounds_of_finite hx
  obtain ⟨hm₂, he₂, -⟩ := bounds_of_finite hy
  rw [Binary64.value, Binary64.value, hsign] at h
  have hvalue := mul_left_cancel₀ (signOf_ne_zero c.negative) h
  have hexponent : b.exponent = c.exponent := Int.le_antisymm
    (exponent_le_of_value_eq hm₂ he₂ (normal_of_finite hx) hvalue.symm)
    (exponent_le_of_value_eq hm₁ he₁ (normal_of_finite hy) hvalue)
  rw [hexponent] at hvalue
  have hmantissa : (b.mantissa : ℚ) = c.mantissa := mul_right_cancel₀ (by positivity) hvalue
  obtain ⟨_, _, _⟩ := b
  obtain ⟨_, _, _⟩ := c
  simp only [Binary64.mk.injEq] at *
  exact ⟨hsign, by exact_mod_cast hmantissa, hexponent⟩

/-- No finite double stands where an infinite one does. -/
theorem Reading.finite_ne_infinite (hx : Reading.of x = .finite b) :
    b.value ≠ signOf b.negative * 2 ^ (1024 : Int) := by
  intro h
  obtain ⟨hm, -, he⟩ := bounds_of_finite hx
  exact (lt_limit hm he).ne (mul_left_cancel₀ (signOf_ne_zero b.negative) h)

/-- Doubles that stand for numbers and have one place and one sign are read alike. -/
theorem reading_eq_of_place_eq (hx : Reading.of x ≠ .notANumber)
    (hsign : (Reading.of x).isNegative = (Reading.of y).isNegative)
    (hplace : (Reading.of x).place? = (Reading.of y).place?) : Reading.of x = Reading.of y := by
  cases hrx : Reading.of x with
  | notANumber => exact absurd hrx hx
  | infinite s =>
      cases hry : Reading.of y with
      | notANumber => simp [hrx, hry, Reading.place?] at hplace
      | infinite s' =>
          rw [hrx, hry] at hsign
          exact congrArg Reading.infinite hsign
      | finite c =>
          rw [hrx, hry] at hsign hplace
          obtain rfl : s = c.negative := hsign
          exact absurd (Option.some.inj hplace).symm (Reading.finite_ne_infinite hry)
  | finite b =>
      cases hry : Reading.of y with
      | notANumber => simp [hrx, hry, Reading.place?] at hplace
      | infinite s =>
          rw [hrx, hry] at hsign hplace
          obtain rfl : b.negative = s := hsign
          exact absurd (Option.some.inj hplace) (Reading.finite_ne_infinite hrx)
      | finite c =>
          rw [hrx, hry] at hsign hplace
          exact congrArg Reading.finite
            (Reading.finite_eq hrx hry hsign (Option.some.inj hplace))

/-- Bits that stand for a number are known from it. -/
theorem ofBits_inj {i j : Nat} (hi : i < 2 ^ 64) (hj : j < 2 ^ 64)
    (h : Reading.ofBits i = Reading.ofBits j) (hnumber : Reading.ofBits i ≠ .notANumber) :
    i = j := by
  have hfields (k : Nat) (hk : k < 2 ^ 64) :
      k = k / 2 ^ 63 % 2 * 2 ^ 63 + k / 2 ^ 52 % 2 ^ 11 * 2 ^ 52 + k % 2 ^ 52 := by omega
  have hsigns (k : Nat) : k / 2 ^ 63 % 2 < 2 := Nat.mod_lt _ (by decide)
  have hfractions (k : Nat) : k % 2 ^ 52 < 2 ^ 52 := Nat.mod_lt _ (by decide)
  rw [hfields i hi, hfields j hj]
  have hs₁ := hsigns i
  have hs₂ := hsigns j
  have hm₁ := hfractions i
  have hm₂ := hfractions j
  simp only [Reading.ofBits, Nat.pow_eq, beq_iff_eq] at h hnumber
  generalize i / 2 ^ 63 % 2 = s₁ at *
  generalize j / 2 ^ 63 % 2 = s₂ at *
  generalize i / 2 ^ 52 % 2 ^ 11 = f₁ at *
  generalize j / 2 ^ 52 % 2 ^ 11 = f₂ at *
  generalize i % 2 ^ 52 = m₁ at *
  generalize j % 2 ^ 52 = m₂ at *
  clear hi hj hfields hsigns hfractions
  have hsign : (s₁ == 1) = (s₂ == 1) → s₁ = s₂ := by
    rw [Bool.eq_iff_iff]
    simp only [beq_iff_eq]
    omega
  split_ifs at h hnumber <;> simp at h hnumber <;> grind

theorem Reading.inj (h : Reading.of x = Reading.of y) (hx : Reading.of x ≠ .notANumber) :
    x = y := by
  have hbits : x.toBits = y.toBits :=
    UInt64.toNat_inj.mp (ofBits_inj x.toBits.toNat_lt y.toBits.toNat_lt h hx)
  obtain ⟨⟨_, _⟩⟩ := x
  obtain ⟨⟨_, _⟩⟩ := y
  cases hbits
  rfl

/-- A place and a sign belong to one double. -/
theorem eq_of_place_eq {v : ℚ} (hx : (Reading.of x).place? = some v)
    (hy : (Reading.of y).place? = some v)
    (hsign : (Reading.of x).isNegative = (Reading.of y).isNegative) : x = y := by
  have hnumber : Reading.of x ≠ .notANumber := by
    intro h
    simp [h, Reading.place?] at hx
  exact Reading.inj (reading_eq_of_place_eq hnumber hsign (hx.trans hy.symm)) hnumber

/-! ## Bits of a positive double -/

theorem toNat_packComponents (b m : Nat) (hb : b < 2 ^ 11) :
    (packComponents Format.binary64 .positive (BitVec.ofNat 11 b) (BitVec.ofNat 52 m)).toNat =
      b * 2 ^ 52 + m % 2 ^ 52 := by
  have hfront : (Sign.positive.toBitVec ++ BitVec.ofNat 11 b).toNat = b := by
    rw [BitVec.toNat_append, BitVec.toNat_ofNat, Nat.mod_eq_of_lt hb]
    simp [Sign.toBitVec]
  rw [packComponents, BitVec.toNat_append, hfront, BitVec.toNat_ofNat,
    ← Nat.shiftLeft_add_eq_or_of_lt (Nat.mod_lt _ (by decide)), Nat.shiftLeft_eq]

theorem ofBits_fields {b f : Nat} (hb : b < 2 ^ 11) (hf : f < 2 ^ 52) :
    Reading.ofBits (b * 2 ^ 52 + f) =
      if b = 2047 then if f = 0 then .infinite false else .notANumber
      else if b = 0 then .finite ⟨false, f, -1074⟩
      else .finite ⟨false, f + 2 ^ 52, b - 1075⟩ := by
  have hsign : (b * 2 ^ 52 + f) / Nat.pow 2 63 % 2 = 0 := by
    simp only [Nat.pow_eq]
    omega
  have hfield : (b * 2 ^ 52 + f) / Nat.pow 2 52 % Nat.pow 2 11 = b := by
    simp only [Nat.pow_eq]
    omega
  have hfraction : (b * 2 ^ 52 + f) % Nat.pow 2 52 = f := by
    simp only [Nat.pow_eq]
    omega
  rw [Reading.ofBits, hsign, hfield, hfraction]
  simp

/-- A number with up to 53 bits is kept by the bits of a double, unless its exponent is too large;
then they are those of infinity. -/
theorem reading_pack (hpos : 0 < m) (hm : m < 2 ^ 53) (he : -1074 ≤ e)
    (hnormal : 2 ^ 52 ≤ m ∨ e = -1074) :
    Reading.of (.ofModel (.pack (.finite .positive m e hpos))) =
      if e ≤ 971 then .finite ⟨false, m, e⟩ else .infinite false := by
  obtain ⟨b, hb⟩ : ∃ b : Nat, e = (b : Int) - 1075 := ⟨(e + 1075).toNat, by omega⟩
  have hbiased : (e + Format.binary64.exponentBias
      + Format.binary64.mantissaBitsWithoutImplicit).toNat = b := by
    simp only [Format.exponentBias, hb]
    omega
  change Reading.ofBits (UnpackedFloat.pack Format.binary64 (.finite .positive m e hpos)).toNat = _
  simp only [UnpackedFloat.pack, hbiased]
  by_cases hlarge : e ≤ 971
  · rw [if_pos hlarge, if_neg (by simp; omega)]
    by_cases hlow : 2 ^ 52 ≤ m
    · have hlog : m.log2 = 52 := (Nat.log2_eq_iff (Nat.ne_of_gt hpos)).mpr ⟨hlow, hm⟩
      rw [if_pos (by rw [hlog]; rfl), toNat_packComponents _ _ (by omega),
        ofBits_fields (by omega) (Nat.mod_lt _ (by decide)), if_neg (by omega), if_neg (by omega)]
      congr 2
      · omega
      · omega
    · have hlog : m.log2 < 52 := (Nat.log2_lt (Nat.ne_of_gt hpos)).mpr (Nat.lt_of_not_le hlow)
      have hzero : BitVec.ofNat 11 0 = 0#11 := rfl
      rw [if_neg (by simp [Format.mantissaBits]; omega), toNat_packComponents 0 m (by decide),
        ofBits_fields (by decide) (Nat.mod_lt _ (by decide)), if_neg (by decide), if_pos rfl]
      congr 2
      · omega
      · omega
  · rw [if_neg hlarge, if_pos (by simp; omega)]
    decide +kernel

end Rollout.Decimal
