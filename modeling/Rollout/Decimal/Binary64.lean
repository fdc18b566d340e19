/-!
# Doubles as exact numbers

A finite double is `± mantissa · 2 ^ exponent` with natural mantissa and integer exponent
(`Binary64.parts`). Rounding upwards, cutting off the fraction and rounding to the nearest integer
are defined on these exact numbers, so none of them rounds twice. Conversions to a bounded range
saturate: what is too large gives the largest value, what is negative or no number gives zero.
-/

namespace Rollout.Decimal

/-- The exact value `± mantissa · 2 ^ exponent` of a finite double. -/
structure Binary64 where
  negative : Bool
  mantissa : Nat
  exponent : Int
deriving Repr, DecidableEq

/-- What a double stands for. -/
inductive Reading where
  | notANumber
  | infinite (negative : Bool)
  | finite (value : Binary64)
deriving Repr, DecidableEq

/-- Reads the sign, exponent and fraction fields of a double. -/
def Reading.ofBits (bits : Nat) : Reading :=
  let negative := bits / Nat.pow 2 63 % 2 == 1
  let field : Nat := bits / Nat.pow 2 52 % Nat.pow 2 11
  let fraction : Nat := bits % Nat.pow 2 52
  if field == 2047 then
    if fraction == 0 then .infinite negative else .notANumber
  else if field == 0 then .finite ⟨negative, fraction, -1074⟩
  else .finite ⟨negative, fraction + Nat.pow 2 52, (field : Int) - 1075⟩

/-- What a double stands for. -/
def Reading.of (x : Float) : Reading := .ofBits x.toBits.toNat

namespace Binary64

/-- The magnitude as a fraction of natural numbers; the denominator is a power of two. -/
def fraction (b : Binary64) : Nat × Nat :=
  match b.exponent with
  | .ofNat e => (b.mantissa * Nat.pow 2 e, 1)
  | .negSucc e => (b.mantissa, Nat.pow 2 (e + 1))

/-- The magnitude without what stands after the point. -/
def floor (b : Binary64) : Nat := b.fraction.1 / b.fraction.2

/-- The least natural number that is not below the value; zero for a negative value. -/
def ceil (b : Binary64) : Nat :=
  if b.negative then 0 else (b.fraction.1 + b.fraction.2 - 1) / b.fraction.2

/-- The magnitude rounded to the nearest integer, a half away from zero. -/
def nearest (b : Binary64) : Nat := (2 * b.fraction.1 + b.fraction.2) / (2 * b.fraction.2)

end Binary64

/-- The smallest integer not below a double, kept within `0 … limit`. -/
def ceilWithin (limit : Nat) (x : Float) : Nat :=
  match Reading.of x with
  | .notANumber => 0
  | .infinite negative => if negative then 0 else limit
  | .finite b => min b.ceil limit

/-- A double without its fraction, kept within `0 … limit`. -/
def floorWithin (limit : Nat) (x : Float) : Nat :=
  match Reading.of x with
  | .notANumber => 0
  | .infinite negative => if negative then 0 else limit
  | .finite b => if b.negative then 0 else min b.floor limit

/-- A double rounded to the nearest integer, a half away from zero, kept within `low … high`. -/
def nearestWithin (low high : Int) (x : Float) : Int :=
  match Reading.of x with
  | .notANumber => max low (min 0 high)
  | .infinite negative => if negative then low else high
  | .finite b =>
    let n : Int := if b.negative then -(b.nearest : Int) else b.nearest
    max low (min n high)

/-- A finite number: neither infinite nor undefined. -/
def isFinite (x : Float) : Bool :=
  match Reading.of x with
  | .finite _ => true
  | _ => false

/-- `x ^ n` by repeated squaring, with the products taken from the lowest bit of `n` upwards; the
order of the products decides the last digits. -/
def powerLoop (product base : Float) (n : Nat) : Float :=
  let product := if n % 2 = 1 then product * base else product
  if n / 2 = 0 then product else powerLoop product (base * base) (n / 2)
termination_by n
decreasing_by omega

/-- `x ^ n` for an integer `n`; a negative power is the reciprocal of the positive one. -/
def power (x : Float) (n : Int) : Float :=
  let product := powerLoop 1.0 x n.natAbs
  if n < 0 then 1.0 / product else product

end Rollout.Decimal
