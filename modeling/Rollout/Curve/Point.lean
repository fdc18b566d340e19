/-!
# Points of the curve secp256k1

The curve `y² = x³ + 7` over the integers modulo `field`, and its cyclic group of `order` points.
Points are kept as `x / z²` and `y / z³`, so that adding them takes no division; the point at
infinity has `z = 0`.
-/

namespace Rollout.Curve

/-- The modulus of the coordinates. -/
def field : Nat := Nat.pow 2 256 - Nat.pow 2 32 - 977

/-- The number of points. -/
def order : Nat :=
  0xFFFFFFFFFFFFFFFFFFFFFFFFFFFFFFFEBAAEDCE6AF48A03BBFD25E8CD0364141

/-- The power of a number modulo `m`; the exponent has at most 256 bits. -/
def power (m base exponent : Nat) : Nat :=
  (List.range 256).foldr (fun i r =>
    let square := r * r % m
    if exponent.testBit i then square * base % m else square) 1

/-- The inverse modulo a prime; that of zero is zero. -/
def inverse (m n : Nat) : Nat := power m n (m - 2)

/-- A difference modulo `field`. -/
def minus (a b : Nat) : Nat := (a % field + (field - b % field)) % field

structure Point where
  x : Nat
  y : Nat
  z : Nat

namespace Point

def infinity : Point := ⟨1, 1, 0⟩

/-- The point that generates the group. -/
def generator : Point :=
  ⟨0x79BE667EF9DCBBAC55A06295CE870B07029BFCDB2DCE28D959F2815B16F81798,
    0x483ADA7726A3C4655DA4FBFC0E1108A8FD17B448A68554199C47D08FFB10D4B8, 1⟩

/-- A point added to itself. -/
def double (p : Point) : Point :=
  if p.z = 0 ∨ p.y = 0 then infinity
  else
    let yy := p.y * p.y % field
    let s := 4 * p.x * yy % field
    let m := 3 * p.x * p.x % field
    let x := minus (m * m) (2 * s)
    ⟨x, minus (m * minus s x) (8 * yy * yy), 2 * p.y * p.z % field⟩

/-- The sum of two points. -/
def add (p q : Point) : Point :=
  if p.z = 0 then q
  else if q.z = 0 then p
  else
    let pz := p.z * p.z % field
    let qz := q.z * q.z % field
    let u := p.x * qz % field
    let v := q.x * pz % field
    let s := p.y * qz * q.z % field
    let t := q.y * pz * p.z % field
    if u = v then
      if s = t then double p else infinity
    else
      let h := minus v u
      let r := minus t s
      let hh := h * h % field
      let hhh := h * hh % field
      let w := u * hh % field
      let x := minus (minus (r * r) hhh) (2 * w)
      ⟨x, minus (r * minus w x) (s * hhh), h * p.z * q.z % field⟩

/-- The sum of `n` copies of a point, for `n` of at most 256 bits. -/
def times (n : Nat) (p : Point) : Point :=
  (List.range 256).foldr (fun i q =>
    let twice := q.double
    if n.testBit i then twice.add p else twice) infinity

/-- The coordinates of a point; those of infinity are zero. -/
def coordinates (p : Point) : Nat × Nat :=
  let w := inverse field p.z
  (p.x * w * w % field, p.y * w * w * w % field)

end Point

end Rollout.Curve
