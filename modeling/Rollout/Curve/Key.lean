import Rollout.Curve.Point
import Rollout.Digest.Keyed

/-!
# Keys and signatures

A signing key is a number below the order of the curve and not zero; its public key is the point with
that many copies of the generator, written in 33 bytes. A signature is made over a digest with a
number used once, which is drawn from the key and the digest themselves, so that one key signs one
text always in the same way. Of the two signatures that such a number gives, the one with the low
second half counts.
-/

namespace Rollout.Curve

open Digest

/-- A key that signs. -/
structure SigningKey where
  value : Nat
  positive : 0 < value
  below : value < order

/-- Thirty-two bytes, the most significant first. -/
def bytes32 (n : Nat) : Bytes := Sha2.bigEndian 32 n

namespace SigningKey

/-- The key of a number, if it is in the range of keys. -/
def ofNat? (n : Nat) : Option SigningKey :=
  if h : 0 < n ∧ n < order then some ⟨n, h.1, h.2⟩ else none

/-- The public key: the sign of the second coordinate, and the first coordinate. -/
def publicKey (k : SigningKey) : Bytes :=
  let (x, y) := (Point.generator.times k.value).coordinates
  UInt8.ofNat (2 + y % 2) :: bytes32 x

/-! ## Numbers used once -/

/-- The state that numbers used once are drawn from. -/
structure Draw where
  key : Bytes
  value : Bytes

/-- Works more bytes into the state. -/
def Draw.absorb (d : Draw) (mark : UInt8) (more : Bytes) : Draw :=
  let key := hmacSha256 d.key (d.value ++ mark :: more)
  ⟨key, hmacSha256 key d.value⟩

/-- The first number in range among the given count of draws; with none left, the last draw is
brought into range. -/
def Draw.number : Nat → Draw → Nat
  | 0, d => Sha2.ofBigEndian d.value % (order - 1) + 1
  | n + 1, d =>
    let value := hmacSha256 d.key d.value
    let candidate := Sha2.ofBigEndian value
    if 0 < candidate ∧ candidate < order then candidate
    else Draw.number n (Draw.absorb ⟨d.key, value⟩ 0 [])

/-- The number that a key uses for a digest. -/
def nonce (k : SigningKey) (digest : Bytes) : Nat :=
  let seed := bytes32 k.value ++ bytes32 (Sha2.ofBigEndian digest % order)
  let start : Draw := ⟨List.replicate 32 0, List.replicate 32 1⟩
  ((start.absorb 0 seed).absorb 1 seed).number 64

/-- The signature of a text, in 64 bytes. -/
def sign (k : SigningKey) (text : Bytes) : Bytes :=
  let digest := sha256 text
  let used := k.nonce digest
  let r := ((Point.generator.times used).coordinates.1) % order
  let s := inverse order used * (Sha2.ofBigEndian digest + r * k.value) % order
  bytes32 r ++ bytes32 (min s (order - s))

end SigningKey

end Rollout.Curve
