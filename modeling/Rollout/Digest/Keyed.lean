import Rollout.Digest.Sha2

/-!
# Keyed digests

A keyed digest takes a key and a message: it digests the message under the key twice, each time
after a block made from the key. `derive` stretches a passphrase to a seed by many keyed digests laid
over each other.
-/

namespace Rollout.Digest

variable {w : Type} [Word w]

/-- A key as the two states that a keyed digest starts from. -/
structure Keyed (w : Type) where
  scheme : Sha2 w
  inner : Eight w
  outer : Eight w

namespace Keyed

/-- The key in the form of two blocks; a key longer than a block is digested first. -/
@[specialize] def ofKey (s : Sha2 w) (key : Bytes) : Keyed w :=
  let size := Sha2.blockSize w
  let short := if size < key.length then s.digest key else key
  let block := short ++ List.replicate (size - short.length) 0
  let after (pad : UInt8) : Eight w := s.blocks 1 (block.map (· ^^^ pad)) s.start
  ⟨s, after 0x36, after 0x5C⟩

@[specialize] def digest (k : Keyed w) (message : Bytes) : Bytes :=
  let size := Sha2.blockSize w
  k.scheme.finish size k.outer (k.scheme.finish size k.inner message)

end Keyed

def hmacSha256 (key message : Bytes) : Bytes := (Keyed.ofKey sha256Scheme key).digest message

def hmacSha512 (key message : Bytes) : Bytes := (Keyed.ofKey sha512Scheme key).digest message

/-- Lays two byte strings of one length over each other. -/
def overlay (xs ys : Bytes) : Bytes := List.zipWith (· ^^^ ·) xs ys

/-- Digests the last result again, the given number of times, and lays all results over each
other. -/
def stretchKey (key : Keyed UInt64) : Nat → (last sum : Bytes) → Bytes
  | 0, _, sum => sum
  | n + 1, last, sum =>
    let next := key.digest last
    stretchKey key n next (overlay sum next)

/-- A seed of 64 bytes from a passphrase. -/
def derive (rounds : Nat) (passphrase salt : Bytes) : Bytes :=
  let key := Keyed.ofKey sha512Scheme passphrase
  let first := key.digest (salt ++ [0, 0, 0, 1])
  stretchKey key (rounds - 1) first first

end Rollout.Digest
