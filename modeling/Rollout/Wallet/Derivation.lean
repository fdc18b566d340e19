import Rollout.Curve.Key

/-!
# Keys made from keys

A node of the tree of keys holds a signing key and a chain code of 32 bytes. A seed gives the root,
and a node has a child for every number below `2 ^ 32`; those from `2 ^ 31` on, the hardened ones,
cannot be told from the public key alone. A node is missing, with a chance that can be neglected,
where the digest it comes from gives no key.
-/

namespace Rollout.Derivation

open Curve Digest

structure Node where
  key : SigningKey
  chain : Bytes

/-- The node in a digest of 64 bytes; the offset is added to its key. -/
def node? (offset : Nat) (digest : Bytes) : Option Node := do
  let n := Sha2.ofBigEndian (digest.take 32)
  if order ≤ n then none
  else
    let key ← SigningKey.ofNat? ((offset + n) % order)
    some ⟨key, digest.drop 32⟩

def root? (seed : Bytes) : Option Node := node? 0 (hmacSha512 (Text.toBytes "Bitcoin seed") seed)

/-- The first hardened number. -/
def hardened : Nat := Nat.pow 2 31

def child? (n : Node) (number : Nat) : Option Node :=
  let subject := if hardened ≤ number then 0 :: bytes32 n.key.value else n.key.publicKey
  node? n.key.value (hmacSha512 n.chain (subject ++ Sha2.bigEndian 4 number))

/-- The node at the end of a path from the root. -/
def follow? (seed : Bytes) (path : List Nat) : Option Node := do
  path.foldlM child? (← root? seed)

/-- The path to the key of an account. -/
def accountPath (index : Nat) : List Nat := [hardened + 44, hardened + 118, hardened, 0, index]

end Rollout.Derivation
