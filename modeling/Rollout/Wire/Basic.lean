import Rollout.Text.Utf8

/-!
# Wire form of messages

A message travels as a list of numbered fields. A number is written seven bits a byte, the low bits
first, with the top bit set on all bytes but the last. Each field starts with a key that joins its
number and the form of its content: a number, eight or four bytes, or bytes with their count in
front. An old form, the group, brackets other fields; it is read and dropped. Groups may stand in
groups, but not at will: below the depth that a reader allows, a group has to be empty.
-/

namespace Rollout.Wire

/-- What a field holds. -/
inductive Content where
  | number (n : UInt64)
  | eight (bytes : Bytes)
  | bytes (bytes : Bytes)
  | group
  | four (bytes : Bytes)
deriving DecidableEq

structure Field where
  number : Nat
  content : Content
deriving DecidableEq

/-! ## Writing -/

/-- A number in at most one more byte than the given count. -/
def varintBytes : Nat → Nat → Bytes
  | 0, n => [UInt8.ofNat n]
  | more + 1, n =>
    if n < 128 then [UInt8.ofNat n]
    else UInt8.ofNat (n % 128 + 128) :: varintBytes more (n / 128)

/-- A number below `2 ^ 64`. -/
def varint (n : Nat) : Bytes := varintBytes 9 n

/-- The key of a field whose content has the given form. -/
def key (field form : Nat) : Bytes := varint (field * 8 + form)

def Field.encode (f : Field) : Bytes :=
  match f.content with
  | .number n => key f.number 0 ++ varint n.toNat
  | .eight bytes => key f.number 1 ++ bytes
  | .bytes bytes => key f.number 2 ++ varint bytes.length ++ bytes
  | .group => key f.number 3 ++ key f.number 4
  | .four bytes => key f.number 5 ++ bytes

def encodeFields (fields : List Field) : Bytes := fields.flatMap Field.encode

/-! ## Reading -/

/-- A number of at most the given count of bytes, and the bytes after it. -/
def readVarint? : Nat → Bytes → Option (Nat × Bytes)
  | 0, _ => none
  | _, [] => none
  | count + 1, b :: rest =>
    if b < 128 then some (b.toNat, rest)
    else do
      let (n, rest) ← readVarint? count rest
      return (b.toNat % 128 + 128 * n, rest)

/-- A number below the bound at the front of bytes. -/
def readBelow? (bound : Nat) (bytes : Bytes) : Option (Nat × Bytes) := do
  let (n, rest) ← readVarint? 10 bytes
  if n < bound then return (n, rest) else none

/-- The given count of bytes at the front. -/
def take? (count : Nat) (bytes : Bytes) : Option (Bytes × Bytes) :=
  if bytes.length < count then none else some (bytes.take count, bytes.drop count)

/-- The content of a form that brackets nothing. -/
def content? (form : Nat) (bytes : Bytes) : Option (Content × Bytes) :=
  match form with
  | 0 => (readBelow? UInt64.size bytes).map fun (n, rest) => (.number (UInt64.ofNat n), rest)
  | 1 => (take? 8 bytes).map fun (b, rest) => (.eight b, rest)
  | 2 => do
    let (count, rest) ← readBelow? UInt64.size bytes
    let (b, rest) ← take? count rest
    return (.bytes b, rest)
  | 5 => (take? 4 bytes).map fun (b, rest) => (.four b, rest)
  | _ => none

/-- The fields up to the end of the bytes or, in a group, up to the end of the group. A field of a
group stands at least one level above the depth that is allowed. -/
def readFields? : (fuel depth : Nat) → (group : Option Nat) → Bytes → Option (List Field × Bytes)
  | 0, _, _, _ => none
  | _ + 1, _, group, [] => if group.isNone then some ([], []) else none
  | fuel + 1, depth, group, bytes => do
    let (k, rest) ← readBelow? UInt32.size bytes
    let number := k / 8
    if number = 0 then none
    else if k % 8 = 4 then
      if group = some number then some ([], rest) else none
    else if group.isSome && depth = 0 then none
    else
      let (content, rest) ←
        if k % 8 = 3 then
          (readFields? fuel (depth - 1) (some number) rest).map fun (_, rest) => (.group, rest)
        else content? (k % 8) rest
      let (fields, rest) ← readFields? fuel depth group rest
      return (⟨number, content⟩ :: fields, rest)

/-- The fields that are written in bytes. -/
def decodeFields? (depth : Nat) (bytes : Bytes) : Option (List Field) :=
  (readFields? (bytes.length + 1) depth none bytes).map (·.1)

end Rollout.Wire
