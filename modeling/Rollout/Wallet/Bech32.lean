import Rollout.Text.Utf8

/-!
# Bech32

An address is written as a readable part, a `1`, and the bytes in groups of five bits with a checksum
of six more groups. The readable part here consists of lower case letters and digits.
-/

namespace Rollout.Bech32

/-- The character of a group of five bits. -/
def charset : List Char := "qpzry9x8gf2tvdw0s3jn54khce6mua7l".toList

def groupChar (n : Nat) : Char := charset.getD n 'q'

/-- Bytes in groups of five bits, the last one filled up with clear bits. -/
def groups (bytes : Bytes) : List Nat :=
  let count := (8 * bytes.length + 4) / 5
  let n := bytes.foldl (fun n b => n * 256 + b.toNat) 0 * Nat.pow 2 (5 * count - 8 * bytes.length)
  (List.range count).map fun i => n / Nat.pow 32 (count - 1 - i) % 32

def generators : List Nat := [0x3B6A57B2, 0x26508E6D, 0x1EA119FA, 0x3D4233DD, 0x2A1462B3]

/-- The remainder of groups as a polynomial. -/
def polymod (values : List Nat) : Nat :=
  values.foldl (fun c v =>
    let shifted := c % Nat.pow 2 25 * 32 ^^^ v
    (generators.zipIdx.filter fun (_, i) => (c / Nat.pow 2 25).testBit i).foldl
      (fun c (g, _) => c ^^^ g) shifted) 1

/-- The readable part in groups: the high bits, a zero, and the low bits. -/
def expand (readable : List Char) : List Nat :=
  readable.map (·.toNat / 32) ++ 0 :: readable.map (·.toNat % 32)

def checksum (readable : List Char) (values : List Nat) : List Nat :=
  let n := polymod (expand readable ++ values ++ List.replicate 6 0) ^^^ 1
  (List.range 6).map fun i => n / Nat.pow 32 (5 - i) % 32

/-- Whether a readable part can stand in an address. -/
def isReadable (s : String) : Bool :=
  !s.isEmpty && s.toList.all fun c => ('a' ≤ c && c ≤ 'z') || ('0' ≤ c && c ≤ '9')

/-- The address of bytes, if the readable part can stand in one. -/
def encode? (readable : String) (bytes : Bytes) : Option String :=
  if isReadable readable then
    let cs := readable.toList
    let values := groups bytes
    some (String.ofList (cs ++ '1' :: (values ++ checksum cs values).map groupChar))
  else none

end Rollout.Bech32
