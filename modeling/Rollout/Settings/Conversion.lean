import Rollout.Settings.Basic

/-!
# Conversions

A configuration does not say of which type its values are, as variables hold nothing but text. A value
is read as the type that is asked for: a text is the plain text of a truth value or a number, a truth
value counts as one or zero, numbers are rounded, and a text counts as what it spells.
-/

namespace Rollout.Conversion

def isYes (s : String) : Bool := ["true", "on", "yes"].contains (s.map Char.toLower)

def isNo (s : String) : Bool := ["false", "off", "no"].contains (s.map Char.toLower)

def orMismatch : Option α → Except DecodeFault α
  | some a => .ok a
  | none => .error .mismatch

def text : Decode String
  | .str s => .ok s
  | .bool b => .ok (if b then "true" else "false")
  | .int n => .ok (toString n)
  | .real x => .ok (Decimal.plainText x)
  | _ => .error .mismatch

def bool : Decode Bool
  | .bool b => .ok b
  | .int n => .ok (n ≠ 0)
  | .real x => .ok (x != 0.0)
  | .str s =>
    if isYes s ∨ s = "1" then .ok true
    else if isNo s ∨ s = "0" then .ok false
    else .error .mismatch
  | _ => .error .mismatch

/-- A natural number of 64 bits. -/
def natural : Decode Nat
  | .int n => if 0 ≤ n ∧ n < UInt64.size then .ok n.toNat else .error .mismatch
  | .real x => .ok (Decimal.nearestWithin 0 (UInt64.size - 1) x).toNat
  | .bool b => .ok b.toNat
  | .str s =>
    if isYes s then .ok 1
    else if isNo s then .ok 0
    else orMismatch ((Text.readUnsigned? s.toList).filter (· < UInt64.size))
  | _ => .error .mismatch

def uint64 : Decode UInt64 := fun v => (natural v).map UInt64.ofNat

def uint32 : Decode UInt32 := fun v => do
  let n ← natural v
  if n < UInt32.size then return UInt32.ofNat n else .error .mismatch

def double : Decode Float
  | .real x => .ok x
  | .int n => .ok (Float.ofInt n)
  | .bool b => .ok (if b then 1.0 else 0.0)
  | .str s =>
    if isYes s then .ok 1.0
    else if isNo s then .ok 0.0
    else orMismatch (Decimal.readLiteral? s.toList)
  | _ => .error .mismatch

/-- Values are converted to the type that is asked for. -/
def readers : Readers where
  text := text
  bool := bool
  uint32 := uint32
  uint64 := uint64
  double := double
  record := Shape.decodeLong

end Rollout.Conversion
