import Rollout.Json.Basic
import Rollout.Etf

/-!
# Typed reading of structured values

A `Decode α` reads a value of a domain type from a structured value. Records are described by a
`Shape`, one field after the other. A record is an object, whose unknown fields are ignored, or an
array that lists the fields in the order of the shape.

Of several faults the one met first counts: fields are visited in the order of the value, and a
missing field is noticed after all present ones were read. `Shape` therefore collects every fault
with its position and reports the one at the least position.
-/

namespace Rollout

/-- Why a value is not read as a domain type. -/
inductive DecodeFault where
  | mismatch
  | coin (fault : CoinFault)
  | bundle (fault : BundleFault)
deriving DecidableEq

/-- A reader of a domain type. -/
abbrev Decode (α : Type) := Json → Except DecodeFault α

namespace Decode

def text : Decode String
  | .str s => .ok s
  | _ => .error .mismatch

def bool : Decode Bool
  | .bool b => .ok b
  | _ => .error .mismatch

/-- A whole number from zero up to below `bound`. -/
def below (bound : Nat) : Decode Nat
  | .int (.ofNat n) => if n < bound then .ok n else .error .mismatch
  | _ => .error .mismatch

def uint64 : Decode UInt64 := fun v => (below UInt64.size v).map UInt64.ofNat

def uint32 : Decode UInt32 := fun v => (below UInt32.size v).map UInt32.ofNat

def int64 : Decode Int64
  | .int n => if Text.isInt64 n then .ok (Int64.ofInt n) else .error .mismatch
  | _ => .error .mismatch

/-- A double; a whole number is rounded to one. -/
def double : Decode Float
  | .real x => .ok x
  | .int n => .ok (Float.ofInt n)
  | _ => .error .mismatch

/-- An amount, written as text. -/
def amount : Decode Amount
  | .str s =>
    match Amount.parse? s with
    | some a => .ok a
    | none => .error .mismatch
  | _ => .error .mismatch

/-- A message of its own, taken as it is. -/
def payload : Decode Json := fun v => .ok v.canonical

def option (decode : Decode α) : Decode (Option α)
  | .null => .ok none
  | v => (decode v).map some

def list (decode : Decode α) : Decode (List α)
  | .arr xs => xs.mapM decode
  | _ => .error .mismatch

/-- A pair, written as an array of two. -/
def pair (first : Decode α) (second : Decode β) : Decode (α × β)
  | .arr [a, b] => do return (← first a, ← second b)
  | _ => .error .mismatch

/-- One of several words. A word may be the one key of an object, with nothing under it. -/
def word (words : List (String × α)) : Decode α
  | .str s | .obj [(s, .null)] =>
    match valueOf? s words with
    | some a => .ok a
    | none => .error .mismatch
  | _ => .error .mismatch

end Decode

/-- The fields of a value that is read as a record. -/
structure Record where
  fields : List (String × Json)
  listed : Bool

/-- Faults with the positions at which they were met. -/
abbrev Faults := List (Nat × DecodeFault)

namespace Record

/-- The position and the value of a field. -/
def find? (r : Record) (name : String) : Option (Nat × Json) :=
  match r.fields.findIdx? fun f => f.1 = name, Json.lookup r.fields name with
  | some i, some v => some (i, v)
  | _, _ => none

/-- A field that is not there. -/
def missing (r : Record) : Faults := [(r.fields.length, .mismatch)]

/-- Reads a field; what it is if it is not there is given. -/
def fieldOr (r : Record) (absent : Except Faults α) (name : String) (decode : Decode α) :
    Except Faults α :=
  match r.find? name with
  | some (i, v) => (decode v).mapError fun fault => [(i, fault)]
  | none => absent

end Record

/-- A description of the fields of a record. -/
structure Shape (α : Type) where
  names : List String
  read : Record → Except Faults α

namespace Shape

/-- Applies a function that was read to an argument that was read, keeping all faults. -/
def merge : Except Faults (α → β) → Except Faults α → Except Faults β
  | .ok f, .ok a => .ok (f a)
  | .ok _, .error e => .error e
  | .error e, .ok _ => .error e
  | .error e, .error e' => .error (e ++ e')

/-- A record without fields. -/
def of (a : α) : Shape α := ⟨[], fun _ => .ok a⟩

/-- Adds a field to a shape. -/
def add (s : Shape (α → β)) (name : String) (read : Record → Except Faults α) : Shape β :=
  ⟨s.names ++ [name], fun r => merge (s.read r) (read r)⟩

/-- A field that has to be there. -/
def field (s : Shape (α → β)) (name : String) (decode : Decode α) : Shape β :=
  s.add name fun r => r.fieldOr (.error r.missing) name decode

/-- A field that may be `null`; an object may leave it out, a list may not. -/
def nullable (s : Shape (Option α → β)) (name : String) (decode : Decode α) : Shape β :=
  s.add name fun r =>
    r.fieldOr (if r.listed then .error r.missing else .ok none) name (Decode.option decode)

/-- A field that has a value if it is left out. -/
def fieldD (s : Shape (α → β)) (name : String) (decode : Decode α) (default : α) : Shape β :=
  s.add name fun r => r.fieldOr (.ok default) name decode

/-- A field that may be `null` or left out. -/
def optional (s : Shape (Option α → β)) (name : String) (decode : Decode α) : Shape β :=
  s.fieldD name (Decode.option decode) none

/-- The fault that was met first. -/
def first : Faults → DecodeFault
  | [] => .mismatch
  | f :: rest => (rest.foldl (fun met next => if met.1 ≤ next.1 then met else next) f).2

/-- Reads a record from the given fields. -/
def readRecord (s : Shape α) (r : Record) : Except DecodeFault α := (s.read r).mapError first

/-- Reads a record from an object. -/
def decodeObject (s : Shape α) : Decode α
  | .obj fields => s.readRecord ⟨fields, false⟩
  | _ => .error .mismatch

/-- Reads a record from an object or from a list of its fields. -/
def decode (s : Shape α) : Decode α
  | .obj fields => s.readRecord ⟨fields, false⟩
  | .arr items => do
    let a ← s.readRecord ⟨s.names.zip items, true⟩
    if s.names.length < items.length then .error .mismatch else .ok a
  | _ => .error .mismatch

/-- Reads a record from an object or from a list that holds at least its fields. -/
def decodeLong (s : Shape α) : Decode α
  | .obj fields => s.readRecord ⟨fields, false⟩
  | .arr items => s.readRecord ⟨s.names.zip items, true⟩
  | _ => .error .mismatch

end Shape

/-- How the simple values of a record, and records in it, are read. -/
structure Readers where
  text : Decode String
  bool : Decode Bool
  uint32 : Decode UInt32
  uint64 : Decode UInt64
  double : Decode Float
  record : {α : Type} → Shape α → Decode α

/-- Values have to be of the type that is asked for. -/
def Readers.strict : Readers where
  text := Decode.text
  bool := Decode.bool
  uint32 := Decode.uint32
  uint64 := Decode.uint64
  double := Decode.double
  record := Shape.decode

/-- A choice that is written as an object whose one key names the alternative; the value of the key
is an object with the fields of the alternative. -/
def Decode.tagged (alternatives : List (String × Shape α)) : Decode α
  | .obj [(tag, v)] =>
    match valueOf? tag alternatives with
    | some shape => shape.decodeObject v
    | none => .error .mismatch
  | _ => .error .mismatch

end Rollout
