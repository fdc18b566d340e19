import Rollout.Json.Basic
import Rollout.Text.Digits

/-!
# Places in a configuration

A place is reached from the top by keys and indices, and is written `driver.retry.max_retries` or
`networks[0]`; a negative index counts from the end, and blanks may stand around an index. Putting a
value at a place makes the tables and lists on the way to it; a table that is put over a table is
merged into it key by key. What stands at other places stays as it is.
-/

namespace Rollout

inductive PlaceStep where
  | key (name : String)
  | index (n : Int)
deriving DecidableEq

/-- The steps from the top to a value. -/
abbrev Place := List PlaceStep

namespace Place

/-! ## Written form -/

def isNameChar (c : Char) : Bool := c.isAlphanum || c == '_' || c == '-'

/-- A text without the spaces and tabs at its ends. -/
def trimBlanks (cs : List Char) : List Char :=
  let isBlank (c : Char) : Bool := c == ' ' || c == '\t'
  ((cs.dropWhile isBlank).reverse.dropWhile isBlank).reverse

/-- An index: digits, perhaps after a minus sign, that fit 64 bits. -/
def index? (cs : List Char) : Option Int := do
  let n ← if cs.head? = some '+' then none else Text.readInt? cs
  if Text.isInt64 n then some n else none

/-- The steps after the first name. -/
def steps? : Nat → List Char → Option Place
  | 0, _ => none
  | _, [] => some []
  | fuel + 1, '.' :: cs =>
    let name := cs.takeWhile isNameChar
    if name.isEmpty then none
    else (steps? fuel (cs.dropWhile isNameChar)).map (.key (String.ofList name) :: ·)
  | fuel + 1, '[' :: cs => do
    let n ← index? (trimBlanks (cs.takeWhile (· ≠ ']')))
    match cs.dropWhile (· ≠ ']') with
    | ']' :: rest => return .index n :: (← steps? fuel rest)
    | _ => none
  | _, _ => none

/-- The place that is written in a text. -/
def parse? (s : String) : Option Place :=
  let cs := s.toList
  let name := cs.takeWhile isNameChar
  if name.isEmpty then none
  else
    (steps? (cs.length + 1) (cs.dropWhile isNameChar)).map (.key (String.ofList name) :: ·)

/-- The place that is written in a text, or the key that is the text itself. -/
def ofText (s : String) : Place := (parse? s).getD [.key s]

end Place

namespace Json

def fieldsOf : Json → List (String × Json)
  | .obj fs => fs
  | _ => []

def itemsOf : Json → List Json
  | .arr xs => xs
  | _ => []

/-- The value at a place. -/
def at? : Place → Json → Option Json
  | [], v => some v
  | .key k :: rest, .obj fs => (lookup fs k).bind (at? rest)
  | .index n :: rest, .arr xs =>
    let i := if n < 0 then n + xs.length else n
    if i < 0 then none else xs[i.toNat]?.bind (at? rest)
  | _, _ => none

mutual

/-- A value put over another one. -/
def overlay (base : Json) : Json → Json
  | .obj fs => .obj (overlayFields base.fieldsOf fs)
  | v => v

/-- Fields put over the fields of a table. -/
def overlayFields (base : List (String × Json)) : List (String × Json) → List (String × Json)
  | [] => base
  | (k, v) :: fs => overlayFields (insertEntry k (overlay ((lookup base k).getD .null) v) base) fs

end

/-- Changes the value at a place, which is `null` if there was none. -/
def change (f : Json → Json) : Place → Json → Json
  | [], v => f v
  | .key k :: rest, v =>
    let fs := v.fieldsOf
    .obj (insertEntry k (change f rest ((lookup fs k).getD .null)) fs)
  | .index n :: rest, v =>
    let xs := v.itemsOf
    let i := if n < 0 then n + xs.length else n
    let xs := List.replicate (-i).toNat .null ++ xs
    let xs := xs ++ List.replicate (i.toNat + 1 - xs.length) .null
    .arr (xs.set i.toNat (change f rest (xs.getD i.toNat .null)))

/-- Puts a value at a place. -/
def put (v : Json) (place : Place) (new : Json) : Json := v.change (fun old => old.overlay new) place

end Json

end Rollout
