import Rollout.Decimal.Binary64
import Rollout.SortedMap

/-!
# Structured values

A `Json` value is what a message, a response or a document holds. An object keeps its fields in the
order in which they are read. A value that is a message of its own is `canonical`: its fields are
sorted by key, no key occurs twice, and no number is infinite or undefined.
-/

namespace Rollout

/-- A structured value. Whole numbers and doubles are different values, also when they are equal
numbers. -/
inductive Json where
  | null
  | bool (value : Bool)
  | int (value : Int)
  | real (value : Float)
  | str (value : String)
  | arr (items : List Json)
  | obj (fields : List (String × Json))
deriving Inhabited

namespace Json

/-! ## Comparison -/

mutual

/-- Whether two values are the same; doubles are compared as numbers, so the two zeros agree. -/
def same : Json → Json → Bool
  | .null, .null => true
  | .bool a, .bool b => a == b
  | .int a, .int b => a == b
  | .real a, .real b => a == b
  | .str a, .str b => a == b
  | .arr xs, .arr ys => sameItems xs ys
  | .obj fs, .obj gs => sameFields fs gs
  | _, _ => false

/-- Whether two lists hold the same values in the same order. -/
def sameItems : List Json → List Json → Bool
  | [], [] => true
  | x :: xs, y :: ys => same x y && sameItems xs ys
  | _, _ => false

/-- Whether two lists hold the same fields in the same order. -/
def sameFields : List (String × Json) → List (String × Json) → Bool
  | [], [] => true
  | (k, x) :: fs, (l, y) :: gs => k == l && same x y && sameFields fs gs
  | _, _ => false

end

instance : BEq Json := ⟨same⟩

/-! ## Canonical objects -/

/-- Sorts fields by key; of several fields with one key the last one stays. -/
def sortFields (fields : List (String × Json)) : List (String × Json) :=
  fields.foldl (fun sorted f => insertEntry f.1 f.2 sorted) []

/-- The object with the given fields, sorted. -/
def object (fields : List (String × Json)) : Json := .obj (sortFields fields)

mutual

/-- The message that a value stands for: sorted fields, and `null` for a number that is not
finite. -/
def canonical : Json → Json
  | .real x => if Decimal.isFinite x then .real x else .null
  | .arr xs => .arr (canonicalItems xs)
  | .obj fs => .obj (sortFields (canonicalFields fs))
  | v => v

def canonicalItems : List Json → List Json
  | [] => []
  | x :: xs => canonical x :: canonicalItems xs

def canonicalFields : List (String × Json) → List (String × Json)
  | [] => []
  | (k, v) :: fs => (k, canonical v) :: canonicalFields fs

end

/-- The value of the first field with the given key. -/
def lookup (fields : List (String × Json)) (key : String) : Option Json := valueOf? key fields

/-- A field of an object; nothing of any other value. -/
def field? (v : Json) (key : String) : Option Json :=
  match v with
  | .obj fs => lookup fs key
  | _ => none

/-- A value that may be missing. -/
def ofOption (encode : α → Json) : Option α → Json
  | none => .null
  | some a => encode a

/-- A list of values. -/
def ofList (encode : α → Json) (xs : List α) : Json := .arr (xs.map encode)

end Json

end Rollout
