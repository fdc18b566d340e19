import Rollout.Text.Blank
import Rollout.Text.Digits

/-!
# Sets of characters

A large set of characters is a list of ranges of code points. A table of ranges is written as words:
the first and the last code point of a range in hexadecimal digits, with a dash between them, or one
code point alone.
-/

namespace Rollout.Text

/-- Ranges of code points, both ends included. -/
abbrev Ranges := List (Nat × Nat)

/-- The number that a run of hexadecimal digits stands for. -/
def hexNumber (cs : List Char) : Nat := (readHex? cs).getD 0

namespace Ranges

/-- The range that a word stands for. -/
def ofWord (word : List Char) : Nat × Nat :=
  match word.span (· ≠ '-') with
  | (first, '-' :: last) => (hexNumber first, hexNumber last)
  | (only, _) => (hexNumber only, hexNumber only)

/-- The ranges that are written in a table. -/
def ofTable (table : String) : Ranges := (words table).map fun word => ofWord word.toList

def contains (rs : Ranges) (c : Char) : Bool :=
  rs.any fun (first, last) => first ≤ c.toNat && c.toNat ≤ last

end Ranges

end Rollout.Text
