import Rollout.Host.FoldingTable

/-!
# Folding the characters of a host

The characters of a host are folded before it is looked up: capital letters become small, letters in
another form become plain, some characters are left out, and most signs and all unassigned code points
may not stand in a host at all.
-/

namespace Rollout.Host

open Text

/-- Characters from `first` to `last`, of which one in `step` becomes one from `target` on. -/
structure Shift where
  first : Nat
  last : Nat
  step : Nat
  target : Nat

/-- The shift that a word of the table stands for. -/
def Shift.ofWord (word : List Char) : Shift :=
  let (range, target) := word.span fun c => c ≠ '>' ∧ c ≠ '/'
  let (first, last) := Ranges.ofWord range
  ⟨first, last, if target.head? = some '/' then 2 else 1, hexNumber (target.drop 1)⟩

def Shift.contains (s : Shift) (n : Nat) : Bool :=
  s.first ≤ n && n ≤ s.last && (n - s.first) % s.step == 0

def shifts : List Shift := (words shiftTable).map fun word => Shift.ofWord word.toList

/-- The single characters of a table with their texts; `next` is the one that the next word is for. -/
def textsOf (next : Nat) : List String → List (Nat × List Char)
  | [] => []
  | word :: rest =>
    match word.toList with
    | '@' :: code => textsOf (hexNumber code) rest
    | cs =>
      (next, (pieces (· == '+') cs).map fun p => Char.ofNat (hexNumber p))
        :: textsOf (next + 1) rest

def texts : List (Nat × List Char) := textTables.flatMap fun table => textsOf 0 (words table)

def ignored : Ranges := .ofTable ignoredTable

def kept : Ranges := .ofTable keptTable

/-- What a character becomes, if it may stand in a host. -/
def fold? (c : Char) : Option (List Char) :=
  let n := c.toNat
  if n < 0x80 then some [c.toLower]
  else
    match shifts.find? fun s => s.contains n with
    | some s => some [Char.ofNat (s.target + (n - s.first))]
    | none =>
      match texts.find? fun t => t.1 = n with
      | some (_, text) => some text
      | none =>
        if ignored.contains c then some []
        else if kept.contains c then some [c]
        else none

/-- Whether a character stays as it is. -/
def isFolded (c : Char) : Bool := fold? c == some [c]

end Rollout.Host
