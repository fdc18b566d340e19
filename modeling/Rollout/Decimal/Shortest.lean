import Rollout.Decimal.Binary64
import Rollout.Text.Digits

/-!
# Shortest decimal texts

The digits of a double are the fewest that read back as the same double; of two candidates with as
few digits the one nearer to the exact value is taken. Which of two equally near ones is taken is up
to the format that the digits are for.

The search is exact. All reals from halfway to the lower neighbour up to halfway to the upper
neighbour read back as the double (the two ends only if its mantissa is even). For one, two, three …
digits the two points of that decimal grid around the exact value are tried.
-/

namespace Rollout.Decimal

/-- A decimal `digits · 10 ^ exponent`. -/
structure Expansion where
  digits : Nat
  exponent : Int
deriving Repr, DecidableEq

/-- Which of two decimals that are equally near to a value is taken. -/
inductive Tie where
  | toEven
  | up
deriving Repr, DecidableEq

/-- Whether a tie between `below` and the number after it goes to the latter. -/
def Tie.goesUp : Tie → Nat → Bool
  | .toEven, below => below % 2 == 1
  | .up, _ => true

/-- The interval of reals that read back as one double, over a common denominator. -/
structure Interval where
  low : Nat
  value : Nat
  high : Nat
  denominator : Nat
  closed : Bool

/-- The interval that belongs to a positive double. The gap below a power of two is half as wide as
the gap above it, the smallest powers excepted. -/
def Binary64.interval (b : Binary64) : Interval :=
  let lowGap := if b.mantissa = Nat.pow 2 52 ∧ -1074 < b.exponent then 1 else 2
  let closed := b.mantissa % 2 == 0
  match b.exponent - 2 with
  | .ofNat e =>
    let scale := Nat.pow 2 e
    ⟨(4 * b.mantissa - lowGap) * scale, 4 * b.mantissa * scale, (4 * b.mantissa + 2) * scale, 1,
      closed⟩
  | .negSucc e =>
    ⟨4 * b.mantissa - lowGap, 4 * b.mantissa, 4 * b.mantissa + 2, Nat.pow 2 (e + 1), closed⟩

/-- `num / den * 10 ^ (-e)` as a fraction. -/
def scaled (num den : Nat) : Int → Nat × Nat
  | .ofNat e => (num, den * Nat.pow 10 e)
  | .negSucc e => (num * Nat.pow 10 (e + 1), den)

/-- How often `num` has to be multiplied by ten to reach `den`, within the fuel. -/
def leadingZeros (num den : Nat) : Nat → Nat
  | 0 => 0
  | fuel + 1 => if den ≤ num then 0 else leadingZeros (num * 10) den fuel + 1

/-- The `k` with `10 ^ (k - 1) ≤ num / den < 10 ^ k`. -/
def decade (num den : Nat) : Int :=
  if den ≤ num then (Text.numeral (num / den)).length
  else 1 - (leadingZeros num den 400 : Int)

namespace Interval

/-- Whether the grid point `d · 10 ^ e` reads back as the double. -/
def contains (i : Interval) (d : Nat) (e : Int) : Bool :=
  let (low, den) := scaled i.low i.denominator e
  let (high, _) := scaled i.high i.denominator e
  if i.closed then low ≤ d * den && d * den ≤ high else low < d * den && d * den < high

/-- The point of the grid of step `10 ^ e` next to the value that reads back as the double. -/
def gridPoint? (i : Interval) (tie : Tie) (e : Int) : Option Nat :=
  let (num, den) := scaled i.value i.denominator e
  let below := num / den
  let above := below + 1
  let rest := num % den
  if i.contains below e then
    if i.contains above e then
      if 2 * rest < den then some below
      else if den < 2 * rest then some above
      else if tie.goesUp below then some above else some below
    else some below
  else if i.contains above e then some above
  else none

/-- The first grid with a hit, starting at the step `10 ^ e` and going down. -/
def search (i : Interval) (tie : Tie) (e : Int) : Nat → Expansion
  | 0 => ⟨(scaled i.value i.denominator e).1 / (scaled i.value i.denominator e).2, e⟩
  | fuel + 1 =>
    match i.gridPoint? tie e with
    | some d => ⟨d, e⟩
    | none => search i tie (e - 1) fuel

end Interval

/-- Takes zeros at the end of the digits into the exponent. -/
def Expansion.normal (d : Expansion) : Nat → Expansion
  | 0 => d
  | fuel + 1 =>
    if d.digits ≠ 0 ∧ d.digits % 10 = 0 then
      Expansion.normal ⟨d.digits / 10, d.exponent + 1⟩ fuel
    else d

/-- The shortest decimal that reads back as a positive double. -/
def Binary64.shortest (b : Binary64) (tie : Tie) : Expansion :=
  let i := b.interval
  let k := decade i.value i.denominator
  (i.search tie (k - 1) 17).normal 20

/-- Digits with a point put in so that `places` of them stand after it. -/
def positional (digits : List Char) (places : Nat) : List Char :=
  if places = 0 then digits
  else
    let padded := List.replicate (places + 1 - digits.length) '0' ++ digits
    padded.take (padded.length - places) ++ '.' :: padded.drop (padded.length - places)

/-- A decimal written without an exponent; there is no point if there is no fraction. -/
def Expansion.plain (d : Expansion) : List Char :=
  match d.exponent with
  | .ofNat e => Text.numeral d.digits ++ List.replicate e '0'
  | .negSucc e => positional (Text.numeral d.digits) (e + 1)

/-- A decimal written as one digit, a fraction if there are more digits, and a signed exponent. -/
def Expansion.scientific (d : Expansion) : List Char :=
  let ds := Text.numeral d.digits
  let e := d.exponent + (ds.length : Int) - 1
  let mark := if e < 0 then ['e', '-'] else ['e', '+']
  ds.take 1 ++ (if 1 < ds.length then '.' :: ds.drop 1 else []) ++ mark ++ Text.numeral e.natAbs

/-- A double in plain notation with the fewest digits: `0.025`, `5`, `inf`. A tie goes up. -/
def plainText (x : Float) : String :=
  match Reading.of x with
  | .notANumber => "NaN"
  | .infinite negative => if negative then "-inf" else "inf"
  | .finite b =>
    let sign := if b.negative then ['-'] else []
    String.ofList (sign ++ if b.mantissa = 0 then ['0'] else (b.shortest .up).plain)

/-- A fraction rounded to `places` decimals, a tie to the even neighbour. -/
def Binary64.fixed (b : Binary64) (places : Nat) : List Char :=
  let (num, den) := b.fraction
  let n := num * Nat.pow 10 places
  let below := n / den
  let rest := n % den
  let digits :=
    if 2 * rest < den then below
    else if den < 2 * rest then below + 1
    else if Tie.toEven.goesUp below then below + 1 else below
  (if b.negative then ['-'] else []) ++ positional (Text.numeral digits) places

/-- A double with a fixed number of decimals. -/
def fixedText (places : Nat) (x : Float) : String :=
  match Reading.of x with
  | .notANumber => "NaN"
  | .infinite negative => if negative then "-inf" else "inf"
  | .finite b => String.ofList (b.fixed places)

end Rollout.Decimal
