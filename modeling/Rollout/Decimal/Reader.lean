import Rollout.Decimal.Binary64
import Rollout.Text.Digits

/-!
# Reading decimal texts as doubles

A decimal text gives the double nearest to the number it names. Two grammars are read: plain
amounts (`digits . digits`, one of the two runs may be empty) and general floating point literals
with a sign, an exponent, or one of the words for infinity and for an undefined number.
-/

namespace Rollout.Decimal

/-- The double nearest to `mantissa · 10 ^ exponent`. Numbers beyond every double are settled from
the count of their digits, so a huge exponent costs nothing. -/
def nearestDouble (mantissa : Nat) (exponent : Int) : Float :=
  let magnitude := (Text.numeral mantissa).length + exponent
  if mantissa = 0 then 0.0
  else if 400 < magnitude then 1.0 / 0.0
  else if magnitude < -400 then 0.0
  else
    match exponent with
    | .ofNat e => Float.ofScientific mantissa false e
    | .negSucc e => Float.ofScientific mantissa true (e + 1)

/-- Reads `whole . fraction`, where the point and one of the two runs of digits may be missing;
gives the digits as one number with the count of those after the point. -/
def readPlain? (cs : List Char) : Option (Nat × Nat) :=
  let whole := cs.takeWhile Char.isDigit
  match cs.dropWhile Char.isDigit with
  | [] => if whole.isEmpty then none else some (Text.digitsValue whole, 0)
  | '.' :: fraction =>
    if fraction.all Char.isDigit && !(whole.isEmpty && fraction.isEmpty) then
      some (Text.digitsValue (whole ++ fraction), fraction.length)
    else none
  | _ => none

/-- Reads a plain amount. -/
def readAmount? (cs : List Char) : Option Float :=
  (readPlain? cs).map fun (digits, places) => nearestDouble digits (-(places : Int))

/-- Splits a text at its first exponent mark. -/
def splitExponent (cs : List Char) : List Char × Option (List Char) :=
  let isMark (c : Char) : Bool := c == 'e' || c == 'E'
  match cs.dropWhile fun c => !isMark c with
  | [] => (cs, none)
  | _ :: e => (cs.takeWhile fun c => !isMark c, some e)

/-- Reads the magnitude of a literal: a plain amount that may have an exponent, or a word. -/
def readMagnitude? (cs : List Char) : Option Float :=
  let word := String.ofList (cs.map Char.toLower)
  if word = "inf" || word = "infinity" then some (1.0 / 0.0)
  else if word = "nan" then some (0.0 / 0.0)
  else
    match splitExponent cs with
    | (plain, none) => readAmount? plain
    | (plain, some e) =>
      match readPlain? plain, Text.readInt? e with
      | some (digits, places), some e => some (nearestDouble digits (e - places))
      | _, _ => none

/-- Reads a floating point literal. -/
def readLiteral? : List Char → Option Float
  | '+' :: cs => readMagnitude? cs
  | '-' :: cs => (readMagnitude? cs).map fun x => -x
  | cs => readMagnitude? cs

end Rollout.Decimal
