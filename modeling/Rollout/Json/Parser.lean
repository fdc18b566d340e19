import Rollout.Json.Basic
import Rollout.Decimal.Reader

/-!
# Reading structured values

The reader takes one value with blanks around it and nothing after it. It refuses containers nested
deeper than a limit, control characters and halves of surrogate pairs in strings, numbers with
leading zeros, and numbers beyond the doubles. Objects come out sorted by key, and the last of
several fields with one key stays.

A whole number that fits 64 bits, signed or unsigned, is an integer; `-0` and all other numbers are
doubles. The digits of such a number make a 64-bit significand, digits beyond it are dropped, and
the significand is scaled by one power of ten, each of the steps being rounded to a double.
-/

namespace Rollout.Json

/-- The blanks between the tokens of a text. -/
def isSpace (c : Char) : Bool := c == ' ' || c == '\t' || c == '\n' || c == '\r'

def skipSpace (cs : List Char) : List Char := cs.dropWhile isSpace

/-! ## Strings -/

/-- Four hexadecimal digits as a number. -/
def readUnit? : List Char → Option (Nat × List Char)
  | a :: b :: c :: d :: rest => (Text.readHex? [a, b, c, d]).map (·, rest)
  | _ => none

/-- The character that an escape names; the text starts after the backslash. A character beyond
the basic plane is written as a pair of units. -/
def readEscape? : List Char → Option (Char × List Char)
  | '"' :: rest => some ('"', rest)
  | '\\' :: rest => some ('\\', rest)
  | '/' :: rest => some ('/', rest)
  | 'b' :: rest => some ('\x08', rest)
  | 'f' :: rest => some ('\x0c', rest)
  | 'n' :: rest => some ('\n', rest)
  | 'r' :: rest => some ('\r', rest)
  | 't' :: rest => some ('\t', rest)
  | 'u' :: rest => do
    let (high, rest) ← readUnit? rest
    if 0xD800 ≤ high ∧ high < 0xDC00 then
      match rest with
      | '\\' :: 'u' :: rest =>
        let (low, rest) ← readUnit? rest
        if 0xDC00 ≤ low ∧ low < 0xE000 then
          some (Char.ofNat (0x10000 + (high - 0xD800) * 0x400 + (low - 0xDC00)), rest)
        else none
      | _ => none
    else if 0xDC00 ≤ high ∧ high < 0xE000 then none
    else some (Char.ofNat high, rest)
  | _ => none

/-- The characters of a string up to its closing quote, gathered in reverse. -/
def readString? (fuel : Nat) (gathered : List Char) (cs : List Char) :
    Option (String × List Char) :=
  match fuel, cs with
  | 0, _ => none
  | _, [] => none
  | _ + 1, '"' :: rest => some (String.ofList gathered.reverse, rest)
  | fuel + 1, '\\' :: rest => do
    let (c, rest) ← readEscape? rest
    readString? fuel (c :: gathered) rest
  | fuel + 1, c :: rest => if c.toNat < 0x20 then none else readString? fuel (c :: gathered) rest

/-! ## Numbers -/

/-- The largest significand. -/
def significandLimit : Nat := UInt64.size - 1

/-- A significand scaled by a power of ten; nothing if that is beyond the doubles. -/
def scaleDouble? (significand : Float) (exponent : Int) : Nat → Option Float
  | 0 => some 0.0
  | fuel + 1 =>
    if exponent.natAbs ≤ 308 then
      let power := Float.ofScientific 1 false exponent.natAbs
      if 0 ≤ exponent then
        let x := significand * power
        if Decimal.isFinite x then some x else none
      else some (significand / power)
    else if significand == 0.0 then some significand
    else if 0 ≤ exponent then none
    else scaleDouble? (significand / Float.ofScientific 1 false 308) (exponent + 308) fuel

/-- Takes digits into a significand until the next one would not fit; gives the digits left. -/
def gatherDigits (significand : Nat) : List Char → Nat × List Char
  | [] => (significand, [])
  | c :: cs =>
    let next := significand * 10 + (c.toNat - 48)
    if significandLimit < next then (significand, c :: cs) else gatherDigits next cs

/-- The double of a number's digits before the point, digits after it and exponent. -/
def doubleOf? (whole fraction : List Char) (exponent : Int) : Option Float :=
  let (significand, dropped) := gatherDigits 0 whole
  let (significand, unread) := gatherDigits significand fraction
  let places := fraction.length - unread.length
  let exponent := exponent + dropped.length - places
  scaleDouble? (Float.ofNat significand) (max exponent (-1000000)) 4000

/-- Takes a minus sign, if there is one. -/
def readSign : List Char → Bool × List Char
  | '-' :: rest => (true, rest)
  | cs => (false, cs)

/-- Reads a point with digits after it, if there is a point. -/
def readFraction? : List Char → Option (Option (List Char) × List Char)
  | '.' :: rest =>
    let fraction := rest.takeWhile Char.isDigit
    if fraction.isEmpty then none else some (some fraction, rest.dropWhile Char.isDigit)
  | cs => some (none, cs)

/-- Takes the sign of an exponent, if there is one. -/
def readExponentSign : List Char → Bool × List Char
  | '+' :: rest => (false, rest)
  | cs => readSign cs

/-- Reads an exponent, if there is one. -/
def readExponent? : List Char → Option (Option Int × List Char)
  | [] => some (none, [])
  | c :: rest =>
    if c = 'e' ∨ c = 'E' then
      let (minus, rest) := readExponentSign rest
      let digits := rest.takeWhile Char.isDigit
      if digits.isEmpty then none
      else
        let n : Int := min (Text.digitsValue digits) Int32.maxValue.toInt
        some (some (if minus then -n else n), rest.dropWhile Char.isDigit)
    else some (none, c :: rest)

/-- The number that is made of its digits before the point, digits after it and exponent. -/
def numberOf? (negative : Bool) (whole : List Char) (fraction : Option (List Char))
    (exponent : Option Int) : Option Json :=
  let n := Text.digitsValue whole
  let asInteger := fraction.isNone && exponent.isNone
  if asInteger && !negative && n < UInt64.size then some (.int n)
  else if asInteger && negative && 0 < n && n ≤ Nat.pow 2 63 then some (.int (-(n : Int)))
  else
    (doubleOf? whole (fraction.getD []) (exponent.getD 0)).map fun x =>
      .real (if negative then -x else x)

/-- Reads a number. -/
def readNumber? (cs : List Char) : Option (Json × List Char) :=
  let (negative, cs) := readSign cs
  let whole := cs.takeWhile Char.isDigit
  if whole.isEmpty || (whole.head? == some '0' && whole.length != 1) then none
  else do
    let (fraction, cs) ← readFraction? (cs.dropWhile Char.isDigit)
    let (exponent, cs) ← readExponent? cs
    let v ← numberOf? negative whole fraction exponent
    return (v, cs)

/-! ## Values -/

mutual

/-- Reads one value; `depth` containers may still be opened. -/
def readValue? (fuel depth : Nat) (cs : List Char) : Option (Json × List Char) :=
  match fuel with
  | 0 => none
  | fuel + 1 =>
    match skipSpace cs with
    | 'n' :: 'u' :: 'l' :: 'l' :: rest => some (.null, rest)
    | 't' :: 'r' :: 'u' :: 'e' :: rest => some (.bool true, rest)
    | 'f' :: 'a' :: 'l' :: 's' :: 'e' :: rest => some (.bool false, rest)
    | '"' :: rest => do
      let (s, rest) ← readString? (rest.length + 1) [] rest
      return (.str s, rest)
    | '[' :: rest =>
      match depth with
      | 0 => none
      | depth + 1 =>
        match skipSpace rest with
        | ']' :: rest => some (.arr [], rest)
        | rest => readItems? fuel depth [] rest
    | '\x7b' :: rest =>
      match depth with
      | 0 => none
      | depth + 1 =>
        match skipSpace rest with
        | '\x7d' :: rest => some (.obj [], rest)
        | rest => readFields? fuel depth [] rest
    | rest => readNumber? rest

/-- Reads the items of an array up to its end; the items before are given in reverse. -/
def readItems? (fuel depth : Nat) (items : List Json) (cs : List Char) :
    Option (Json × List Char) :=
  match fuel with
  | 0 => none
  | fuel + 1 => do
    let (v, rest) ← readValue? fuel depth cs
    match skipSpace rest with
    | ',' :: rest => readItems? fuel depth (v :: items) rest
    | ']' :: rest => some (.arr (v :: items).reverse, rest)
    | _ => none

/-- Reads the fields of an object up to its end; the fields before are given in reverse. -/
def readFields? (fuel depth : Nat) (fields : List (String × Json)) (cs : List Char) :
    Option (Json × List Char) :=
  match fuel with
  | 0 => none
  | fuel + 1 =>
    match skipSpace cs with
    | '"' :: rest => do
      let (k, rest) ← readString? (rest.length + 1) [] rest
      match skipSpace rest with
      | ':' :: rest =>
        let (v, rest) ← readValue? fuel depth rest
        match skipSpace rest with
        | ',' :: rest => readFields? fuel depth ((k, v) :: fields) rest
        | '\x7d' :: rest => some (.obj (sortFields ((k, v) :: fields).reverse), rest)
        | _ => none
      | _ => none
    | _ => none

end

/-- Reads a text that holds one value, with containers nested up to the given depth. -/
def parseNested? (depth : Nat) (s : String) : Option Json :=
  let cs := s.toList
  match readValue? (2 * cs.length + 2) depth cs with
  | some (v, rest) => if (skipSpace rest).isEmpty then some v else none
  | none => none

/-- Reads a text that holds one value, with containers nested up to 127 deep. -/
def parse? (s : String) : Option Json := parseNested? 127 s

end Rollout.Json
