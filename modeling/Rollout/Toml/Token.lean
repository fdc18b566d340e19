import Rollout.Toml.Basic
import Rollout.Decimal.Reader

/-!
# The small parts of documents

Readers of the parts that hold no other values: blanks and comments, strings, keys, numbers, dates
and times. Each takes the rest of a text and gives what it read with the rest after it.
-/

namespace Rollout.Toml

/-- A reader of a part of a text. -/
abbrev Reader (α : Type) := List Char → Option (α × List Char)

/-! ## Blanks, comments, line ends -/

def isBlankChar (c : Char) : Bool := c == ' ' || c == '\t'

def skipBlanks (cs : List Char) : List Char := cs.dropWhile isBlankChar

/-- Characters that may stand in comments and strings. -/
def isPrintable (c : Char) : Bool := c == '\t' || (0x20 ≤ c.toNat && c.toNat != 0x7F)

/-- Drops a comment, if there is one, up to the end of its line. -/
def skipComment : List Char → List Char
  | '#' :: cs => cs.dropWhile isPrintable
  | cs => cs

/-- Drops a line end. -/
def newline? : List Char → Option (List Char)
  | '\n' :: cs => some cs
  | '\r' :: '\n' :: cs => some cs
  | _ => none

/-- Drops blanks and a comment up to the end of the line or of the text. -/
def endLine? (cs : List Char) : Option (List Char) :=
  match skipComment (skipBlanks cs) with
  | [] => some []
  | cs => newline? cs

/-- Drops blanks, comments and line ends. -/
def skipLines : Nat → List Char → List Char
  | 0, cs => cs
  | fuel + 1, cs =>
    let cs := skipComment (skipBlanks cs)
    match newline? cs with
    | some cs => skipLines fuel cs
    | none => cs

/-! ## Strings -/

/-- A character given by a number of hexadecimal digits. -/
def codePoint? (digits : Nat) (cs : List Char) : Option (Char × List Char) := do
  if (cs.take digits).length != digits then none
  let n ← Text.readHex? (cs.take digits)
  if n < 0xD800 || (0xE000 ≤ n && n < 0x110000) then some (Char.ofNat n, cs.drop digits) else none

/-- The character that an escape names; the text starts after the backslash. -/
def escape? (edition : Edition) : Reader Char
  | 'b' :: cs => some ('\x08', cs)
  | 't' :: cs => some ('\t', cs)
  | 'n' :: cs => some ('\n', cs)
  | 'f' :: cs => some ('\x0c', cs)
  | 'r' :: cs => some ('\r', cs)
  | '"' :: cs => some ('"', cs)
  | '\\' :: cs => some ('\\', cs)
  | 'u' :: cs => codePoint? 4 cs
  | 'U' :: cs => codePoint? 8 cs
  | 'e' :: cs => if edition = .v11 then some ('\x1b', cs) else none
  | 'x' :: cs => if edition = .v11 then codePoint? 2 cs else none
  | _ => none

/-- The rest of a string on one line, gathered in reverse. -/
def basic? (edition : Edition) (fuel : Nat) (gathered : List Char) (cs : List Char) :
    Option (String × List Char) :=
  match fuel, cs with
  | 0, _ => none
  | _, [] => none
  | _ + 1, '"' :: cs => some (String.ofList gathered.reverse, cs)
  | fuel + 1, '\\' :: cs => do
    let (c, cs) ← escape? edition cs
    basic? edition fuel (c :: gathered) cs
  | fuel + 1, c :: cs => if isPrintable c then basic? edition fuel (c :: gathered) cs else none

/-- The rest of a string without escapes on one line. -/
def literal? (cs : List Char) : Option (String × List Char) :=
  let inside (c : Char) : Bool := isPrintable c && c != '\''
  match cs.dropWhile inside with
  | '\'' :: rest => some (String.ofList (cs.takeWhile inside), rest)
  | _ => none

/-- Drops blanks and line ends. -/
def skipWhite (cs : List Char) : List Char :=
  cs.dropWhile fun c => isBlankChar c || c == '\n' || c == '\r'

/-- Whether a text has only line ends of the allowed forms among its first characters of white
space. -/
def whiteIsClean : List Char → Bool
  | ' ' :: cs | '\t' :: cs | '\n' :: cs => whiteIsClean cs
  | '\r' :: '\n' :: cs => whiteIsClean cs
  | '\r' :: _ => false
  | _ => true

/-- A line end in a string of several lines, in reverse. In the first edition all line ends are the
same character. -/
def lineEnd? (edition : Edition) : Reader (List Char)
  | '\n' :: cs => some (['\n'], cs)
  | '\r' :: '\n' :: cs => some (if edition = .v11 then ['\n', '\r'] else ['\n'], cs)
  | _ => none

/-- Up to two quotes that end a string of several lines together with the three closing ones. -/
def closing? (quote : Char) (cs : List Char) : Option (List Char × List Char) :=
  let quotes := cs.takeWhile (· == quote)
  if quotes.length < 3 then none
  else
    let inside := min (quotes.length - 3) 2
    some (List.replicate inside quote, cs.drop (inside + 3))

/-- The rest of a string of several lines, gathered in reverse. -/
def basicLines? (edition : Edition) (fuel : Nat) (gathered : List Char) (cs : List Char) :
    Option (String × List Char) :=
  match fuel with
  | 0 => none
  | fuel + 1 =>
    match closing? '"' cs with
    | some (quotes, rest) => some (String.ofList (quotes ++ gathered).reverse, rest)
    | none =>
      match cs with
      | [] => none
      | '\\' :: cs =>
        match newline? (skipBlanks cs) with
        | some rest =>
          if whiteIsClean rest then basicLines? edition fuel gathered (skipWhite rest) else none
        | none =>
          match escape? edition cs with
          | some (c, cs) => basicLines? edition fuel (c :: gathered) cs
          | none => none
      | c :: rest =>
        match lineEnd? edition cs with
        | some (ends, rest) => basicLines? edition fuel (ends ++ gathered) rest
        | none => if isPrintable c then basicLines? edition fuel (c :: gathered) rest else none

/-- The rest of a string of several lines without escapes, gathered in reverse. -/
def literalLines? (edition : Edition) (fuel : Nat) (gathered : List Char) (cs : List Char) :
    Option (String × List Char) :=
  match fuel with
  | 0 => none
  | fuel + 1 =>
    match closing? '\'' cs with
    | some (quotes, rest) => some (String.ofList (quotes ++ gathered).reverse, rest)
    | none =>
      match cs with
      | [] => none
      | c :: rest =>
        match lineEnd? edition cs with
        | some (ends, rest) => literalLines? edition fuel (ends ++ gathered) rest
        | none =>
          if isPrintable c then literalLines? edition fuel (c :: gathered) rest else none

/-- A line end right after the opening quotes does not belong to the string. -/
def dropNewline (cs : List Char) : List Char := (newline? cs).getD cs

/-- A string of any of the four forms. -/
def string? (edition : Edition) : Reader String
  | '"' :: '"' :: '"' :: cs =>
    let cs := dropNewline cs
    basicLines? edition (cs.length + 1) [] cs
  | '"' :: cs => basic? edition (cs.length + 1) [] cs
  | '\'' :: '\'' :: '\'' :: cs =>
    let cs := dropNewline cs
    literalLines? edition (cs.length + 1) [] cs
  | '\'' :: cs => literal? cs
  | _ => none

/-! ## Keys -/

def isKeyChar (c : Char) : Bool := c.isAlphanum || c == '_' || c == '-'

/-- A key without points. -/
def simpleKey? (edition : Edition) : Reader String
  | '"' :: cs => basic? edition (cs.length + 1) [] cs
  | '\'' :: cs => literal? cs
  | cs =>
    let key := cs.takeWhile isKeyChar
    if key.isEmpty then none else some (String.ofList key, cs.dropWhile isKeyChar)

/-- A key: simple keys with points between them. -/
def keyPath? (edition : Edition) : Nat → Reader (List String)
  | 0, _ => none
  | fuel + 1, cs => do
    let (key, cs) ← simpleKey? edition (skipBlanks cs)
    match skipBlanks cs with
    | '.' :: cs =>
      let (keys, cs) ← keyPath? edition fuel cs
      return (key :: keys, cs)
    | cs => return ([key], cs)

/-! ## Numbers -/

/-- A run of digits in which single underscores may separate digits; gives the digits. -/
def digitRun? (isDigit : Char → Bool) (cs : List Char) : Option (List Char × List Char) :=
  let run := cs.takeWhile fun c => isDigit c || c == '_'
  let rec clean : List Char → Bool
    | [] => true
    | ['_'] => false
    | '_' :: '_' :: _ => false
    | _ :: rest => clean rest
  if run.isEmpty || run.head? == some '_' || !clean run then none
  else some (run.filter (· != '_'), cs.drop run.length)

/-- The digits of a decimal whole number, which has no leading zeros. -/
def wholeDigits? (cs : List Char) : Option (List Char × List Char) :=
  match cs with
  | '0' :: rest => some (['0'], rest)
  | _ => digitRun? Char.isDigit cs

def sign : List Char → Bool × List Char
  | '+' :: cs => (false, cs)
  | '-' :: cs => (true, cs)
  | cs => (false, cs)

/-- An integer if it fits 64 bits with a sign. -/
def fit? (n : Int) : Option Toml := if Text.isInt64 n then some (.integer n) else none

/-- A whole number in a base other than ten. -/
def based? (base : Nat) (isDigit : Char → Bool) (cs : List Char) : Option (Toml × List Char) := do
  let (digits, cs) ← digitRun? isDigit cs
  let n ← digits.foldlM (fun n c => (Text.hexDigit? c).map (n * base + ·)) 0
  return (← fit? (n : Nat), cs)

def integer? : Reader Toml
  | '0' :: 'x' :: cs => based? 16 (fun c => (Text.hexDigit? c).isSome) cs
  | '0' :: 'o' :: cs => based? 8 (fun c => '0' ≤ c && c ≤ '7') cs
  | '0' :: 'b' :: cs => based? 2 (fun c => c == '0' || c == '1') cs
  | cs => do
    let (negative, cs) := sign cs
    let (digits, cs) ← wholeDigits? cs
    let n : Int := Text.digitsValue digits
    return (← fit? (if negative then -n else n), cs)

/-- The exponent of a number, if there is one. -/
def exponent? : List Char → Option (Option Int × List Char)
  | c :: cs =>
    if c = 'e' ∨ c = 'E' then do
      let (negative, cs) := sign cs
      let (digits, cs) ← digitRun? Char.isDigit cs
      let n : Int := Text.digitsValue digits
      return (some (if negative then -n else n), cs)
    else some (none, c :: cs)
  | [] => some (none, [])

/-- Whether digits that are beyond the doubles are refused. -/
def Edition.refuses (edition : Edition) (negative : Bool) : Bool := !negative || edition = .v11

/-- A number with a fraction or an exponent, or one of the words for numbers that are not finite. -/
def float? (edition : Edition) (cs : List Char) : Option (Toml × List Char) := do
  let (negative, cs) := sign cs
  let signed (x : Float) : Float := if negative then -x else x
  match cs with
  | 'i' :: 'n' :: 'f' :: cs => some (.float (signed (1.0 / 0.0)), cs)
  | 'n' :: 'a' :: 'n' :: cs => some (.float (signed (0.0 / 0.0)), cs)
  | _ =>
    let (whole, cs) ← wholeDigits? cs
    let (fraction, cs) ← match cs with
      | '.' :: rest => do
        let (fraction, rest) ← digitRun? Char.isDigit rest
        some (some fraction, rest)
      | _ => some (none, cs)
    let (exponent, cs) ← exponent? cs
    if fraction.isNone && exponent.isNone then none
    let digits := whole ++ fraction.getD []
    let x := Decimal.nearestDouble (Text.digitsValue digits)
      (exponent.getD 0 - ((fraction.getD []).length : Int))
    if x == 1.0 / 0.0 && edition.refuses negative then none else some (.float (signed x), cs)

/-! ## Dates and times -/

/-- A number of exactly so many digits within a range. -/
def digits? (count low high : Nat) (cs : List Char) : Option (Nat × List Char) :=
  let ds := cs.take count
  if ds.length = count && ds.all Char.isDigit then
    let n := Text.digitsValue ds
    if low ≤ n && n ≤ high then some (n, cs.drop count) else none
  else none

def expect? (c : Char) : List Char → Option (List Char)
  | d :: cs => if c = d then some cs else none
  | [] => none

def daysOf (year month : Nat) : Nat :=
  if month = 2 then
    if (year % 4 = 0 ∧ year % 100 ≠ 0) ∨ year % 400 = 0 then 29 else 28
  else if month = 4 ∨ month = 6 ∨ month = 9 ∨ month = 11 then 30
  else 31

def two (n : Nat) : String := String.ofList (Text.paddedNumeral 2 n)

/-- A date. -/
def date? (cs : List Char) : Option (String × List Char) := do
  let (year, cs) ← digits? 4 0 9999 cs
  let cs ← expect? '-' cs
  let (month, cs) ← digits? 2 1 12 cs
  let cs ← expect? '-' cs
  let (day, cs) ← digits? 2 1 (daysOf year month) cs
  return (String.ofList (Text.paddedNumeral 4 year) ++ "-" ++ two month ++ "-" ++ two day, cs)

/-- The decimals of a second as they are written: at most nine, without zeros at their end. Where no
other digit is left, the first edition leaves them out, and the second one writes a zero. -/
def decimals (edition : Edition) (fraction : List Char) : String :=
  match ((fraction.take 9).reverse.dropWhile (· == '0')).reverse with
  | [] => if edition = .v11 then ".0" else ""
  | kept => "." ++ String.ofList kept

/-- The seconds of a time, with the colon before them. -/
def seconds? (edition : Edition) (cs : List Char) : Option (String × List Char) := do
  let (second, cs) ← digits? 2 0 60 cs
  match cs with
  | '.' :: rest =>
    let fraction := rest.takeWhile Char.isDigit
    if fraction.isEmpty then none
    else return (":" ++ two second ++ decimals edition fraction, rest.dropWhile Char.isDigit)
  | _ => return (":" ++ two second, cs)

/-- A time of day; the second edition lets seconds be left out. -/
def time? (edition : Edition) (cs : List Char) : Option (String × List Char) := do
  let (hour, cs) ← digits? 2 0 23 cs
  let cs ← expect? ':' cs
  let (minute, cs) ← digits? 2 0 59 cs
  let (seconds, cs) ←
    match cs with
    | ':' :: rest => seconds? edition rest
    | _ => if edition = .v11 then some ("", cs) else none
  return (two hour ++ ":" ++ two minute ++ seconds, cs)

/-- The offset of a time, if there is one. -/
def offset? : List Char → Option (String × List Char)
  | 'Z' :: cs | 'z' :: cs => some ("Z", cs)
  | c :: cs =>
    if c = '+' ∨ c = '-' then do
      let (hour, cs) ← digits? 2 0 23 cs
      let cs ← expect? ':' cs
      let (minute, cs) ← digits? 2 0 59 cs
      let mark := if c = '-' ∧ (hour, minute) ≠ (0, 0) then "-" else "+"
      return (mark ++ two hour ++ ":" ++ two minute, cs)
    else some ("", c :: cs)
  | [] => some ("", [])

/-- A date, a time, or both, with or without an offset. -/
def moment? (edition : Edition) (cs : List Char) : Option (Toml × List Char) :=
  match date? cs with
  | none => (time? edition cs).map fun (clock, cs) => (.moment clock, cs)
  | some (date, rest) =>
    let clock := match rest with
      | 'T' :: cs | 't' :: cs | ' ' :: cs => time? edition cs
      | _ => none
    match clock with
    | none => some (.moment date, rest)
    | some (time, rest) =>
      (offset? rest).map fun (offset, rest) => (.moment (date ++ "T" ++ time ++ offset), rest)

end Rollout.Toml
