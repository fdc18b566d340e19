import Rollout.Json.Basic
import Rollout.Decimal.Shortest

/-!
# Structured values as text

The compact text has no blanks; the indented one puts every item and field on a line of its own,
two blanks deeper than its container, and writes an empty container as `[]` or as two braces. In a
string only the quote, the backslash and the control characters below the blank are escaped. A
double has its shortest digits: with a point and at least one decimal from `1e-5` up to below
`1e16`, with an exponent beyond.
-/

namespace Rollout.Json

def hexDigit (n : Nat) : Char := (Nat.toDigits 16 (n % 16)).headD '0'

/-- How a character is written inside a quoted string. -/
def escaped (c : Char) : List Char :=
  if c = '"' then ['\\', '"']
  else if c = '\\' then ['\\', '\\']
  else if c = '\x08' then ['\\', 'b']
  else if c = '\t' then ['\\', 't']
  else if c = '\n' then ['\\', 'n']
  else if c = '\x0c' then ['\\', 'f']
  else if c = '\r' then ['\\', 'r']
  else if c.toNat < 0x20 then
    ['\\', 'u', '0', '0', hexDigit (c.toNat / 16), hexDigit c.toNat]
  else [c]

/-- A string in quotes. -/
def quoted (s : String) : String :=
  String.ofList ('"' :: s.toList.flatMap escaped ++ ['"'])

/-- A double of a message. -/
def realText (x : Float) : String :=
  match Decimal.Reading.of x with
  | .finite b =>
    let sign := if b.negative then ['-'] else []
    if b.mantissa = 0 then String.ofList (sign ++ ['0', '.', '0'])
    else
      let d := b.shortest .toEven
      let scale := d.exponent + ((Text.numeral d.digits).length : Int)
      if -5 < scale ∧ scale ≤ 16 then
        let text := d.plain
        String.ofList (sign ++ if 0 ≤ d.exponent then text ++ ['.', '0'] else text)
      else String.ofList (sign ++ d.scientific)
  | _ => "null"

def intText : Int → String
  | .ofNat n => String.ofList (Text.numeral n)
  | .negSucc n => String.ofList ('-' :: Text.numeral (n + 1))

mutual

/-- The text without blanks. -/
def compact : Json → String
  | .null => "null"
  | .bool true => "true"
  | .bool false => "false"
  | .int n => intText n
  | .real x => realText x
  | .str s => quoted s
  | .arr xs => "[" ++ compactItems xs ++ "]"
  | .obj fs => "\x7b" ++ compactFields fs ++ "\x7d"

def compactItems : List Json → String
  | [] => ""
  | [x] => compact x
  | x :: xs => compact x ++ "," ++ compactItems xs

def compactFields : List (String × Json) → String
  | [] => ""
  | [(k, v)] => quoted k ++ ":" ++ compact v
  | (k, v) :: fs => quoted k ++ ":" ++ compact v ++ "," ++ compactFields fs

end

/-- A line end followed by the blanks of a nesting level. -/
def newline (level : Nat) : String := String.ofList ('\n' :: List.replicate (2 * level) ' ')

mutual

/-- The text with a line per item, at the given nesting level. -/
def indentedAt (level : Nat) : Json → String
  | .arr [] => "[]"
  | .obj [] => "\x7b\x7d"
  | .arr xs => "[" ++ indentedItems (level + 1) xs ++ newline level ++ "]"
  | .obj fs => "\x7b" ++ indentedFields (level + 1) fs ++ newline level ++ "\x7d"
  | v => compact v

def indentedItems (level : Nat) : List Json → String
  | [] => ""
  | [x] => newline level ++ indentedAt level x
  | x :: xs => newline level ++ indentedAt level x ++ "," ++ indentedItems level xs

def indentedFields (level : Nat) : List (String × Json) → String
  | [] => ""
  | [(k, v)] => newline level ++ quoted k ++ ": " ++ indentedAt level v
  | (k, v) :: fs =>
    newline level ++ quoted k ++ ": " ++ indentedAt level v ++ "," ++ indentedFields level fs

end

/-- The text with a line per item. -/
def indented (v : Json) : String := indentedAt 0 v

end Rollout.Json
