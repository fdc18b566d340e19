/-!
# Bytes and texts

Bytes are lists of 8-bit words. A text has one form in bytes, UTF-8. Reading is exact
(`ofBytes?` refuses what no text is written as) or forgiving (`ofBytesLossy` puts the replacement
character for every part that cannot be completed to a character).
-/

namespace Rollout

/-- Raw data. -/
abbrev Bytes := List UInt8

namespace Text

/-- The UTF-8 form of a text. -/
def toBytes (s : String) : Bytes := s.toUTF8.toList

/-- The text that has the given UTF-8 form. -/
def ofBytes? (bytes : Bytes) : Option String := String.fromUTF8? ⟨bytes.toArray⟩

/-- Bytes that may follow the first byte of a character. -/
def isContinuation (b : UInt8) : Bool := 0x80 ≤ b && b < 0xC0

/-- How many bytes follow a first byte, and the range of the first of them; nothing for a byte that
starts no character. -/
def following? (b : UInt8) : Option (Nat × UInt8 × UInt8) :=
  if b < 0x80 then some (0, 0, 0)
  else if 0xC2 ≤ b && b ≤ 0xDF then some (1, 0x80, 0xBF)
  else if b == 0xE0 then some (2, 0xA0, 0xBF)
  else if b == 0xED then some (2, 0x80, 0x9F)
  else if 0xE1 ≤ b && b ≤ 0xEF then some (2, 0x80, 0xBF)
  else if b == 0xF0 then some (3, 0x90, 0xBF)
  else if 0xF1 ≤ b && b ≤ 0xF3 then some (3, 0x80, 0xBF)
  else if b == 0xF4 then some (3, 0x80, 0x8F)
  else none

/-- The value of a character of several bytes. -/
def characterValue (first : UInt8) (rest : Bytes) : Nat :=
  let lead := match rest.length with
    | 0 => first.toNat
    | 1 => first.toNat % 32
    | 2 => first.toNat % 16
    | _ => first.toNat % 8
  rest.foldl (fun n b => n * 64 + b.toNat % 64) lead

/-- How many of the bytes at the front are fit to follow a first byte. -/
def fitting (count : Nat) (low high : UInt8) : Bytes → Nat
  | [] => 0
  | b :: rest =>
    if count = 0 then 0
    else if low ≤ b && b ≤ high then 1 + ((rest.take (count - 1)).takeWhile isContinuation).length
    else 0

/-- The characters of bytes; each maximal start of a character that is not completed, and each byte
that starts none, gives one replacement character. -/
def decodeLossy : Nat → Bytes → List Char
  | 0, _ => []
  | _, [] => []
  | fuel + 1, b :: rest =>
    match following? b with
    | none => '\uFFFD' :: decodeLossy fuel rest
    | some (count, low, high) =>
      let found := fitting count low high rest
      let c := if found = count then Char.ofNat (characterValue b (rest.take count)) else '\uFFFD'
      c :: decodeLossy fuel (rest.drop found)

/-- A text for any bytes. -/
def ofBytesLossy (bytes : Bytes) : String :=
  match ofBytes? bytes with
  | some s => s
  | none => String.ofList (decodeLossy bytes.length bytes)

/-! ## Hexadecimal and base 64 -/

def hexDigits (n width : Nat) : List Char :=
  let ds := Nat.toDigits 16 n
  List.replicate (width - ds.length) '0' ++ ds

/-- Two lower case hexadecimal digits per byte. -/
def hex (bytes : Bytes) : String := String.ofList (bytes.flatMap fun b => hexDigits b.toNat 2)

/-- Two upper case hexadecimal digits per byte. -/
def hexUpper (bytes : Bytes) : String :=
  String.ofList (bytes.flatMap fun b => (hexDigits b.toNat 2).map Char.toUpper)

/-- The character of six bits. -/
def base64Char (n : Nat) : Char :=
  if n < 26 then Char.ofNat (65 + n)
  else if n < 52 then Char.ofNat (71 + n)
  else if n < 62 then Char.ofNat (n - 4)
  else if n = 62 then '+'
  else '/'

/-- Four characters for every three bytes, padded with `=`. -/
def base64Chars : Bytes → List Char
  | [] => []
  | [a] =>
    let n := a.toNat * 16
    [base64Char (n / 64), base64Char (n % 64), '=', '=']
  | [a, b] =>
    let n := (a.toNat * 256 + b.toNat) * 4
    [base64Char (n / 4096), base64Char (n / 64 % 64), base64Char (n % 64), '=']
  | a :: b :: c :: rest =>
    let n := (a.toNat * 256 + b.toNat) * 256 + c.toNat
    base64Char (n / 262144) :: base64Char (n / 4096 % 64) :: base64Char (n / 64 % 64)
      :: base64Char (n % 64) :: base64Chars rest

def base64 (bytes : Bytes) : String := String.ofList (base64Chars bytes)

end Text

end Rollout
