import Rollout.Host.Basic
import Rollout.Text.Utf8

/-!
# Endpoints

An endpoint is an `http` or `https` address with a host. Blanks around it and line breaks in it do not
count, the slashes after the scheme may be more or fewer than two, and a backslash is as good as a
slash. Bytes of a host may be written as two hexadecimal digits after a percent sign. A host whose
last part is a number has to be an address of four bytes, and one in brackets an address of eight
groups.
-/

namespace Rollout.Endpoint

/-- What follows `http:` or `https:`, in any case. -/
def afterScheme? (cs : List Char) : Option (List Char) :=
  match cs.span (· ≠ ':') with
  | (scheme, ':' :: rest) =>
    let scheme := scheme.map Char.toLower
    if scheme = "http".toList ∨ scheme = "https".toList then some rest else none
  | _ => none

def isSlash (c : Char) : Bool := c == '/' || c == '\\'

/-- What stands between the slashes after the scheme and the path. -/
def authority (cs : List Char) : List Char :=
  (cs.dropWhile isSlash).takeWhile fun c => !(isSlash c || c == '?' || c == '#')

/-- Drops the name of a user. -/
def hostPart (cs : List Char) : List Char := (cs.reverse.takeWhile (· ≠ '@')).reverse

/-- Whether a text can be the number after a host; it may be empty. -/
def isHostNumber (cs : List Char) : Bool := cs.all Char.isDigit && Text.digitsValue cs ≤ 65535

/-! ## Numeric hosts -/

def isOctal (c : Char) : Bool := '0' ≤ c && c ≤ '7'

def isHexDigit (c : Char) : Bool := (Text.hexDigit? c).isSome

/-- The value of a part of an address of four bytes: decimal, octal or hexadecimal. -/
def partValue? : List Char → Option Nat
  | [] => none
  | '0' :: 'x' :: ds | '0' :: 'X' :: ds =>
    Text.readHex? ds
  | '0' :: ds =>
    if ds.all isOctal then some (ds.foldl (fun n c => n * 8 + (c.toNat - 48)) 0) else none
  | ds => if ds.all Char.isDigit then some (Text.digitsValue ds) else none

/-- The parts of a host; a point at the end does not count. -/
def parts (host : List Char) : List (List Char) :=
  let ps := Text.pieces (· == '.') host
  if ps.length > 1 ∧ ps.getLast? = some [] then ps.dropLast else ps

/-- Whether the last part of a host is a number. -/
def endsInNumber (host : List Char) : Bool :=
  match (parts host).getLast? with
  | some p => (!p.isEmpty && p.all Char.isDigit) || (partValue? p).isSome
  | none => false

/-- Whether a host is an address of four bytes; the last part may stand for several bytes. -/
def isFourBytes (host : List Char) : Bool :=
  match (parts host).mapM partValue? with
  | some values =>
    values.length ≤ 4 && values.dropLast.all (· ≤ 255)
      && (values.getLast?.getD 0) < Nat.pow 256 (5 - values.length)
  | none => false

/-- Whether a text is a byte in decimal, with no zeros before it. -/
def isByte (cs : List Char) : Bool :=
  !cs.isEmpty && (cs.length = 1 || cs.head? ≠ some '0') && cs.all Char.isDigit
    && Text.digitsValue cs ≤ 255

/-- How many groups of an address of eight groups are written, if they are well formed. -/
def groupCount? (cs : List Char) : Option Nat :=
  if cs.isEmpty then some 0
  else
    let gs := Text.pieces (· == ':') cs
    let isGroup (g : List Char) : Bool := 1 ≤ g.length && g.length ≤ 4 && g.all isHexDigit
    match gs.getLast? with
    | some last =>
      if last.contains '.' then
        let bytes := Text.pieces (· == '.') last
        if gs.dropLast.all isGroup && bytes.length = 4 && bytes.all isByte then some (gs.length + 1)
        else none
      else if gs.all isGroup then some gs.length
      else none
    | none => none

/-- What stands before and after the first pair of colons. -/
def splitColons : List Char → Option (List Char × List Char)
  | ':' :: ':' :: rest => some ([], rest)
  | c :: rest => (splitColons rest).map fun (a, b) => (c :: a, b)
  | [] => none

/-- Whether a text is an address of eight groups, where one run of zeros may be left out. -/
def isEightGroups (cs : List Char) : Bool :=
  match splitColons cs with
  | some (a, b) =>
    match groupCount? a, groupCount? b with
    | some m, some n => m + n ≤ 7 && !a.contains '.'
    | _, _ => false
  | none => groupCount? cs == some 8

/-- The bytes that are written in a text, where a percent sign may stand before a byte. -/
def percentBytes : Bytes → Bytes
  | 0x25 :: a :: b :: rest =>
    match Text.readHex? [Char.ofNat a.toNat, Char.ofNat b.toNat] with
    | some n => UInt8.ofNat n :: percentBytes rest
    | none => 0x25 :: percentBytes (a :: b :: rest)
  | b :: rest => b :: percentBytes rest
  | [] => []

/-- Whether a text is the name of a host or an address of four bytes. -/
def isNamed (cs : List Char) : Bool :=
  match (Text.ofBytes? (percentBytes (Text.toBytes (String.ofList cs)))).bind fun s =>
    Host.name? s.toList with
  | some name => !endsInNumber name || isFourBytes name
  | none => false

/-- Whether a text is a host and, after a colon, a number. -/
def isHostPart : List Char → Bool
  | '[' :: rest =>
    match rest.span (· ≠ ']') with
    | (inside, ']' :: ':' :: number) => isEightGroups inside && isHostNumber number
    | (inside, [']']) => isEightGroups inside
    | _ => false
  | cs =>
    let (host, number) := cs.span (· ≠ ':')
    isNamed host && isHostNumber (number.drop 1)

end Endpoint

/-- Whether a text is an endpoint. -/
def isEndpoint (s : String) : Bool :=
  let atEnds (c : Char) : Bool := c.toNat ≤ 0x20
  let inner := ((s.toList.dropWhile atEnds).reverse.dropWhile atEnds).reverse
  let cs := inner.filter fun c => !(c == '\t' || c == '\n' || c == '\r')
  match Endpoint.afterScheme? cs with
  | some rest => Endpoint.isHostPart (Endpoint.hostPart (Endpoint.authority rest))
  | none => false

end Rollout
