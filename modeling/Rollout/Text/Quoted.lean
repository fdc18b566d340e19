import Rollout.Text.Printable
import Rollout.Text.Utf8

/-!
# Quoted texts

A text between quotes, for people: a quote, a backslash, and every character that does not print on
its own are written as escapes.
-/

namespace Rollout.Text

/-- A code point in braces, in as few hexadecimal digits as it takes. -/
def codeEscape (c : Char) : List Char :=
  ['\\', 'u', '\x7b'] ++ hexDigits c.toNat 1 ++ ['\x7d']

/-- The written form of a character between quotes. -/
def quotedChar (c : Char) : List Char :=
  if c = '\x00' then ['\\', '0']
  else if c = '\t' then ['\\', 't']
  else if c = '\r' then ['\\', 'r']
  else if c = '\n' then ['\\', 'n']
  else if c = '"' ∨ c = '\\' then ['\\', c]
  else if isPrintable c then [c]
  else codeEscape c

/-- A text between quotes. -/
def quoted (s : String) : String :=
  String.ofList ('"' :: s.toList.flatMap quotedChar ++ ['"'])

end Rollout.Text
