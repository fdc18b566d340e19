import Rollout.Text.Blank
import Rollout.Text.Digits

/-!
# Coins

An amount is a natural number below `2 ^ 128`; arithmetic on amounts is checked. A coin is an amount
of a denomination, written as the digits of the amount followed by the denomination: `5000uosmo`.
The reader takes the longest run of digits as the amount and all that follows as the denomination,
after the blanks at both ends are dropped. A list of coins is separated by commas; blank items are
skipped.
-/

namespace Rollout

/-- A number of coins of one denomination. -/
structure Amount where
  toNat : Nat
  isLt : toNat < Nat.pow 2 128
deriving DecidableEq

namespace Amount

/-- The amount of a number that is small enough. -/
def ofNat? (n : Nat) : Option Amount := if h : n < Nat.pow 2 128 then some ⟨n, h⟩ else none

/-- The largest amount. -/
def max : Amount := ⟨Nat.pow 2 128 - 1, by decide⟩

/-- The amount nearest to a number. -/
def saturate (n : Nat) : Amount := (ofNat? n).getD max

def zero : Amount := ⟨0, by decide⟩

instance : Inhabited Amount := ⟨zero⟩

def add? (a b : Amount) : Option Amount := ofNat? (a.toNat + b.toNat)

def sub? (a b : Amount) : Option Amount :=
  if b.toNat ≤ a.toNat then ofNat? (a.toNat - b.toNat) else none

/-- `a * b / c`, where the product may exceed an amount but the quotient may not. -/
def mulDiv? (a b c : Amount) : Option Amount :=
  if c.toNat = 0 then none else ofNat? (a.toNat * b.toNat / c.toNat)

/-- The sum of a list, nothing if it is no amount. -/
def sum? (as : List Amount) : Option Amount := as.foldlM add? zero

/-- Reads a decimal number that may have a plus sign in front. -/
def parse? (s : String) : Option Amount := (Text.readUnsigned? s.toList).bind ofNat?

/-- The decimal text of an amount. -/
def text (a : Amount) : String := String.ofList (Text.numeral a.toNat)

theorem eq_of_toNat {a b : Amount} (h : a.toNat = b.toNat) : a = b := by
  cases a
  cases b
  cases h
  rfl

@[simp] theorem ofNat?_toNat (a : Amount) : ofNat? a.toNat = some a := dif_pos a.isLt

end Amount

/-- An amount of a denomination. -/
structure Coin where
  denom : String
  amount : Amount
deriving DecidableEq, Inhabited

/-- Why a text is no coin; the text is given without the blanks around it. -/
inductive CoinFault where
  | noDenom (text : String)
  | noAmount (text : String)
  | amountTooLarge (text : String)
deriving DecidableEq

def CoinFault.message : CoinFault → String
  | .noDenom text => "Coin '" ++ text ++ "' has no denom"
  | .noAmount text => "Coin '" ++ text ++ "' has no amount"
  | .amountTooLarge text => "Invalid amount in '" ++ text ++ "'"

namespace Coin

/-- The text of a coin: its amount followed by its denomination. -/
def text (c : Coin) : String := c.amount.text ++ c.denom

/-- Reads a coin from a text without blanks around it. -/
def parseChars (cs : List Char) : Except CoinFault Coin :=
  let digits := cs.takeWhile Char.isDigit
  let denom := cs.dropWhile Char.isDigit
  if denom.isEmpty then .error (.noDenom (String.ofList cs))
  else if digits.isEmpty then .error (.noAmount (String.ofList cs))
  else
    match Amount.ofNat? (Text.digitsValue digits) with
    | some amount => .ok ⟨String.ofList denom, amount⟩
    | none => .error (.amountTooLarge (String.ofList cs))

/-- Reads a coin; blanks around it are dropped. -/
def parse (s : String) : Except CoinFault Coin := parseChars (Text.trimChars s.toList)

/-- The items of a comma separated text: trimmed, and without those that are blank. -/
def items (s : String) : List (List Char) :=
  ((Text.pieces (· == ',') s.toList).map Text.trimChars).filter fun p => !p.isEmpty

/-- Reads a comma separated list of coins; the first item that is no coin is the fault. -/
def parseList (s : String) : Except CoinFault (List Coin) := (items s).mapM parseChars

end Coin

end Rollout
