import Rollout.Decimal.Reader
import Rollout.Decimal.Shortest
import Rollout.Coin

/-!
# Gas prices

A gas price is the price of one unit of gas: an amount, which may have a fraction, followed by a
denomination: `0.025uosmo`. The amount is the longest run of digits and points at the start; it has
to be a decimal number and small enough for a double. The fee for a gas limit is rounded upwards.
-/

namespace Rollout

/-- The price of one unit of gas. -/
structure GasPrice where
  amount : Float
  denom : String

/-- Why a text is no gas price; the text is given without the blanks around it. -/
inductive GasPriceFault where
  | noDenom (text : String)
  | invalidAmount (text : String)
deriving DecidableEq

def GasPriceFault.message : GasPriceFault → String
  | .noDenom text => "Gas price '" ++ text ++ "' has no denom"
  | .invalidAmount text => "Invalid gas price amount in '" ++ text ++ "'"

namespace GasPrice

/-- The characters that an amount is made of. -/
def isAmountChar (c : Char) : Bool := c.isDigit || c == '.'

/-- Reads a gas price from a text without blanks around it. -/
def parseChars (cs : List Char) : Except GasPriceFault GasPrice :=
  let amount := cs.takeWhile isAmountChar
  let denom := cs.dropWhile isAmountChar
  if denom.isEmpty then .error (.noDenom (String.ofList cs))
  else
    match Decimal.readAmount? amount with
    | some x =>
      if Decimal.isFinite x then .ok ⟨x, String.ofList denom⟩
      else .error (.invalidAmount (String.ofList cs))
    | none => .error (.invalidAmount (String.ofList cs))

/-- Reads a gas price; blanks around it are dropped. -/
def parse (s : String) : Except GasPriceFault GasPrice := parseChars (Text.trimChars s.toList)

/-- What a transaction with the given gas limit costs, at most the largest amount. -/
def fee (p : GasPrice) (gasLimit : UInt64) : Amount :=
  Amount.saturate (Decimal.ceilWithin Amount.max.toNat (gasLimit.toFloat * p.amount))

/-- The price as it is written. -/
def text (p : GasPrice) : String := Decimal.plainText p.amount ++ p.denom

end GasPrice

end Rollout
