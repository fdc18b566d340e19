import Rollout.Coin

/-!
# Fund bundles

A bundle names a fund and lists the swap routes it buys through, each with a ratio. Bundles are
valid by construction: `Bundle.make` is the only way to build one from parts, and it refuses a blank
name, an empty list of routes, a count of ratios other than that of routes, and a zero ratio.

A total is split over the routes in proportion to the ratios. Shares are rounded down and the last
route also gets what rounding left over. All arithmetic is checked, and `Bundle.split?` gives
nothing where it would leave the range of amounts.
-/

namespace Rollout

/-- One hop of a swap: a trade through a pool into a denomination. -/
structure SwapRoute where
  poolId : UInt64
  tokenOutDenom : String
deriving DecidableEq, Inhabited

/-- Why parts make no bundle. -/
inductive BundleFault where
  | blankName
  | noRoutes (name : String)
  | ratioCount (name : String) (routes ratios : Nat)
  | zeroRatio (name : String) (position : Nat)
deriving DecidableEq

def BundleFault.message : BundleFault → String
  | .blankName => "ETF name must not be empty"
  | .noRoutes name => "ETF '" ++ name ++ "' has no routes"
  | .ratioCount name routes ratios =>
    "ETF '" ++ name ++ "' has " ++ toString routes ++ " routes but " ++ toString ratios ++ " ratios"
  | .zeroRatio name position =>
    "ETF '" ++ name ++ "' has a zero ratio at position " ++ toString position

/-- A fund with its swap routes and one positive ratio per route. -/
structure Bundle where
  name : String
  routes : List SwapRoute
  ratios : List Amount
  named : Text.allBlank name = false
  routed : routes ≠ []
  matched : routes.length = ratios.length
  positive : ∀ r ∈ ratios, r.toNat ≠ 0
deriving DecidableEq

namespace Bundle

/-- Builds a bundle from its parts. Of several faults the one named first in `BundleFault` is
reported, and of several zero ratios the first. -/
def make (name : String) (routes : List SwapRoute) (ratios : List Amount) :
    Except BundleFault Bundle :=
  if named : Text.allBlank name = true then .error .blankName
  else if routed : routes = [] then .error (.noRoutes name)
  else if matched : routes.length = ratios.length then
    match position : ratios.findIdx? fun r => r.toNat = 0 with
    | some i => .error (.zeroRatio name i)
    | none =>
      .ok
        { name, routes, ratios
          named := by simpa using named
          routed
          matched
          positive := by simpa using List.findIdx?_eq_none_iff.1 position }
  else .error (.ratioCount name routes.length ratios.length)

/-- Adds an amount to the last one of a list. -/
def addToLast? (extra : Amount) : List Amount → Option (List Amount)
  | [] => some []
  | [a] => (a.add? extra).map ([·])
  | a :: as => (addToLast? extra as).map (a :: ·)

/-- The shares of a total, one per route and in their order. -/
def split? (b : Bundle) (total : Amount) : Option (List Amount) := do
  let weight ← Amount.sum? b.ratios
  let parts ← b.ratios.mapM fun ratio => total.mulDiv? ratio weight
  let assigned ← Amount.sum? parts
  let rest ← total.sub? assigned
  addToLast? rest parts

end Bundle

end Rollout
