import Rollout.Schema

/-!
# Messages of the fund contracts

The manager contract keeps the funds; a swap contract trades for it. Every message has one form as
a structured value: an object whose single key names the message and whose value holds its fields.
The address of the swap contract is left out of a swap message if there is none.
-/

namespace Rollout

namespace Coin

/-- A coin as an object. -/
def encode (c : Coin) : Json := Json.object [("denom", .str c.denom), ("amount", .str c.amount.text)]

def shape : Shape Coin :=
  ((Shape.of Coin.mk).field "denom" Decode.text).field "amount" Decode.amount

/-- A coin as it is written in a document. -/
inductive Written where
  | text (s : String)
  | fields (c : Coin)

/-- Reads one of the two notations, without looking into the text. -/
def Written.decode : Decode Written
  | .str s => .ok (.text s)
  | v => (shape.decode v).map .fields

/-- The coin that was written. -/
def Written.coin : Written → Except DecodeFault Coin
  | .text s => (parse s).mapError .coin
  | .fields c => .ok c

/-- Reads a coin in either notation. -/
def decode : Decode Coin := fun v => do (← Written.decode v).coin

/-- Reads coins in either notation. That every item has one of the two forms is settled before any
text is read. -/
def decodeList : Decode (List Coin) := fun v => do
  (← Decode.list Written.decode v).mapM Written.coin

end Coin

namespace SwapRoute

def encode (r : SwapRoute) : Json :=
  Json.object [("pool_id", .int r.poolId.toNat), ("token_out_denom", .str r.tokenOutDenom)]

def shape : Shape SwapRoute :=
  ((Shape.of SwapRoute.mk).field "pool_id" Decode.uint64).field "token_out_denom" Decode.text

end SwapRoute

namespace Bundle

def encode (b : Bundle) : Json :=
  Json.object
    [("name", .str b.name), ("routes", Json.ofList SwapRoute.encode b.routes),
      ("ratios", Json.ofList (fun a => .str a.text) b.ratios)]

/-- The parts of a bundle, not yet checked. -/
def partsShape : Shape (String × List SwapRoute × List Amount) :=
  (((Shape.of fun name routes ratios => (name, routes, ratios)).field "name" Decode.text).field
    "routes" (Decode.list SwapRoute.shape.decode)).field "ratios" (Decode.list Decode.amount)

/-- Reads a bundle; its parts are checked as everywhere else. -/
def decode : Decode Bundle := fun v => do
  let (name, routes, ratios) ← partsShape.decode v
  (make name routes ratios).mapError .bundle

end Bundle

/-- The message that a manager is instantiated with. -/
structure ManagerInit where
deriving DecidableEq

namespace ManagerInit

def encode (_ : ManagerInit) : Json := .obj []

def shape : Shape ManagerInit := Shape.of {}

end ManagerInit

/-- The message that a swap contract is instantiated with. -/
structure SwapInit where
  debug : Bool
deriving DecidableEq

namespace SwapInit

def encode (m : SwapInit) : Json := .obj [("debug", .bool m.debug)]

def shape : Shape SwapInit := (Shape.of SwapInit.mk).field "debug" Decode.bool

end SwapInit

/-- What a manager can be asked to do. -/
inductive ManagerCall where
  | instantiateSwap (codeId : UInt64) (debug : Bool)
  | instantiateToken (codeId : UInt64) (etfName etfSymbol : String)
  | swapTokens (swap : Option String) (initialBalance : Coin) (etf : Bundle)
  | redeemTokens (etfName : String)
deriving DecidableEq

namespace ManagerCall

def encode : ManagerCall → Json
  | instantiateSwap codeId debug =>
    Json.object
      [("instantiate_swap",
        Json.object [("code_id", .int codeId.toNat), ("debug", .bool debug)])]
  | instantiateToken codeId etfName etfSymbol =>
    Json.object
      [("instantiate_cw20",
        Json.object
          [("code_id", .int codeId.toNat), ("etf_name", .str etfName),
            ("etf_symbol", .str etfSymbol)])]
  | swapTokens swap initialBalance etf =>
    Json.object
      [("swap_tokens",
        Json.object
          ((match swap with
            | some address => [("contract", .str address)]
            | none => []) ++
            [("initial_balance", initialBalance.encode), ("etf_swap_routes", etf.encode)]))]
  | redeemTokens etfName =>
    Json.object [("redeem_tokens", Json.object [("etf_name", .str etfName)])]

def decode : Decode ManagerCall :=
  Decode.tagged
    [("instantiate_swap",
      ((Shape.of instantiateSwap).field "code_id" Decode.uint64).field "debug" Decode.bool),
    ("instantiate_cw20",
      (((Shape.of instantiateToken).field "code_id" Decode.uint64).field "etf_name"
        Decode.text).field "etf_symbol" Decode.text),
    ("swap_tokens",
      (((Shape.of swapTokens).optional "contract" Decode.text).field "initial_balance"
        Coin.shape.decode).field "etf_swap_routes" Bundle.decode),
    ("redeem_tokens", (Shape.of redeemTokens).field "etf_name" Decode.text)]

end ManagerCall

/-- What a manager can be asked about. -/
inductive ManagerQuery where
  | tokens (sender etfType : String)
  | initialSwap (sender : String)
  | balance (sender etfType : String)
deriving DecidableEq

namespace ManagerQuery

def encode : ManagerQuery → Json
  | tokens sender etfType =>
    Json.object
      [("get_tokens", Json.object [("sender", .str sender), ("etf_type", .str etfType)])]
  | initialSwap sender =>
    Json.object [("get_initial_swap", Json.object [("sender", .str sender)])]
  | balance sender etfType =>
    Json.object
      [("get_balance", Json.object [("sender", .str sender), ("etf_type", .str etfType)])]

def decode : Decode ManagerQuery :=
  Decode.tagged
    [("get_tokens",
      ((Shape.of tokens).field "sender" Decode.text).field "etf_type" Decode.text),
    ("get_initial_swap", (Shape.of initialSwap).field "sender" Decode.text),
    ("get_balance",
      ((Shape.of balance).field "sender" Decode.text).field "etf_type" Decode.text)]

end ManagerQuery

/-- What a swap contract can be asked about. -/
inductive SwapQuery where
  | poolCount
  | epochs
  | pool (poolId : UInt64)
  | poolParams (poolId : UInt64)
  | entry (key : String)
deriving DecidableEq

namespace SwapQuery

def encode : SwapQuery → Json
  | poolCount => Json.object [("query_num_pools", .obj [])]
  | epochs => Json.object [("query_epochs_info", .obj [])]
  | pool poolId =>
    Json.object [("query_pool", Json.object [("pool_id", .int poolId.toNat)])]
  | poolParams poolId =>
    Json.object [("query_pool_params", Json.object [("pool_id", .int poolId.toNat)])]
  | entry key => Json.object [("query_map", Json.object [("key", .str key)])]

def decode : Decode SwapQuery :=
  Decode.tagged
    [("query_num_pools", Shape.of poolCount),
    ("query_epochs_info", Shape.of epochs),
    ("query_pool", (Shape.of pool).field "pool_id" Decode.uint64),
    ("query_pool_params", (Shape.of poolParams).field "pool_id" Decode.uint64),
    ("query_map", (Shape.of entry).field "key" Decode.text)]

end SwapQuery

/-- The coins that stand behind a holder's fund tokens. -/
structure TokensHeld where
  tokensPerEtf : List Coin
deriving DecidableEq

namespace TokensHeld

def encode (r : TokensHeld) : Json :=
  .obj [("tokens_per_etf", Json.ofList Coin.encode r.tokensPerEtf)]

def shape : Shape TokensHeld :=
  (Shape.of TokensHeld.mk).field "tokens_per_etf" (Decode.list Coin.shape.decode)

end TokensHeld

/-- A holder's balance of fund tokens. -/
structure TokenBalance where
  balance : Coin
deriving DecidableEq

namespace TokenBalance

def encode (r : TokenBalance) : Json := .obj [("balance", r.balance.encode)]

def shape : Shape TokenBalance := (Shape.of TokenBalance.mk).field "balance" Coin.shape.decode

end TokenBalance

/-- The balance that a holder bought in with. -/
structure InitialSwap where
  initialSwap : Coin
deriving DecidableEq

namespace InitialSwap

def encode (r : InitialSwap) : Json := .obj [("initial_swap", r.initialSwap.encode)]

def shape : Shape InitialSwap :=
  (Shape.of InitialSwap.mk).field "initial_swap" Coin.shape.decode

end InitialSwap

end Rollout
