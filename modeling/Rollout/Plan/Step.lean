import Rollout.Manager

/-!
# Steps

A step is one thing that a scenario does. As a structured value it is a record whose `action` names
the kind of step; the coins of a step may be written as text or by their fields.
-/

namespace Rollout

/-- One step of a scenario. -/
inductive Step where
  | upload (role artifact : String)
  | instantiate (role : String) (msg : Json) (label : Option String) (codeId : Option UInt64)
      (funds : List Coin)
  | execute (role : String) (msg : Json) (funds : List Coin)
  | query (role : String) (msg : Json) (expect : Option Json)
  | balance (address : Option String) (denom : String)
  | send (recipient : String) (amount : List Coin)
  | instantiateSwap (manager swap : String) (debug : Bool) (funds : List Coin)
  | instantiateToken (manager token etfName etfSymbol : String)
  | swapTokens (manager : String) (swap : Option String) (initialBalance : Coin) (etf : Bundle)
      (funds : List Coin)
  | redeemTokens (manager etfName : String) (funds : List Coin)

namespace Step

/-- A step as it is named in messages. -/
def text : Step → String
  | upload role artifact => s!"upload {role} from {artifact}"
  | instantiate role _ _ _ _ => s!"instantiate {role}"
  | execute role _ _ => s!"execute on {role}"
  | query role _ _ => s!"query {role}"
  | balance (some address) denom => s!"balance of {address} in {denom}"
  | balance none denom => s!"balance in {denom}"
  | send recipient _ => s!"send to {recipient}"
  | instantiateSwap manager swap _ _ => s!"{manager} instantiates {swap}"
  | instantiateToken manager _ etfName _ => s!"{manager} instantiates token for {etfName}"
  | swapTokens _ _ _ etf _ => "swap into " ++ etf.name
  | redeemTokens _ etfName _ => s!"redeem {etfName}"

def encodeCoins (coins : List Coin) : Json := Json.ofList Coin.encode coins

def encode : Step → Json
  | upload role artifact =>
    .obj [("action", .str "upload"), ("role", .str role), ("artifact", .str artifact)]
  | instantiate role msg label codeId funds =>
    .obj
      [("action", .str "instantiate"), ("role", .str role), ("msg", msg),
        ("label", Json.ofOption .str label),
        ("code_id", Json.ofOption (fun c => .int c.toNat) codeId), ("funds", encodeCoins funds)]
  | execute role msg funds =>
    .obj
      [("action", .str "execute"), ("role", .str role), ("msg", msg), ("funds", encodeCoins funds)]
  | query role msg expect =>
    .obj
      [("action", .str "query"), ("role", .str role), ("msg", msg),
        ("expect", expect.getD .null)]
  | balance address denom =>
    .obj
      [("action", .str "balance"), ("address", Json.ofOption .str address), ("denom", .str denom)]
  | send recipient amount =>
    .obj [("action", .str "send"), ("recipient", .str recipient), ("amount", encodeCoins amount)]
  | instantiateSwap manager swap debug funds =>
    .obj
      [("action", .str "instantiate_swap"), ("manager", .str manager), ("swap", .str swap),
        ("debug", .bool debug), ("funds", encodeCoins funds)]
  | instantiateToken manager token etfName etfSymbol =>
    .obj
      [("action", .str "instantiate_cw20"), ("manager", .str manager), ("token", .str token),
        ("etf_name", .str etfName), ("etf_symbol", .str etfSymbol)]
  | swapTokens manager swap initialBalance etf funds =>
    .obj
      [("action", .str "swap_tokens"), ("manager", .str manager),
        ("swap", Json.ofOption .str swap), ("initial_balance", initialBalance.encode),
        ("etf", etf.encode), ("funds", encodeCoins funds)]
  | redeemTokens manager etfName funds =>
    .obj
      [("action", .str "redeem_tokens"), ("manager", .str manager), ("etf_name", .str etfName),
        ("funds", encodeCoins funds)]

def coins : Decode (List Coin) := Coin.decodeList

/-- The kinds of step with the shapes of their fields. -/
def shapes : List (String × Shape Step) :=
  [("upload", ((Shape.of upload).field "role" Decode.text).field "artifact" Decode.text),
    ("instantiate",
      (((((Shape.of instantiate).field "role" Decode.text).field "msg" Decode.payload).optional
        "label" Decode.text).optional "code_id" Decode.uint64).fieldD "funds" coins []),
    ("execute",
      (((Shape.of execute).field "role" Decode.text).field "msg" Decode.payload).fieldD "funds"
        coins []),
    ("query",
      (((Shape.of query).field "role" Decode.text).field "msg" Decode.payload).optional "expect"
        Decode.payload),
    ("balance", ((Shape.of balance).optional "address" Decode.text).field "denom" Decode.text),
    ("send", ((Shape.of send).field "recipient" Decode.text).field "amount" coins),
    ("instantiate_swap",
      ((((Shape.of instantiateSwap).field "manager" Decode.text).field "swap" Decode.text).fieldD
        "debug" Decode.bool false).fieldD "funds" coins []),
    ("instantiate_cw20",
      ((((Shape.of instantiateToken).field "manager" Decode.text).field "token"
        Decode.text).field "etf_name" Decode.text).field "etf_symbol" Decode.text),
    ("swap_tokens",
      (((((Shape.of swapTokens).field "manager" Decode.text).optional "swap" Decode.text).field
        "initial_balance" Coin.decode).field "etf" Bundle.decode).fieldD "funds" coins []),
    ("redeem_tokens",
      (((Shape.of redeemTokens).field "manager" Decode.text).field "etf_name" Decode.text).fieldD
        "funds" coins [])]

/-- Reads the step of the given kind from its other fields. -/
def decodeAs (action : Json) (rest : Json) : Except DecodeFault Step :=
  match action with
  | .str action =>
    match valueOf? action shapes with
    | some shape => shape.decode rest
    | none => .error .mismatch
  | _ => .error .mismatch

/-- Reads a step. In an object the action may stand anywhere; in a list it comes first. -/
def decode : Decode Step
  | .obj fields =>
    match Json.lookup fields "action" with
    | some action => decodeAs action (.obj (fields.filter fun f => f.1 != "action"))
    | none => .error .mismatch
  | .arr (action :: rest) => decodeAs action (.arr rest)
  | _ => .error .mismatch

end Step

end Rollout
