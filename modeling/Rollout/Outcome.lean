import Rollout.Schema

/-!
# Outcomes of transactions

What a committed transaction reports: its hash, the height of its block, the gas, and a list of
events, each of a kind and with attributes. An attribute is looked up in the first event of the kind
that has it.
-/

namespace Rollout

/-- An event of a transaction; attributes may repeat. -/
structure TxEvent where
  kind : String
  attributes : List (String × String)
deriving DecidableEq, Inhabited

namespace TxEvent

/-- The value of the first attribute with a key. -/
def get? (e : TxEvent) (key : String) : Option String := valueOf? key e.attributes

def encode (e : TxEvent) : Json :=
  .obj
    [("kind", .str e.kind),
      ("attributes", Json.ofList (fun a => .arr [.str a.1, .str a.2]) e.attributes)]

def shape : Shape TxEvent :=
  ((Shape.of TxEvent.mk).field "kind" Decode.text).field "attributes"
    (Decode.list (Decode.pair Decode.text Decode.text))

end TxEvent

/-- The outcome of a committed transaction. -/
structure TxOutcome where
  txHash : String
  height : Int64
  gasWanted : Int64
  gasUsed : Int64
  events : List TxEvent
deriving DecidableEq, Inhabited

namespace TxOutcome

/-- The value of a key in the first event of a kind that has it. -/
def findAttribute (o : TxOutcome) (kind key : String) : Option String :=
  (o.events.filter fun e => e.kind = kind).findSome? fun e => e.get? key

/-- The events as one value, in their order. -/
def eventsValue (o : TxOutcome) : Json := Json.ofList TxEvent.encode o.events

def encode (o : TxOutcome) : Json :=
  .obj
    [("tx_hash", .str o.txHash), ("height", .int o.height.toInt),
      ("gas_wanted", .int o.gasWanted.toInt), ("gas_used", .int o.gasUsed.toInt),
      ("events", o.eventsValue)]

def shape : Shape TxOutcome :=
  (((((Shape.of TxOutcome.mk).field "tx_hash" Decode.text).field "height" Decode.int64).field
    "gas_wanted" Decode.int64).field "gas_used" Decode.int64).field "events"
    (Decode.list TxEvent.shape.decode)

end TxOutcome

end Rollout
