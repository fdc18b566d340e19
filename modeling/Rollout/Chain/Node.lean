import Rollout.Json.Basic
import Rollout.Outcome
import Rollout.Text.Utf8
import Rollout.Timed

/-!
# Nodes

A node answers requests: it looks something up at a path, commits a transaction, tells the latest
block, or, as a faucet, takes an order for coins. Each kind of request has its own kind of reply.
A request that gets no usable reply at all has failed in transport.
-/

namespace Rollout

/-- What a node says to a lookup. -/
structure LookupReply where
  code : UInt32
  log : String
  value : Bytes
deriving DecidableEq

/-- What a node says of a transaction before it goes into a block. -/
structure CheckReply where
  code : UInt32
  log : String
deriving DecidableEq

/-- What became of a transaction in its block. -/
structure TxResult where
  code : UInt32
  log : String
  gasWanted : Int64
  gasUsed : Int64
  events : List TxEvent
deriving DecidableEq

/-- What a node says when a transaction has been committed, or refused. -/
structure CommitReply where
  check : CheckReply
  result : TxResult
  hash : Bytes
  height : Int64
deriving DecidableEq

/-- A plain reply of a faucet. -/
structure FaucetReply where
  status : Nat
  body : String
deriving DecidableEq

/-- What a node is asked. -/
inductive NodeRequest where
  | lookup (path : String) (data : Bytes)
  | commit (tx : Bytes)
  | latestBlock
  | faucet (url : String) (order : Json)

/-- What a node says to a request. -/
abbrev NodeRequest.Reply : NodeRequest → Type
  | lookup .. => LookupReply
  | commit .. => CommitReply
  | latestBlock => UInt64
  | faucet .. => FaucetReply

/-- What answers requests; nothing is a failure in transport. -/
structure Node (σ : Type) where
  answer : (r : NodeRequest) → Timed σ (Option r.Reply)

namespace Node

/-- A node that cannot be reached. -/
def unreachable : Node σ := ⟨fun _ => return none⟩

end Node

end Rollout
