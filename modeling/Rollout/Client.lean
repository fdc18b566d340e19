import Rollout.Failure
import Rollout.Outcome
import Rollout.Timed

/-!
# Clients

A client carries out calls on a chain. Each kind of call has its own kind of answer. A client works
on a state of its own and may take time, or fail.

A `Script` is a client that answers from a list of replies, one per call and in order, whatever the
call is: it stands for any behaviour that a chain may show.
-/

namespace Rollout

/-- A call on a chain. -/
inductive Call where
  | upload (sender : String) (wasm : Bytes)
  | instantiate (sender : String) (codeId : UInt64) (msg : Json) (label : String)
      (funds : List Coin)
  | execute (sender contract : String) (msg : Json) (funds : List Coin)
  | query (contract : String) (msg : Json)
  | balance (address denom : String)
  | send (sender recipient : String) (amount : List Coin)

namespace Call

/-- What a successful call gives. -/
abbrev Answer : Call → Type
  | upload .. => UInt64
  | instantiate .. => String
  | execute .. => TxOutcome
  | query .. => Json
  | balance .. => Coin
  | send .. => TxOutcome

/-- The operation that a call belongs to. -/
def operation : Call → Operation
  | upload .. => .upload
  | instantiate .. => .instantiate
  | execute .. => .execute
  | query .. => .query
  | balance .. => .balance
  | send .. => .send

end Call

/-- What carries out calls. -/
structure Client (σ : Type) where
  call : (c : Call) → Timed σ (Fallible c.Answer)

/-! ## Scripted clients -/

/-- What a scripted reply gives if it succeeds. -/
inductive Script.Value where
  | codeId (n : UInt64)
  | address (s : String)
  | outcome (o : TxOutcome)
  | value (v : Json)
  | coin (c : Coin)

/-- A reply: how long it takes, unless it never comes, and what it gives. -/
structure Script.Reply where
  delayMs : Option Nat
  result : Fallible Script.Value

/-- The replies that are left and the calls that were made, the last one first. -/
structure Script where
  replies : List Script.Reply
  calls : List Call

namespace Script

/-- The answer to a call, if the value is of its kind. -/
def Value.answer? (v : Value) : (c : Call) → Option c.Answer
  | .upload .. => match v with | .codeId n => some n | _ => none
  | .instantiate .. => match v with | .address s => some s | _ => none
  | .execute .. => match v with | .outcome o => some o | _ => none
  | .query .. => match v with | .value j => some j | _ => none
  | .balance .. => match v with | .coin c => some c | _ => none
  | .send .. => match v with | .outcome o => some o | _ => none

/-- What a reply says to a call. -/
def Reply.to (r : Reply) (c : Call) : Fallible c.Answer :=
  match r.result with
  | .error f => .error f
  | .ok v =>
    match v.answer? c with
    | some a => .ok a
    | none => .error (.connection "scripted reply has the wrong type")

/-- Notes a call and takes the reply to it. -/
def take (c : Call) : Timed Script (Option Reply) := do
  let s ← Timed.get
  Timed.modify fun s => ⟨s.replies.tail, c :: s.calls⟩
  return s.replies.head?

/-- The client that answers from a script. -/
def client : Client Script where
  call c := do
    match ← take c with
    | none => return .error (.connection "no reply scripted")
    | some r =>
      match r.delayMs with
      | none => Timed.never
      | some ms =>
        Timed.wait ms
        return r.to c

end Script

end Rollout
