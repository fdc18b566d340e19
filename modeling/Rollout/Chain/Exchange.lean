import Rollout.Chain.Node
import Rollout.Failure

/-!
# Exchanges

What is said to a node and made of its replies. An exchange makes one request after the other; what it
asks next, and what it ends with, depends on the replies so far and on nothing else. It fails at once
when one of its parts fails.
-/

namespace Rollout

/-- An exchange with a node: it has ended, or it makes a request and goes on with the reply, which may
have failed in transport. -/
inductive Exchange (α : Type) where
  | ends (result : Fallible α)
  | asks (r : NodeRequest) (next : Option r.Reply → Exchange α)

namespace Exchange

/-- Goes on with the value of an exchange. -/
def andThen (next : α → Exchange β) : Exchange α → Exchange β
  | ends (.ok a) => next a
  | ends (.error f) => ends (.error f)
  | asks r rest => asks r fun reply => (rest reply).andThen next

instance : Monad Exchange where
  pure a := ends (.ok a)
  bind e next := e.andThen next

instance : MonadLift (Except Failure) Exchange := ⟨ends⟩

/-- Fails. -/
def fail (f : Failure) : Exchange α := ends (.error f)

/-- Holds an exchange with a node. -/
def hold (n : Node σ) : Exchange α → Timed σ (Fallible α)
  | ends result => return result
  | asks r next => do (next (← n.answer r)).hold n

end Exchange

end Rollout
