import Rollout.Chain.Connection
import Rollout.Proofs.Timed.Conduct

/-!
# Transcripts of exchanges

What passes between a client and a node is observed by a node that keeps a record of it
(`Node.recorded`). The record of one exchange is a `Transcript`: request and reply in turn, as the
exchange goes on with each reply, until it has ended or a request has remained without a reply. This
holds at each moment at which the exchange may be cut off (`hold_recorded`), so that what is said of
all transcripts of an exchange is said of it under any limit of time.
-/

namespace Rollout

/-- What passes between a client and a node. -/
inductive NodeEvent where
  | asked (r : NodeRequest)
  | told (r : NodeRequest) (reply : Option r.Reply)

/-- The state of a node behind a record of what was asked and told. -/
abbrev Recorded (σ : Type) := List NodeEvent × σ

/-- Keeps a record of what a node is asked and tells. -/
def Node.recorded (n : Node σ) : Node (Recorded σ) where
  answer r := do
    Timed.modify fun w => (w.1 ++ [.asked r], w.2)
    let reply ← (n.answer r).zoom (·.2) fun q w => (w.1, q)
    Timed.modify fun w => (w.1 ++ [.told r reply], w.2)
    return reply

/-- The course of a recorded answer is that of the answer, with the request noted before and the
reply after it. -/
theorem Node.recorded_answer (n : Node σ) (r : NodeRequest) (now : Nat) (w : Recorded σ) :
    n.recorded.answer r now w =
      ((n.answer r now w.2).mapState fun q => (w.1 ++ [NodeEvent.asked r], q)).andThen
        (fun reply _ s => .ends reply (s.1 ++ [NodeEvent.told r reply], s.2)) now := rfl

namespace Exchange

/-- What passes in an exchange and what it ends with, if it has ended. -/
inductive Transcript : Exchange α → List NodeEvent → Option (Fallible α) → Prop
  | ended (result : Fallible α) : Transcript (.ends result) [] (some result)
  | unanswered (r : NodeRequest) (next : Option r.Reply → Exchange α) :
      Transcript (.asks r next) [.asked r] none
  | answered {r : NodeRequest} {next : Option r.Reply → Exchange α} {log : List NodeEvent}
      {v : Option (Fallible α)} (reply : Option r.Reply) (h : Transcript (next reply) log v) :
      Transcript (.asks r next) (.asked r :: .told r reply :: log) v

/-- What passes in a single round. -/
theorem Transcript.of_round {r : NodeRequest} {read : Option r.Reply → Fallible α}
    {log : List NodeEvent} {v : Option (Fallible α)}
    (h : (Exchange.asks r fun reply => .ends (read reply)).Transcript log v) :
    (log = [.asked r] ∧ v = none)
      ∨ ∃ reply, log = [.asked r, .told r reply] ∧ v = some (read reply) := by
  cases h with
  | unanswered => exact .inl ⟨rfl, rfl⟩
  | answered reply h =>
      cases h
      exact .inr ⟨reply, rfl, rfl⟩

theorem Transcript.of_ends {result : Fallible α} {log : List NodeEvent}
    {v : Option (Fallible α)} (h : (Exchange.ends result).Transcript log v) :
    log = [] ∧ v = some result := by
  cases h
  exact ⟨rfl, rfl⟩

/-- Of two exchanges, the first one has stopped without a value, or it has a value and the second
one has begun. -/
theorem Transcript.of_bind {next : α → Exchange β} :
    ∀ {e : Exchange α} {log : List NodeEvent} {v : Option (Fallible β)},
      (e >>= next).Transcript log v →
        (∃ stopped, e.Transcript log stopped ∧ ∀ b, v ≠ some (.ok b))
          ∨ ∃ a first rest, e.Transcript first (some (.ok a)) ∧ (next a).Transcript rest v
            ∧ log = first ++ rest
  | .ends (.ok a), log, _, h => .inr ⟨a, [], log, .ended _, h, rfl⟩
  | .ends (.error f), log, _, h => by
      have hstopped : (Exchange.ends (.error f) : Exchange β).Transcript log _ := h
      obtain ⟨rfl, rfl⟩ := hstopped.of_ends
      exact .inl ⟨_, .ended _, nofun⟩
  | .asks r rest, log, v, h => by
      have hasks : (Exchange.asks r fun reply => rest reply >>= next).Transcript log v := h
      cases hasks with
      | unanswered => exact .inl ⟨_, .unanswered r rest, nofun⟩
      | answered reply h =>
          rcases of_bind h with ⟨stopped, hstopped, hno⟩ | ⟨a, first, later, hfirst, hlater, rfl⟩
          · exact .inl ⟨stopped, .answered reply hstopped, hno⟩
          · exact .inr ⟨a, _, later, .answered reply hfirst, hlater, rfl⟩

/-- An exchange that has ended with a value has come through its first part. -/
theorem Transcript.of_bind_ok {e : Exchange α} {next : α → Exchange β} {log : List NodeEvent} {b : β}
    (h : (e >>= next).Transcript log (some (.ok b))) :
    ∃ a first rest, e.Transcript first (some (.ok a)) ∧ (next a).Transcript rest (some (.ok b))
      ∧ log = first ++ rest := by
  rcases h.of_bind with ⟨-, -, hno⟩ | hthrough
  · exact absurd rfl (hno b)
  · exact hthrough

theorem Transcript.of_settled_ok {result : Fallible α} {next : α → Exchange β}
    {log : List NodeEvent} {b : β}
    (h : (liftM result >>= next : Exchange β).Transcript log (some (.ok b))) :
    ∃ a, result = .ok a ∧ (next a).Transcript log (some (.ok b)) := by
  cases result with
  | ok a => exact ⟨a, rfl, h⟩
  | error f => cases h

/-- A transcript has been added to a record. -/
def Adds (e : Exchange α) (record : List NodeEvent) (v : Option (Fallible α)) (w : Recorded σ) :
    Prop :=
  ∃ log, w.1 = record ++ log ∧ e.Transcript log v

theorem adds_answered {r : NodeRequest} {next : Option r.Reply → Exchange α}
    {record : List NodeEvent} {v : Option (Fallible α)} (reply : Option r.Reply) (w : Recorded σ)
    (h : (next reply).Adds (record ++ [.asked r, .told r reply]) v w) :
    (asks r next).Adds record v w := by
  obtain ⟨log, hlog, h⟩ := h
  exact ⟨.asked r :: .told r reply :: log, by rw [hlog, List.append_assoc]; rfl, .answered reply h⟩

/-- While an exchange waits, and when it ends, its transcript so far is on the record. -/
theorem hold_recorded (n : Node σ) :
    ∀ (e : Exchange α) (now : Nat) (w : Recorded σ),
      (e.hold n.recorded now w).Meets (e.Adds w.1 none) fun r => e.Adds w.1 (some r)
  | ends result, _, w => ⟨[], (List.append_nil w.1).symm, .ended result⟩
  | asks r next, now, w => by
      -- the node's own course neither sees nor changes the record
      have hanswer : ((n.answer r now w.2).mapState fun q => (w.1 ++ [NodeEvent.asked r], q)).Meets
          ((asks r next).Adds w.1 none) fun _ s => s.1 = w.1 ++ [.asked r] :=
        Course.meets_mapState (f := fun q => (w.1 ++ [NodeEvent.asked r], q))
          (fun _ => ⟨[.asked r], rfl, .unanswered r next⟩) (fun _ _ => rfl) (n.answer r now w.2)
      have htold : (n.recorded.answer r now w).Meets ((asks r next).Adds w.1 none)
          fun reply s => s.1 = w.1 ++ [.asked r, .told r reply] := by
        rw [Node.recorded_answer]
        refine hanswer.andThen fun reply _ s hs => ?_
        rw [Course.Meets, hs, List.append_assoc]
        rfl
      refine Course.Meets.andThen (fun reply t s hs => ?_) htold
      have hrest := hold_recorded n (next reply) t s
      rw [hs] at hrest
      exact hrest.weaken (adds_answered reply) fun result => adds_answered reply

end Exchange

end Rollout
