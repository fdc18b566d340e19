/-!
# Computations that take time

A `Timed σ α` works on a state and a clock in milliseconds. Started at an instant in a state it takes
a *course*: it ends at once with a value and a state, or it waits in a state and goes on afterwards,
or it waits for ever. Time passes only while a course waits.

`Course.cut` cuts a course off after a time: what has not happened by then does not happen, and the
state stays as it was. Only waiting can be cut off, and what ends at the very instant of the cut still
counts; but a pause, which waits for something that takes no time, does not begin then.

`within ms act` gives an act a time to end in, however long. Where such times are nested and two of
them are over at the same instant, the inner one is seen first. No wait lasts longer than thirty
years: `wait ms` ends then, even if it is asked to go on.
-/

namespace Rollout

/-- How a computation goes on from where it is. -/
inductive Course (σ α : Type) where
  | ends (value : α) (state : σ)
  | waits (state : σ) (ms : Nat) (rest : Unit → Course σ α)
  | pauses (state : σ) (rest : Unit → Course σ α)
  | hangs (state : σ)

/-- How a timed computation went: its value, unless it hangs, the time and the state. -/
structure Timed.Result (σ α : Type) where
  value : Option α
  now : Nat
  state : σ

namespace Course

/-- Goes on from the end of a course that begins at the given instant. -/
def andThen (next : α → Nat → σ → Course σ β) : Course σ α → (now : Nat) → Course σ β
  | ends a s, now => next a now s
  | waits s ms rest, now => waits s ms fun _ => (rest ()).andThen next (now + ms)
  | pauses s rest, now => pauses s fun _ => (rest ()).andThen next now
  | hangs s, _ => hangs s

/-- Cuts a course off after a time; nothing is the value if it has not ended by then. -/
def cut : Course σ α → (left : Nat) → Course σ (Option α)
  | ends a s, _ => ends (some a) s
  | waits s ms rest, left =>
    if ms ≤ left then waits s ms fun _ => (rest ()).cut (left - ms)
    else waits s left fun _ => ends none s
  | pauses s rest, left => if 0 < left then pauses s fun _ => (rest ()).cut left else ends none s
  | hangs s, left => waits s left fun _ => ends none s

/-- The course as a change of a larger state. -/
def mapState (f : σ → τ) : Course σ α → Course τ α
  | ends a s => ends a (f s)
  | waits s ms rest => waits (f s) ms fun _ => (rest ()).mapState f
  | pauses s rest => pauses (f s) fun _ => (rest ()).mapState f
  | hangs s => hangs (f s)

/-- Follows a course that begins at the given instant to its end. -/
def finish : Course σ α → (now : Nat) → Timed.Result σ α
  | ends a s, now => ⟨some a, now, s⟩
  | waits _ ms rest, now => (rest ()).finish (now + ms)
  | pauses _ rest, now => (rest ()).finish now
  | hangs s, now => ⟨none, now, s⟩

end Course

/-- A computation on a state and a clock. -/
def Timed (σ α : Type) : Type := (now : Nat) → σ → Course σ α

namespace Timed

instance : Monad (Timed σ) where
  pure a := fun _ s => .ends a s
  bind act next := fun now s => (act now s).andThen next now

/-- The state. -/
def get : Timed σ σ := fun _ s => .ends s s

/-- Changes the state. -/
def modify (f : σ → σ) : Timed σ Unit := fun _ s => .ends () (f s)

/-- The time. -/
def now : Timed σ Nat := fun now s => .ends now s

/-- Never ends; it can only be cut off. -/
def never : Timed σ α := fun _ s => .hangs s

/-- The longest wait: thirty years of 365 days, in milliseconds. -/
def longest : Nat := 30 * 365 * 86400 * 1000

/-- Lets time pass. -/
def wait (ms : Nat) : Timed σ Unit := fun _ s => .waits s (min ms longest) fun _ => .ends () s

/-- Waits for something that takes no time. -/
def pause : Timed σ Unit := fun _ s => .pauses s fun _ => .ends () s

/-- Gives an act a time to end in; nothing is the value if it has not ended by then. -/
def within (ms : Nat) (act : Timed σ α) : Timed σ (Option α) := fun now s => (act now s).cut ms

/-- An act on a part of the state. -/
def zoom (part : τ → σ) (put : σ → τ → τ) (act : Timed σ α) : Timed τ α := fun now s =>
  (act now (part s)).mapState fun p => put p s

/-- How an act goes from an instant and a state. -/
def result (act : Timed σ α) (now : Nat) (s : σ) : Result σ α := (act now s).finish now

/-- Runs from the start of the clock. -/
def run (act : Timed σ α) (s : σ) : Result σ α := act.result 0 s

end Timed

end Rollout
