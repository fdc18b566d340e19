import Rollout.Proofs.Deployment.Calling

/-!
# Calls and answers

What passes between a deployment and its client is written down by a client that notes each
call when it is made and each answer when it comes (`Client.transcribed`), and does otherwise
what the client does that it stands for. So a run with the transcript is the run without it
(`result_run_transcribed`).

The attempts of one call repeat it with the same arguments, and only the last answer may be a
success (`call_repeats`); that success is noted at the very instant at which the call ends, so
no limit of time comes between an answer and what is made of it.
-/

namespace Rollout

/-- What passes between a deployment and its client. -/
inductive CallEvent where
  | made (c : Call)
  | answered (c : Call) (r : Fallible c.Answer)

/-- The state of a client behind a transcript. -/
abbrev Transcribed (σ : Type) := List CallEvent × σ

namespace Client

/-- Writes calls and answers down. -/
def transcribed (k : Client σ) : Client (Transcribed σ) where
  call c := do
    Timed.modify fun w => (w.1 ++ [.made c], w.2)
    let r ← (k.call c).zoom (·.2) fun q w => (w.1, q)
    Timed.modify fun w => (w.1 ++ [.answered c r], w.2)
    return r

theorem transcribed_call (k : Client σ) (c : Call) (now : Nat) (w : Transcribed σ) :
    k.transcribed.call c now w =
      ((k.call c now w.2).mapState fun q => (w.1 ++ [CallEvent.made c], q)).andThen
        (fun r _ s => .ends r (s.1 ++ [CallEvent.answered c r], s.2)) now := rfl

theorem mapState_transcribed (k : Client σ) (c : Call) (now : Nat) (w : Transcribed σ) :
    (k.transcribed.call c now w).mapState Prod.snd = k.call c now w.2 := by
  have hends : ∀ r t (s : Transcribed σ),
      (Course.ends r (s.1 ++ [CallEvent.answered c r], s.2)).mapState Prod.snd =
        (fun r _ q => .ends r q : Fallible c.Answer → Nat → σ → Course σ _) r t s.2 :=
    fun _ _ _ => rfl
  rw [transcribed_call, Course.mapState_andThen hends, Course.andThen_ends,
    Course.mapState_mapState]
  exact Course.mapState_id (k.call c now w.2)

end Client

/-- A call that is made again and again, so far without a success. -/
def Call.Repeats (c : Call) (log : List CallEvent) : Prop :=
  ∀ e ∈ log, e = .made c ∨ ∃ f, e = .answered c (.error f)

namespace Call

theorem repeats_nil (c : Call) : c.Repeats [] := fun _ h => absurd h List.not_mem_nil

theorem Repeats.append {c : Call} {log later : List CallEvent} (h : c.Repeats log)
    (hlater : c.Repeats later) : c.Repeats (log ++ later) :=
  fun e he => (List.mem_append.mp he).elim (h e) (hlater e)

theorem repeats_made (c : Call) : c.Repeats [.made c] :=
  fun _ h => .inl (List.mem_singleton.mp h)

theorem repeats_error (c : Call) (f : Failure) : c.Repeats [.answered c (.error f)] :=
  fun _ h => .inr ⟨f, List.mem_singleton.mp h⟩

end Call

namespace Deployment

/-! ## The transcript changes nothing -/

/-- The deployment with a transcript of its calls. -/
def transcribed (d : Deployment σ) : Deployment (Transcribed σ) := d.withClient d.client.transcribed

/-- An act with a client is an act with another one, seen through a part of its state. -/
def Mirrors (f : τ → σ) (act' : Act τ α) (act : Act σ α) : Prop :=
  ∀ now p, (act' now p).mapState (seenThrough f) = act now (seenThrough f p)

section Mirrors

variable {f : τ → σ}

theorem Mirrors.bind {act' : Act τ α} {act : Act σ α} {next' : α → Act τ β} {next : α → Act σ β}
    (h : Mirrors f act' act) (hnext : ∀ a, Mirrors f (next' a) (next a)) :
    Mirrors f (act' >>= next') (act >>= next) := fun now p =>
  (Course.mapState_andThen hnext _ now).trans (congrArg (Course.andThen _ · now) (h now p))

theorem Mirrors.within {act' : Act τ α} {act : Act σ α} (h : Mirrors f act' act) (ms : Nat) :
    Mirrors f (act'.within ms) (act.within ms) := fun now p =>
  (Course.mapState_cut _ _ _).trans (congrArg (Course.cut · _) (h now p))

/-- What is seen through a part of the state comes to the same end at the same time. -/
theorem Mirrors.result {act' : Act τ α} {act : Act σ α} (h : Mirrors f act' act) (now : Nat)
    (p : Progress τ) :
    act.result now (seenThrough f p) =
      ⟨(act'.result now p).value, (act'.result now p).now,
        seenThrough f (act'.result now p).state⟩ := by
  refine (congrArg (fun c => c.finish now) (h now p)).symm.trans ?_
  exact Course.finish_mapState _ _ now

theorem mirrors_pure (a : α) : Mirrors f (pure a : Act τ α) (pure a) := fun _ _ => rfl

theorem mirrors_now : Mirrors f (Timed.now : Act τ Nat) Timed.now := fun _ _ => rfl

variable (d : Deployment σ) (k : Client τ)

theorem mirrors_adoptAll : ∀ entries, Mirrors f (adoptAll entries : Act τ Unit) (adoptAll entries)
  | [] => mirrors_pure ()
  | _ :: rest => .bind (fun _ _ => rfl) fun _ => mirrors_adoptAll rest

variable (hk : ∀ c now w, (k.call c now w).mapState f = d.client.call c now (f w))
include hk

theorem mirrors_runScenario (s : Scenario) :
    Mirrors f ((d.withClient k).runScenario s) (d.runScenario s) :=
  .bind mirrors_now fun _ =>
    .bind (.within ((d.alike_runSteps k s.steps).mapState hk) _) fun _ =>
      .bind (fun _ _ => rfl) fun _ => .bind mirrors_now fun _ => mirrors_pure _

theorem mirrors_runScenarios :
    ∀ halted scenarios,
      Mirrors f ((d.withClient k).runScenarios halted scenarios) (d.runScenarios halted scenarios)
  | _, [] => mirrors_pure []
  | halted, s :: rest => by
      rw [runScenarios, runScenarios]
      split
      · exact .bind (mirrors_runScenarios halted rest) fun _ => mirrors_pure _
      · split
        · exact .bind (mirrors_runScenarios halted rest) fun _ => mirrors_pure _
        · exact .bind (mirrors_runScenario d k hk s) fun _ =>
            .bind (mirrors_runScenarios _ rest) fun _ => mirrors_pure _

/-- A client that does to a part of its state what another one does makes the same of every plan. -/
theorem mirrors_run (stamp : Nat → String) (plan : Plan) :
    Mirrors f ((d.withClient k).run stamp plan) (d.run stamp plan) :=
  .bind mirrors_now fun _ =>
    .bind (mirrors_adoptAll _) fun _ =>
      .bind (mirrors_runScenarios d k hk false plan.scenarios) fun _ =>
        .bind mirrors_now fun _ => fun _ _ => rfl

end Mirrors

/-- A run with the transcript is the run without it. -/
theorem result_run_transcribed (d : Deployment σ) (stamp : Nat → String) (plan : Plan) (now : Nat)
    (p : Progress (Transcribed σ)) :
    (d.run stamp plan).result now (seenThrough Prod.snd p) =
      ⟨((d.transcribed.run stamp plan).result now p).value,
        ((d.transcribed.run stamp plan).result now p).now,
        seenThrough Prod.snd ((d.transcribed.run stamp plan).result now p).state⟩ :=
  (mirrors_run d d.client.transcribed d.client.mapState_transcribed stamp plan).result now p

/-! ## One call -/

/-- The transcript of a call so far, after what was written down before. -/
def Noted (before : List CallEvent) (c : Call) (last : List CallEvent) (w : Transcribed σ) : Prop :=
  ∃ log, w.1 = before ++ (log ++ last) ∧ c.Repeats log

/-- One attempt adds the call and, unless it is cut off, the answer. -/
theorem transcribed_meets (k : Client σ) (before : List CallEvent) (c : Call) (now : Nat)
    (w : Transcribed σ) (hw : Noted before c [] w) :
    (k.transcribed.call c now w).Meets (Noted before c [])
      (Unless (Noted before c []) fun a => Noted before c [.answered c (.ok a)]) := by
  obtain ⟨log, hlog, hrepeats⟩ := hw
  rw [List.append_nil] at hlog
  have hmade : ∀ q : σ, Noted before c [] (w.1 ++ [CallEvent.made c], q) := fun _ =>
    ⟨log ++ [.made c], by rw [hlog, List.append_nil, List.append_assoc],
      hrepeats.append c.repeats_made⟩
  have hclient := Course.meets_mapState (f := fun q => (w.1 ++ [CallEvent.made c], q))
    (P := Noted before c []) (Q := fun (_ : Fallible c.Answer) s => s.1 = w.1 ++ [CallEvent.made c])
    hmade (fun _ _ => rfl) (k.call c now w.2)
  rw [Client.transcribed_call]
  refine hclient.andThen fun r _ s hs => ?_
  rw [Course.Meets, hs, hlog]
  cases r with
  | ok a =>
      exact ⟨log ++ [.made c], by simp only [List.append_assoc], hrepeats.append c.repeats_made⟩
  | error f =>
      exact ⟨log ++ [.made c] ++ [.answered c (.error f)],
        by simp only [List.append_assoc, List.append_nil],
        (hrepeats.append c.repeats_made).append (c.repeats_error f)⟩

/-- While a call lasts it is repeated without a success, and a success is the last thing noted. -/
theorem call_repeats (d : Deployment σ) (c : Call) (now : Nat) (p : Progress (Transcribed σ)) :
    (d.transcribed.call c now p).Meets (p.Only (Noted p.world.1 c []))
      fun r => p.Only (Unless (Noted p.world.1 c [])
        (fun a => Noted p.world.1 c [.answered c (.ok a)]) r) :=
  d.transcribed.call_meets (transcribed_meets d.client p.world.1 c) now
    ⟨[], (List.append_nil _).symm, c.repeats_nil⟩

end Deployment

end Rollout
