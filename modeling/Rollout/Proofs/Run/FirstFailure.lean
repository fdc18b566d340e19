import Rollout.Proofs.Run.Deadline

/-!
# The first failure of a scenario

A scenario that goes on after a failure reports the first failure of its steps, if it comes to
the end of its steps. The failure is kept in the run of the steps, and a deadline that expires
cuts it off with them: then the report says that the scenario timed out, and the first failure
is lost although it happened before (`runScenario_first_failure`). Whether the report carries
the first failure is hence only a matter of the deadline.
-/

namespace Rollout

/-! ## What a deadline reads as -/

theorem Operation.text_start (o : Operation) :
    ∃ a b rest, o.text.toList = a :: b :: rest ∧ ¬(a = 's' ∧ b = 'c') := by
  cases o <;> exact ⟨_, _, _, rfl, by decide⟩

/-- What a report says of a scenario that was cut off. -/
def deadlineText (ms : Nat) : String := "scenario timed out after " ++ toString ms ++ "ms"

theorem deadlineText_start : ∃ rest, "scenario timed out after ".toList = 's' :: 'c' :: rest :=
  ⟨_, rfl⟩

/-- No failure that counts as a timeout reads like a deadline that expired. -/
theorem Failure.detail_ne_deadlineText (f : Failure) (hkind : f.kind = .timeout) (ms : Nat) :
    f.detail ≠ deadlineText ms := by
  intro heq
  unfold deadlineText at heq
  obtain ⟨tail, htail⟩ := deadlineText_start
  have hchars := congrArg String.toList heq
  rw [String.toList_append, String.toList_append, htail] at hchars
  cases f with
  | timeout o after =>
      obtain ⟨a, b, rest, ho, hstart⟩ := o.text_start
      rw [show (Failure.timeout o after).detail
        = o.text ++ " timed out after " ++ toString after ++ "ms" from rfl,
        String.toList_append, String.toList_append, String.toList_append, ho] at hchars
      exact hstart ⟨(List.cons.inj hchars).1, (List.cons.inj (List.cons.inj hchars).2).1⟩
  | runFailed kind failed total =>
      obtain ⟨c, rest, hc⟩ :=
        List.exists_cons_of_ne_nil (Nat.toDigits_ne_nil (n := failed) (b := 10))
      have hdigit : c.isDigit = true :=
        Nat.isDigit_of_mem_toDigits (by decide) (by decide) (hc ▸ List.mem_cons_self)
      rw [show (Failure.runFailed kind failed total).detail
        = toString failed ++ " of " ++ toString total ++ " scenarios did not succeed" from rfl,
        String.toList_append, String.toList_append, String.toList_append, Nat.toString_eq_repr,
        Nat.toList_repr, hc] at hchars
      rw [(List.cons.inj hchars).1] at hdigit
      exact absurd hdigit (by decide)
  | _ => cases hkind

namespace Deployment

/-! ## The first failure of steps -/

/-- The first failure of steps that are run without a deadline, and the instant of it. -/
def firstFailure (d : Deployment σ) : List Step → Nat → Progress σ → Option (Failure × Nat)
  | [], _, _ => none
  | step :: rest, now, p =>
    match (d.runStep step).result now p with
    | ⟨some (.ok _), t, q⟩ => d.firstFailure rest t q
    | ⟨some (.error f), t, _⟩ => some (f, t)
    | ⟨none, _, _⟩ => none

/-- Steps end with their first failure, whether or not the steps after it are run. -/
theorem value_runSteps (d : Deployment σ) :
    ∀ (steps : List Step) (now : Nat) (p : Progress σ),
      ((d.runSteps steps).result now p).value =
        some (match d.firstFailure steps now p with
          | some (f, _) => .error f
          | none => .ok ())
  | [], _, _ => rfl
  | step :: rest, now, p => by
      obtain ⟨r, t, q, hstep⟩ := (d.alike_runStep d.client step).ends now p
      rw [runSteps, Timed.result_bind_of hstep, firstFailure, hstep]
      cases r with
      | ok _ => exact value_runSteps d rest t q
      | error f =>
          obtain ⟨r, T, q', hrest⟩ := d.runSteps_ends rest t q
          dsimp only
          split
          · rw [Timed.result_bind_of hrest]
            rfl
          · rfl

/-! ## The report -/

/-- The deadline of a scenario expires before its steps have ended. -/
def Expires (d : Deployment σ) (s : Scenario) (now : Nat) (p : Progress σ) : Prop :=
  (((d.runSteps s.steps).within (d.deadline s)).result now p).value = some none

/-- A deadline expires if the steps without it take longer, and only if they take as long as that. -/
theorem expires_bounds (d : Deployment σ) (s : Scenario) (now : Nat) (p : Progress σ) :
    (now + d.deadline s < ((d.runSteps s.steps).result now p).now → d.Expires s now p)
      ∧ (d.Expires s now p → now + d.deadline s ≤ ((d.runSteps s.steps).result now p).now) := by
  constructor
  · intro hlong
    rcases Course.finish_cut (d.runSteps s.steps now p) (d.deadline s) now with
      ⟨a, t, q, h, hle, -⟩ | ⟨q, hcut⟩
    · rw [Timed.result, h] at hlong
      exact absurd hle (Nat.not_le.mpr hlong)
    · exact congrArg Timed.Result.value hcut
  · intro hexp
    obtain ⟨r, T, q, h⟩ := d.runSteps_ends s.steps now p
    rw [h]
    refine Nat.le_of_not_lt fun hlt => ?_
    have hcut : ((d.runSteps s.steps).within (d.deadline s)).result now p =
        ⟨some (some r), now + T, q⟩ := Course.finish_cut_of_lt h hlt
    rw [Expires, hcut] at hexp
    cases hexp

/-- Steps that are not cut off end as they do without a deadline. -/
theorem result_within_of_not_expires (d : Deployment σ) (s : Scenario) {now : Nat}
    {p : Progress σ} (hexp : ¬d.Expires s now p) :
    ((d.runSteps s.steps).within (d.deadline s)).result now p =
      ⟨((d.runSteps s.steps).result now p).value.map some,
        ((d.runSteps s.steps).result now p).now, ((d.runSteps s.steps).result now p).state⟩ := by
  rcases Course.finish_cut (d.runSteps s.steps now p) (d.deadline s) now with
    ⟨a, t, q, h, -, hcut⟩ | ⟨q, hcut⟩
  · rw [show (d.runSteps s.steps).result now p = ⟨some a, t, q⟩ from h]
    exact hcut
  · exact absurd (congrArg Timed.Result.value hcut) hexp

/-- The report of a scenario carries the first failure of its steps exactly if the deadline does not
expire. If it does, the report says that instead, no matter when the failure was. -/
theorem runScenario_first_failure (d : Deployment σ) (s : Scenario) {now t : Nat} {p : Progress σ}
    {f : Failure} (hfirst : d.firstFailure s.steps now p = some (f, t)) :
    ∃ report stop q, (d.runScenario s).result now p = ⟨some report, stop, q⟩
      ∧ (report.error = some f.detail ∧ report.errorKind = some f.kind ↔ ¬d.Expires s now p)
      ∧ (d.Expires s now p → report.outcome = .timedOut
        ∧ report.error = some (deadlineText (d.deadline s)) ∧ report.errorKind = some .timeout) := by
  by_cases hexp : d.Expires s now p
  · obtain ⟨r, stop, q, hcut⟩ := Timed.result_within (d.deadline s) (d.runSteps s.steps) now p
    obtain rfl : r = none := by
      rw [Expires, hcut] at hexp
      exact Option.some.inj hexp
    refine ⟨_, stop, _, d.runScenario_of_within s hcut, iff_of_false ?_ (not_not_intro hexp),
      fun _ => ⟨rfl, rfl, rfl⟩⟩
    rintro ⟨herror, hkind⟩
    exact f.detail_ne_deadlineText (Option.some.inj hkind).symm _ (Option.some.inj herror).symm
  · have hcut := d.result_within_of_not_expires s hexp
    rw [d.value_runSteps, hfirst] at hcut
    exact ⟨_, _, _, d.runScenario_of_within s hcut, iff_of_true ⟨rfl, rfl⟩ hexp,
      fun h => absurd h hexp⟩

/-- The first of two balances is refused, the second one comes in time: the scenario goes on,
and its report carries the refusal. -/
theorem runScenario_first_failure_of_refused :
    let d : Deployment Script := ⟨Script.client, "osmo1", ⟨60, 1, true, "", .standard⟩, ⟨[], []⟩⟩
    let s := Scenario.make "balances" [.balance none "uosmo", .balance none "uatom"]
    let p := Progress.start
      ⟨[⟨some 100, .error (.queryRejected "no such denom")⟩, ⟨some 100, .ok (.coin ⟨"uatom", .max⟩)⟩],
        []⟩
    ∃ report stop q, (d.runScenario s).result 0 p = ⟨some report, stop, q⟩
      ∧ report.error = some "no such denom" ∧ report.errorKind = some .queryRejected := by
  intro d s p
  have hfirst : d.firstFailure s.steps 0 p = some (.queryRejected "no such denom", 100) := by
    decide +kernel
  have hexp : ¬d.Expires s 0 p := mt (d.expires_bounds s 0 p).2 (by decide +kernel)
  obtain ⟨report, stop, q, hrun, hiff, -⟩ := runScenario_first_failure d s hfirst
  exact ⟨report, stop, q, hrun, hiff.mpr hexp⟩

/-- The first of two balances is refused at once, and the scenario goes on with the second
one, which never comes: a second later the refusal is not in the report. -/
theorem runScenario_first_failure_lost :
    let d : Deployment Script := ⟨Script.client, "osmo1", ⟨60, 1, true, "", .standard⟩, ⟨[], []⟩⟩
    let s := Scenario.make "balances" [.balance none "uosmo", .balance none "uatom"]
    let p := Progress.start
      ⟨[⟨some 0, .error (.queryRejected "no such denom")⟩, ⟨none, .error (.connection "")⟩], []⟩
    d.policy.continueOnFailure = true
      ∧ d.firstFailure s.steps 0 p = some (.queryRejected "no such denom", 0)
      ∧ d.Expires s 0 p
      ∧ ((d.runScenario s).result 0 p).value.map (fun r => (r.outcome, r.error, r.errorKind)) =
        some (.timedOut, some "scenario timed out after 1000ms", some .timeout) := by
  intro d s p
  exact ⟨rfl, by decide +kernel, (d.expires_bounds s 0 p).1 (by decide +kernel), by decide +kernel⟩

end Deployment

end Rollout
