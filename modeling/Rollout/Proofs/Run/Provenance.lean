import Rollout.Proofs.Deployment.Transcription
import Rollout.Proofs.Run.Visits

/-!
# Where addresses and codes come from

Every address and every code that a run uses on the chain was found out in that run. What is
found out, and when, can be read off the transcript of the calls: a plan names contracts, a
step may name its code, and successful uploads, instantiations and transactions of managers
tell of code and contracts (`Step.learns`). A call is `Grounded` in the findings before it if
each address and code in it is the latest one of its role; new code of a role makes the
contract before it void.

The step lemma is `Visit.Ran.sourced`: from a registry that holds what is known, a step makes
only grounded calls, or none at all if it needs something that is not known, and it leaves the
registry with what its calls have told. Over the walk of a run this gives `run_provenance`.
-/

namespace Rollout

/-! ## What steps need and tell -/

/-- What a step must know of a role. -/
inductive Need where
  | code (role : String)
  | contract (role : String)

namespace Need

/-- Whether it is known. -/
def met (known : List Finding) : Need → Bool
  | code role => (Finding.latestCode known role).isSome
  | contract role => (Finding.latestContract known role).isSome

/-- What a step fails with that does not know it. -/
def failure : Need → Failure
  | code role => .configuration (.noCode role)
  | contract role => .notInstantiated role

end Need

namespace Step

/-- What a step must know, in the order in which it looks. -/
def needs : Step → List Need
  | upload .. | balance .. | send .. => []
  | instantiate role .. => [.code role]
  | execute role .. | query role .. => [.contract role]
  | instantiateSwap manager role .. | instantiateToken manager role .. =>
    [.code role, .contract manager]
  | swapTokens manager swap .. => (swap.map Need.contract).toList ++ [.contract manager]
  | redeemTokens manager .. => [.contract manager]

/-- The first thing that a step does not know. -/
def lacks (s : Step) (known : List Finding) : Option Need := s.needs.find? fun n => !n.met known

/-- What an event of a step tells: a successful upload its code, a successful instantiation its
contract, and the transaction of a manager the contract in its events. -/
def learns : Step → CallEvent → List Finding
  | upload role _, .answered (.upload ..) (.ok codeId) => [.code role codeId]
  | instantiate role .., .answered (.instantiate ..) (.ok address) => [.contract role address]
  | instantiateSwap _ role .., .answered (.execute ..) (.ok o)
  | instantiateToken _ role .., .answered (.execute ..) (.ok o) => Move.instantiated role o
  | _, _ => []

end Step

/-- A call of a step in which each address and each code is the latest one of its role. -/
inductive Grounded (sender : String) (known : List Finding) : Step → Call → Prop
  | upload {role artifact : String} (wasm : Bytes) :
      Grounded sender known (.upload role artifact) (.upload sender wasm)
  | instantiate {role : String} {msg : Json} {label : Option String} {given : Option UInt64}
      {funds : List Coin} {codeId : UInt64} (h : Finding.latestCode known role = some codeId) :
      Grounded sender known (.instantiate role msg label given funds)
        (.instantiate sender codeId msg (label.getD role) funds)
  | execute {role : String} {msg : Json} {funds : List Coin} {address : String}
      (h : Finding.latestContract known role = some address) :
      Grounded sender known (.execute role msg funds) (.execute sender address msg funds)
  | query {role : String} {msg : Json} {expect : Option Json} {address : String}
      (h : Finding.latestContract known role = some address) :
      Grounded sender known (.query role msg expect) (.query address msg)
  | balance {address : Option String} {denom : String} :
      Grounded sender known (.balance address denom) (.balance (address.getD sender) denom)
  | send {recipient : String} {amount : List Coin} :
      Grounded sender known (.send recipient amount) (.send sender recipient amount)
  | instantiateSwap {manager role : String} {debug : Bool} {funds : List Coin} {codeId : UInt64}
      {address : String} (hcode : Finding.latestCode known role = some codeId)
      (h : Finding.latestContract known manager = some address) :
      Grounded sender known (.instantiateSwap manager role debug funds)
        (.execute sender address (ManagerCall.instantiateSwap codeId debug).encode funds)
  | instantiateToken {manager role etfName etfSymbol : String} {codeId : UInt64} {address : String}
      (hcode : Finding.latestCode known role = some codeId)
      (h : Finding.latestContract known manager = some address) :
      Grounded sender known (.instantiateToken manager role etfName etfSymbol)
        (.execute sender address (ManagerCall.instantiateToken codeId etfName etfSymbol).encode [])
  | swapTokens {manager : String} {swap contract : Option String} {balance : Coin} {etf : Bundle}
      {funds : List Coin} {address : String}
      (hswap : contract = swap.bind (Finding.latestContract known))
      (hmet : ∀ role, swap = some role → contract.isSome = true)
      (h : Finding.latestContract known manager = some address) :
      Grounded sender known (.swapTokens manager swap balance etf funds)
        (.execute sender address (ManagerCall.swapTokens contract balance etf).encode funds)
  | redeemTokens {manager etfName : String} {funds : List Coin} {address : String}
      (h : Finding.latestContract known manager = some address) :
      Grounded sender known (.redeemTokens manager etfName funds)
        (.execute sender address (ManagerCall.redeemTokens etfName).encode funds)

/-! ## The move of a step -/

/-- A move fits a step that has yet to look for some of its needs: it is the failure for the
first of them that is not known, or a grounded call that tells what the step learns. -/
def Move.Fits (sender : String) (known : List Finding) (s : Step) (needs : List Need) :
    Move Unit → Prop
  | .fails _ f => ∀ need, needs.find? (fun n => !n.met known) = some need → f = need.failure
  | .calls c _ found _ _ =>
    Grounded sender known s c ∧ (∀ a, found a = s.learns (.answered c (.ok a)))
      ∧ needs.find? (fun n => !n.met known) = none

namespace Move

section Fits

variable {sender : String} {known : List Finding} {s : Step} {rest : List Need}
  {report : Option (Operation × Option String)}

theorem fits_found {need : Need} (hmet : need.met known = true) {m : Move Unit}
    (h : m.Fits sender known s rest) : m.Fits sender known s (need :: rest) := by
  have hskip : (need :: rest).find? (fun n => !n.met known) = rest.find? fun n => !n.met known :=
    List.find?_cons_of_neg (by simp [hmet])
  cases m with
  | fails report f =>
      rw [Fits, hskip]
      exact h
  | calls c role found notes value =>
      rw [Fits, hskip]
      exact h

theorem fits_missing (need : Need) (hmet : need.met known = false) :
    (fails report need.failure).Fits sender known s (need :: rest) := by
  intro other h
  rw [List.find?_cons_of_pos (by simp [hmet])] at h
  cases h
  rfl

theorem fits_code {role : String} {next : UInt64 → Move Unit}
    (h : ∀ codeId, Finding.latestCode known role = some codeId →
      (next codeId).Fits sender known s rest) :
    (needs report ((Registry.empty.learn known).codeId role) next).Fits sender known s
      (.code role :: rest) := by
  rw [Registry.codeId_learned]
  cases hcode : Finding.latestCode known role with
  | some codeId => exact fits_found (by rw [Need.met, hcode]; rfl) (h codeId hcode)
  | none => exact fits_missing (.code role) (by rw [Need.met, hcode]; rfl)

theorem fits_contract {role : String} {next : String → Move Unit}
    (h : ∀ address, Finding.latestContract known role = some address →
      (next address).Fits sender known s rest) :
    (needs report ((Registry.empty.learn known).address role) next).Fits sender known s
      (.contract role :: rest) := by
  rw [Registry.address_learned]
  cases hcontract : Finding.latestContract known role with
  | some address => exact fits_found (by rw [Need.met, hcontract]; rfl) (h address hcontract)
  | none => exact fits_missing (.contract role) (by rw [Need.met, hcontract]; rfl)

variable (d : Deployment σ)

/-- The move of each kind of step fits it. -/
theorem fits_ofStep (known : List Finding) (s : Step) :
    (ofStep d (.learn .empty known) s).Fits d.sender known s s.needs := by
  cases s with
  | upload role artifact =>
      rw [ofStep, uploadArtifact, reads, followed_needs]
      cases d.files.read (d.policy.artifactPath d.files artifact) with
      | ok wasm => exact ⟨.upload wasm, fun _ => rfl, rfl⟩
      | error fault => exact fun _ h => by cases h
  | instantiate role msg label given funds =>
      rw [ofStep, instantiate, reads, followed_needs]
      exact fits_code fun codeId h => ⟨.instantiate h, fun _ => rfl, rfl⟩
  | execute role msg funds =>
      rw [ofStep, execute, committing, followed_needs]
      exact fits_contract fun address h => ⟨.execute h, fun _ => rfl, rfl⟩
  | query role msg expect =>
      rw [ofStep, query, reads, followed_needs]
      exact fits_contract fun address h => ⟨.query h, fun _ => rfl, rfl⟩
  | balance address denom => exact ⟨.balance, fun _ => rfl, rfl⟩
  | send recipient amount => exact ⟨.send, fun _ => rfl, rfl⟩
  | instantiateSwap manager role debug funds =>
      rw [ofStep, instantiateThrough, committing, followed_needs]
      refine fits_code fun codeId hcode => ?_
      rw [execute, followed_needs, followed_needs]
      exact fits_contract fun address h =>
        ⟨.instantiateSwap hcode h, fun o => List.append_nil _, rfl⟩
  | instantiateToken manager role etfName etfSymbol =>
      rw [ofStep, instantiateThrough, committing, followed_needs]
      refine fits_code fun codeId hcode => ?_
      rw [execute, followed_needs, followed_needs]
      exact fits_contract fun address h =>
        ⟨.instantiateToken hcode h, fun o => List.append_nil _, rfl⟩
  | swapTokens manager swap balance etf funds =>
      cases swap with
      | none =>
          have hmove : ofStep d (.learn .empty known) (.swapTokens manager none balance etf funds) =
              (execute d (.learn .empty known) manager
                (ManagerCall.swapTokens none balance etf).encode funds).committing
                (.swapTokens manager none balance etf funds) := rfl
          rw [hmove, execute, committing, followed_needs]
          exact fits_contract fun address h => ⟨.swapTokens rfl (fun _ h => by cases h) h,
            fun _ => rfl, rfl⟩
      | some role =>
          rw [ofStep, swapTokens.eq_def, committing, followed_needs, needs_map]
          refine fits_contract fun contract hswap => ?_
          rw [execute, followed_needs]
          exact fits_contract fun address h =>
            ⟨.swapTokens hswap.symm (fun _ _ => rfl) h, fun _ => rfl, rfl⟩
  | redeemTokens manager etfName funds =>
      rw [ofStep, execute, committing, followed_needs]
      exact fits_contract fun address h => ⟨.redeemTokens h, fun _ => rfl, rfl⟩

end Fits

/-! ## The transcript of a move -/

/-- What a move may add to a transcript: nothing without a call, else the repeated call and at
most one success, which is the last thing. -/
def Logs (log : List CallEvent) : Move Unit → Prop
  | .fails .. => log = []
  | .calls c .. => ∃ tries last, log = tries ++ last ∧ c.Repeats tries
      ∧ (last = [] ∨ ∃ a, last = [.answered c (.ok a)])

theorem logs_nil (m : Move Unit) : m.Logs [] := by
  cases m with
  | fails => rfl
  | calls c => exact ⟨[], [], rfl, c.repeats_nil, .inl rfl⟩

end Move

theorem Step.learns_nil_of_repeats (s : Step) {c : Call} {log : List CallEvent}
    (h : c.Repeats log) : log.flatMap s.learns = [] := by
  refine List.flatMap_eq_nil_iff.mpr fun e he => ?_
  rcases h e he with rfl | ⟨f, rfl⟩
  · cases s <;> rfl
  · cases s <;> cases c <;> rfl

/-- Where a call stands in the transcript of its attempts, nothing but failed attempts comes
before. -/
theorem Call.Repeats.made {c c' : Call} {tries last before after : List CallEvent}
    (h : c.Repeats tries) (hlast : last = [] ∨ ∃ a, last = [.answered c (.ok a)])
    (hsplit : tries ++ last = before ++ .made c' :: after) : c' = c ∧ c.Repeats before := by
  have hmade : ∃ more, tries = before ++ .made c' :: more := by
    rcases hlast with rfl | ⟨a, rfl⟩
    · exact ⟨after, (List.append_nil tries).symm.trans hsplit⟩
    · rcases List.eq_nil_or_concat after with rfl | ⟨more, x, rfl⟩
      · exact absurd (List.append_inj' hsplit rfl).2 (by simp)
      · rw [List.concat_eq_append, ← List.cons_append, ← List.append_assoc] at hsplit
        exact ⟨more, (List.append_inj' hsplit rfl).1⟩
  obtain ⟨more, rfl⟩ := hmade
  refine ⟨?_, fun e he => h e (List.mem_append_left _ he)⟩
  rcases h (.made c') (by simp) with heq | ⟨f, heq⟩
  · exact CallEvent.made.inj heq
  · cases heq

/-- The calls of a move that fits a step are grounded in what is known when they are made. -/
theorem Move.Fits.grounded {m : Move Unit} {sender : String} {known : List Finding} {s : Step}
    {needs : List Need} (hfits : m.Fits sender known s needs) {log : List CallEvent}
    (hlogs : m.Logs log) {before after : List CallEvent} {c : Call}
    (hsplit : log = before ++ .made c :: after) :
    Grounded sender (known ++ before.flatMap s.learns) s c := by
  cases m with
  | fails report f =>
      rw [show log = [] from hlogs] at hsplit
      exact absurd hsplit (by simp)
  | calls c' role found notes value =>
      obtain ⟨tries, last, rfl, hrepeats, hlast⟩ := hlogs
      obtain ⟨rfl, hbefore⟩ := hrepeats.made hlast hsplit
      rw [s.learns_nil_of_repeats hbefore, List.append_nil]
      exact hfits.1

/-! ## One step -/

/-- What a step has added to the transcript, and the registry that has taken it in. -/
def Told (m : Move Unit) (s : Step) (p q : Progress (Transcribed σ)) : Prop :=
  ∃ log, q.world.1 = p.world.1 ++ log ∧ q.registry = p.registry.learn (log.flatMap s.learns)
    ∧ m.Logs log

theorem told_refl (m : Move Unit) (s : Step) (p : Progress (Transcribed σ)) : Told m s p p :=
  ⟨[], (List.append_nil _).symm, rfl, m.logs_nil⟩

namespace Deployment

variable (d : Deployment σ)

/-- A move that fits its step tells what the step learns, whenever it is cut off. -/
theorem act_told {m : Move Unit} {s : Step} {known : List Finding} {needs : List Need}
    (hfits : m.Fits d.sender known s needs) (now : Nat) (p : Progress (Transcribed σ)) :
    (m.act d.transcribed now p).Meets (Told m s p) fun _ => Told m s p := by
  cases m with
  | fails report f => exact ⟨[], (List.append_nil _).symm, rfl, rfl⟩
  | calls c role found notes value =>
      obtain ⟨-, hfound, -⟩ := hfits
      have tries {w : Transcribed σ} (hw : Noted p.world.1 c [] w) : ∃ log, w.1 = p.world.1 ++ log
          ∧ log.flatMap s.learns = [] ∧ (Move.calls c role found notes value).Logs log := by
        obtain ⟨log, hlog, hrepeats⟩ := hw
        rw [List.append_nil] at hlog
        exact ⟨log, hlog, s.learns_nil_of_repeats hrepeats, log, [], (List.append_nil log).symm,
          hrepeats, .inl rfl⟩
      have waiting (q : Progress (Transcribed σ)) (hq : p.Only (Noted p.world.1 c []) q) :
          Told (.calls c role found notes value) s p q := by
        obtain ⟨w, rfl, hw⟩ := hq
        obtain ⟨log, hlog, hnone, hlogs⟩ := tries hw
        exact ⟨log, hlog, by rw [hnone]; rfl, hlogs⟩
      have hcall := (d.call_repeats c now p).weaken waiting fun r q hq => hq
      refine hcall.andThen fun r t q hq => ?_
      obtain ⟨w, rfl, hw⟩ := hq
      cases r with
      | error f =>
          obtain ⟨log, hlog, hnone, hlogs⟩ := tries hw
          exact ⟨log, hlog, by rw [hnone]; rfl, hlogs⟩
      | ok a =>
          obtain ⟨log, hlog, hrepeats⟩ := hw
          refine ⟨log ++ [CallEvent.answered c (.ok a)], hlog, ?_, log, _, rfl, hrepeats,
            .inr ⟨a, rfl⟩⟩
          rw [List.flatMap_append, s.learns_nil_of_repeats hrepeats, List.flatMap_singleton,
            ← hfound]
          rfl

/-- A rollout that has taken in what a step announces. -/
def opened (s : Step) (p : Progress σ) : Progress σ :=
  { p with registry := p.registry.learn s.announced }

/-- What a step does first takes no time, and waits at most for a file. -/
theorem opening_step (s : Step) (now : Nat) (p : Progress σ) :
    (Job.step s).opening now p = .ends () (opened s p)
      ∨ s.needs = []
        ∧ (Job.step s).opening now p = .pauses (opened s p) fun _ => .ends () (opened s p) := by
  cases s with
  | upload role artifact => exact .inr ⟨rfl, rfl⟩
  | _ => exact .inl rfl

/-- A step that cannot make its call fails at once. -/
theorem runStep_fails {s : Step} {p : Progress σ} (hneeds : s.needs ≠ [])
    {report : Option (Operation × Option String)} {f : Failure}
    (hmove : Move.ofStep d (opened s p).registry s = .fails report f) (now : Nat) :
    ∃ q, d.runStep s now p = .ends (.error f) q := by
  have hjob := d.job_eq (.step s) now p
  rcases opening_step s now p with hopen | ⟨hnone, -⟩
  · have hmoved : d.runStep s now p =
        (Move.ofStep d (opened s p).registry s).act d now (opened s p) := by
      rw [hopen] at hjob
      exact hjob
    rw [hmove] at hmoved
    exact ⟨_, hmoved⟩
  · exact absurd hnone hneeds

theorem runStep_told {s : Step} {known : List Finding} {p : Progress (Transcribed σ)}
    (hp : (opened s p).registry = .learn .empty known) (now : Nat) :
    (d.transcribed.runStep s now p).Meets
      (Told (.ofStep d.transcribed (opened s p).registry s) s (opened s p))
      fun _ => Told (.ofStep d.transcribed (opened s p).registry s) s (opened s p) := by
  have hjob := d.transcribed.job_eq (.step s) now p
  have hact := d.act_told (hp ▸ Move.fits_ofStep d.transcribed known s) now (opened s p)
  change d.transcribed.runStep s now p = _ at hjob
  rw [hjob]
  rcases opening_step s now p with hopen | ⟨-, hopen⟩
  · rw [hopen]
    exact hact
  · rw [hopen]
    exact ⟨told_refl _ s _, hact⟩

end Deployment

namespace Visit

/-- What a visit has added to the transcript. -/
def said (v : Visit (Transcribed σ)) : List CallEvent :=
  v.ended.2.world.1.drop v.started.2.world.1.length

/-- What was found out in a visit. -/
def found (v : Visit (Transcribed σ)) : List Finding :=
  v.step.announced ++ v.said.flatMap v.step.learns

/-- Where the addresses and codes in the calls of a visit come from, `known` being what was
found out before it. -/
structure Sourced (sender : String) (known : List Finding) (v : Visit (Transcribed σ)) : Prop where
  /-- Each call is grounded in what is known when it is made. -/
  calls : ∀ before c after, v.said = before ++ .made c :: after →
    Grounded sender (known ++ v.step.announced ++ before.flatMap v.step.learns) v.step c
  /-- What is needed and not known is the failure of the step, which makes no call. -/
  lacking : ∀ need, v.step.lacks (known ++ v.step.announced) = some need →
    v.said = [] ∧ v.result = some (.error need.failure)

theorem said_eq {v : Visit (Transcribed σ)} {log : List CallEvent}
    (h : v.ended.2.world.1 = v.started.2.world.1 ++ log) : v.said = log := by
  rw [said, h]
  exact List.drop_left

section Ran

variable {d : Deployment σ} {v : Visit (Transcribed σ)} {known : List Finding}

/-- Whether it has ended or was cut off, a visit has told what its step learns. -/
theorem Ran.told (h : v.Ran d.transcribed)
    (hopened : (Deployment.opened v.step v.started.2).registry = .learn .empty known) :
    Told (.ofStep d.transcribed (.learn .empty known) v.step) v.step
      (Deployment.opened v.step v.started.2) v.ended.2 := by
  obtain ⟨ms, hrun⟩ := h
  have hmeets := d.runStep_told hopened v.started.1
  rw [hopened] at hmeets
  rcases hmeets.finish_cut ms v.started.1 with
    ⟨r, t, q, hcut, htold⟩ | ⟨t, q, hcut, htold⟩
  · obtain ⟨-, -, rfl⟩ := Timed.Result.mk.inj (hcut.symm.trans hrun)
    exact htold
  · obtain ⟨-, -, rfl⟩ := Timed.Result.mk.inj (hcut.symm.trans hrun)
    exact htold

/-- A visit of a step that lacks something fails for want of it. -/
theorem Ran.lacking (h : v.Ran d.transcribed)
    (hopened : (Deployment.opened v.step v.started.2).registry = .learn .empty known)
    {need : Need} (hneed : v.step.lacks known = some need) :
    v.said = [] ∧ v.result = some (.error need.failure) := by
  obtain ⟨log, hlog, -, hlogs⟩ := h.told hopened
  have hfits := Move.fits_ofStep d.transcribed known v.step
  cases hmove : Move.ofStep d.transcribed (.learn .empty known) v.step with
  | calls c role found notes value =>
      rw [hmove] at hfits
      rw [Step.lacks, hfits.2.2] at hneed
      cases hneed
  | fails report f =>
      rw [hmove] at hfits hlogs
      obtain rfl : f = need.failure := hfits need hneed
      have hneeds : v.step.needs ≠ [] := by
        intro hnone
        rw [Step.lacks, hnone] at hneed
        cases hneed
      obtain ⟨q, hends⟩ := d.transcribed.runStep_fails hneeds (hopened ▸ hmove) v.started.1
      obtain ⟨ms, hrun⟩ := h
      have hcut : ((d.transcribed.runStep v.step).within ms).result v.started.1 v.started.2 =
          ⟨some (some (.error need.failure)), v.started.1, q⟩ := by
        rw [Timed.result, Timed.within, hends]
        rfl
      exact ⟨(said_eq hlog).trans hlogs,
        (Option.some.inj (Timed.Result.mk.inj (hcut.symm.trans hrun)).1).symm⟩

theorem Ran.sourced (h : v.Ran d.transcribed)
    (hknown : v.started.2.registry = .learn .empty known) :
    v.Sourced d.sender known ∧ v.ended.2.world.1 = v.started.2.world.1 ++ v.said
      ∧ v.ended.2.registry = .learn .empty (known ++ v.found) := by
  have hopened : (Deployment.opened v.step v.started.2).registry =
      .learn .empty (known ++ v.step.announced) := by
    rw [Deployment.opened, Registry.learn_append, ← hknown]
  obtain ⟨log, hlog, hregistry, hlogs⟩ := h.told hopened
  have hsaid : v.said = log := said_eq hlog
  refine ⟨⟨fun before c after hsplit => ?_, fun need => h.lacking hopened⟩, hsaid ▸ hlog, ?_⟩
  · exact (Move.fits_ofStep d.transcribed _ v.step).grounded hlogs (hsaid.symm.trans hsplit)
  · rw [hregistry, hopened, found, hsaid, ← Registry.learn_append, List.append_assoc]

end Ran

end Visit

/-! ## The whole run -/

/-- Over a walk the registry holds what was found out, and each visit has its sources in what
was found out before. -/
theorem Visits.sourced {d : Deployment σ} {m stop : Moment (Transcribed σ)}
    {visits : List (Visit (Transcribed σ))} (h : Visits d.transcribed m visits stop) :
    ∀ {known : List Finding}, m.2.registry = .learn .empty known →
      stop.2.world.1 = m.2.world.1 ++ visits.flatMap Visit.said
        ∧ stop.2.registry = .learn .empty (known ++ visits.flatMap Visit.found)
        ∧ ∀ before v after, visits = before ++ v :: after →
          v.Sourced d.sender (known ++ before.flatMap Visit.found) := by
  induction h with
  | @done m stop h =>
      intro known hknown
      refine ⟨by rw [h.world, List.flatMap_nil, List.append_nil], ?_,
        fun before v after hsplit => ?_⟩
      · rw [List.flatMap_nil, List.append_nil, ← h.registry, hknown]
      · exact absurd hsplit (by simp)
  | @next m stop v rest h hran _ ih =>
      intro known hknown
      obtain ⟨hsourced, hworld, hregistry⟩ := hran.sourced (h.registry.symm.trans hknown)
      obtain ⟨hlater, hlast, hrest⟩ := ih hregistry
      refine ⟨?_, ?_, fun before v' after hsplit => ?_⟩
      · rw [hlater, hworld, h.world, List.flatMap_cons, List.append_assoc]
      · rw [hlast, List.flatMap_cons, List.append_assoc]
      · cases before with
        | nil =>
            obtain ⟨rfl, rfl⟩ := List.cons.inj hsplit
            rwa [List.flatMap_nil, List.append_nil]
        | cons first before =>
            obtain ⟨rfl, hlater⟩ := List.cons.inj hsplit
            rw [List.flatMap_cons, ← List.append_assoc]
            exact hrest before v' after hlater

/-- The contracts that a plan names. -/
def Plan.found (plan : Plan) : List Finding := plan.contracts.entries.map fun e => .contract e.1 e.2

namespace Deployment

theorem adopted_registry (plan : Plan) (now : Nat) (w : σ) :
    (adopted plan now (.start w)).2.registry = .learn .empty plan.found := by
  rw [Plan.found, Registry.learn, List.foldl_map]
  rfl

/-- The addresses and codes that a run uses come from that run. The transcript of the run is
that of its visits, and in each of them every call is grounded in the contracts of the plan
and in what the visits before and the calls before have told; a step that needs something else
makes no call and fails for want of it. At the end the registry holds all that was found out.
-/
theorem run_provenance (d : Deployment σ) (stamp : Nat → String) (plan : Plan) (now : Nat) (w : σ) :
    ∃ report visits stop,
      (d.transcribed.run stamp plan).result now (.start ([], w)) = ⟨some report, stop.1, stop.2⟩
        ∧ (d.run stamp plan).result now (.start w) =
          ⟨some report, stop.1, seenThrough Prod.snd stop.2⟩
        ∧ Visits d.transcribed (adopted plan now (.start ([], w))) visits stop
        ∧ (visits.map Visit.step).Sublist (plan.scenarios.flatMap Scenario.steps)
        ∧ stop.2.world.1 = visits.flatMap Visit.said
        ∧ stop.2.registry = .learn .empty (plan.found ++ visits.flatMap Visit.found)
        ∧ ∀ before v after, visits = before ++ v :: after →
          v.Sourced d.sender (plan.found ++ before.flatMap Visit.found) := by
  obtain ⟨report, stop, hrun, visits, hvisits, hsub⟩ :=
    d.transcribed.run_visits stamp plan now (.start ([], w))
  obtain ⟨hsaid, hregistry, hsourced⟩ := hvisits.sourced (adopted_registry plan now ([], w))
  refine ⟨report, visits, stop, hrun, ?_, hvisits, hsub, hsaid, hregistry, hsourced⟩
  have hsame := d.result_run_transcribed stamp plan now (.start ([], w))
  rwa [hrun] at hsame

/-- The contract that a call executes. -/
def executed? : CallEvent → Option String
  | .made (.execute _ contract _ _) => some contract
  | _ => none

theorem eq_of_executed? {e : CallEvent} {contract : String} (h : executed? e = some contract) :
    ∃ sender msg funds, e = .made (.execute sender contract msg funds) := by
  cases e with
  | answered c r => cases h
  | made c =>
      cases c with
      | execute sender contract' msg funds =>
          obtain rfl := Option.some.inj h
          exact ⟨sender, msg, funds, rfl⟩
      | _ => cases h

/-- A contract is instantiated and executed. Then a step names newer code, and is refused: the
contract is void, and the second execution makes no call. The one execution in the transcript
went to the contract that was known then. -/
theorem run_provenance_of_new_code :
    let d : Deployment Script :=
      ⟨Script.client, "osmo1sender", ⟨60, 60, true, "", .standard⟩, ⟨[], []⟩⟩
    let plan : Plan := ⟨.empty,
      [.make "swap" [.instantiate "swap" (.obj []) none (some 7) [], .execute "swap" (.obj []) [],
        .instantiate "swap" (.obj []) none (some 9) [], .execute "swap" (.obj []) []]]⟩
    let script : Script := ⟨[⟨some 5, .ok (.address "osmo1first")⟩,
      ⟨some 5, .ok (.outcome ⟨"AB12", 1, 0, 0, []⟩)⟩,
      ⟨some 5, .error (.instantiateRejected "no")⟩], []⟩
    ∃ report, ∃ stop : Moment (Transcribed Script), ∃ v : Visit (Transcribed Script), ∃ known,
      (d.transcribed.run (fun _ => "") plan).result 0 (.start ([], script)) =
          ⟨some report, stop.1, stop.2⟩
        ∧ stop.2.world.1.filterMap executed? = ["osmo1first"]
        ∧ stop.2.registry.address "swap" = .error (.notInstantiated "swap")
        ∧ v.Ran d.transcribed ∧ v.Sourced "osmo1sender" known
        ∧ v.step = .execute "swap" (.obj []) []
        ∧ Finding.latestContract (known ++ v.step.announced) "swap" = some "osmo1first" := by
  intro d plan script
  obtain ⟨report, visits, stop, hrun, -, hvisits, hsub, hsaid, -, hsourced⟩ :=
    d.run_provenance (fun _ => "") plan 0 script
  have hstop :
      ((d.transcribed.run (fun _ => "") plan).result 0 (.start ([], script))).state = stop.2 :=
    congrArg Timed.Result.state hrun
  have hexecuted : stop.2.world.1.filterMap executed? = ["osmo1first"] := by
    rw [← hstop]
    decide +kernel
  have haddress : stop.2.registry.address "swap" = .error (.notInstantiated "swap") := by
    rw [← hstop]
    decide +kernel
  obtain ⟨e, he, hcontract⟩ :=
    List.mem_filterMap.mp (hexecuted ▸ List.mem_singleton.mpr (rfl : "osmo1first" = "osmo1first"))
  obtain ⟨sender, msg, funds, rfl⟩ := eq_of_executed? hcontract
  obtain ⟨v, hv, hmade⟩ := List.mem_flatMap.mp (hsaid ▸ he)
  obtain ⟨before, after, rfl⟩ := List.append_of_mem hv
  obtain ⟨pre, post, hsplit⟩ := List.append_of_mem hmade
  have hvisit := hsourced before v after rfl
  have hgrounded := hvisit.calls pre _ post hsplit
  have hstep : v.step ∈ plan.scenarios.flatMap Scenario.steps :=
    hsub.subset (List.mem_map_of_mem hv)
  have hexecutes : v.step = .execute "swap" (.obj []) [] := by
    simp only [plan, Scenario.make, List.flatMap_cons, List.flatMap_nil, List.append_nil,
      List.mem_cons, List.not_mem_nil, or_false] at hstep
    rcases hstep with h | h | h | h
    · rw [h] at hgrounded
      cases hgrounded
    · exact h
    · rw [h] at hgrounded
      cases hgrounded
    · exact h
  have hnothing : pre.flatMap v.step.learns = [] :=
    List.flatMap_eq_nil_iff.mpr fun _ _ => by rw [hexecutes]; rfl
  rw [hnothing, List.append_nil] at hgrounded
  refine ⟨report, stop, v, _, hrun, hexecuted, haddress, hvisits.ran v hv, hvisit, hexecutes, ?_⟩
  rw [hexecutes] at hgrounded ⊢
  cases hgrounded with
  | execute h => exact h

end Deployment

end Rollout
