import Rollout.Cli.Program
import Rollout.Proofs.Chain.Attempts
import Rollout.Proofs.Chain.Submission
import Rollout.Proofs.Deployment.Calling
import Rollout.Proofs.Plan.Selection

/-!
# What a wrong input costs

A command whose input is wrong is refused before anything is done: nothing is asked of a node,
nothing is printed and no file is written (`Command.Refused.run`). What is wrong is always a fault
of the configuration, and a command has such a fault exactly if its input is not in order
(`Command.refused_iff`). The program that is to carry it out fails with a fault of the configuration
too, whether its settings can be loaded or not (`run_refused`).
-/

namespace Rollout

/-! ## Plan files -/

namespace Plan

/-- What comes of the document that a text is, if it is one. -/
def ReadAs (text : String) (r : Except DecodeFault Plan) : Prop :=
  ∃ document, Toml.parse? .v10 text = some document
    ∧ (shapeWith Scenario.shape.decodeLong).decode document.toJson = r

/-- A file holds a valid plan. -/
structure Held (files : Files) (path : String) (p : Plan) : Prop where
  written : ∃ text, files.readText path = .ok text ∧ ReadAs text (.ok p)
  valid : p.Valid

/-- Why a file holds no valid plan. -/
inductive Unheld (files : Files) (path : String) : ConfigFault → Prop
  | unread {fault : FileFault} (h : files.readText path = .error fault) :
      Unheld files path (.planFile path fault)
  | malformed {text : String} (htext : files.readText path = .ok text)
      (h : Toml.parse? .v10 text = none) : Unheld files path .planSyntax
  | misshapen {text : String} {fault : DecodeFault} (htext : files.readText path = .ok text)
      (h : ReadAs text (.error fault)) : Unheld files path (.planShape fault)
  | invalid {text : String} {p : Plan} {fault : ConfigFault}
      (htext : files.readText path = .ok text) (hp : ReadAs text (.ok p))
      (h : p.validate = .error fault) : Unheld files path fault

variable {files : Files} {path : String}

theorem ofText_of_readAs {text : String} {r : Except DecodeFault Plan} (h : ReadAs text r) :
    ofText text = (do
      let p ← r.mapError .planShape
      p.validate
      return p) := by
  obtain ⟨document, hdocument, rfl⟩ := h
  simp only [ofText, hdocument]

theorem load_of_text {text : String} (h : files.readText path = .ok text) :
    load files path = ofText text := by
  rw [load, h]

theorem load_of_held {p : Plan} (h : Held files path p) : load files path = .ok p := by
  obtain ⟨⟨text, htext, hread⟩, hvalid⟩ := h
  rw [load_of_text htext, ofText_of_readAs hread]
  exact bind_eq_ok_iff.mpr ⟨p, rfl, bind_eq_ok_iff.mpr ⟨(), (p.validate_eq_ok_iff).mpr hvalid, rfl⟩⟩

theorem load_of_unheld {fault : ConfigFault} (h : Unheld files path fault) :
    load files path = .error fault := by
  cases h with
  | unread h => rw [load, h]
  | malformed htext h =>
      rw [load_of_text htext]
      simp only [ofText, h]
  | misshapen htext h =>
      rw [load_of_text htext, ofText_of_readAs h]
      rfl
  | invalid htext hp h =>
      rw [load_of_text htext, ofText_of_readAs hp]
      change (do Plan.validate _; pure _) = _
      rw [h]
      rfl

/-- A file holds a valid plan, or there is a reason why it does not. -/
theorem held_or_unheld (files : Files) (path : String) :
    (∃ p, Held files path p) ∨ ∃ fault, Unheld files path fault := by
  cases htext : files.readText path with
  | error fault => exact .inr ⟨_, .unread htext⟩
  | ok text =>
      cases hdocument : Toml.parse? .v10 text with
      | none => exact .inr ⟨_, .malformed htext hdocument⟩
      | some document =>
          cases hread : (shapeWith Scenario.shape.decodeLong).decode document.toJson with
          | error fault => exact .inr ⟨_, .misshapen htext ⟨document, hdocument, hread⟩⟩
          | ok p =>
              have hp : ReadAs text (.ok p) := ⟨document, hdocument, hread⟩
              cases hvalid : p.validate with
              | error fault => exact .inr ⟨fault, .invalid htext hp hvalid⟩
              | ok => exact .inl ⟨p, ⟨text, htext, hp⟩, (p.validate_eq_ok_iff).mp hvalid⟩

/-- A selection fails on a valid plan exactly if it names a scenario that the plan does not list. -/
theorem select_fails_iff {p : Plan} (h : p.Valid) {s : Selection} :
    (∃ fault, p.select s = .error fault) ↔ ¬∀ name ∈ s.names, p.Lists name := by
  rw [(selected_of_valid ((p.validate_eq_ok_iff).mpr h) s).fails_iff]
  simp

end Plan

namespace Cli

/-! ## Input in order -/

/-- What a command is given is in order: messages are values, coins are read, there are coins to
send, and a plan is held by its file and lists all scenarios that are named. -/
def Command.Sound (files : Files) : Command → Prop
  | .send _ amount => ∃ c cs, Coin.parseList amount = .ok (c :: cs)
  | .deploy _ msg _ _ funds | .exec _ msg funds =>
    (∃ v, Json.parse? msg = some v) ∧ ∃ cs, Coin.parseList (funds.getD "") = .ok cs
  | .query _ msg => ∃ v, Json.parse? msg = some v
  | .run path selection _ _ => ∃ p, Plan.Held files path p ∧ ∀ name ∈ selection.names, p.Lists name
  | .address _ | .generate _ | .faucet _ _ | .balance _ _ | .status => True

/-- What is wrong with a message and the funds that go with it. -/
inductive Misgiven (msg : String) (funds : Option String) : ConfigFault → Prop
  | message (h : Json.parse? msg = none) : Misgiven msg funds .invalidMessage
  | funds {v : Json} {fault : CoinFault} (hmsg : Json.parse? msg = some v)
      (h : Coin.parseList (funds.getD "") = .error fault) : Misgiven msg funds (.coin fault)

/-- What is wrong with the input of a command; of several faults the one that is found first. -/
inductive Command.Refused (files : Files) : Command → ConfigFault → Prop
  | sendCoins {recipient amount : String} {fault : CoinFault}
      (h : Coin.parseList amount = .error fault) :
      Refused files (.send recipient amount) (.coin fault)
  | sendNothing {recipient amount : String} (h : Coin.parseList amount = .ok []) :
      Refused files (.send recipient amount) .nothingToSend
  | deploy {artifact msg role : String} {label funds : Option String} {fault : ConfigFault}
      (h : Misgiven msg funds fault) : Refused files (.deploy artifact msg label role funds) fault
  | exec {contract msg : String} {funds : Option String} {fault : ConfigFault}
      (h : Misgiven msg funds fault) : Refused files (.exec contract msg funds) fault
  | query {contract msg : String} (h : Json.parse? msg = none) :
      Refused files (.query contract msg) .invalidMessage
  | plan {path : String} {selection : Selection} {continueOnFailure : Bool}
      {report : Option String} {fault : ConfigFault} (h : Plan.Unheld files path fault) :
      Refused files (.run path selection continueOnFailure report) fault
  | scenario {path : String} {selection : Selection} {continueOnFailure : Bool}
      {report : Option String} {p : Plan} {fault : ConfigFault} (hp : Plan.Held files path p)
      (h : p.select selection = .error fault) :
      Refused files (.run path selection continueOnFailure report) fault

theorem misgiven_iff {msg : String} {funds : Option String} :
    (∃ fault, Misgiven msg funds fault) ↔
      ¬((∃ v, Json.parse? msg = some v) ∧ ∃ cs, Coin.parseList (funds.getD "") = .ok cs) := by
  constructor
  · rintro ⟨_, h | ⟨hmsg, h⟩⟩ ⟨⟨v, hv⟩, cs, hcs⟩
    · cases h.symm.trans hv
    · cases h.symm.trans hcs
  · intro h
    cases hmsg : Json.parse? msg with
    | none => exact ⟨_, .message hmsg⟩
    | some v =>
        cases hfunds : Coin.parseList (funds.getD "") with
        | error fault => exact ⟨_, .funds hmsg hfunds⟩
        | ok cs => exact absurd ⟨⟨v, hmsg⟩, cs, hfunds⟩ h

namespace Command

variable {files : Files}

theorem send_refused_iff {recipient amount : String} :
    (∃ fault, Refused files (.send recipient amount) fault) ↔
      ¬∃ c cs, Coin.parseList amount = .ok (c :: cs) := by
  constructor
  · rintro ⟨_, h⟩ ⟨c, cs, hcs⟩
    cases h with
    | sendCoins h => cases h.symm.trans hcs
    | sendNothing h => cases h.symm.trans hcs
  · intro h
    cases hcs : Coin.parseList amount with
    | error fault => exact ⟨_, .sendCoins hcs⟩
    | ok cs =>
        cases cs with
        | nil => exact ⟨_, .sendNothing hcs⟩
        | cons c cs => exact absurd ⟨c, cs, hcs⟩ h

theorem run_refused_iff {path : String} {selection : Selection} {continueOnFailure : Bool}
    {report : Option String} :
    (∃ fault, Refused files (.run path selection continueOnFailure report) fault) ↔
      ¬∃ p, Plan.Held files path p ∧ ∀ name ∈ selection.names, p.Lists name := by
  constructor
  · rintro ⟨fault, h⟩ ⟨p, hp, hnames⟩
    cases h with
    | plan h => cases (Plan.load_of_unheld h).symm.trans (Plan.load_of_held hp)
    | scenario hp' h =>
        cases (Plan.load_of_held hp').symm.trans (Plan.load_of_held hp)
        exact (Plan.select_fails_iff hp.valid).mp ⟨fault, h⟩ hnames
  · intro h
    rcases Plan.held_or_unheld files path with ⟨p, hp⟩ | ⟨fault, hfault⟩
    · obtain ⟨fault, hfault⟩ := (Plan.select_fails_iff hp.valid).mpr fun hnames => h ⟨p, hp, hnames⟩
      exact ⟨fault, .scenario hp hfault⟩
    · exact ⟨fault, .plan hfault⟩

/-- A command is refused exactly if its input is not in order. -/
theorem refused_iff (command : Command) :
    (∃ fault, command.Refused files fault) ↔ ¬command.Sound files := by
  cases command with
  | send => exact send_refused_iff
  | deploy artifact msg label role funds =>
      refine Iff.trans (exists_congr fun fault => ⟨?_, .deploy⟩) misgiven_iff
      rintro ⟨⟩
      assumption
  | exec contract msg funds =>
      refine Iff.trans (exists_congr fun fault => ⟨?_, .exec⟩) misgiven_iff
      rintro ⟨⟩
      assumption
  | query contract msg =>
      constructor
      · rintro ⟨_, ⟨⟩⟩ ⟨v, hv⟩
        next h => cases h.symm.trans hv
      · intro h
        cases hmsg : Json.parse? msg with
        | none => exact ⟨_, .query hmsg⟩
        | some v => exact absurd ⟨v, hmsg⟩ h
  | run => exact run_refused_iff
  | address | generate | faucet | balance | status =>
      exact ⟨fun ⟨_, h⟩ => (nomatch h), fun h => absurd trivial h⟩

end Command

/-! ## Refusals -/

theorem readMessage_of_none {msg : String} (h : Json.parse? msg = none) :
    readMessage msg = .error .invalidMessage := by
  rw [readMessage, h]

theorem readCoins_of_error {s : String} {fault : CoinFault} (h : Coin.parseList s = .error fault) :
    readCoins s = .error (.coin fault) := by
  rw [readCoins, h]
  rfl

/-- What begins with reading a message and funds ends there if one of them is wrong. -/
theorem Misgiven.run {msg : String} {funds : Option String} {fault : ConfigFault}
    (h : Misgiven msg funds fault) (next : Json → List Coin → Session σ α) (now : Nat)
    {c : Console σ} :
    (Session.check (readMessage msg) >>= fun v =>
        Session.check (readCoins (funds.getD "")) >>= next v).run now c =
      .ends (.error (.configuration fault)) c := by
  rw [Session.run_check_bind]
  cases h with
  | message h => rw [readMessage_of_none h]
  | funds hmsg h =>
      rw [readMessage, hmsg]
      simp only [Session.run_check_bind, readCoins_of_error h]

/-- A refused command has ended at once, and nothing has been done: not the node, not a file and not
a line is another than before. -/
theorem Command.Refused.run {c : Console σ} {command : Command} {fault : ConfigFault}
    (h : command.Refused c.files fault) (scene : Scene σ) (settings : Settings) (now : Nat) :
    (execute scene settings command).run now c = .ends (.error (.configuration fault)) c := by
  cases h with
  | @sendCoins recipient amount fault h =>
      change (Session.check (readCoins amount) >>= _).run now c = _
      rw [Session.run_check_bind, readCoins_of_error h]
  | @sendNothing recipient amount h =>
      change (Session.check (readCoins amount) >>= _).run now c = _
      rw [Session.run_check_bind, readCoins, h]
      rfl
  | @deploy artifact msg role label funds fault h =>
      change (Session.check (readMessage msg) >>= fun _ =>
        Session.check (readCoins (funds.getD "")) >>= _).run now c = _
      exact h.run _ now
  | @exec contract msg funds fault h =>
      change (Session.check (readMessage msg) >>= fun _ =>
        Session.check (readCoins (funds.getD "")) >>= _).run now c = _
      exact h.run _ now
  | @query contract msg h =>
      change (Session.check (readMessage msg) >>= _).run now c = _
      rw [Session.run_check_bind, readMessage_of_none h]
  | @plan path selection continueOnFailure report fault h =>
      change (Session.check (Plan.load c.files path) >>= _).run now c = _
      rw [Session.run_check_bind, Plan.load_of_unheld h]
  | @scenario path selection continueOnFailure report p fault hp h =>
      change (Session.check (Plan.load c.files path) >>= fun plan =>
        Session.check (plan.select selection) >>= _).run now c = _
      simp only [Session.run_check_bind, Plan.load_of_held hp, h]

end Cli

/-! ## Settings that are refused -/

/-- A failure, if there is one, is a fault of the configuration. -/
def Configures (r : Fallible α) : Prop := ∀ f, r = .error f → ∃ fault, f = .configuration fault

theorem configures_ok (a : α) : Configures (.ok a) := nofun

theorem configures_error (fault : ConfigFault) :
    Configures (.error (.configuration fault) : Fallible α) := by
  rintro _ ⟨⟩
  exact ⟨fault, rfl⟩

theorem configures_mapError (r : Except ε α) (fault : ε → ConfigFault) :
    Configures (r.mapError fun e => .configuration (fault e)) := by
  cases r with
  | ok a => exact configures_ok a
  | error e => exact configures_error (fault e)

theorem Configures.bind {r : Fallible α} {next : α → Fallible β} (h : Configures r)
    (hnext : ∀ a, Configures (next a)) : Configures (r >>= next) := by
  cases r with
  | ok a => exact hnext a
  | error f =>
      rintro _ ⟨⟩
      exact h f rfl

/-- A check that fails with a fault of the configuration, before what comes next. -/
theorem Configures.unless {refuses : Prop} {_ : Decidable refuses} {fault : ConfigFault}
    {next : Unit → Fallible α} (hnext : Configures (next ())) :
    Configures (if refuses then .error (.configuration fault) >>= next else next ()) := by
  split
  · exact configures_error fault
  · exact hnext

theorem configures_validate (s : Settings) : Configures s.validate := by
  rw [Settings.validate]
  iterate 4 refine .unless ?_
  refine .bind (configures_mapError _ .gasPrice) fun _ => ?_
  split
  · exact configures_error .timeouts
  · exact configures_ok ()

theorem configures_load (s : Surroundings) (path network : Option String) :
    Configures (Settings.load s path network) := by
  refine .bind (configures_mapError _ id) fun v => ?_
  refine .bind (configures_mapError _ fun _ => .source) fun settings => ?_
  exact .bind (configures_validate settings) fun _ => configures_ok settings

namespace Cli

theorem files_withVariables (around : Surroundings) :
    (withVariables around).files = around.files := by
  rw [withVariables]
  split <;> rfl

/-- A program run with a command that is refused ends with a fault of the configuration, of the
settings or else of the command, and nothing has been done. -/
theorem run_refused (scene : Scene σ) (around : Surroundings) (world : σ) {args : List String}
    {i : Invocation} {fault : ConfigFault} (hargs : Invocation.parse args = .ok i)
    (h : i.command.Refused around.files fault) :
    ∃ f, run scene around world args = (.failure f, ⟨world, around.files, []⟩)
      ∧ f.kind = .configError := by
  have hfiles := files_withVariables around
  rw [run, runCommand, hargs, hfiles]
  cases hload : Settings.load (withVariables around) i.config i.network with
  | error f =>
      obtain ⟨fault', rfl⟩ := configures_load _ _ _ f hload
      have hrun : (perform scene (withVariables around) i).run.run ⟨world, around.files, []⟩ =
          ⟨some (.error (.configuration fault')), 0, ⟨world, around.files, []⟩⟩ := by
        rw [perform, hload]
        rfl
      exact ⟨.configuration fault', by simp only [hrun], rfl⟩
  | ok s =>
      have hrun : (perform scene (withVariables around) i).run.run ⟨world, around.files, []⟩ =
          ⟨some (.error (.configuration fault)), 0, ⟨world, around.files, []⟩⟩ := by
        rw [perform, hload]
        change ((execute scene s i.command).run 0 ⟨world, around.files, []⟩).finish 0 = _
        rw [Command.Refused.run h scene s 0]
        rfl
      exact ⟨.configuration fault, by simp only [hrun], rfl⟩

end Cli

end Rollout
