import Rollout.Proofs.Registry.Findings
import Rollout.Proofs.Timed.Course
import Rollout.Run

/-!
# What an operation does

Every operation of a deployment, and every step of a scenario, makes one move: from what is in
the registry it either fails without a call, or it makes one call, with all its attempts, and
takes in the result at once. A `Move` says which call that is, what is found out from the
answer, which report and notes are left, and what becomes of the answer. `Job` lists the
operations and steps, `Job.move` is the table of their moves, and `job_eq` says that each
of them is no more than its move.
-/

namespace Rollout

/-! ## Records -/

/-- What is gained from a result if it is a success. -/
def gained (gain : α → List β) : Fallible α → List β
  | .ok a => gain a
  | .error _ => []

/-- A rollout with more findings, reports and notes. -/
def Progress.adds (p : Progress σ) (found : List Finding) (reports : List StepReport)
    (notes : List String) : Progress σ :=
  ⟨p.registry.learn found, p.steps ++ reports, p.notes ++ notes, p.world⟩

namespace Progress

variable (p : Progress σ) (found : List Finding) (reports : List StepReport) (notes : List String)

theorem adds_adds (found' : List Finding) (reports' : List StepReport) (notes' : List String) :
    (p.adds found reports notes).adds found' reports' notes' =
      p.adds (found ++ found') (reports ++ reports') (notes ++ notes') := by
  simp only [adds, Registry.learn_append, List.append_assoc]

theorem adds_nil : p.adds [] [] [] = p := by
  simp only [adds, Registry.learn_nil, List.append_nil]

theorem adds_found : p.adds found [] [] = { p with registry := p.registry.learn found } := by
  simp only [adds, List.append_nil]

theorem adds_report (r : StepReport) : p.adds [] [r] [] = { p with steps := p.steps ++ [r] } := by
  simp only [adds, Registry.learn_nil, List.append_nil]

theorem adds_note (line : String) :
    p.adds [] [] [line] = { p with notes := p.notes ++ [line] } := by
  simp only [adds, Registry.learn_nil, List.append_nil]

end Progress

/-! ## Moves -/

/-- What an operation does: it fails without a call, with a report or without one, or it makes
a call on behalf of a role and goes on with the answer. -/
inductive Move (α : Type) where
  | fails (report : Option (Operation × Option String)) (f : Failure)
  | calls (c : Call) (role : Option String) (found : c.Answer → List Finding)
      (notes : c.Answer → List String) (value : c.Answer → Fallible α)

namespace Move

/-- A call whose answer is the value. -/
def plain (c : Call) (role : Option String) (found : c.Answer → List Finding := fun _ => []) :
    Move c.Answer :=
  .calls c role found (fun _ => []) .ok

/-- A move that needs something first. -/
def needs (report : Option (Operation × Option String)) (need : Fallible β) (next : β → Move α) :
    Move α :=
  match need with
  | .ok b => next b
  | .error f => .fails report f

/-- Goes on with the value of a move. -/
def followed (m : Move α) (found : α → List Finding) (notes : α → List String)
    (value : α → Fallible β) : Move β :=
  match m with
  | fails report f => fails report f
  | calls c role found' notes' value' =>
    calls c role (fun a => found' a ++ gained found (value' a))
      (fun a => notes' a ++ gained notes (value' a)) fun a => value' a >>= value

theorem followed_needs (report : Option (Operation × Option String)) (need : Fallible γ)
    (next : γ → Move α) (found : α → List Finding) (notes : α → List String)
    (value : α → Fallible β) :
    (needs report need next).followed found notes value =
      needs report need fun b => (next b).followed found notes value := by
  cases need <;> rfl

theorem needs_map (report : Option (Operation × Option String)) (need : Fallible γ) (f : γ → β)
    (next : β → Move α) :
    needs report (need.map f) next = needs report need fun b => next (f b) := by
  cases need <;> rfl

/-- Makes a move. -/
def act (d : Deployment σ) : Move α → Act σ (Fallible α)
  | fails report f => fun _ p =>
    .ends (.error f) <| p.adds []
      (report.map fun r => StepReport.ofResult (α := Unit) r.1 r.2 0 (.error f)).toList []
  | calls c role found notes value => fun now p =>
    (d.call c now p).andThen
      (fun r t q =>
        .ends (r >>= value) <| q.adds (gained found r)
          [StepReport.ofResult c.operation role (reportedMs (t - now)) r] (gained notes r))
      now

variable (d : Deployment σ)

/-- What comes after a move is one with it: no time passes in between. -/
theorem act_followed (m : Move α) (found : α → List Finding) (notes : α → List String)
    (value : α → Fallible β) (now : Nat) (p : Progress σ) :
    (m.followed found notes value).act d now p =
      (m.act d now p).andThen
        (fun r _ q => .ends (r >>= value) (q.adds (gained found r) [] (gained notes r))) now := by
  cases m with
  | fails report f =>
      exact congrArg (Course.ends _) (Progress.adds_nil _).symm
  | calls c role found' notes' value' =>
      rw [act, Course.andThen_assoc]
      refine congrArg (fun next => (d.call c now p).andThen next now) ?_
      funext r t q
      cases r with
      | error f => exact congrArg (Course.ends _) (Progress.adds_nil _).symm
      | ok a =>
          refine congrArg (Course.ends _) ?_
          rw [Progress.adds_adds, List.append_nil]
          rfl

end Move

/-! ## Operations and steps -/

/-- The operations of a deployment, and the steps of scenarios, with what they give. -/
inductive Job : Type → Type 1 where
  | upload (role : String) (wasm : Bytes) : Job UInt64
  | uploadArtifact (role path : String) : Job UInt64
  | instantiate (role : String) (msg : Json) (label : Option String) (funds : List Coin) :
      Job String
  | execute (role : String) (msg : Json) (funds : List Coin) : Job TxOutcome
  | query (role : String) (msg : Json) : Job Json
  | balance (address : Option String) (denom : String) : Job Coin
  | send (recipient : String) (amount : List Coin) : Job TxOutcome
  | instantiateSwap (manager swap : String) (debug : Bool) (funds : List Coin) : Job TxOutcome
  | instantiateToken (manager token etfName etfSymbol : String) : Job TxOutcome
  | swapTokens (manager : String) (swap : Option String) (initialBalance : Coin) (etf : Bundle)
      (funds : List Coin) : Job TxOutcome
  | redeemTokens (manager etfName : String) (funds : List Coin) : Job TxOutcome
  | queryManager {α : Type} (manager : String) (q : ManagerQuery) (decode : Decode α) : Job α
  | step (s : Step) : Job Unit

/-- The operation that a step makes. -/
def Step.operation : Step → Operation
  | upload .. => .upload
  | instantiate .. => .instantiate
  | query .. => .query
  | balance .. => .balance
  | send .. => .send
  | execute .. | instantiateSwap .. | instantiateToken .. | swapTokens .. | redeemTokens .. =>
    .execute

/-- What a step lets a rollout know before anything else: the code that it names. -/
def Step.announced : Step → List Finding
  | instantiate role _ _ (some codeId) _ => [.code role codeId]
  | _ => []

namespace Job

/-- Does a job. -/
def act (d : Deployment σ) : Job α → Act σ (Fallible α)
  | upload role wasm => d.upload role wasm
  | uploadArtifact role path => d.uploadArtifact role path
  | instantiate role msg label funds => d.instantiate role msg label funds
  | execute role msg funds => d.execute role msg funds
  | query role msg => d.query role msg
  | balance address denom => d.balance address denom
  | send recipient amount => d.send recipient amount
  | instantiateSwap manager swap debug funds => d.instantiateSwap manager swap debug funds
  | instantiateToken manager token etfName etfSymbol =>
    d.instantiateToken manager token etfName etfSymbol
  | swapTokens manager swap initialBalance etf funds =>
    d.swapTokens manager swap initialBalance etf funds
  | redeemTokens manager etfName funds => d.redeemTokens manager etfName funds
  | queryManager manager q decode => d.queryManager manager q decode
  | step s => d.runStep s

/-- What a job does before its move: a file is waited for, and the code that a step names is taken
in. -/
def opening : Job α → Act σ Unit
  | uploadArtifact .. | step (.upload ..) => Timed.pause
  | step s => Deployment.changeRegistry fun g => g.learn s.announced
  | _ => pure ()

end Job

namespace Move

/-- What an outcome says of a contract that was instantiated for a role. -/
def instantiated (role : String) (o : TxOutcome) : List Finding :=
  ((o.findAttribute "instantiate" "_contract_address").map (.contract role)).toList

variable (d : Deployment σ) (g : Registry)

def upload (role : String) (wasm : Bytes) : Move UInt64 :=
  plain (.upload d.sender wasm) (some role) fun codeId => [.code role codeId]

def uploadArtifact (role path : String) : Move UInt64 :=
  let path := d.policy.artifactPath d.files path
  needs (some (.upload, some role))
    ((d.files.read path).mapError fun fault => .artifact path fault.message) (upload d role)

def instantiate (role : String) (msg : Json) (label : Option String) (funds : List Coin) :
    Move String :=
  needs (some (.instantiate, some role)) (g.codeId role) fun codeId =>
    plain (.instantiate d.sender codeId msg (label.getD role) funds) (some role) fun address =>
      [.contract role address]

def execute (role : String) (msg : Json) (funds : List Coin) : Move TxOutcome :=
  needs (some (.execute, some role)) (g.address role) fun contract =>
    plain (.execute d.sender contract msg funds) (some role)

def query (role : String) (msg : Json) : Move Json :=
  needs (some (.query, some role)) (g.address role) fun contract =>
    plain (.query contract msg) (some role)

def instantiateThrough (manager role : String) (funds : List Coin)
    (message : UInt64 → ManagerCall) : Move TxOutcome :=
  needs none (g.codeId role) fun codeId =>
    (execute d g manager (message codeId).encode funds).followed (instantiated role)
      (fun _ => []) .ok

def swapTokens (manager : String) (swap : Option String) (initialBalance : Coin) (etf : Bundle)
    (funds : List Coin) : Move TxOutcome :=
  let contract : Fallible (Option String) :=
    match swap with
    | some role => (g.address role).map some
    | none => .ok none
  needs none contract fun contract =>
    execute d g manager (ManagerCall.swapTokens contract initialBalance etf).encode funds

/-- A transaction whose events are noted. -/
def committing (s : Step) (m : Move TxOutcome) : Move Unit :=
  m.followed (fun _ => [])
    (fun o => [s.text ++ " committed in tx " ++ o.txHash ++ ": " ++ o.eventsValue.compact])
    fun _ => .ok ()

/-- Goes on with the value of a move, which tells nothing more. -/
def reads (m : Move α) (value : α → Fallible β) : Move β :=
  m.followed (fun _ => []) (fun _ => []) value

/-- The move of a step, after what it does first. -/
def ofStep (d : Deployment σ) (g : Registry) (s : Step) : Move Unit :=
  match s with
  | .upload role artifact => (uploadArtifact d role artifact).reads fun _ => .ok ()
  | .instantiate role msg label _ funds =>
    (instantiate d g role msg label funds).reads fun _ => .ok ()
  | .execute role msg funds => (execute d g role msg funds).committing s
  | .query role msg expect =>
    (query g role msg).reads fun response => Deployment.meets role response expect
  | .balance address denom =>
    (plain (.balance (address.getD d.sender) denom) none).reads fun _ => .ok ()
  | .send recipient amount => (plain (.send d.sender recipient amount) none).committing s
  | .instantiateSwap manager swap debug funds =>
    (instantiateThrough d g manager swap funds fun codeId =>
      .instantiateSwap codeId debug).committing s
  | .instantiateToken manager token etfName etfSymbol =>
    (instantiateThrough d g manager token [] fun codeId =>
      .instantiateToken codeId etfName etfSymbol).committing s
  | .swapTokens manager swap initialBalance etf funds =>
    (swapTokens d g manager swap initialBalance etf funds).committing s
  | .redeemTokens manager etfName funds =>
    (execute d g manager (ManagerCall.redeemTokens etfName).encode funds).committing s

end Move

/-- The move of a job. -/
def Job.move (d : Deployment σ) (g : Registry) : Job α → Move α
  | upload role wasm => .upload d role wasm
  | uploadArtifact role path => .uploadArtifact d role path
  | instantiate role msg label funds => .instantiate d g role msg label funds
  | execute role msg funds => .execute d g role msg funds
  | query role msg => .query g role msg
  | balance address denom => .plain (.balance (address.getD d.sender) denom) none
  | send recipient amount => .plain (.send d.sender recipient amount) none
  | instantiateSwap manager swap debug funds =>
    .instantiateThrough d g manager swap funds fun codeId => .instantiateSwap codeId debug
  | instantiateToken manager token etfName etfSymbol =>
    .instantiateThrough d g manager token [] fun codeId =>
      .instantiateToken codeId etfName etfSymbol
  | swapTokens manager swap initialBalance etf funds =>
    .swapTokens d g manager swap initialBalance etf funds
  | redeemTokens manager etfName funds =>
    .execute d g manager (ManagerCall.redeemTokens etfName).encode funds
  | queryManager manager q decode =>
    (Move.query g manager q.encode).reads fun v => (decode v).mapError .serialization
  | step s => .ofStep d g s

/-! ## Operations are their moves -/

namespace Deployment

/-- An act does what a move says that depends on the registry. -/
def Makes (d : Deployment σ) (act : Act σ (Fallible α)) (move : Registry → Move α) : Prop :=
  ∀ now p, act now p = (move p.registry).act d now p

variable {d : Deployment σ}

theorem Makes.result {act : Act σ (Fallible α)} {move : Registry → Move α} (h : d.Makes act move)
    (now : Nat) (p : Progress σ) : act.result now p = ((move p.registry).act d).result now p :=
  congrArg (fun c => c.finish now) (h now p)

/-- A call under a report, with what is found out from the answer. -/
theorem makes_reported {c : Call} {act : Act σ (Fallible c.Answer)} (role : Option String)
    (found : c.Answer → List Finding)
    (hact : act = fun now p => (d.call c now p).andThen
      (fun r _ q => .ends r { q with registry := q.registry.learn (gained found r) }) now) :
    d.Makes (reported c.operation role act) fun _ => .plain c role found := by
  intro now p
  subst hact
  refine (Course.andThen_assoc _ _ _ _).trans ?_
  refine congrArg (fun next => (d.call c now p).andThen next now) ?_
  funext r t q
  have hvalue : r >>= Except.ok = r := by cases r <;> rfl
  have hnotes : gained (fun _ : c.Answer => ([] : List String)) r = [] := by cases r <;> rfl
  rw [hvalue, hnotes, Progress.adds, List.append_nil]
  rfl

/-- A need that is not met before a call is reported like the call. -/
theorem makes_needs {act : β → Act σ (Fallible α)} {move : β → Registry → Move α}
    (operation : Operation) (role : Option String) (need : Registry → Fallible β)
    (hact : ∀ b, d.Makes (reported operation role (act b)) (move b)) :
    d.Makes (reported operation role (do andThen (need (← registry)) act)) fun g =>
      .needs (some (operation, role)) (need g) fun b => move b g := by
  intro now p
  change reported operation role (andThen (need p.registry) act) now p =
    (Move.needs _ (need p.registry) fun b => move b p.registry).act d now p
  cases need p.registry with
  | ok b => exact hact b now p
  | error f =>
      refine congrArg (Course.ends _) ?_
      rw [Option.map_some, Option.toList_some, Progress.adds_report, Nat.sub_self]
      rfl

/-- A need that is not met before anything else leaves no report. -/
theorem makes_needs_first {act : β → Act σ (Fallible α)} {move : β → Registry → Move α}
    (need : Registry → Fallible β) (hact : ∀ b, d.Makes (act b) (move b)) :
    d.Makes (do andThen (need (← registry)) act) fun g =>
      .needs none (need g) fun b => move b g := by
  intro now p
  change andThen (need p.registry) act now p =
    (Move.needs none (need p.registry) fun b => move b p.registry).act d now p
  cases need p.registry with
  | ok b => exact hact b now p
  | error f => exact congrArg (Course.ends _) (Progress.adds_nil p).symm

theorem makes_followed {act : Act σ (Fallible α)} {move : Registry → Move α}
    (h : d.Makes act move) {next : Fallible α → Act σ (Fallible β)} {found : α → List Finding}
    {notes : α → List String} {value : α → Fallible β}
    (hnext : ∀ r now q, next r now q =
      .ends (r >>= value) (q.adds (gained found r) [] (gained notes r))) :
    d.Makes (act >>= next) fun g => (move g).followed found notes value := by
  intro now p
  rw [Move.act_followed, ← h now p]
  exact congrArg (fun next => (act now p).andThen next now) (funext fun r => funext fun t =>
    funext fun q => hnext r t q)

theorem makes_reads {act : Act σ (Fallible α)} {move : Registry → Move α} (h : d.Makes act move)
    {next : Fallible α → Act σ (Fallible β)} {value : α → Fallible β}
    (hnext : ∀ r now q, next r now q = .ends (r >>= value) q) :
    d.Makes (act >>= next) fun g => (move g).reads value :=
  makes_followed h fun r now q => by
    cases r <;> rw [hnext, gained, gained, Progress.adds_nil]

theorem makes_ignoring {act : Act σ (Fallible α)} {move : Registry → Move α}
    (h : d.Makes act move) : d.Makes (ignoring act) fun g => (move g).reads fun _ => .ok () :=
  makes_reads h fun r _ _ => by cases r <;> rfl

theorem makes_committing {act : Act σ (Fallible TxOutcome)} {move : Registry → Move TxOutcome}
    (s : Step) (h : d.Makes act move) :
    d.Makes (committing s act) fun g => (move g).committing s :=
  makes_followed h fun r _ q => by
    cases r with
    | ok o =>
        rw [gained, gained, Progress.adds_note]
        rfl
    | error f => exact congrArg (Course.ends _) (Progress.adds_nil q).symm

variable (d)

/-! ### One equation for each operation -/

/-- A call and nothing else. -/
theorem makes_call (c : Call) (role : Option String) :
    d.Makes (reported c.operation role (d.call c)) fun _ => .plain c role := by
  refine makes_reported role _ (funext fun now => funext fun p => ?_)
  have hkeep : ∀ (r : Fallible c.Answer) (q : Progress σ), { q with
      registry := q.registry.learn (gained (fun _ => []) r) } = q := by
    intro r q
    cases r <;> rfl
  simp only [hkeep, Course.andThen_ends]

theorem makes_upload (role : String) (wasm : Bytes) :
    d.Makes (d.upload role wasm) fun _ => .upload d role wasm := by
  refine makes_reported (c := .upload d.sender wasm) (some role) _
    (funext fun now => funext fun p => ?_)
  refine congrArg (fun next => (d.call (.upload d.sender wasm) now p).andThen next now) ?_
  funext r t q
  cases r <;> rfl

theorem makes_artifact (role path : String) :
    d.Makes
      (match d.files.read (d.policy.artifactPath d.files path) with
        | .ok wasm => d.upload role wasm
        | .error fault => reported .upload (some role)
            (return .error (.artifact (d.policy.artifactPath d.files path) fault.message)))
      fun _ => .uploadArtifact d role path := by
  intro now p
  rw [Move.uploadArtifact]
  cases d.files.read (d.policy.artifactPath d.files path) with
  | ok wasm => exact d.makes_upload role wasm now p
  | error fault =>
      refine congrArg (Course.ends _) ?_
      rw [Option.map_some, Option.toList_some, Progress.adds_report, Nat.sub_self]
      rfl

theorem makes_instantiate (role : String) (msg : Json) (label : Option String)
    (funds : List Coin) :
    d.Makes (d.instantiate role msg label funds) fun g =>
      .instantiate d g role msg label funds := by
  refine makes_needs .instantiate (some role) (fun g => g.codeId role) fun codeId => ?_
  refine makes_reported (c := .instantiate d.sender codeId msg (label.getD role) funds)
    (some role) _ (funext fun now => funext fun p => ?_)
  refine congrArg (fun next => (d.call (.instantiate d.sender codeId msg (label.getD role) funds)
    now p).andThen next now) ?_
  funext r t q
  cases r <;> rfl

theorem makes_execute (role : String) (msg : Json) (funds : List Coin) :
    d.Makes (d.execute role msg funds) fun g => .execute d g role msg funds :=
  makes_needs .execute (some role) (fun g => g.address role) fun contract =>
    d.makes_call (.execute d.sender contract msg funds) (some role)

theorem makes_query (role : String) (msg : Json) :
    d.Makes (d.query role msg) fun g => .query g role msg :=
  makes_needs .query (some role) (fun g => g.address role) fun contract =>
    d.makes_call (.query contract msg) (some role)

theorem makes_instantiateThrough (manager role : String) (funds : List Coin)
    (message : UInt64 → ManagerCall) :
    d.Makes (d.instantiateThrough manager role funds message) fun g =>
      .instantiateThrough d g manager role funds message := by
  refine makes_needs_first (fun g => g.codeId role) fun codeId => ?_
  refine makes_followed (d.makes_execute manager (message codeId).encode funds) fun r _ q => ?_
  cases r with
  | error f => exact congrArg (Course.ends _) (Progress.adds_nil q).symm
  | ok o =>
      rw [gained, gained, Progress.adds_found]
      simp only [recordInstantiated, Move.instantiated]
      cases o.findAttribute "instantiate" "_contract_address" <;> rfl

theorem makes_swapTokens (manager : String) (swap : Option String) (initialBalance : Coin)
    (etf : Bundle) (funds : List Coin) :
    d.Makes (d.swapTokens manager swap initialBalance etf funds) fun g =>
      .swapTokens d g manager swap initialBalance etf funds :=
  makes_needs_first
    (fun g => match swap with
      | some role => (g.address role).map some
      | none => .ok none)
    fun _ => d.makes_execute manager _ funds

theorem makes_queryManager (manager : String) (q : ManagerQuery) (decode : Decode α) :
    d.Makes (d.queryManager manager q decode) fun g =>
      (Move.query g manager q.encode).reads fun v => (decode v).mapError .serialization :=
  makes_reads (d.makes_query manager q.encode) fun r _ _ => by cases r <;> rfl

/-- A job is its move, after what it does first. -/
theorem job_eq (j : Job α) (now : Nat) (p : Progress σ) :
    j.act d now p =
      (j.opening now p).andThen (fun _ t q => (j.move d q.registry).act d t q) now := by
  cases j with
  | upload role wasm => exact d.makes_upload role wasm now p
  | uploadArtifact role path =>
      exact congrArg (Course.pauses p) (funext fun _ => d.makes_artifact role path now p)
  | instantiate role msg label funds => exact d.makes_instantiate role msg label funds now p
  | execute role msg funds => exact d.makes_execute role msg funds now p
  | query role msg => exact d.makes_query role msg now p
  | balance address denom => exact d.makes_call (.balance _ denom) none now p
  | send recipient amount => exact d.makes_call (.send _ recipient amount) none now p
  | instantiateSwap manager swap debug funds => exact d.makes_instantiateThrough _ _ _ _ now p
  | instantiateToken manager token etfName etfSymbol =>
      exact d.makes_instantiateThrough _ _ _ _ now p
  | swapTokens manager swap initialBalance etf funds => exact d.makes_swapTokens _ _ _ _ _ now p
  | redeemTokens manager etfName funds => exact d.makes_execute _ _ _ now p
  | queryManager manager q decode => exact d.makes_queryManager manager q decode now p
  | step s =>
      cases s with
      | upload role artifact =>
          exact congrArg (Course.pauses p) (funext fun _ =>
            makes_ignoring (d.makes_artifact role artifact) now p)
      | instantiate role msg label codeId funds =>
          cases codeId with
          | none => exact makes_ignoring (d.makes_instantiate role msg label funds) now p
          | some codeId =>
              exact makes_ignoring (d.makes_instantiate role msg label funds) now
                { p with registry := p.registry.recordCode role codeId }
      | execute role msg funds => exact makes_committing _ (d.makes_execute _ _ _) now p
      | query role msg expect =>
          exact makes_reads (d.makes_query role msg) (fun r _ _ => by cases r <;> rfl) now p
      | balance address denom => exact makes_ignoring (d.makes_call (.balance _ denom) none) now p
      | send recipient amount =>
          exact makes_committing _ (d.makes_call (.send _ recipient amount) none) now p
      | instantiateSwap manager swap debug funds =>
          exact makes_committing _ (d.makes_instantiateThrough _ _ _ _) now p
      | instantiateToken manager token etfName etfSymbol =>
          exact makes_committing _ (d.makes_instantiateThrough _ _ _ _) now p
      | swapTokens manager swap initialBalance etf funds =>
          exact makes_committing _ (d.makes_swapTokens _ _ _ _ _) now p
      | redeemTokens manager etfName funds =>
          exact makes_committing _ (d.makes_execute _ _ _) now p

end Deployment

end Rollout
