import Rollout.Failure

/-!
# Settings

A network says which chain is used and what its gas costs; a run policy says how long operations and
scenarios may take, whether a run goes on after a failure, and how often an operation is tried
again. Settings bring the two together with the phrase that the keys come from.
-/

namespace Rollout

/-- A chain, and what it takes to use it. -/
structure Network where
  networkName : String
  chainId : String
  rpcUrl : String
  accountPrefix : String
  gasPrice : String
  gasAdjustment : Float
  gasLimit : Option UInt64
  faucetUrl : Option String

namespace Network

/-- The network that is used if none is named. -/
def defaultName : String := "osmosis-testnet"

/-- The network that is there without a network file. -/
def builtIn : Network :=
  { networkName := defaultName
    chainId := "osmo-test-5"
    rpcUrl := "https://rpc.testnet.osmosis.zone"
    accountPrefix := "osmo"
    gasPrice := "0.025uosmo"
    gasAdjustment := 1.3
    gasLimit := none
    faucetUrl := some "https://faucet.testnet.osmosis.zone" }

instance : Inhabited Network := ⟨builtIn⟩

def parsedGasPrice (n : Network) : Except Failure GasPrice :=
  (GasPrice.parse n.gasPrice).mapError fun f => .configuration (.gasPrice f)

def encode (n : Network) : Json :=
  .obj
    [("network_name", .str n.networkName), ("chain_id", .str n.chainId),
      ("rpc_url", .str n.rpcUrl), ("account_prefix", .str n.accountPrefix),
      ("gas_price", .str n.gasPrice), ("gas_adjustment", .real n.gasAdjustment),
      ("gas_limit", Json.ofOption (fun g => .int g.toNat) n.gasLimit),
      ("faucet_url", Json.ofOption .str n.faucetUrl)]

def shapeFor (r : Readers) : Shape Network :=
  ((((((((Shape.of Network.mk).field "network_name" r.text).field "chain_id" r.text).field "rpc_url"
    r.text).field "account_prefix" r.text).field "gas_price" r.text).field "gas_adjustment"
    r.double).optional "gas_limit" r.uint64).optional "faucet_url" r.text

def shape : Shape Network := shapeFor .strict

end Network

/-- How often an operation is tried again, and how long to wait before. -/
structure RetryPolicy where
  maxRetries : UInt32
  initialBackoffMs : UInt64
  backoffMultiplier : Float

namespace RetryPolicy

/-- No second attempt. -/
def standard : RetryPolicy := ⟨0, 1000, 2.0⟩

instance : Inhabited RetryPolicy := ⟨standard⟩

/-- How the wait grows from one attempt to the next; it never shrinks. -/
def growth (p : RetryPolicy) : Float := if 1.0 < p.backoffMultiplier then p.backoffMultiplier else 1.0

/-- The wait before the next attempt, in milliseconds, when `attempt` attempts have failed. The
exponent is a 32-bit word with a sign, so it turns negative for more than `2 ^ 31` attempts. -/
def backoff (p : RetryPolicy) (attempt : Nat) : Nat :=
  let exponent := Int.bmod ((attempt - 1 : Nat) : Int) UInt32.size
  Decimal.floorWithin (UInt64.size - 1)
    (p.initialBackoffMs.toFloat * Decimal.power p.growth exponent)

def encode (p : RetryPolicy) : Json :=
  .obj
    [("max_retries", .int p.maxRetries.toNat),
      ("initial_backoff_ms", .int p.initialBackoffMs.toNat),
      ("backoff_multiplier", .real p.backoffMultiplier)]

def shapeFor (r : Readers) : Shape RetryPolicy :=
  (((Shape.of RetryPolicy.mk).field "max_retries" r.uint32).field "initial_backoff_ms"
    r.uint64).field "backoff_multiplier" r.double

def shape : Shape RetryPolicy := shapeFor .strict

end RetryPolicy

/-- The rules that a run follows. -/
structure RunPolicy where
  operationTimeoutSecs : UInt64
  scenarioTimeoutSecs : UInt64
  continueOnFailure : Bool
  artifactsDir : String
  retry : RetryPolicy

namespace RunPolicy

def standard : RunPolicy := ⟨60, 300, false, "artifacts", .standard⟩

instance : Inhabited RunPolicy := ⟨standard⟩

def operationTimeoutMs (p : RunPolicy) : Nat := p.operationTimeoutSecs.toNat * 1000

def scenarioTimeoutMs (p : RunPolicy) : Nat := p.scenarioTimeoutSecs.toNat * 1000

/-- Where an artifact is looked for: at its own path if that is absolute or leads to anything, and
below the artifacts directory otherwise. -/
def artifactPath (p : RunPolicy) (files : Files) (path : String) : String :=
  if Files.isAbsolute path || files.contains path then path else Files.join p.artifactsDir path

def encode (p : RunPolicy) : Json :=
  .obj
    [("operation_timeout_secs", .int p.operationTimeoutSecs.toNat),
      ("scenario_timeout_secs", .int p.scenarioTimeoutSecs.toNat),
      ("continue_on_failure", .bool p.continueOnFailure), ("artifacts_dir", .str p.artifactsDir),
      ("retry", p.retry.encode)]

def shapeFor (r : Readers) : Shape RunPolicy :=
  (((((Shape.of RunPolicy.mk).field "operation_timeout_secs" r.uint64).field
    "scenario_timeout_secs" r.uint64).field "continue_on_failure" r.bool).field "artifacts_dir"
    r.text).field "retry" (r.record (RetryPolicy.shapeFor r))

def shape : Shape RunPolicy := shapeFor .strict

end RunPolicy

/-- Everything that a command needs to know. -/
structure Settings where
  network : Network
  driver : RunPolicy
  mnemonic : Option String
  accountIndex : UInt32

namespace Settings

/-- Settings for a network, with the standard rules. -/
def ofNetwork (n : Network) : Settings := ⟨n, .standard, none, 0⟩

/-- Refuses settings that no run could succeed with. -/
def validate (s : Settings) : Except Failure Unit := do
  let fail (c : ConfigFault) : Except Failure Unit := .error (.configuration c)
  if Text.allBlank s.network.rpcUrl then fail (.required "network.rpc_url")
  if Text.allBlank s.network.chainId then fail (.required "network.chain_id")
  if Text.allBlank s.network.accountPrefix then fail (.required "network.account_prefix")
  if s.network.gasAdjustment ≤ 0.0 then fail .gasAdjustment
  let _ ← s.network.parsedGasPrice
  if s.driver.operationTimeoutSecs = 0 || s.driver.scenarioTimeoutSecs = 0 then fail .timeouts

/-- The phrase that the keys come from. -/
def requireMnemonic (s : Settings) : Except Failure String :=
  match s.mnemonic with
  | some phrase => .ok phrase
  | none => .error (.configuration .noMnemonic)

/-- The phrase as it is shown: not at all. -/
def shownMnemonic (s : Settings) : String :=
  match s.mnemonic with
  | some _ => "Some(Secret(***))"
  | none => "None"

/-- Settings as they are shown, without the phrase. -/
def encode (s : Settings) : Json :=
  .obj
    [("network", s.network.encode), ("driver", s.driver.encode),
      ("account_index", .int s.accountIndex.toNat)]

/-- A configuration holds the network and the rules; the phrase may be missing, and accounts are
counted from zero. -/
def shapeFor (r : Readers) : Shape Settings :=
  ((((Shape.of Settings.mk).field "network" (r.record (Network.shapeFor r))).field "driver"
    (r.record (RunPolicy.shapeFor r))).optional "mnemonic" r.text).fieldD "account_index" r.uint32 0

end Settings

end Rollout
