import Rollout.Schema
import Rollout.GasPrice
import Rollout.Files

/-!
# Failures

Everything that can go wrong in a rollout, as causes. A failure has a kind, which decides whether
another attempt is worth while and which exit code a run ends with; a message for people; and a
detail, which is the message without the words for the kind. What the chain says about a rejected
transaction is kept as it is.
-/

namespace Rollout

/-- What a chain is asked to do. -/
inductive Operation where
  | upload
  | instantiate
  | execute
  | query
  | balance
  | send
deriving DecidableEq, Repr

namespace Operation

def text : Operation → String
  | upload => "upload"
  | instantiate => "instantiate"
  | execute => "execute"
  | query => "query"
  | balance => "balance"
  | send => "send"

def all : List Operation := [upload, instantiate, execute, query, balance, send]

def decode : Decode Operation := Decode.word (all.map fun o => (o.text, o))

end Operation

/-- The kinds of failure that reports and exit codes tell apart. -/
inductive FailureKind where
  | invalidMnemonic
  | connectionFailure
  | uploadRejected
  | instantiateRejected
  | executeRejected
  | queryRejected
  | timeout
  | configError
  | expectationFailed
deriving DecidableEq, Repr

namespace FailureKind

def code : FailureKind → String
  | invalidMnemonic => "INVALID_MNEMONIC"
  | connectionFailure => "CONNECTION_FAILURE"
  | uploadRejected => "UPLOAD_REJECTED"
  | instantiateRejected => "INSTANTIATE_REJECTED"
  | executeRejected => "EXECUTE_REJECTED"
  | queryRejected => "QUERY_REJECTED"
  | timeout => "TIMEOUT"
  | configError => "CONFIG_ERROR"
  | expectationFailed => "EXPECTATION_FAILED"

/-- The exit code of a process that ends with a failure; zero stands for success and is not among
them. -/
def exitCode : FailureKind → Nat
  | configError => 2
  | invalidMnemonic => 3
  | connectionFailure => 4
  | timeout => 5
  | uploadRejected => 10
  | instantiateRejected => 11
  | executeRejected => 12
  | queryRejected => 13
  | expectationFailed => 20

def all : List FailureKind :=
  [invalidMnemonic, connectionFailure, uploadRejected, instantiateRejected, executeRejected,
    queryRejected, timeout, configError, expectationFailed]

def decode : Decode FailureKind := Decode.word (all.map fun k => (k.code, k))

/-- The kinds of failure that may be gone at the next attempt. -/
def retryable : FailureKind → Bool
  | timeout | connectionFailure => true
  | _ => false

end FailureKind

/-- What is wrong with the configuration or with an argument. -/
inductive ConfigFault where
  | coin (fault : CoinFault)
  | bundle (fault : BundleFault)
  | gasPrice (fault : GasPriceFault)
  | invalidMessage
  | noCode (role : String)
  | planFile (path : String) (fault : FileFault)
  | planSyntax
  | planShape (fault : DecodeFault)
  | blankScenario
  | duplicateScenario (name : String)
  | zeroTimeout (name : String)
  | unknownScenario (name : String)
  | unknownNetwork (name : String)
  | source
  | fileNotFound (path : String)
  | required (field : String)
  | gasAdjustment
  | timeouts
  | noMnemonic
  | emptyAccountPrefix
  | noWallet
  | senderMismatch (sender signer : String)
  | chainId
  | feeDenom
  | nothingToSend
  | noFaucet (network : String)
  | other (text : String)
deriving DecidableEq

/-- Why something failed. -/
inductive Failure where
  | invalidMnemonic (reason : String)
  | wallet (reason : String)
  | connection (reason : String)
  | uploadRejected (log : String)
  | instantiateRejected (log : String)
  | executeRejected (log : String)
  | queryRejected (log : String)
  | notInstantiated (role : String)
  | timeout (operation : Operation) (afterMs : Nat)
  | configuration (fault : ConfigFault)
  | artifact (path : String) (reason : String)
  | expectation (text : String)
  | runFailed (kind : FailureKind) (failed total : Nat)
  | serialization (fault : DecodeFault)
  | file (reason : String)
deriving DecidableEq

/-- What is wrong with a value that does not fit its type. -/
def DecodeFault.message : DecodeFault → String
  | .mismatch => "the value does not fit its type"
  | .coin fault => "Configuration error: " ++ fault.message
  | .bundle fault => "Configuration error: " ++ fault.message

def ConfigFault.message : ConfigFault → String
  | .coin fault => fault.message
  | .bundle fault => fault.message
  | .gasPrice fault => fault.message
  | .invalidMessage => "Invalid JSON message: not a value"
  | .noCode role => s!"No code uploaded for `{role}` in this run"
  | .planFile path fault => "Failed to read plan " ++ path ++ ": " ++ fault.message
  | .planSyntax => "Invalid plan: not a document"
  | .planShape fault => "Invalid plan: " ++ fault.message
  | .blankScenario => "Scenario name must not be empty"
  | .duplicateScenario name => s!"Duplicate scenario '{name}'"
  | .zeroTimeout name => s!"Scenario '{name}' has a zero timeout"
  | .unknownScenario name => s!"Unknown scenario '{name}'"
  | .unknownNetwork name => s!"Unknown network '{name}': there is no usable entry for it"
  | .source => "the settings are not complete or not readable"
  | .fileNotFound path => "Configuration file not found: " ++ path
  | .required field => field ++ " is required"
  | .gasAdjustment => "network.gas_adjustment must be positive"
  | .timeouts => "timeouts must be positive"
  | .noMnemonic => "mnemonic is required (set ETF_MNEMONIC)"
  | .emptyAccountPrefix => "Account prefix must not be empty"
  | .noWallet => "No wallet configured"
  | .senderMismatch sender signer => s!"Sender {sender} does not match signer {signer}"
  | .chainId => "Invalid chain ID: not a chain id"
  | .feeDenom => "Invalid fee denom: not a denomination"
  | .nothingToSend => "Nothing to send"
  | .noFaucet network => "No faucet configured for " ++ network
  | .other text => text

/-- What can fail. -/
abbrev Fallible (α : Type) := Except Failure α

namespace Failure

/-- The failure of an operation that the chain refused; its log is kept as it is. -/
def rejected (operation : Operation) (log : String) : Failure :=
  match operation with
  | .upload => uploadRejected log
  | .instantiate => instantiateRejected log
  | .execute | .send => executeRejected log
  | .query | .balance => queryRejected log

def kind : Failure → FailureKind
  | invalidMnemonic _ => .invalidMnemonic
  | connection _ => .connectionFailure
  | uploadRejected _ => .uploadRejected
  | instantiateRejected _ | notInstantiated _ => .instantiateRejected
  | executeRejected _ => .executeRejected
  | queryRejected _ => .queryRejected
  | timeout _ _ => .timeout
  | expectation _ => .expectationFailed
  | runFailed kind _ _ => kind
  | wallet _ | configuration _ | artifact _ _ | serialization _ | file _ => .configError

/-- The message for people. -/
def message : Failure → String
  | invalidMnemonic reason => "Invalid mnemonic: " ++ reason
  | wallet reason => "Wallet error: " ++ reason
  | connection reason => "Connection failure: " ++ reason
  | uploadRejected log => "Upload rejected: " ++ log
  | instantiateRejected log => "Instantiate rejected: " ++ log
  | executeRejected log => "Execute rejected: " ++ log
  | queryRejected log => "Query rejected: " ++ log
  | notInstantiated role => s!"Contract `{role}` has not been instantiated in this run"
  | timeout operation afterMs =>
    operation.text ++ " timed out after " ++ toString afterMs ++ "ms"
  | configuration fault => "Configuration error: " ++ fault.message
  | artifact path reason => "Failed to read artifact " ++ path ++ ": " ++ reason
  | expectation text => "Expectation failed: " ++ text
  | runFailed _ failed total =>
    toString failed ++ " of " ++ toString total ++ " scenarios did not succeed"
  | serialization fault => "Serialization error: " ++ fault.message
  | file reason => "IO error: " ++ reason

/-- The message without the words for the kind, where there are any. -/
def detail : Failure → String
  | invalidMnemonic reason | wallet reason | connection reason => reason
  | uploadRejected log | instantiateRejected log | executeRejected log | queryRejected log => log
  | configuration fault => fault.message
  | expectation text => text
  | other => other.message

/-- Whether another attempt is worth while. -/
def retryable (f : Failure) : Bool := f.kind.retryable

end Failure

end Rollout
