import Rollout.Main
import Rollout.Plan.Document
import Rollout.Proofs.Chain.Confirmed
import Rollout.Proofs.Chain.Requests
import Rollout.Proofs.Deployment.Manager
import Rollout.Proofs.Run.Accounts
import Rollout.Proofs.Run.FirstFailure
import Rollout.Proofs.Run.Provenance
import Rollout.Proofs.Run.Rejection
import Rollout.Schema
import Rollout.Proofs.Deployment.Retries
import Rollout.Proofs.Run.StepLog
import Rollout.Proofs.Run.Composition
import Rollout.Proofs.Run.Conclusion
import Rollout.Proofs.Fund.Split
import Rollout.Proofs.Run.Frame
import Rollout.Proofs.Chain.Reads
import Rollout.Proofs.Wire.Fields
import Rollout.Proofs.Wire.Layouts
import Rollout.Proofs.Wire.Messages
import Rollout.Proofs.Chain.Submission
import Rollout.Proofs.Plan.Selection
import Rollout.Proofs.Fund.Bundles
import Rollout.Proofs.Run.ManagerSteps
import Rollout.Proofs.Plan.Scenarios
import Rollout.Proofs.Fund.Coins
import Rollout.Proofs.Cli.Deploying
import Rollout.Proofs.Run.ReadBack
import Rollout.Proofs.Settings.Validity
import Rollout.Proofs.Settings.Signing
import Rollout.Proofs.Settings.Places
import Rollout.Proofs.Settings.Leaves
import Rollout.Proofs.Settings.Layering
import Rollout.Proofs.Settings.Presets
import Rollout.Proofs.Settings.Texts
import Rollout.Proofs.Registry.History
import Rollout.Proofs.Settings.GasPrices
