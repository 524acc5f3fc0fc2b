import SessionControl.Config.OfJson
import SessionControl.Config.OfYaml
import SessionControl.Controller.Basic
import SessionControl.Main
import SessionControl.Proofs.Roaming.Step
import SessionControl.Proofs.Policy.Charging
import SessionControl.Proofs.Roaming.Language
import SessionControl.Proofs.Roaming.Transaction
import SessionControl.Proofs.Roaming.Calls
import SessionControl.Proofs.Roaming.Timer
import SessionControl.Proofs.Policy.Frame
import SessionControl.Proofs.Policy.Refusal
import SessionControl.Proofs.Policy.RateLimit
import SessionControl.Proofs.RuleGraph.Integrity
import SessionControl.Proofs.Policy.Progress
import SessionControl.Proofs.Policy.Rewiring
import SessionControl.Proofs.Policy.LastInstall
import SessionControl.Proofs.Controller.Run
import SessionControl.Proofs.Replica.Coverage
import SessionControl.Proofs.Replica.UpToDate
import SessionControl.Proofs.Policy.Tunnels
import SessionControl.Proofs.Roaming.Interleaving
import SessionControl.Proofs.Policy.MeterHistory
import SessionControl.Proofs.Controller.Lifecycle
import SessionControl.Proofs.Controller.Unobserved
import SessionControl.Proofs.Controller.Isolation
import SessionControl.Proofs.Policy.Shape
import SessionControl.Proofs.Replica.Connection
import SessionControl.Proofs.Policy.FlowLimit
import SessionControl.Proofs.Policy.Treatment
import SessionControl.Proofs.Policy.Quality
import SessionControl.Proofs.Policy.Endpoints
import SessionControl.Proofs.Policy.Exemption
import SessionControl.Proofs.Roaming.Observation
import SessionControl.Proofs.Roaming.Command
import SessionControl.Proofs.RuleGraph.Removal
import SessionControl.Proofs.Policy.Forwarding
import SessionControl.Proofs.Policy.RatingGroups
import SessionControl.Proofs.Policy.Omission
import SessionControl.Proofs.Policy.Answer
