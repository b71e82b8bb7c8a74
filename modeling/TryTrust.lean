import TryTrust.Agent.Budget
import TryTrust.Agent.Status
import TryTrust.Agent.Settlement
import TryTrust.Agent.Atomicity
import TryTrust.Money
import TryTrust.Compare
import TryTrust.Agent.Amounts
import TryTrust.Agent.Walk
import TryTrust.Agent.Revocation
import TryTrust.Bridge.Approval
import TryTrust.Decision.Escalation
import TryTrust.Policy.Jsonlogic
import TryTrust.Policy.Gate
import TryTrust.Policy.Exact
import TryTrust.Conc.Erase
import TryTrust.Agent.Holds
import TryTrust.Agent.Replay
import TryTrust.Agent.Counts
import TryTrust.Agent.Confinement
import TryTrust.Audit.Hashing
import TryTrust.Audit.Tables
import TryTrust.Audit.Service
import TryTrust.Audit.Linked
import TryTrust.Audit.Shared
import TryTrust.Audit.Chains
import TryTrust.Audit.Ledger
import TryTrust.Audit.Complete
import TryTrust.Audit.Tamper
import TryTrust.Audit.AgentChains
import TryTrust.Audit.AgentAppends
import TryTrust.Audit.Checkpoint
import TryTrust.Agent.Limits
import TryTrust.Agent.Escalations
import TryTrust.Agent.Resolution
import TryTrust.Agent.Relay
import TryTrust.Api.Escalations
import TryTrust.Api.Relay
import TryTrust.Api.Mandates
import TryTrust.Decision.Idempotency
import TryTrust.Yuno.SdJwt
import TryTrust.Yuno.Settlement
import TryTrust.Decision.Reservations
import TryTrust.Decision.ReservationStores
import TryTrust.Api.Verify
import TryTrust.Conc.Transaction
import TryTrust.Yuno.Vault
import TryTrust.Yuno.Captures
import TryTrust.Agent.Refunds
import TryTrust.Bridge.Cart
import TryTrust.Decision.ReservationMemory
import TryTrust.Agent.Resume
import TryTrust.Api.Activation
import TryTrust.Decision.StepUp
import TryTrust.Policy.Monotone
import TryTrust.Decimal
import TryTrust.Trustlib.Ap2
import TryTrust.Bridge.CaptureToken
import TryTrust.Decision.Rejections
import TryTrust.Api.Replays
import TryTrust.Policy.Evaluation
import TryTrust.Policy.FailsClosed
import TryTrust.Alike
import TryTrust.Bridge.CartHash
import TryTrust.Base64
import TryTrust.Trustlib.Jose
import TryTrust.Api.Derivation
import TryTrust.Yuno.Refusals
import TryTrust.Audit.Faults
import TryTrust.Audit.Histories
import TryTrust.Api.Drains
import TryTrust.Api.Poison
import TryTrust.IsoTime
import TryTrust.Api.Deadline
import TryTrust.Api.Evidence
import TryTrust.Merchant.HandOff
import TryTrust.Ranking
import TryTrust.Agent.Router
import TryTrust.Api.Amounts
import TryTrust.Api.SignCounts
import TryTrust.Agent.CrossLane
import TryTrust.Agent.Subtree
import TryTrust.Agent.Versions
import TryTrust.Yuno.Disputes
import TryTrust.Agent.Scrub
import TryTrust.Agent.Orchestrator
import TryTrust.Agent.StepBudget
import TryTrust.Agent.Agreement
import TryTrust.CanonicalRead
import TryTrust.Trustlib.Issue
import TryTrust.Trustlib.Presentations
import TryTrust.Trustlib.Verified
import TryTrust.Audit.StoredTexts
