import BorderController.Library.Accounts
import BorderController.Library.AtMostOne
import BorderController.Library.Blocks
import BorderController.Library.CallbackFree
import BorderController.Library.Checked
import BorderController.Library.Custody
import BorderController.Library.EarlyReturn
import BorderController.Library.Isolation
import BorderController.Library.Json
import BorderController.Library.JsonAccepted
import BorderController.Library.JsonRoundTrip
import BorderController.Library.KeyedList
import BorderController.Library.KeyedPatch
import BorderController.Library.Lease
import BorderController.Library.LockOrder
import BorderController.Library.Locking
import BorderController.Library.Reentrancy
import BorderController.Library.Rfc3339
import BorderController.Library.RustString
import BorderController.Library.Serde
import BorderController.Library.SerdeRoundTrip
import BorderController.Library.SortedMap
import BorderController.Library.Transition
import BorderController.Engine.Clock
import BorderController.Engine.Commits
import BorderController.Engine.Commute
import BorderController.Engine.Delivery
import BorderController.Engine.Effect
import BorderController.Engine.Exits
import BorderController.Engine.Height
import BorderController.Engine.Invariants
import BorderController.Engine.Isolation
import BorderController.Engine.Lateness
import BorderController.Engine.Ledger
import BorderController.Engine.Mirror
import BorderController.Engine.Monotonic
import BorderController.Engine.Operations
import BorderController.Engine.Overflow
import BorderController.Engine.Payout
import BorderController.Engine.Provenance
import BorderController.Engine.Receipts
import BorderController.Engine.Redelivery
import BorderController.Engine.Refresh
import BorderController.Engine.Relock
import BorderController.Engine.Rewrites
import BorderController.Engine.Spec
import BorderController.Engine.System
import BorderController.Engine.Table
import BorderController.Engine.Timing
import BorderController.Engine.Types
import BorderController.Engine.Validity
import BorderController.CoreProverEscrow.AppendOnly
import BorderController.CoreProverEscrow.CallbackFree
import BorderController.CoreProverEscrow.Calls
import BorderController.CoreProverEscrow.Claims
import BorderController.CoreProverEscrow.EventLog
import BorderController.CoreProverEscrow.Functions
import BorderController.CoreProverEscrow.Gate
import BorderController.CoreProverEscrow.Isolation
import BorderController.CoreProverEscrow.Lifecycle
import BorderController.CoreProverEscrow.Minting
import BorderController.CoreProverEscrow.ReceiptVault
import BorderController.CoreProverEscrow.Solvency
import BorderController.CoreProverEscrow.Spec
import BorderController.CoreProverEscrow.Stake
import BorderController.CoreProverEscrow.Stranded
import BorderController.CoreProverEscrow.System
import BorderController.CoreProverEscrow.Types
import BorderController.Tgp.Carriage
import BorderController.Tgp.Envelope
import BorderController.Tgp.Handshake
import BorderController.Tgp.Messages
import BorderController.Tgp.Progress
import BorderController.Tgp.Session
import BorderController.Tgp.State
import BorderController.Tgp.Timestamps
import BorderController.Tgp.Validation
import BorderController.Txip.Accepted
import BorderController.Txip.Answers
import BorderController.Txip.Concurrent
import BorderController.Txip.Expiry
import BorderController.Txip.Handler
import BorderController.Txip.Identity
import BorderController.Txip.Isolation
import BorderController.Txip.Lifetime
import BorderController.Txip.Linearizable
import BorderController.Txip.Locks
import BorderController.Txip.Orphans
import BorderController.Txip.Race
import BorderController.Txip.Replay
import BorderController.Txip.Requests
import BorderController.Txip.RoundTrip
import BorderController.Txip.Session
import BorderController.Txip.Types
import BorderController.Txip.Value
import BorderController.Txip.Wire
