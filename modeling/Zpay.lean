import Zpay.Data.Broadcast
import Zpay.Data.CheckedSum
import Zpay.Data.Encoding
import Zpay.Data.Text
import Zpay.Data.Decimal
import Zpay.Data.FixedWindow
import Zpay.Data.Guard
import Zpay.Data.Marked
import Zpay.Data.Separated
import Zpay.Data.Sql
import Zpay.Data.Table
import Zpay.Machine.Run
import Zpay.Machine.Session
import Zpay.Machine.Simulation
import Zpay.Core.Types
import Zpay.Core.Prepare
import Zpay.Core.Binding
import Zpay.Core.Status
import Zpay.Core.LedgerStore
import Zpay.Core.LedgerTable
import Zpay.Core.LedgerEquivalence
import Zpay.Core.Migrations
import Zpay.Core.MigrationSteps
import Zpay.Core.MigrationRuns
import Zpay.Core.PaymentUri
import Zpay.Core.Pczt
import Zpay.Core.PreparedBackend
import Zpay.Core.PreparedTable
import Zpay.Core.PreparedEquivalence
import Zpay.Core.PreparedIndex
import Zpay.Core.Settle
import Zpay.Core.Submit
import Zpay.Core.Verify
import Zpay.X402.Wire
import Zpay.X402.ZcashExact
import Zpay.X402.Handlers
import Zpay.X402.Binding
import Zpay.X402.Events
import Zpay.X402.Delivery
import Zpay.X402.Dpop
import Zpay.X402.ExactBinding
import Zpay.X402.RateLimit
import Zpay.X402.RetryAfter
import Zpay.X402.Trace
import Zpay.Lifecycle.Facilitator
import Zpay.Lifecycle.Invariant
import Zpay.Lifecycle.Closing
import Zpay.Lifecycle.FireOnce
import Zpay.Lifecycle.Idempotency
import Zpay.Lifecycle.Ownership
import Zpay.Lifecycle.Regressions
import Zpay.Lifecycle.Remembered
import Zpay.Lifecycle.Replay
import Zpay.Lifecycle.Undisturbed
import Zpay.Runtime.Chain
import Zpay.Runtime.EventLoop
import Zpay.Runtime.Reconciler
import Zpay.Runtime.Promises
import Zpay.Runtime.Expired
import Zpay.Runtime.Pacing
import Zpay.Runtime.PollOnce
import Zpay.Runtime.Reorgs
import Zpay.Runtime.Settled
import Zpay.Runtime.Sweeps
import Zpay.Wallet.Authorization
import Zpay.Wallet.UsageLedger
import Zpay.Wallet.SignGate
import Zpay.Wallet.Revocation
import Zpay.Wallet.Drains
import Zpay.Wallet.Cursor
import Zpay.Wallet.Dpop
import Zpay.Wallet.Freshness
import Zpay.Wallet.SignRequest
import Zpay.Wallet.IntentGate
import Zpay.Wallet.Reservations
import Zpay.Wallet.SingleUse
