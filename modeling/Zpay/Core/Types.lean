import Zpay.Data.Text

/-!
# Domain types of the payment lifecycle

The identifiers, networks and amounts every part of the facilitator shares, and
the settlement-side projection of a broadcast outcome.

## Main results

* `BroadcastOutcome.isSuccess_iff` — success-kind outcomes are those that carry
  a transaction id.
-/

open Zpay.Data

namespace Zpay.Core

/-- `zally_core::Network`; every regtest value of the source is
`Network::regtest()`. -/
inductive Network
  | mainnet
  | testnet
  | regtest
  deriving DecidableEq, Repr

/-- Network identifier carried by every payment-bearing type. -/
inductive PaymentNetwork
  | mainnet
  | testnet
  | regtest
  deriving DecidableEq, Repr

def zallyNetworkFor : PaymentNetwork → Network
  | .mainnet => .mainnet
  | .testnet => .testnet
  | .regtest => .regtest

/-- Server-issued payment identifier. -/
structure PaymentId where
  value : String
  deriving DecidableEq, Repr

/-- `PAYMENT_ID_MAX_LEN`. -/
def paymentIdMaxLen : Nat := 64

/-- Reason a string failed to parse as a payment id. -/
inductive PaymentIdParseError
  | empty
  | tooLong
  deriving DecidableEq, Repr

/-- `PaymentId::from_str`. -/
def PaymentId.fromStr (raw : String) : Except PaymentIdParseError PaymentId :=
  let trimmed := Text.trim raw
  if trimmed = "" then .error .empty
  else if paymentIdMaxLen < Text.byteLength trimmed then .error .tooLong
  else .ok ⟨trimmed⟩

/-- Operator-assigned payee identifier. -/
structure PayeeId where
  value : String
  deriving DecidableEq, Repr

/-- Handle the confirmation oracle subscribes to. -/
structure WatchId where
  value : String
  deriving DecidableEq, Repr

/-! ## Broadcast outcomes -/

/-- Outcome of a broadcast attempt as persisted in the settlement ledger. -/
inductive BroadcastOutcome
  | accepted (transactionId : String)
  | duplicate (transactionId : String)
  | invalidEncoding (upstreamMessage : String)
  | rejected (upstreamMessage : String)
  | unknown (upstreamMessage : String)
  deriving DecidableEq, Repr

/-- `zally_chain::RejectionReason`, with the `Debug` text of the reasons other
than a bad encoding. -/
inductive RejectionReason
  | invalidEncoding
  | other (debug : String)
  deriving DecidableEq, Repr

/-- `zally_chain::SubmitOutcome`; ids are in their RPC hex form, and
`unrecognised` is the hidden tail of the non-exhaustive enum. -/
inductive SubmitOutcome
  | accepted (txId : String)
  | queued (txId : String)
  | duplicate (txId : String)
  | rejected (reason : RejectionReason) (detail : String)
  | unrecognised
  deriving DecidableEq, Repr

namespace BroadcastOutcome

/-- The transaction id bound to a successful outcome. -/
def transactionId : BroadcastOutcome → Option String
  | .accepted id | .duplicate id => some id
  | .invalidEncoding _ | .rejected _ | .unknown _ => none

/-- Success-kind outcomes: the transaction is on chain or in a mempool. -/
def isSuccess : BroadcastOutcome → Bool
  | .accepted _ | .duplicate _ => true
  | .invalidEncoding _ | .rejected _ | .unknown _ => false

def fromSubmitOutcome : SubmitOutcome → BroadcastOutcome
  | .accepted txId | .queued txId => .accepted txId
  | .duplicate txId => .duplicate txId
  | .rejected .invalidEncoding detail => .invalidEncoding detail
  | .rejected (.other debug) detail => .rejected (debug ++ ": " ++ detail)
  | .unrecognised => .unknown "submitter returned an unrecognised outcome variant"

/-- The outcomes that carry a transaction id are the success-kind ones. -/
theorem isSuccess_iff {outcome : BroadcastOutcome} :
    outcome.isSuccess = true ↔ ∃ id, outcome.transactionId = some id := by
  cases outcome <;> simp [isSuccess, transactionId]

end BroadcastOutcome

end Zpay.Core
