import Zpay.Core.Prepare

/-!
# Settlement ledger and payment status

The ledger keeps one row a payment: the outcome of its last settle attempt and
what the reconciliation has since observed of the transaction.  The status a
client sees is a projection of that row, of the prepared row, of the clock and
of the cached pair of chain tips.

Heights are natural numbers: they come from 32-bit block heights, so the 64-bit
column they are stored in never clamps them.  The reorg counter saturates as the
source's does.

## Main results

* `lookup_record`, `lookup_record_confirmation`, `lookup_downgrade_on_reorg`,
  `lookup_downgrade_reorged_range` — every ledger operation, at every payment.
* `lookup_settled_iff`, `lookup_expired_iff` — when the projection reports a payment
  settled, and a broadcast one expired.
* `lookup_mixed_view` — a view mixed of two stored ones reads as one of them does.
* `lookup_payment_status_congr` — nothing but the payment's own two rows, the
  clock and the view enters it.
-/

open Zpay.Data

namespace Zpay.Core

/-! ## The chain view -/

/-- The two tips the projection reads. -/
structure ChainStatusView where
  visibleTipHeight : Option Nat
  settledTipHeight : Option Nat
  deriving DecidableEq, Repr

namespace ChainStatusView

/-- The view of a load that runs between two stores: the tips are two relaxed atomics, and
each is of one of the stores. -/
def mixed (first second : ChainStatusView) : ChainStatusView where
  visibleTipHeight := first.visibleTipHeight
  settledTipHeight := second.settledTipHeight

def isSettledAt (view : ChainStatusView) (minedHeight : Nat) : Bool :=
  match view.settledTipHeight with
  | some settled => decide (minedHeight ≤ settled)
  | none => false

def isLapsedAt (view : ChainStatusView) (expiryHeight : Nat) : Bool :=
  match view.visibleTipHeight with
  | some tip => decide (expiryHeight ≤ tip)
  | none => false

@[simp] theorem isSettledAt_iff {view : ChainStatusView} {minedHeight : Nat} :
    view.isSettledAt minedHeight = true ↔
      ∃ settled, view.settledTipHeight = some settled ∧ minedHeight ≤ settled := by
  unfold isSettledAt
  cases view.settledTipHeight <;> simp

@[simp] theorem isLapsedAt_iff {view : ChainStatusView} {expiryHeight : Nat} :
    view.isLapsedAt expiryHeight = true ↔
      ∃ tip, view.visibleTipHeight = some tip ∧ expiryHeight ≤ tip := by
  unfold isLapsedAt
  cases view.visibleTipHeight <;> simp

end ChainStatusView

/-- The process-wide holder of the latest view. -/
structure ChainStatusCache where
  visibleTipHeight : Nat
  settledTipHeight : Nat
  known : Bool
  deriving DecidableEq, Repr

namespace ChainStatusCache

def new : ChainStatusCache := { visibleTipHeight := 0, settledTipHeight := 0, known := false }

/-- Overwrites the view, whatever it was. -/
def store (_ : ChainStatusCache) (visibleTipHeight settledTipHeight : Nat) : ChainStatusCache :=
  { visibleTipHeight, settledTipHeight, known := true }

def load (cache : ChainStatusCache) : ChainStatusView :=
  if cache.known then
    { visibleTipHeight := some cache.visibleTipHeight
      settledTipHeight := some cache.settledTipHeight }
  else { visibleTipHeight := none, settledTipHeight := none }

@[simp] theorem load_new : new.load = { visibleTipHeight := none, settledTipHeight := none } :=
  rfl

@[simp] theorem load_store (cache : ChainStatusCache) (visible settled : Nat) :
    (cache.store visible settled).load =
      { visibleTipHeight := some visible, settledTipHeight := some settled } := rfl

end ChainStatusCache

/-! ## The ledger -/

/-- Stored snapshot of a single settle attempt. -/
structure SettlementLedgerEntry where
  broadcastOutcome : BroadcastOutcome
  settledAtUnixSeconds : Int
  confirmationCount : Option UInt32
  minedBlockHeight : Option Nat
  reorgCount : UInt32
  lastReorgedAt : Option Int
  expiryHeight : Option UInt32
  payeeId : PayeeId
  amountZat : UInt64
  deriving DecidableEq, Repr

/-- A success-kind row as the poll reads it. -/
structure SuccessKindRow where
  paymentId : PaymentId
  transactionId : String
  minedBlockHeight : Option Nat
  deriving DecidableEq, Repr

abbrev SettlementLedger := Table PaymentId SettlementLedgerEntry

namespace SettlementLedgerEntry

/-- A null height leaves the stored one. -/
def recordConfirmation (entry : SettlementLedgerEntry) (confirmationCount : UInt32)
    (minedBlockHeight : Option Nat) : SettlementLedgerEntry :=
  { entry with
    confirmationCount := some confirmationCount
    minedBlockHeight := minedBlockHeight.or entry.minedBlockHeight }

/-- Returns a mined row to unmined; an unmined one is left alone. -/
def downgradeOnReorg (entry : SettlementLedgerEntry) (reorgedAtUnixSeconds : Int) :
    SettlementLedgerEntry :=
  match entry.minedBlockHeight with
  | none => entry
  | some _ =>
      { entry with
        minedBlockHeight := none
        confirmationCount := some 0
        reorgCount := saturatingAdd32 entry.reorgCount 1
        lastReorgedAt := some reorgedAtUnixSeconds }

/-- The stored height lies in the reverted range. -/
def minedWithin (entry : SettlementLedgerEntry) (startHeight endHeight : Nat) : Bool :=
  entry.minedBlockHeight.any fun height =>
    decide (startHeight ≤ height) && decide (height ≤ endHeight)

@[simp] theorem recordConfirmation_broadcastOutcome (entry : SettlementLedgerEntry)
    (count : UInt32) (height : Option Nat) :
    (entry.recordConfirmation count height).broadcastOutcome = entry.broadcastOutcome := rfl

@[simp] theorem recordConfirmation_reorgCount (entry : SettlementLedgerEntry)
    (count : UInt32) (height : Option Nat) :
    (entry.recordConfirmation count height).reorgCount = entry.reorgCount := rfl

@[simp] theorem recordConfirmation_expiryHeight (entry : SettlementLedgerEntry)
    (count : UInt32) (height : Option Nat) :
    (entry.recordConfirmation count height).expiryHeight = entry.expiryHeight := rfl

@[simp] theorem downgradeOnReorg_broadcastOutcome (entry : SettlementLedgerEntry) (now : Int) :
    (entry.downgradeOnReorg now).broadcastOutcome = entry.broadcastOutcome := by
  unfold downgradeOnReorg
  split <;> rfl

@[simp] theorem downgradeOnReorg_expiryHeight (entry : SettlementLedgerEntry) (now : Int) :
    (entry.downgradeOnReorg now).expiryHeight = entry.expiryHeight := by
  unfold downgradeOnReorg
  split <;> rfl

/-- A downgrade leaves no height behind. -/
@[simp] theorem downgradeOnReorg_minedBlockHeight (entry : SettlementLedgerEntry) (now : Int) :
    (entry.downgradeOnReorg now).minedBlockHeight = none := by
  unfold downgradeOnReorg
  split
  · next hmined => exact hmined
  · rfl

end SettlementLedgerEntry

namespace SettlementLedger

def find (ledger : SettlementLedger) (paymentId : PaymentId) : Option SettlementLedgerEntry :=
  ledger.lookup paymentId

/-- Overwrites any prior row. -/
def record (ledger : SettlementLedger) (paymentId : PaymentId) (entry : SettlementLedgerEntry) :
    SettlementLedger :=
  AList.insert paymentId entry ledger

def recordConfirmation (ledger : SettlementLedger) (paymentId : PaymentId)
    (confirmationCount : UInt32) (minedBlockHeight : Option Nat) : SettlementLedger :=
  Table.modify ledger paymentId fun entry =>
    entry.recordConfirmation confirmationCount minedBlockHeight

def downgradeOnReorg (ledger : SettlementLedger) (paymentId : PaymentId)
    (reorgedAtUnixSeconds : Int) : SettlementLedger :=
  Table.modify ledger paymentId fun entry => entry.downgradeOnReorg reorgedAtUnixSeconds

def downgradeReorgedRange (ledger : SettlementLedger)
    (revertedStartHeight revertedEndHeight : Nat) (reorgedAtUnixSeconds : Int) :
    SettlementLedger :=
  Table.mapRows ledger fun _ entry =>
    if entry.minedWithin revertedStartHeight revertedEndHeight then
      entry.downgradeOnReorg reorgedAtUnixSeconds
    else entry

def successKindTransactions (ledger : SettlementLedger) : List SuccessKindRow :=
  (Table.rows ledger).filterMap fun (paymentId, entry) =>
    entry.broadcastOutcome.transactionId.map fun transactionId =>
      { paymentId, transactionId, minedBlockHeight := entry.minedBlockHeight }

section Rows

variable {ledger : SettlementLedger} {paymentId other : PaymentId}

@[simp] theorem lookup_record {entry : SettlementLedgerEntry} :
    (ledger.record paymentId entry).lookup other =
      if other = paymentId then some entry else ledger.lookup other :=
  Table.lookup_insert_eq ledger paymentId other entry

@[simp] theorem lookup_record_confirmation {count : UInt32} {height : Option Nat} :
    (ledger.recordConfirmation paymentId count height).lookup other =
      if other = paymentId then
        (ledger.lookup paymentId).map fun entry => entry.recordConfirmation count height
      else ledger.lookup other :=
  Table.lookup_modify ledger paymentId other _

@[simp] theorem lookup_downgrade_on_reorg {now : Int} :
    (ledger.downgradeOnReorg paymentId now).lookup other =
      if other = paymentId then
        (ledger.lookup paymentId).map fun entry => entry.downgradeOnReorg now
      else ledger.lookup other :=
  Table.lookup_modify ledger paymentId other _

@[simp] theorem lookup_downgrade_reorged_range {startHeight endHeight : Nat} {now : Int} :
    (ledger.downgradeReorgedRange startHeight endHeight now).lookup other =
      (ledger.lookup other).map fun entry =>
        if entry.minedWithin startHeight endHeight then entry.downgradeOnReorg now else entry :=
  Table.lookup_mapRows ledger _ other

/-- The poll's rows are the success-kind ones. -/
theorem mem_successKindTransactions {row : SuccessKindRow} :
    row ∈ ledger.successKindTransactions ↔
      ∃ entry, ledger.lookup row.paymentId = some entry ∧
        entry.broadcastOutcome.transactionId = some row.transactionId ∧
        entry.minedBlockHeight = row.minedBlockHeight := by
  unfold successKindTransactions
  rw [List.mem_filterMap]
  constructor
  · rintro ⟨⟨id, entry⟩, hrow, hsome⟩
    obtain ⟨transactionId, htx, rfl⟩ := Option.map_eq_some_iff.1 hsome
    exact ⟨entry, (Table.mem_rows ledger id entry).1 hrow, htx, rfl⟩
  · rintro ⟨entry, hfound, htx, hmined⟩
    refine ⟨(row.paymentId, entry), (Table.mem_rows ledger _ _).2 hfound, ?_⟩
    rw [Option.map_eq_some_iff]
    exact ⟨row.transactionId, htx, by rw [hmined]⟩

end Rows

end SettlementLedger

/-! ## The projection -/

/-- Lifecycle phase of a payment. -/
inductive PaymentStatus
  | awaiting
  | broadcast
  | mined
  | final
  | failed
  | neverIssued
  | expired
  deriving DecidableEq, Repr

def PaymentStatus.isTerminal : PaymentStatus → Bool
  | .failed | .neverIssued | .expired => true
  | .awaiting | .broadcast | .mined | .final => false

/-- Verification posture of the merchant's intent; reserved, always
`unverified`. -/
inductive IntentPosture
  | unverified
  | verifyInFlight
  | verified
  | verificationFailed
  deriving DecidableEq, Repr

structure PaymentStatusSnapshot where
  paymentId : PaymentId
  status : PaymentStatus
  intentPosture : IntentPosture
  broadcastOutcome : Option BroadcastOutcome
  settledAtUnixSeconds : Option Int
  confirmationCount : Option UInt32
  minedBlockHeight : Option Nat
  reorgCount : UInt32
  settled : Bool
  deriving DecidableEq, Repr

/-- The event stream closes on immutable success or a terminal status. -/
def PaymentStatusSnapshot.streamClosed (snapshot : PaymentStatusSnapshot) : Bool :=
  snapshot.settled || snapshot.status.isTerminal

/-- The stored height, once a confirmation has been counted. -/
def SettlementLedgerEntry.observedHeight (entry : SettlementLedgerEntry) : Option Nat :=
  entry.minedBlockHeight.filter fun _ =>
    entry.confirmationCount.any fun count => decide (1 ≤ count)

/-- Map a success-kind row to its status and settled flag. -/
def classifySuccessRow (entry : SettlementLedgerEntry) (finalityDepth : UInt32)
    (chainView : ChainStatusView) : PaymentStatus × Bool :=
  match entry.observedHeight with
  | some height =>
      (if finalityDepth ≤ entry.confirmationCount.getD 0 then .final else .mined,
        chainView.isSettledAt height)
  | none =>
      (if entry.expiryHeight.any fun expiry => chainView.isLapsedAt expiry.toNat then .expired
        else .broadcast,
        false)

/-- A snapshot of a payment with no settle attempt on record. -/
def unattemptedSnapshot (paymentId : PaymentId) (status : PaymentStatus) :
    PaymentStatusSnapshot where
  paymentId := paymentId
  status := status
  intentPosture := .unverified
  broadcastOutcome := none
  settledAtUnixSeconds := none
  confirmationCount := none
  minedBlockHeight := none
  reorgCount := 0
  settled := false

/-- The snapshot of a ledger row. -/
def SettlementLedgerEntry.snapshot (entry : SettlementLedgerEntry) (paymentId : PaymentId)
    (finalityDepth : UInt32) (chainView : ChainStatusView) : PaymentStatusSnapshot :=
  let (status, settled) :=
    if entry.broadcastOutcome.isSuccess then classifySuccessRow entry finalityDepth chainView
    else (.failed, false)
  { paymentId
    status
    intentPosture := .unverified
    broadcastOutcome := some entry.broadcastOutcome
    settledAtUnixSeconds := some entry.settledAtUnixSeconds
    confirmationCount := entry.confirmationCount
    minedBlockHeight := entry.minedBlockHeight
    reorgCount := entry.reorgCount
    settled }

/-- Compute the current lifecycle snapshot of a payment. -/
def lookupPaymentStatus (paymentId : PaymentId) (prepared : PreparedTxStore)
    (ledger : SettlementLedger) (finalityDepth : UInt32) (chainView : ChainStatusView)
    (nowUnixSeconds : Nat) : PaymentStatusSnapshot :=
  match ledger.find paymentId with
  | some entry => entry.snapshot paymentId finalityDepth chainView
  | none =>
      match prepared.findByPaymentId paymentId with
      | some entry =>
          unattemptedSnapshot paymentId
            (if nowUnixSeconds < entry.expiresAtUnixSeconds.toNat then .awaiting else .expired)
      | none => unattemptedSnapshot paymentId .neverIssued

section Projection

variable {paymentId : PaymentId} {prepared prepared' : PreparedTxStore}
variable {ledger ledger' : SettlementLedger} {depth : UInt32} {view : ChainStatusView} {now : Nat}
variable {entry : SettlementLedgerEntry}

theorem observed_height_eq_some {height : Nat} :
    entry.observedHeight = some height ↔
      entry.minedBlockHeight = some height ∧
        ∃ count, entry.confirmationCount = some count ∧ 1 ≤ count := by
  unfold SettlementLedgerEntry.observedHeight
  rw [Option.filter_eq_some_iff]
  cases entry.confirmationCount <;> simp

theorem classify_settled_iff :
    (classifySuccessRow entry depth view).2 = true ↔
      ∃ height, entry.observedHeight = some height ∧ view.isSettledAt height = true := by
  unfold classifySuccessRow
  cases entry.observedHeight <;> simp

theorem classify_expired_iff :
    (classifySuccessRow entry depth view).1 = .expired ↔
      entry.observedHeight = none ∧
        ∃ expiry, entry.expiryHeight = some expiry ∧ view.isLapsedAt expiry.toNat = true := by
  unfold classifySuccessRow
  cases hobserved : entry.observedHeight with
  | some height =>
      simp only [reduceCtorEq, false_and, iff_false]
      split <;> simp
  | none =>
      simp only [true_and]
      cases entry.expiryHeight with
      | none => simp
      | some expiry =>
          simp only [Option.any_some, Option.some.injEq, exists_eq_left']
          constructor
          · intro hstatus
            by_contra hfresh
            rw [if_neg hfresh] at hstatus
            exact absurd hstatus (by decide)
          · exact fun hlapsed => if_pos hlapsed

/-- A success row is never reported failed, awaiting or never issued. -/
theorem classify_cases (entry : SettlementLedgerEntry) (depth : UInt32) (view : ChainStatusView) :
    (classifySuccessRow entry depth view).1 ∈
      [PaymentStatus.final, .mined, .expired, .broadcast] := by
  unfold classifySuccessRow
  cases entry.observedHeight with
  | some height => simp only; split <;> simp
  | none => simp only; split <;> simp

theorem lookup_of_row (h : ledger.lookup paymentId = some entry) :
    lookupPaymentStatus paymentId prepared ledger depth view now =
      entry.snapshot paymentId depth view := by
  unfold lookupPaymentStatus SettlementLedger.find
  rw [h]

theorem lookup_of_prepared {row : PreparedTxRow} (hledger : ledger.lookup paymentId = none)
    (hprepared : prepared.lookup paymentId = some row) :
    lookupPaymentStatus paymentId prepared ledger depth view now =
      unattemptedSnapshot paymentId
        (if now < row.expiresAtUnixSeconds.toNat then .awaiting else .expired) := by
  unfold lookupPaymentStatus SettlementLedger.find PreparedTxStore.findByPaymentId
  rw [hledger, hprepared]
  rfl

theorem lookup_of_absent (hledger : ledger.lookup paymentId = none)
    (hprepared : prepared.lookup paymentId = none) :
    lookupPaymentStatus paymentId prepared ledger depth view now =
      unattemptedSnapshot paymentId .neverIssued := by
  unfold lookupPaymentStatus SettlementLedger.find PreparedTxStore.findByPaymentId
  rw [hledger, hprepared]
  rfl

theorem snapshot_of_success (h : entry.broadcastOutcome.isSuccess = true) :
    (entry.snapshot paymentId depth view).status = (classifySuccessRow entry depth view).1 ∧
      (entry.snapshot paymentId depth view).settled =
        (classifySuccessRow entry depth view).2 := by
  unfold SettlementLedgerEntry.snapshot
  rw [if_pos h]
  exact ⟨rfl, rfl⟩

theorem snapshot_of_failure (h : entry.broadcastOutcome.isSuccess = false) :
    (entry.snapshot paymentId depth view).status = .failed ∧
      (entry.snapshot paymentId depth view).settled = false := by
  unfold SettlementLedgerEntry.snapshot
  rw [h]
  exact ⟨rfl, rfl⟩

/-- Settled is reported for a success row with a counted confirmation whose
height is at or below the settled tip, and for nothing else. -/
theorem lookup_settled_iff :
    (lookupPaymentStatus paymentId prepared ledger depth view now).settled = true ↔
      ∃ entry height, ledger.lookup paymentId = some entry ∧
        entry.broadcastOutcome.isSuccess = true ∧ entry.observedHeight = some height ∧
        view.isSettledAt height = true := by
  cases hrow : ledger.lookup paymentId with
  | some entry =>
      rw [lookup_of_row hrow]
      cases hsuccess : entry.broadcastOutcome.isSuccess with
      | true =>
          rw [(snapshot_of_success hsuccess).2, classify_settled_iff]
          constructor
          · rintro ⟨height, hobserved, hsettled⟩
            exact ⟨entry, height, rfl, hsuccess, hobserved, hsettled⟩
          · rintro ⟨_, height, heq, _, hobserved, hsettled⟩
            cases heq
            exact ⟨height, hobserved, hsettled⟩
      | false =>
          rw [(snapshot_of_failure hsuccess).2]
          simp [hsuccess]
  | none =>
      have hfalse : (lookupPaymentStatus paymentId prepared ledger depth view now).settled
          = false := by
        cases hprepared : prepared.lookup paymentId with
        | some row => rw [lookup_of_prepared hrow hprepared]; rfl
        | none => rw [lookup_of_absent hrow hprepared]; rfl
      simp [hfalse]

/-- A broadcast payment reads expired when its success row has no counted
confirmation and its expiry height is reached. -/
theorem lookup_expired_iff {transactionId : String} :
    (lookupPaymentStatus paymentId prepared ledger depth view now).status = .expired ∧
      (lookupPaymentStatus paymentId prepared ledger depth view now).broadcastOutcome.bind
        BroadcastOutcome.transactionId = some transactionId ↔
      ∃ entry expiry, ledger.lookup paymentId = some entry ∧
        entry.broadcastOutcome.transactionId = some transactionId ∧
        entry.observedHeight = none ∧ entry.expiryHeight = some expiry ∧
        view.isLapsedAt expiry.toNat = true := by
  cases hrow : ledger.lookup paymentId with
  | some entry =>
      rw [lookup_of_row hrow]
      constructor
      · rintro ⟨hexpired, htransaction⟩
        have hid : entry.broadcastOutcome.transactionId = some transactionId := htransaction
        rw [(snapshot_of_success (BroadcastOutcome.isSuccess_iff.2 ⟨_, hid⟩)).1,
          classify_expired_iff] at hexpired
        obtain ⟨hunobserved, expiry, hexpiry, hlapsed⟩ := hexpired
        exact ⟨entry, expiry, rfl, hid, hunobserved, hexpiry, hlapsed⟩
      · rintro ⟨_, expiry, heq, hid, hunobserved, hexpiry, hlapsed⟩
        cases heq
        refine ⟨?_, hid⟩
        rw [(snapshot_of_success (BroadcastOutcome.isSuccess_iff.2 ⟨_, hid⟩)).1,
          classify_expired_iff]
        exact ⟨hunobserved, expiry, hexpiry, hlapsed⟩
  | none =>
      have hnone : (lookupPaymentStatus paymentId prepared ledger depth view
          now).broadcastOutcome = none := by
        cases hprepared : prepared.lookup paymentId with
        | some row => rw [lookup_of_prepared hrow hprepared]; rfl
        | none => rw [lookup_of_absent hrow hprepared]; rfl
      simp [hnone]

/-- An observed row is settled or not by the settled tip alone. -/
theorem classify_of_observed {other : ChainStatusView} {height : Nat}
    (hobserved : entry.observedHeight = some height)
    (hsettled : view.settledTipHeight = other.settledTipHeight) :
    classifySuccessRow entry depth view = classifySuccessRow entry depth other := by
  have hat : view.isSettledAt height = other.isSettledAt height := by
    unfold ChainStatusView.isSettledAt
    rw [hsettled]
  unfold classifySuccessRow
  rw [hobserved]
  simp only [hat]

/-- A row that is not observed has expired or not by the visible tip alone. -/
theorem classify_of_unobserved {other : ChainStatusView}
    (hobserved : entry.observedHeight = none)
    (hvisible : view.visibleTipHeight = other.visibleTipHeight) :
    classifySuccessRow entry depth view = classifySuccessRow entry depth other := by
  have hat : view.isLapsedAt = other.isLapsedAt := by
    funext expiryHeight
    unfold ChainStatusView.isLapsedAt
    rw [hvisible]
  unfold classifySuccessRow
  rw [hobserved]
  simp only [hat]

/-- No snapshot depends on both tips, so one that is read under a mix of two views is the
snapshot under one of them. -/
theorem lookup_mixed_view (first second : ChainStatusView) :
    lookupPaymentStatus paymentId prepared ledger depth (first.mixed second) now =
        lookupPaymentStatus paymentId prepared ledger depth first now ∨
      lookupPaymentStatus paymentId prepared ledger depth (first.mixed second) now =
        lookupPaymentStatus paymentId prepared ledger depth second now := by
  cases hrow : ledger.lookup paymentId with
  | none =>
      left
      unfold lookupPaymentStatus SettlementLedger.find
      rw [hrow]
  | some entry =>
      simp only [lookup_of_row hrow, SettlementLedgerEntry.snapshot]
      cases hobserved : entry.observedHeight with
      | some height =>
          have hsame : classifySuccessRow entry depth (first.mixed second) =
              classifySuccessRow entry depth second := classify_of_observed hobserved rfl
          rw [hsame]
          exact .inr rfl
      | none =>
          have hsame : classifySuccessRow entry depth (first.mixed second) =
              classifySuccessRow entry depth first := classify_of_unobserved hobserved rfl
          rw [hsame]
          exact .inl rfl

/-- The projection reads the payment's own rows. -/
theorem lookup_payment_status_congr (hledger : ledger.lookup paymentId = ledger'.lookup paymentId)
    (hprepared : prepared.lookup paymentId = prepared'.lookup paymentId) :
    lookupPaymentStatus paymentId prepared ledger depth view now =
      lookupPaymentStatus paymentId prepared' ledger' depth view now := by
  unfold lookupPaymentStatus SettlementLedger.find PreparedTxStore.findByPaymentId
  rw [hledger, hprepared]

end Projection

end Zpay.Core
