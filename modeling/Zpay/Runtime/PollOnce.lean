import Zpay.Runtime.Reconciler

/-!
# One reconciliation sweep

`poll_oracle_once` alone: the oracle's answers are fixed, nobody else writes, and
no store call fails.  The rows are read once, and the ledger is written row by row
while the loop goes on with its copy.

Every payment is listed once, so the copy of a row is still the row when its turn
comes, and what the loop makes of a row depends on nothing but the row, the view
and the answer about its transaction.

## Main results

* `lookup_poll_oracle_once` — the sweep as a function of each row.
* `poll_oracle_once_reconciles` — what becomes of every row, and that a second sweep
  changes nothing.
-/

open Zpay.Data Zpay.Core Zpay.Lifecycle

namespace Zpay.Runtime

/-! ## The sweep -/

/-- An oracle whose answers stay the same for the sweep; `none` is an error. -/
structure ConfirmationOracle where
  chainStatus : Option ChainStatusView
  fetchConfirmations : String → Option ConfirmationOutcome

/-- Downgrade a mined row the chain plane stopped reporting mined. -/
def downgradeReorgedRow (nowUnixSeconds : Int) (ledger : SettlementLedger)
    (row : SuccessKindRow) : SettlementLedger :=
  ledger.downgradeOnReorg row.paymentId nowUnixSeconds

/-- Poll one unsettled row against the chain plane and apply the result. -/
def reconcileUnsettledRow (oracle : ConfirmationOracle) (nowUnixSeconds : Int)
    (ledger : SettlementLedger) (row : SuccessKindRow) : SettlementLedger :=
  match oracle.fetchConfirmations row.transactionId with
  | none => ledger
  | some (.mined blockHeight confirmationCount) =>
      ledger.recordConfirmation row.paymentId confirmationCount (some blockHeight)
  | some .inMempool =>
      if row.minedBlockHeight.isSome then downgradeReorgedRow nowUnixSeconds ledger row
      else ledger.recordConfirmation row.paymentId 0 none
  | some .notFound | some .conflictingChain =>
      if row.minedBlockHeight.isSome then downgradeReorgedRow nowUnixSeconds ledger row
      else ledger

/-- The body of the loop: a row at or below the settled tip is left alone. -/
def sweepRow (oracle : ConfirmationOracle) (chainView : ChainStatusView)
    (clock : PaymentId → Int) (ledger : SettlementLedger) (row : SuccessKindRow) :
    SettlementLedger :=
  if row.minedBlockHeight.any chainView.isSettledAt then ledger
  else reconcileUnsettledRow oracle (clock row.paymentId) ledger row

/-- The cached tips after the oracle was asked for them. -/
def refreshChainStatus (oracle : ConfirmationOracle) (chainStatus : ChainStatusCache) :
    ChainStatusCache :=
  match oracle.chainStatus with
  | some { visibleTipHeight := some visible, settledTipHeight := some settled } =>
      chainStatus.store visible settled
  | _ => chainStatus

/-- The view the sweep goes by: the oracle's, or the cached one when it fails. -/
def ConfirmationOracle.chainView (oracle : ConfirmationOracle)
    (chainStatus : ChainStatusCache) : ChainStatusView :=
  oracle.chainStatus.getD chainStatus.load

/-- `clock` is the time at which a payment's downgrade is written. -/
def pollOracleOnce (oracle : ConfirmationOracle) (clock : PaymentId → Int)
    (ledger : SettlementLedger) (chainStatus : ChainStatusCache) :
    SettlementLedger × ChainStatusCache :=
  (ledger.successKindTransactions.foldl
      (sweepRow oracle (oracle.chainView chainStatus) clock) ledger,
    refreshChainStatus oracle chainStatus)

/-- A row's write is the operation the interleaved reconciliation performs for it. -/
theorem reconcile_unsettled_row_step {C A V : Type} (d : Deployment C A V)
    (oracle : ConfirmationOracle) (s : Lifecycle.State) (row : SuccessKindRow) :
    reconcileUnsettledRow oracle s.now s.ledger row =
      (((oracle.fetchConfirmations row.transactionId).bind
        (System.reconcileUnsettledRow row)).elim s (Lifecycle.step d s)).ledger := by
  unfold reconcileUnsettledRow System.reconcileUnsettledRow downgradeReorgedRow
  cases oracle.fetchConfirmations row.transactionId with
  | none => rfl
  | some outcome =>
      cases outcome with
      | mined blockHeight confirmationCount => rfl
      | inMempool => cases row.minedBlockHeight <;> rfl
      | notFound => cases row.minedBlockHeight <;> rfl
      | conflictingChain => cases row.minedBlockHeight <;> rfl

/-! ## What it makes of a row -/

/-- A success-kind row of this transaction whose height the view has not settled. -/
def Unsettled (chainView : ChainStatusView) (entry : SettlementLedgerEntry)
    (transactionId : String) : Prop :=
  entry.broadcastOutcome.transactionId = some transactionId ∧
    entry.minedBlockHeight.any chainView.isSettledAt = false

/-- The effect of an answer on a row. -/
def afterAnswer (nowUnixSeconds : Int) (entry : SettlementLedgerEntry) :
    Option ConfirmationOutcome → SettlementLedgerEntry
  | none => entry
  | some (.mined blockHeight confirmationCount) =>
      entry.recordConfirmation confirmationCount (some blockHeight)
  | some .inMempool =>
      if entry.minedBlockHeight.isSome then entry.downgradeOnReorg nowUnixSeconds
      else entry.recordConfirmation 0 none
  | some .notFound | some .conflictingChain => entry.downgradeOnReorg nowUnixSeconds

/-- The effect of a sweep on a row. -/
def afterSweep (oracle : ConfirmationOracle) (chainView : ChainStatusView)
    (nowUnixSeconds : Int) (entry : SettlementLedgerEntry) : SettlementLedgerEntry :=
  match entry.broadcastOutcome.transactionId with
  | none => entry
  | some transactionId =>
      if entry.minedBlockHeight.any chainView.isSettledAt then entry
      else afterAnswer nowUnixSeconds entry (oracle.fetchConfirmations transactionId)

section Sweep

variable {oracle : ConfirmationOracle} {clock : PaymentId → Int} {ledger : SettlementLedger}
variable {chainStatus : ChainStatusCache} {chainView : ChainStatusView} {now : Int}
variable {entry : SettlementLedgerEntry} {paymentId : PaymentId}

/-- What one turn of the loop makes of the row it is about, from its copy. -/
def turn (oracle : ConfirmationOracle) (chainView : ChainStatusView) (clock : PaymentId → Int)
    (row : SuccessKindRow) (entry : SettlementLedgerEntry) : SettlementLedgerEntry :=
  if row.minedBlockHeight.any chainView.isSettledAt then entry
  else
    match oracle.fetchConfirmations row.transactionId with
    | none => entry
    | some (.mined blockHeight confirmationCount) =>
        entry.recordConfirmation confirmationCount (some blockHeight)
    | some .inMempool =>
        if row.minedBlockHeight.isSome then entry.downgradeOnReorg (clock row.paymentId)
        else entry.recordConfirmation 0 none
    | some .notFound | some .conflictingChain =>
        if row.minedBlockHeight.isSome then entry.downgradeOnReorg (clock row.paymentId)
        else entry

theorem lookup_sweep_row (ledger : SettlementLedger) (row : SuccessKindRow)
    (paymentId : PaymentId) :
    (sweepRow oracle chainView clock ledger row).lookup paymentId =
      if paymentId = row.paymentId then
        (ledger.lookup paymentId).map (turn oracle chainView clock row)
      else ledger.lookup paymentId := by
  have hsame : (ledger.lookup paymentId).map (fun entry => entry) = ledger.lookup paymentId :=
    Option.map_id'
  by_cases hid : paymentId = row.paymentId
  · subst hid
    unfold sweepRow reconcileUnsettledRow downgradeReorgedRow turn
    rw [if_pos rfl]
    by_cases hsettled : row.minedBlockHeight.any chainView.isSettledAt = true
    · simp only [hsettled, if_true, hsame]
    · simp only [hsettled, Bool.false_eq_true, if_false]
      cases oracle.fetchConfirmations row.transactionId with
      | none => rw [hsame]
      | some outcome =>
          cases outcome <;> cases row.minedBlockHeight <;> simp [hsame]
  · rw [if_neg hid]
    unfold sweepRow reconcileUnsettledRow downgradeReorgedRow
    split
    · rfl
    · split
      · rfl
      · rw [SettlementLedger.lookup_record_confirmation, if_neg hid]
      · split
        · rw [SettlementLedger.lookup_downgrade_on_reorg, if_neg hid]
        · rw [SettlementLedger.lookup_record_confirmation, if_neg hid]
      · split
        · rw [SettlementLedger.lookup_downgrade_on_reorg, if_neg hid]
        · rfl
      · split
        · rw [SettlementLedger.lookup_downgrade_on_reorg, if_neg hid]
        · rfl

/-- An unmined row has nothing to downgrade. -/
theorem downgrade_of_unmined (hunmined : entry.minedBlockHeight = none) :
    entry.downgradeOnReorg now = entry := by
  unfold SettlementLedgerEntry.downgradeOnReorg
  rw [hunmined]

/-- As long as the copy is accurate, a turn goes by the row itself. -/
theorem turn_of_copy {row : SuccessKindRow}
    (htransaction : entry.broadcastOutcome.transactionId = some row.transactionId)
    (hmined : entry.minedBlockHeight = row.minedBlockHeight) :
    turn oracle chainView clock row entry =
      afterSweep oracle chainView (clock row.paymentId) entry := by
  unfold turn afterSweep afterAnswer
  rw [htransaction, ← hmined]
  simp only
  split
  · rfl
  · cases hanswer : oracle.fetchConfirmations row.transactionId with
    | none => rfl
    | some outcome =>
        cases outcome with
        | mined blockHeight confirmationCount => rfl
        | inMempool => rfl
        | notFound => cases hheight : entry.minedBlockHeight <;> simp [downgrade_of_unmined, hheight]
        | conflictingChain =>
            cases hheight : entry.minedBlockHeight <;> simp [downgrade_of_unmined, hheight]

/-- Every payment is listed once. -/
theorem nodup_success_kind_transactions (ledger : SettlementLedger) :
    (ledger.successKindTransactions.map SuccessKindRow.paymentId).Nodup := by
  refine Table.nodup_keys_filterMap ledger ?_
  intro row copy hcopy
  obtain ⟨transactionId, -, rfl⟩ := Option.map_eq_some_iff.1 hcopy
  rfl

/-- A sweep as a function of each row. -/
theorem lookup_poll_oracle_once :
    (pollOracleOnce oracle clock ledger chainStatus).1.lookup paymentId =
      (ledger.lookup paymentId).map
        (afterSweep oracle (oracle.chainView chainStatus) (clock paymentId)) := by
  unfold pollOracleOnce
  rw [Table.lookup_foldl lookup_sweep_row (nodup_success_kind_transactions ledger)]
  split
  · next row hrow =>
      have hfound := List.find?_some hrow
      have hid : row.paymentId = paymentId := of_decide_eq_true hfound
      obtain ⟨entry, hentry, htransaction, hmined⟩ :=
        SettlementLedger.mem_successKindTransactions.1 (List.mem_of_find?_eq_some hrow)
      subst hid
      rw [hentry, Option.map_some, Option.map_some, turn_of_copy htransaction hmined]
  · next hnone =>
      cases hentry : ledger.lookup paymentId with
      | none => rfl
      | some entry =>
          -- no copy of the row was taken, so it is of a failure kind
          have hfailure : entry.broadcastOutcome.transactionId = none := by
            by_contra hsome
            obtain ⟨transactionId, htransaction⟩ := Option.ne_none_iff_exists'.1 hsome
            have hlisted : SuccessKindRow.mk paymentId transactionId entry.minedBlockHeight ∈
                ledger.successKindTransactions :=
              SettlementLedger.mem_successKindTransactions.2 ⟨entry, hentry, htransaction, rfl⟩
            exact absurd (List.find?_eq_none.1 hnone _ hlisted) (by simp)
          rw [Option.map_some]
          unfold afterSweep
          rw [hfailure]

theorem after_sweep_of_failure_kind (hfailure : entry.broadcastOutcome.transactionId = none) :
    afterSweep oracle chainView now entry = entry := by
  unfold afterSweep
  rw [hfailure]

theorem after_sweep_of_settled
    (hsettled : entry.minedBlockHeight.any chainView.isSettledAt = true) :
    afterSweep oracle chainView now entry = entry := by
  unfold afterSweep
  split
  · rfl
  · rw [if_pos hsettled]

theorem after_sweep_of_unsettled {transactionId : String}
    (hunsettled : Unsettled chainView entry transactionId) :
    afterSweep oracle chainView now entry =
      afterAnswer now entry (oracle.fetchConfirmations transactionId) := by
  unfold afterSweep
  rw [hunsettled.1]
  simp only [hunsettled.2, Bool.false_eq_true, if_false]

/-- No answer changes which transaction a row is about. -/
theorem after_answer_broadcastOutcome (answer : Option ConfirmationOutcome) :
    (afterAnswer now entry answer).broadcastOutcome = entry.broadcastOutcome := by
  cases answer with
  | none => rfl
  | some outcome =>
      cases outcome with
      | mined blockHeight confirmationCount => rfl
      | inMempool =>
          show (if entry.minedBlockHeight.isSome then entry.downgradeOnReorg now
            else entry.recordConfirmation 0 none).broadcastOutcome = _
          split
          · exact entry.downgradeOnReorg_broadcastOutcome now
          · rfl
      | notFound => exact entry.downgradeOnReorg_broadcastOutcome now
      | conflictingChain => exact entry.downgradeOnReorg_broadcastOutcome now

/-- The same answer again tells a row nothing new. -/
theorem after_answer_idempotent (now' : Int) (answer : Option ConfirmationOutcome) :
    afterAnswer now' (afterAnswer now entry answer) answer = afterAnswer now entry answer := by
  have hdowngraded : (entry.downgradeOnReorg now).downgradeOnReorg now' =
      entry.downgradeOnReorg now :=
    downgrade_of_unmined (entry.downgradeOnReorg_minedBlockHeight now)
  cases answer with
  | none => rfl
  | some outcome =>
      cases outcome with
      | mined blockHeight confirmationCount => rfl
      | inMempool =>
          cases hmined : entry.minedBlockHeight with
          | none =>
              simp [afterAnswer, hmined, SettlementLedgerEntry.recordConfirmation]
          | some height =>
              simp [afterAnswer, hmined, SettlementLedgerEntry.recordConfirmation,
                SettlementLedgerEntry.downgradeOnReorg]
      | notFound => exact hdowngraded
      | conflictingChain => exact hdowngraded

/-- A row the sweep has brought to the oracle's view stays as it is. -/
theorem after_sweep_idempotent (now' : Int) :
    afterSweep oracle chainView now' (afterSweep oracle chainView now entry) =
      afterSweep oracle chainView now entry := by
  by_cases hsettled : entry.minedBlockHeight.any chainView.isSettledAt = true
  · rw [after_sweep_of_settled hsettled, after_sweep_of_settled hsettled]
  · cases htransaction : entry.broadcastOutcome.transactionId with
    | none =>
        rw [after_sweep_of_failure_kind htransaction, after_sweep_of_failure_kind htransaction]
    | some transactionId =>
        have hunsettled : Unsettled chainView entry transactionId :=
          ⟨htransaction, Bool.not_eq_true _ ▸ hsettled⟩
        rw [after_sweep_of_unsettled hunsettled]
        -- the answer may have settled the row, and then it is left alone
        by_cases hnow : (afterAnswer now entry
            (oracle.fetchConfirmations transactionId)).minedBlockHeight.any
              chainView.isSettledAt = true
        · exact after_sweep_of_settled hnow
        · rw [after_sweep_of_unsettled ⟨?_, Bool.not_eq_true _ ▸ hnow⟩, after_answer_idempotent]
          rw [after_answer_broadcastOutcome, htransaction]

end Sweep

/-! ## The whole sweep -/

/-- What a sweep with this view makes of a row, case by case. -/
structure Reconciled (oracle : ConfirmationOracle) (chainView : ChainStatusView) (now : Int)
    (before after : SettlementLedgerEntry) : Prop where
  failureKind : before.broadcastOutcome.transactionId = none → after = before
  settled : before.minedBlockHeight.any chainView.isSettledAt = true → after = before
  oracleError : ∀ transactionId, Unsettled chainView before transactionId →
    oracle.fetchConfirmations transactionId = none → after = before
  mined : ∀ transactionId blockHeight confirmationCount,
    Unsettled chainView before transactionId →
    oracle.fetchConfirmations transactionId = some (.mined blockHeight confirmationCount) →
    after = { before with
      minedBlockHeight := some blockHeight, confirmationCount := some confirmationCount }
  inMempool : ∀ transactionId, Unsettled chainView before transactionId →
    oracle.fetchConfirmations transactionId = some .inMempool →
    before.minedBlockHeight = none →
    after = { before with confirmationCount := some 0 }
  reorged : ∀ transactionId, Unsettled chainView before transactionId →
    (oracle.fetchConfirmations transactionId = some .inMempool ∨
      oracle.fetchConfirmations transactionId = some .notFound ∨
      oracle.fetchConfirmations transactionId = some .conflictingChain) →
    before.minedBlockHeight ≠ none →
    after = { before with
      minedBlockHeight := none
      confirmationCount := some 0
      reorgCount := saturatingAdd32 before.reorgCount 1
      lastReorgedAt := some now }
  absent : ∀ transactionId, Unsettled chainView before transactionId →
    (oracle.fetchConfirmations transactionId = some .notFound ∨
      oracle.fetchConfirmations transactionId = some .conflictingChain) →
    before.minedBlockHeight = none → after = before

theorem reconciled_after_sweep (oracle : ConfirmationOracle) (chainView : ChainStatusView)
    (now : Int) (entry : SettlementLedgerEntry) :
    Reconciled oracle chainView now entry (afterSweep oracle chainView now entry) where
  failureKind := after_sweep_of_failure_kind
  settled := after_sweep_of_settled
  oracleError := by
    intro transactionId hunsettled hanswer
    rw [after_sweep_of_unsettled hunsettled, hanswer]
    rfl
  mined := by
    intro transactionId blockHeight confirmationCount hunsettled hanswer
    rw [after_sweep_of_unsettled hunsettled, hanswer]
    rfl
  inMempool := by
    intro transactionId hunsettled hanswer hunmined
    rw [after_sweep_of_unsettled hunsettled, hanswer]
    simp [afterAnswer, hunmined, SettlementLedgerEntry.recordConfirmation]
  reorged := by
    intro transactionId hunsettled hanswer hmined
    obtain ⟨height, hheight⟩ := Option.ne_none_iff_exists'.1 hmined
    rw [after_sweep_of_unsettled hunsettled]
    obtain hanswer | hanswer | hanswer := hanswer <;>
      simp [hanswer, afterAnswer, hheight, SettlementLedgerEntry.downgradeOnReorg]
  absent := by
    intro transactionId hunsettled hanswer hunmined
    rw [after_sweep_of_unsettled hunsettled]
    obtain hanswer | hanswer := hanswer <;> rw [hanswer] <;> exact downgrade_of_unmined hunmined

/-- The second of two sweeps with the same oracle goes by the same view. -/
theorem chain_view_refresh (oracle : ConfirmationOracle) (chainStatus : ChainStatusCache) :
    oracle.chainView (refreshChainStatus oracle chainStatus) = oracle.chainView chainStatus := by
  unfold ConfirmationOracle.chainView refreshChainStatus
  cases oracle.chainStatus with
  | none => rfl
  | some view => rfl

/-- A sweep keeps the payments, brings every row to the oracle's view of its
transaction and touches nothing else; a second sweep with the same answers, whenever
it runs, changes nothing at all. -/
theorem poll_oracle_once_reconciles (oracle : ConfirmationOracle) (clock : PaymentId → Int)
    (ledger : SettlementLedger) (chainStatus : ChainStatusCache) :
    (∀ paymentId, ledger.lookup paymentId = none →
      (pollOracleOnce oracle clock ledger chainStatus).1.lookup paymentId = none) ∧
    (∀ paymentId before, ledger.lookup paymentId = some before →
      ∃ after, (pollOracleOnce oracle clock ledger chainStatus).1.lookup paymentId = some after ∧
        Reconciled oracle (oracle.chainView chainStatus) (clock paymentId) before after) ∧
    ∀ clock' paymentId,
      (pollOracleOnce oracle clock' (pollOracleOnce oracle clock ledger chainStatus).1
        (pollOracleOnce oracle clock ledger chainStatus).2).1.lookup paymentId =
      (pollOracleOnce oracle clock ledger chainStatus).1.lookup paymentId := by
  refine ⟨?_, ?_, ?_⟩
  · intro paymentId hnone
    rw [lookup_poll_oracle_once, hnone]
    rfl
  · intro paymentId before hbefore
    rw [lookup_poll_oracle_once, hbefore]
    exact ⟨_, rfl, reconciled_after_sweep _ _ _ _⟩
  · intro clock' paymentId
    rw [lookup_poll_oracle_once, lookup_poll_oracle_once]
    cases ledger.lookup paymentId with
    | none => rfl
    | some entry =>
        have hview : oracle.chainView (pollOracleOnce oracle clock ledger chainStatus).2 =
            oracle.chainView chainStatus := chain_view_refresh oracle chainStatus
        rw [hview, Option.map_some, Option.map_some, after_sweep_idempotent]

/-- A mined row that has been reorged out `reorgCount` times. -/
def minedRow (reorgCount : UInt32) : SettlementLedgerEntry where
  broadcastOutcome := .accepted "t1"
  settledAtUnixSeconds := 0
  confirmationCount := some 1
  minedBlockHeight := some 5
  reorgCount := reorgCount
  lastReorgedAt := none
  expiryHeight := none
  payeeId := ⟨"payee"⟩
  amountZat := 1

/-- The reorg counter has no next value after the last one. -/
theorem reorg_count_not_always_next :
    ¬ ∀ (oracle : ConfirmationOracle) (clock : PaymentId → Int) (ledger : SettlementLedger)
        (chainStatus : ChainStatusCache) paymentId before after transactionId,
      ledger.lookup paymentId = some before →
      Unsettled (oracle.chainView chainStatus) before transactionId →
      oracle.fetchConfirmations transactionId = some .inMempool →
      before.minedBlockHeight ≠ none →
      (pollOracleOnce oracle clock ledger chainStatus).1.lookup paymentId = some after →
      after.reorgCount.toNat = before.reorgCount.toNat + 1 := by
  intro h
  let oracle : ConfirmationOracle :=
    { chainStatus := none, fetchConfirmations := fun _ => some .inMempool }
  let last : UInt32 := .ofNat (2 ^ 32 - 1)
  let ledger : SettlementLedger := AList.insert ⟨"p1"⟩ (minedRow last) ∅
  have hnext := h oracle (fun _ => 0) ledger .new ⟨"p1"⟩ (minedRow last)
    ((minedRow last).downgradeOnReorg 0) "t1" rfl ⟨rfl, rfl⟩ rfl (by decide) rfl
  exact absurd hnext (by decide)

end Zpay.Runtime
