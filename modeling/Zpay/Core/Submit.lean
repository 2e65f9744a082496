import Zpay.Core.PreparedBackend
import Zpay.Core.Settle
import Zpay.Machine.Run

/-!
# A settle call on its own

`submit_settlement` from its gates to its answer, over any prepared store and the
ledger, with nobody else at work.  What the chain plane answers and how each store
call fails is the environment's choice.

The gates read one row.  After the broadcast there are two writes, the ledger row
and the removal of the prepared row; the x402 route makes the same two.

## Main results

* `write_settlement_frame`, `write_settlement_ok` — what the two writes do.
* `submit_settlement_gated`, `submit_settlement_error`, `submit_settlement_ok`,
  `submit_settlement_frame` — what was submitted and what every answer leaves behind.
* `submit_settlement_spec` — all of it, of every call.
-/

open Zpay.Data Zpay.Machine

namespace Zpay.Core

/-! ## The stores and their failures -/

structure Stores (σ : Type) where
  prepared : σ
  ledger : SettlementLedger

/-- How the store calls of one settle call fail. -/
structure StoreFaults where
  read : Option StoreError
  record : Fault
  recordError : StoreError
  remove : Fault
  removeError : StoreError

section Calls

variable {σ : Type} (b : PreparedTxBackend σ) (faults : StoreFaults)

/-- What a read of the prepared store answers. -/
def StoreFaults.find (stores : Stores σ) (paymentId : PaymentId) :
    Except StoreError (Option PreparedTxEntry) :=
  match faults.read with
  | some err => .error err
  | none => .ok (b.findByPaymentId stores.prepared paymentId)

/-- The ledger write. -/
def StoreFaults.recordEntry (ledger : SettlementLedger) (paymentId : PaymentId)
    (entry : SettlementLedgerEntry) : Except StoreError Unit × SettlementLedger :=
  faults.record.apply faults.recordError ledger (.ok (), ledger.record paymentId entry)

/-- The removal of the prepared row. -/
def StoreFaults.removeRow (prepared : σ) (paymentId : PaymentId) :
    Except StoreError (Option PreparedTxEntry) × σ :=
  faults.remove.apply faults.removeError prepared (b.remove prepared paymentId)

/-- What follows a broadcast: the ledger row, and after a success the removal. -/
def writeSettlement (settlement : PreparedSettlement) (outcome : BroadcastOutcome)
    (nowUnixSeconds : Nat) (stores : Stores σ) : Except StoreError Unit × Stores σ :=
  match faults.recordEntry stores.ledger settlement.paymentId
      (settlement.ledgerEntry outcome nowUnixSeconds) with
  | (.error err, ledger) => (.error err, { stores with ledger })
  | (.ok (), ledger) =>
      if outcome.isSuccess then
        match faults.removeRow b stores.prepared settlement.paymentId with
        | (.error err, prepared) => (.error err, { prepared, ledger })
        | (.ok _, prepared) => (.ok (), { prepared, ledger })
      else (.ok (), { stores with ledger })

end Calls

/-! ## The call -/

/-- The clock, as far as an `i64` goes. -/
def currentUnixSeconds (nowUnixSeconds : Nat) : Nat := min nowUnixSeconds (2 ^ 63 - 1)

/-- What a call meets outside the stores: the clock, the transaction parser and the
submitter. -/
structure SettleWorld where
  nowUnixSeconds : Nat
  parseTransactionExpiryHeight : List UInt8 → Except String UInt32
  submit : List UInt8 → Except String SubmitOutcome

/-- The answer, what the call left in the stores, and what it handed to the submitter. -/
structure SubmitRun (σ : Type) where
  answer : Except SettleError SettlementOutcome
  stores : Stores σ
  submitted : List (List UInt8)

section Submit

variable {σ : Type} (b : PreparedTxBackend σ) (faults : StoreFaults) (world : SettleWorld)

def submitSettlement (request : SettleRequest) (jkt : String) (stores : Stores σ) :
    SubmitRun σ :=
  match admitSettlement world.parseTransactionExpiryHeight request jkt
      (faults.find b stores request.paymentId) with
  | .error err => { answer := .error err, stores, submitted := [] }
  | .ok (settlement, rawTxBytes) =>
      match world.submit rawTxBytes with
      | .error reason =>
          { answer := .error (.chainUnavailable reason), stores, submitted := [rawTxBytes] }
      | .ok submitOutcome =>
          let outcome := BroadcastOutcome.fromSubmitOutcome submitOutcome
          match writeSettlement b faults settlement outcome
              (currentUnixSeconds world.nowUnixSeconds) stores with
          | (.error err, stores) =>
              { answer := .error (.storage err), stores, submitted := [rawTxBytes] }
          | (.ok (), stores) =>
              { answer := .ok (settlementOutcome request.paymentId outcome)
                stores
                submitted := [rawTxBytes] }

end Submit

/-! ## What the writes do -/

section Writes

variable {σ : Type} {b : PreparedTxBackend σ} {faults : StoreFaults}
variable {settlement : PreparedSettlement} {outcome : BroadcastOutcome} {now : Nat}
variable {stores : Stores σ}

/-- The rows of other payments. -/
def SameElsewhere (b : PreparedTxBackend σ) (paymentId : PaymentId) (stores stores' : Stores σ) :
    Prop :=
  ∀ other, other ≠ paymentId →
    b.findByPaymentId stores'.prepared other = b.findByPaymentId stores.prepared other ∧
      stores'.ledger.lookup other = stores.ledger.lookup other

/-- A store call after a broadcast failed, and these stores are what it left: the ledger
write, or the removal that follows one that was acknowledged. -/
inductive FailedWrite (b : PreparedTxBackend σ) (faults : StoreFaults)
    (settlement : PreparedSettlement) (outcome : BroadcastOutcome) (now : Nat)
    (stores : Stores σ) (err : StoreError) : Stores σ → Prop
  | record
      (failed : (faults.recordEntry stores.ledger settlement.paymentId
        (settlement.ledgerEntry outcome now)).1 = .error err) :
      FailedWrite b faults settlement outcome now stores err
        { stores with
          ledger := (faults.recordEntry stores.ledger settlement.paymentId
            (settlement.ledgerEntry outcome now)).2 }
  | remove
      (recorded : (faults.recordEntry stores.ledger settlement.paymentId
        (settlement.ledgerEntry outcome now)).1 = .ok ())
      (success : outcome.isSuccess = true)
      (failed : (faults.removeRow b stores.prepared settlement.paymentId).1 = .error err) :
      FailedWrite b faults settlement outcome now stores err
        { prepared := (faults.removeRow b stores.prepared settlement.paymentId).2
          ledger := (faults.recordEntry stores.ledger settlement.paymentId
            (settlement.ledgerEntry outcome now)).2 }

theorem same_elsewhere_refl (paymentId : PaymentId) (stores : Stores σ) :
    SameElsewhere b paymentId stores stores := fun _ _ => ⟨rfl, rfl⟩

variable (faults)

/-- A ledger write touches its own row, whether or not it is acknowledged. -/
theorem record_entry_frame (ledger : SettlementLedger) {paymentId other : PaymentId}
    (entry : SettlementLedgerEntry) (hother : other ≠ paymentId) :
    (faults.recordEntry ledger paymentId entry).2.lookup other = ledger.lookup other := by
  refine Fault.apply_keeps (fun l : SettlementLedger => l.lookup other = ledger.lookup other)
    rfl ?_
  intro _
  rw [SettlementLedger.lookup_record, if_neg hother]

/-- So does a removal. -/
theorem remove_row_frame (lawful : b.Lawful) (prepared : σ) {paymentId other : PaymentId}
    (hother : other ≠ paymentId) :
    b.findByPaymentId (faults.removeRow b prepared paymentId).2 other =
      b.findByPaymentId prepared other := by
  refine Fault.apply_keeps
    (fun s : σ => b.findByPaymentId s other = b.findByPaymentId prepared other) rfl ?_
  intro _
  rw [lawful.find_remove, if_neg hother]

/-- An acknowledged ledger write was made. -/
theorem record_entry_ok {ledger : SettlementLedger} {paymentId : PaymentId}
    {entry : SettlementLedgerEntry}
    (h : (faults.recordEntry ledger paymentId entry).1 = .ok ()) :
    (faults.recordEntry ledger paymentId entry).2 = ledger.record paymentId entry := by
  obtain ⟨hfault, -⟩ := Fault.apply_eq_ok.1 h
  unfold StoreFaults.recordEntry
  rw [hfault]
  rfl

theorem record_entry_error {ledger : SettlementLedger} {paymentId : PaymentId}
    {entry : SettlementLedgerEntry} {err : StoreError}
    (h : (faults.recordEntry ledger paymentId entry).1 = .error err) :
    faults.record ≠ .none ∧ err = faults.recordError := by
  unfold StoreFaults.recordEntry at h
  cases hfault : faults.record with
  | none =>
      rw [hfault] at h
      exact absurd h (by simp [Fault.apply])
  | lost =>
      rw [hfault] at h
      exact ⟨by decide, (Except.error.inj h).symm⟩
  | unacknowledged =>
      rw [hfault] at h
      exact ⟨by decide, (Except.error.inj h).symm⟩

/-- After an acknowledged removal the row is gone. -/
theorem remove_row_ok (lawful : b.Lawful) {prepared : σ} {paymentId : PaymentId}
    {removed : Option PreparedTxEntry}
    (h : (faults.removeRow b prepared paymentId).1 = .ok removed) :
    b.findByPaymentId (faults.removeRow b prepared paymentId).2 paymentId = none := by
  obtain ⟨hfault, -⟩ := Fault.apply_eq_ok.1 h
  unfold StoreFaults.removeRow
  rw [hfault]
  show b.findByPaymentId (b.remove prepared paymentId).2 paymentId = none
  rw [lawful.find_remove, if_pos rfl]

/-- The two writes, by how they end: the first fails, the second fails, both are made,
or there is no second one. -/
theorem write_settlement_cases (settlement : PreparedSettlement) (outcome : BroadcastOutcome)
    (now : Nat) (stores : Stores σ) :
    let entry := settlement.ledgerEntry outcome now
    let recorded := faults.recordEntry stores.ledger settlement.paymentId entry
    let removed := faults.removeRow b stores.prepared settlement.paymentId
    (∃ err, recorded.1 = .error err ∧
      writeSettlement b faults settlement outcome now stores =
        (.error err, { stores with ledger := recorded.2 })) ∨
    recorded.1 = .ok () ∧
      ((∃ err, outcome.isSuccess = true ∧ removed.1 = .error err ∧
        writeSettlement b faults settlement outcome now stores =
          (.error err, { prepared := removed.2, ledger := recorded.2 })) ∨
      (∃ row, outcome.isSuccess = true ∧ removed.1 = .ok row ∧
        writeSettlement b faults settlement outcome now stores =
          (.ok (), { prepared := removed.2, ledger := recorded.2 })) ∨
      outcome.isSuccess = false ∧
        writeSettlement b faults settlement outcome now stores =
          (.ok (), { stores with ledger := recorded.2 })) := by
  intro entry recorded removed
  unfold writeSettlement
  cases hrecorded : faults.recordEntry stores.ledger settlement.paymentId entry with
  | mk answer ledger =>
      cases answer with
      | error err => exact .inl ⟨err, by simp [recorded, hrecorded], by simp [recorded, hrecorded]⟩
      | ok _ =>
          refine .inr ⟨by simp [recorded, hrecorded], ?_⟩
          cases hsuccess : outcome.isSuccess with
          | false => exact .inr (.inr ⟨rfl, by simp [recorded, hrecorded]⟩)
          | true =>
              cases hremoved : faults.removeRow b stores.prepared settlement.paymentId with
              | mk answer prepared =>
                  cases answer with
                  | error err =>
                      exact .inl ⟨err, rfl, by simp [removed, hremoved],
                        by simp [recorded, removed, hrecorded, hremoved]⟩
                  | ok row =>
                      exact .inr (.inl ⟨row, rfl, by simp [removed, hremoved],
                        by simp [recorded, removed, hrecorded, hremoved]⟩)

theorem write_settlement_frame (lawful : b.Lawful) (faults : StoreFaults)
    (settlement : PreparedSettlement) (outcome : BroadcastOutcome) (now : Nat)
    (stores : Stores σ) :
    SameElsewhere b settlement.paymentId stores
      (writeSettlement b faults settlement outcome now stores).2 := by
  intro other hother
  have hledger := record_entry_frame faults stores.ledger (settlement.ledgerEntry outcome now)
    hother
  have hprepared := remove_row_frame faults lawful stores.prepared hother
  rcases write_settlement_cases faults settlement outcome now stores with
    ⟨err, -, heq⟩ | ⟨-, ⟨err, -, -, heq⟩ | ⟨row, -, -, heq⟩ | ⟨-, heq⟩⟩
  · rw [heq]
    exact ⟨rfl, hledger⟩
  · rw [heq]
    exact ⟨hprepared, hledger⟩
  · rw [heq]
    exact ⟨hprepared, hledger⟩
  · rw [heq]
    exact ⟨rfl, hledger⟩

variable {faults}

/-- When both writes are acknowledged, the ledger row is the entry, and the prepared
row is gone after a success and untouched after a failure. -/
theorem write_settlement_ok (lawful : b.Lawful)
    (h : (writeSettlement b faults settlement outcome now stores).1 = .ok ()) :
    (writeSettlement b faults settlement outcome now stores).2.ledger.lookup
        settlement.paymentId = some (settlement.ledgerEntry outcome now) ∧
    (outcome.isSuccess = true →
      b.findByPaymentId (writeSettlement b faults settlement outcome now stores).2.prepared
        settlement.paymentId = none) ∧
    (outcome.isSuccess = false →
      (writeSettlement b faults settlement outcome now stores).2.prepared =
        stores.prepared) := by
  have hrecord : ∀ ledger, ledger = stores.ledger.record settlement.paymentId
      (settlement.ledgerEntry outcome now) →
      ledger.lookup settlement.paymentId = some (settlement.ledgerEntry outcome now) := by
    rintro ledger rfl
    rw [SettlementLedger.lookup_record, if_pos rfl]
  rcases write_settlement_cases faults settlement outcome now stores with
    ⟨err, -, heq⟩ | ⟨hrecorded, ⟨err, -, -, heq⟩ | ⟨row, hsuccess, hremoved, heq⟩ |
      ⟨hfailure, heq⟩⟩
  · rw [heq] at h
    exact absurd h (by simp)
  · rw [heq] at h
    exact absurd h (by simp)
  · rw [heq, hsuccess]
    refine ⟨hrecord _ (record_entry_ok faults hrecorded), fun _ => ?_, Bool.noConfusion⟩
    exact remove_row_ok faults lawful hremoved
  · rw [heq, hfailure]
    exact ⟨hrecord _ (record_entry_ok faults hrecorded), Bool.noConfusion, fun _ => rfl⟩

/-- The writes fail only with a store call of theirs that failed. -/
theorem write_settlement_error {err : StoreError}
    (h : (writeSettlement b faults settlement outcome now stores).1 = .error err) :
    FailedWrite b faults settlement outcome now stores err
      (writeSettlement b faults settlement outcome now stores).2 := by
  rcases write_settlement_cases faults settlement outcome now stores with
    ⟨err', hrecorded, heq⟩ | ⟨hrecorded, ⟨err', hsuccess, hremoved, heq⟩ | ⟨row, -, -, heq⟩ |
      ⟨-, heq⟩⟩
  · rw [heq, Except.error.injEq] at h
    rw [heq]
    exact .record (h ▸ hrecorded)
  · rw [heq, Except.error.injEq] at h
    rw [heq]
    exact .remove hrecorded hsuccess (h ▸ hremoved)
  · rw [heq] at h
    exact absurd h (by simp)
  · rw [heq] at h
    exact absurd h (by simp)

end Writes

/-! ## What the call does -/

section Spec

variable {σ : Type} {b : PreparedTxBackend σ} {faults : StoreFaults} {world : SettleWorld}
variable {request : SettleRequest} {jkt : String} {stores : Stores σ}

theorem store_find_eq_ok {paymentId : PaymentId} {found : Option PreparedTxEntry} :
    faults.find b stores paymentId = .ok found ↔
      faults.read = none ∧ b.findByPaymentId stores.prepared paymentId = found := by
  unfold StoreFaults.find
  cases faults.read <;> simp

/-- A call, by how far it gets: refused, turned away by the chain plane, or on to its
writes. -/
theorem submit_settlement_cases (b : PreparedTxBackend σ) (faults : StoreFaults)
    (world : SettleWorld) (request : SettleRequest) (jkt : String) (stores : Stores σ) :
    (∃ err, submitSettlement b faults world request jkt stores =
      { answer := .error err, stores, submitted := [] }) ∨
    ∃ settlement rawTxBytes, admitSettlement world.parseTransactionExpiryHeight request jkt
        (faults.find b stores request.paymentId) = .ok (settlement, rawTxBytes) ∧
      ((∃ reason, world.submit rawTxBytes = .error reason ∧
        submitSettlement b faults world request jkt stores =
          { answer := .error (.chainUnavailable reason), stores, submitted := [rawTxBytes] }) ∨
      ∃ submitOutcome, world.submit rawTxBytes = .ok submitOutcome ∧
        submitSettlement b faults world request jkt stores =
          { answer := (((writeSettlement b faults settlement (.fromSubmitOutcome submitOutcome)
                (currentUnixSeconds world.nowUnixSeconds) stores).1).mapError .storage).map fun _ =>
              settlementOutcome request.paymentId (.fromSubmitOutcome submitOutcome)
            stores := (writeSettlement b faults settlement (.fromSubmitOutcome submitOutcome)
              (currentUnixSeconds world.nowUnixSeconds) stores).2
            submitted := [rawTxBytes] }) := by
  unfold submitSettlement
  cases hadmitted : admitSettlement world.parseTransactionExpiryHeight request jkt
      (faults.find b stores request.paymentId) with
  | error err => exact .inl ⟨err, rfl⟩
  | ok admitted =>
      obtain ⟨settlement, rawTxBytes⟩ := admitted
      refine .inr ⟨settlement, rawTxBytes, rfl, ?_⟩
      cases hsubmitted : world.submit rawTxBytes with
      | error reason => exact .inl ⟨reason, rfl, by simp only [hsubmitted]⟩
      | ok submitOutcome =>
          refine .inr ⟨submitOutcome, rfl, ?_⟩
          simp only [hsubmitted]
          cases hwritten : writeSettlement b faults settlement (.fromSubmitOutcome submitOutcome)
              (currentUnixSeconds world.nowUnixSeconds) stores with
          | mk answer stores' => cases answer <;> rfl

/-- What a transaction has passed by the time it is submitted. -/
structure Gated (b : PreparedTxBackend σ) (world : SettleWorld) (request : SettleRequest)
    (jkt : String) (stores : Stores σ) (rawTxBytes : List UInt8) (prepared : PreparedTxEntry) :
    Prop where
  found : b.findByPaymentId stores.prepared request.paymentId = some prepared
  sameKey : prepared.agentDpopJkt = jkt
  memoVersion : ∀ observed, prepared.preparation.memoBytes[1]? = some observed →
    observed = protocolMemoVersion
  decoded : decodeHexChars request.rawTxHex.toList = some rawTxBytes
  sameExpiry : world.parseTransactionExpiryHeight rawTxBytes =
    .ok prepared.preparation.expiryHeight

/-- What a call that is answered with an outcome has done. -/
structure Settles (b : PreparedTxBackend σ) (world : SettleWorld) (request : SettleRequest)
    (stores : Stores σ) (run : SubmitRun σ) (outcome : SettlementOutcome)
    (rawTxBytes : List UInt8) (prepared : PreparedTxEntry) (submitOutcome : SubmitOutcome) :
    Prop where
  submitted : run.submitted = [rawTxBytes]
  found : b.findByPaymentId stores.prepared request.paymentId = some prepared
  answered : world.submit rawTxBytes = .ok submitOutcome
  payment : outcome.paymentId = request.paymentId
  kind : outcome.broadcastOutcome = .fromSubmitOutcome submitOutcome
  recorded : run.stores.ledger.lookup request.paymentId = some
    { broadcastOutcome := outcome.broadcastOutcome
      settledAtUnixSeconds := currentUnixSeconds world.nowUnixSeconds
      confirmationCount := none
      minedBlockHeight := none
      reorgCount := 0
      lastReorgedAt := none
      expiryHeight := some prepared.preparation.expiryHeight
      payeeId := prepared.payeeId
      amountZat := prepared.amountZat }
  success : outcome.broadcastOutcome.isSuccess = true →
    b.findByPaymentId run.stores.prepared request.paymentId = none ∧
      outcome.watchId = some ⟨"watch_" ++ request.paymentId.value⟩
  failure : outcome.broadcastOutcome.isSuccess = false →
    run.stores.prepared = stores.prepared ∧ outcome.watchId = none

theorem admitted_gated {rawTxBytes : List UInt8} {settlement : PreparedSettlement}
    (h : admitSettlement world.parseTransactionExpiryHeight request jkt
      (faults.find b stores request.paymentId) = .ok (settlement, rawTxBytes)) :
    ∃ prepared, settlement = prepared.settlement request.paymentId ∧
      Gated b world request jkt stores rawTxBytes prepared := by
  obtain ⟨prepared, hfound, hjkt, hsettlement, hbytes, hexpiry⟩ := admit_settlement_ok h
  rw [hfound] at h
  exact ⟨prepared, hsettlement, (store_find_eq_ok.1 hfound).2, hjkt,
    admit_settlement_memo_version h, hbytes, hexpiry⟩

/-- A call submits at most once, what the hex denotes, and only past its gates. -/
theorem submit_settlement_gated (b : PreparedTxBackend σ) (faults : StoreFaults)
    (world : SettleWorld) (request : SettleRequest) (jkt : String) (stores : Stores σ) :
    let run := submitSettlement b faults world request jkt stores
    run.submitted = [] ∨
      ∃ rawTxBytes prepared, run.submitted = [rawTxBytes] ∧
        Gated b world request jkt stores rawTxBytes prepared := by
  intro run
  rcases submit_settlement_cases b faults world request jkt stores with
    ⟨err, hrun⟩ | ⟨settlement, rawTxBytes, hadmitted, hafter⟩
  · exact .inl (congrArg SubmitRun.submitted hrun)
  · obtain ⟨prepared, -, hgated⟩ := admitted_gated hadmitted
    refine .inr ⟨rawTxBytes, prepared, ?_, hgated⟩
    rcases hafter with ⟨reason, -, hrun⟩ | ⟨submitOutcome, -, hrun⟩
    · exact congrArg SubmitRun.submitted hrun
    · exact congrArg SubmitRun.submitted hrun

/-- An error leaves the stores alone, or is the one of a store call that failed after the
transaction was submitted and the submitter had answered. -/
theorem submit_settlement_error {err : SettleError}
    (h : (submitSettlement b faults world request jkt stores).answer = .error err) :
    let run := submitSettlement b faults world request jkt stores
    run.stores = stores ∨
      ∃ rawTxBytes prepared submitOutcome failed, run.submitted = [rawTxBytes] ∧
        Gated b world request jkt stores rawTxBytes prepared ∧
        world.submit rawTxBytes = .ok submitOutcome ∧ err = .storage failed ∧
        FailedWrite b faults (prepared.settlement request.paymentId)
          (.fromSubmitOutcome submitOutcome) (currentUnixSeconds world.nowUnixSeconds) stores
          failed run.stores := by
  intro run
  rcases submit_settlement_cases b faults world request jkt stores with
    ⟨err, hrun⟩ | ⟨settlement, rawTxBytes, hadmitted, ⟨reason, -, hrun⟩ |
      ⟨submitOutcome, hsubmit, hrun⟩⟩
  · exact .inl (congrArg SubmitRun.stores hrun)
  · exact .inl (congrArg SubmitRun.stores hrun)
  · obtain ⟨prepared, rfl, hgated⟩ := admitted_gated hadmitted
    rw [hrun, map_eq_error, mapError_eq_error] at h
    obtain ⟨failed, hfailed, rfl⟩ := h
    refine .inr ⟨rawTxBytes, prepared, submitOutcome, failed,
      congrArg SubmitRun.submitted hrun, hgated, hsubmit, rfl, ?_⟩
    rw [show run.stores = _ from congrArg SubmitRun.stores hrun]
    exact write_settlement_error hfailed

/-- An answered call has written the entry, and removed the prepared row if the outcome is
a success. -/
theorem submit_settlement_ok (lawful : b.Lawful) {outcome : SettlementOutcome}
    (h : (submitSettlement b faults world request jkt stores).answer = .ok outcome) :
    ∃ rawTxBytes prepared submitOutcome, Settles b world request stores
      (submitSettlement b faults world request jkt stores) outcome rawTxBytes prepared
      submitOutcome := by
  rcases submit_settlement_cases b faults world request jkt stores with
    ⟨err, hrun⟩ | ⟨settlement, rawTxBytes, hadmitted, ⟨reason, -, hrun⟩ |
      ⟨submitOutcome, hsubmit, hrun⟩⟩
  · rw [hrun] at h
    exact absurd h (by simp)
  · rw [hrun] at h
    exact absurd h (by simp)
  · obtain ⟨prepared, rfl, hgated⟩ := admitted_gated hadmitted
    rw [hrun] at h ⊢
    obtain ⟨_, hwritten, rfl⟩ := map_eq_ok.1 h
    rw [mapError_eq_ok] at hwritten
    obtain ⟨hledger, hsuccess, hfailure⟩ := write_settlement_ok lawful hwritten
    refine ⟨rawTxBytes, prepared, submitOutcome, rfl, hgated.found, hsubmit, rfl, rfl, hledger,
      fun hkind => ⟨hsuccess hkind, if_pos hkind⟩, fun hkind => ⟨hfailure hkind, ?_⟩⟩
    have hno : (BroadcastOutcome.fromSubmitOutcome submitOutcome).isSuccess = false := hkind
    exact if_neg (by rw [hno]; decide)

/-- No call touches the rows of another payment. -/
theorem submit_settlement_frame (lawful : b.Lawful) :
    SameElsewhere b request.paymentId stores
      (submitSettlement b faults world request jkt stores).stores := by
  rcases submit_settlement_cases b faults world request jkt stores with
    ⟨err, hrun⟩ | ⟨settlement, rawTxBytes, hadmitted, ⟨reason, -, hrun⟩ |
      ⟨submitOutcome, -, hrun⟩⟩
  · rw [hrun]
    exact same_elsewhere_refl _ _
  · rw [hrun]
    exact same_elsewhere_refl _ _
  · obtain ⟨prepared, rfl, -⟩ := admitted_gated hadmitted
    rw [hrun]
    exact write_settlement_frame lawful faults (prepared.settlement request.paymentId)
      (.fromSubmitOutcome submitOutcome) (currentUnixSeconds world.nowUnixSeconds) stores

/-- A settle call submits at most once, what the hex denotes, and only past its gates; an
error leaves the stores alone unless a store call that followed the broadcast failed; a
success has written the entry and removed the prepared row; a recorded failure has written
the entry and left the prepared row; and no other payment is touched. -/
theorem submit_settlement_spec (b : PreparedTxBackend σ) (lawful : b.Lawful)
    (faults : StoreFaults) (world : SettleWorld) (request : SettleRequest) (jkt : String)
    (stores : Stores σ) :
    let run := submitSettlement b faults world request jkt stores
    (run.submitted = [] ∨
      ∃ rawTxBytes prepared, run.submitted = [rawTxBytes] ∧
        Gated b world request jkt stores rawTxBytes prepared) ∧
    (∀ err, run.answer = .error err → run.stores = stores ∨
      ∃ rawTxBytes prepared submitOutcome failed, run.submitted = [rawTxBytes] ∧
        Gated b world request jkt stores rawTxBytes prepared ∧
        world.submit rawTxBytes = .ok submitOutcome ∧ err = .storage failed ∧
        FailedWrite b faults (prepared.settlement request.paymentId)
          (.fromSubmitOutcome submitOutcome) (currentUnixSeconds world.nowUnixSeconds) stores
          failed run.stores) ∧
    (∀ outcome, run.answer = .ok outcome →
      ∃ rawTxBytes prepared submitOutcome,
        Settles b world request stores run outcome rawTxBytes prepared submitOutcome) ∧
    SameElsewhere b request.paymentId stores run.stores :=
  ⟨submit_settlement_gated b faults world request jkt stores,
    fun _ h => submit_settlement_error h, fun _ h => submit_settlement_ok lawful h,
    submit_settlement_frame lawful⟩

end Spec

/-! ### One settle call, accepted and rejected -/

def noFaults : StoreFaults where
  read := none
  record := .none
  recordError := .integrityViolation ""
  remove := .none
  removeError := .integrityViolation ""

/-- A prepared payment of five zatoshis. -/
def settleSample : PreparedTxEntry where
  preparation :=
    { paymentId := ⟨"pay_1"⟩
      paymentUri := composePaymentUri "utest1q" 5 [0xff, 0x02]
      memoBytes := [0xff, 0x02]
      expiryHeight := 4047100
      amountZat := 5 }
  payeeId := ⟨"merchant"⟩
  network := .testnet
  recipientUnifiedAddress := "utest1q"
  amountZat := 5
  expiresAtUnixSeconds := 1000
  idempotencyKey := none
  agentDpopJkt := "jkt"

def settleSampleStores : Stores PreparedTxStore where
  prepared := ((libsqlPrepared sampleSqlTexts).insert ∅ settleSample).2
  ledger := ∅

def settleSampleRequest : SettleRequest where
  paymentId := ⟨"pay_1"⟩
  rawTxHex := "05"

/-- A chain plane with one answer, to transactions that carry the prepared height. -/
def settleSampleWorld (submitOutcome : SubmitOutcome) : SettleWorld where
  nowUnixSeconds := 100
  parseTransactionExpiryHeight := fun _ => .ok 4047100
  submit := fun _ => .ok submitOutcome

def settleSampleRun (submitOutcome : SubmitOutcome) : SubmitRun PreparedTxStore :=
  submitSettlement (libsqlPrepared sampleSqlTexts) noFaults (settleSampleWorld submitOutcome)
    settleSampleRequest "jkt" settleSampleStores

/-- An accepted transaction removes the prepared row, and a rejected one keeps it. -/
theorem submit_settlement_spec_sample :
    (∃ outcome, (settleSampleRun (.accepted "ab")).answer = .ok outcome ∧
      outcome.broadcastOutcome = .accepted "ab" ∧ outcome.watchId = some ⟨"watch_pay_1"⟩ ∧
      (libsqlPrepared sampleSqlTexts).findByPaymentId
        (settleSampleRun (.accepted "ab")).stores.prepared ⟨"pay_1"⟩ = none) ∧
    ∃ outcome, (settleSampleRun (.rejected .invalidEncoding "bad length")).answer =
        .ok outcome ∧
      outcome.broadcastOutcome = .invalidEncoding "bad length" ∧ outcome.watchId = none ∧
      (settleSampleRun (.rejected .invalidEncoding "bad length")).stores.prepared =
        settleSampleStores.prepared := by
  have haccepted := submit_settlement_spec (libsqlPrepared sampleSqlTexts)
    (libsqlLawful sampleSqlTexts) noFaults (settleSampleWorld (.accepted "ab"))
    settleSampleRequest "jkt" settleSampleStores
  have hrejected := submit_settlement_spec (libsqlPrepared sampleSqlTexts)
    (libsqlLawful sampleSqlTexts) noFaults
    (settleSampleWorld (.rejected .invalidEncoding "bad length")) settleSampleRequest "jkt"
    settleSampleStores
  refine ⟨⟨_, rfl, rfl, ?_⟩, ⟨_, rfl, rfl, ?_⟩⟩
  · obtain ⟨rawTxBytes, prepared, submitOutcome, hsettles⟩ := haccepted.2.2.1 _ rfl
    obtain ⟨hgone, hwatch⟩ := hsettles.success rfl
    exact ⟨hwatch, hgone⟩
  · obtain ⟨rawTxBytes, prepared, submitOutcome, hsettles⟩ := hrejected.2.2.1 _ rfl
    obtain ⟨hkept, hnowatch⟩ := hsettles.failure rfl
    exact ⟨hnowatch, hkept⟩

end Zpay.Core
