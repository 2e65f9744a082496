import Zpay.Lifecycle.Facilitator
import Zpay.X402.Binding

/-!
# Settle calls nobody interrupts

A settle call of the machine whose four steps follow one another is the call on its own:
it leaves in the stores what `submit_settlement`, or the x402 handler, leaves there.

## Main results

* `settle_undisturbed`, `x402_settle_undisturbed` — the two routes.
-/

open Zpay.Data Zpay.Core Zpay.X402 Zpay.Machine

namespace Zpay.Lifecycle

variable {C A V : Type} {d : Deployment C A V} {s : State} {c : CallId} {texts : SqlTexts}

/-- The two stores of a state. -/
def State.stores (s : State) : Stores PreparedTxStore where
  prepared := s.prepared
  ledger := s.ledger

/-- The steps of one settle call, in order. -/
def settleSteps (c : CallId) (request : Request) (faults : StoreFaults)
    (answer : Except String SubmitOutcome) : List Event :=
  [.start c request faults.read, .answer c answer, .record c faults.record,
    .remove c faults.remove]

theorem phase_setPhase {phase phase' : Phase} (h : s.phase c = some phase) :
    (s.setPhase c phase').phase c = some phase' := by
  obtain ⟨call, hcall, -⟩ := phase_eq_some.1 h
  exact phase_eq_some.2 ⟨_, lookup_calls_setPhase_self hcall, rfl⟩

/-- The gates read what the prepared store answers. -/
theorem find_stores (texts : SqlTexts) (s : State) (faults : StoreFaults) :
    s.find faults.read = faults.find (libsqlPrepared texts) s.stores := by
  funext paymentId
  unfold State.find StoreFaults.find
  cases faults.read <;> rfl

/-- A call that has ended makes no write. -/
theorem record_remove_finished (h : s.phase c = some .finished) (recordFault removeFault : Fault) :
    (s.recordCall c recordFault).removeCall c removeFault = s := by
  have hrecord : s.recordCall c recordFault = s := by
    unfold State.recordCall
    rw [h]
  rw [hrecord]
  unfold State.removeCall
  rw [h]

theorem answer_call_finished (h : s.phase c = some .finished)
    (answer : Except String SubmitOutcome) : s.answerCall c answer = s := by
  unfold State.answerCall
  rw [h]

theorem start_stores (request : Request) (readFault : Option StoreError) :
    (s.startCall d c request readFault).stores = s.stores := by
  rw [startCall_frame]
  rfl

theorem phase_start (hfresh : s.calls.lookup c = none) (request : Request)
    (readFault : Option StoreError) :
    (s.startCall d c request readFault).phase c =
      some (opening d s c.caller request readFault) := by
  unfold State.startCall
  rw [hfresh]
  exact phase_eq_some.2 ⟨_, AList.lookup_insert _, rfl⟩

/-- The ledger write, and whether the removal is next. -/
theorem record_call_recording {settlement : PreparedSettlement} {outcome : BroadcastOutcome}
    (h : s.phase c = some (.recording settlement outcome)) (faults : StoreFaults) :
    s.recordCall c faults.record =
      State.setPhase
        { s with
          ledger := (faults.recordEntry s.ledger settlement.paymentId
            (settlement.ledgerEntry outcome s.now)).2 }
        c (if faults.record = .none ∧ outcome.isSuccess = true then .removing settlement
          else .finished) := by
  unfold State.recordCall StoreFaults.recordEntry
  rw [h]
  cases faults.record <;> rfl

theorem remove_call_removing {settlement : PreparedSettlement}
    (h : s.phase c = some (.removing settlement)) (faults : StoreFaults) :
    (s.removeCall c faults.remove).stores =
      { prepared := (faults.removeRow (libsqlPrepared texts) s.prepared settlement.paymentId).2
        ledger := s.ledger } := by
  unfold State.removeCall StoreFaults.removeRow
  rw [h]
  cases faults.remove <;> rfl

theorem remove_call_finished (h : s.phase c = some .finished) (removeFault : Fault) :
    s.removeCall c removeFault = s := by
  unfold State.removeCall
  rw [h]

/-- The last two steps are the two writes. -/
theorem record_remove {settlement : PreparedSettlement} {outcome : BroadcastOutcome}
    (h : s.phase c = some (.recording settlement outcome)) (faults : StoreFaults) :
    ((s.recordCall c faults.record).removeCall c faults.remove).stores =
      (writeSettlement (libsqlPrepared texts) faults settlement outcome s.now s.stores).2 := by
  have hrecord := record_call_recording h faults
  have hphase : ∀ ledger phase, (State.setPhase { s with ledger } c phase).phase c = some phase :=
    fun ledger phase => phase_setPhase (s := { s with ledger }) h
  rcases write_settlement_cases (b := libsqlPrepared texts) faults settlement outcome s.now
    s.stores with
    ⟨err, hfailed, heq⟩ | ⟨hmade, ⟨err, hsuccess, -, heq⟩ | ⟨row, hsuccess, -, heq⟩ |
      ⟨hfailure, heq⟩⟩
  · rw [if_neg fun hnext => (record_entry_error faults hfailed).1 hnext.1] at hrecord
    rw [heq, hrecord, remove_call_finished (hphase _ _)]
    rfl
  · rw [if_pos ⟨(Fault.apply_eq_ok.1 hmade).1, hsuccess⟩] at hrecord
    rw [heq, hrecord, remove_call_removing (hphase _ _)]
    rfl
  · rw [if_pos ⟨(Fault.apply_eq_ok.1 hmade).1, hsuccess⟩] at hrecord
    rw [heq, hrecord, remove_call_removing (hphase _ _)]
    rfl
  · rw [if_neg fun hnext => absurd hnext.2 (by rw [hfailure]; decide)] at hrecord
    rw [heq, hrecord, remove_call_finished (hphase _ _)]
    rfl

/-- From the submitter on: an error ends the call, an outcome is written. -/
theorem answer_record_remove {settlement : PreparedSettlement} {rawTxBytes : List UInt8}
    (h : s.phase c = some (.submitting settlement rawTxBytes)) (faults : StoreFaults)
    (answer : Except String SubmitOutcome) :
    (((s.answerCall c answer).recordCall c faults.record).removeCall c faults.remove).stores =
      match answer with
      | .error _ => s.stores
      | .ok outcome => (writeSettlement (libsqlPrepared texts) faults settlement
          (.fromSubmitOutcome outcome) s.now s.stores).2 := by
  cases answer with
  | error reason =>
      have hanswer : s.answerCall c (.error reason) = s.setPhase c .finished := by
        unfold State.answerCall
        rw [h]
      rw [hanswer, record_remove_finished (phase_setPhase h)]
      rfl
  | ok outcome =>
      have hanswer : s.answerCall c (.ok outcome) =
          s.setPhase c (.recording settlement (.fromSubmitOutcome outcome)) := by
        unfold State.answerCall
        rw [h]
      rw [hanswer, record_remove (phase_setPhase h)]
      rfl

/-! ## Whole calls -/

section Run

variable {request : Request} {faults : StoreFaults}

/-- A call that ends where it starts leaves the stores as they were. -/
theorem run_finished (hfresh : s.calls.lookup c = none)
    (hopening : opening d s c.caller request faults.read = .finished)
    (answer : Except String SubmitOutcome) :
    (run (step d) s (settleSteps c request faults answer)).stores = s.stores := by
  have hphase : (s.startCall d c request faults.read).phase c = some .finished := by
    rw [phase_start hfresh, hopening]
  show ((((s.startCall d c request faults.read).answerCall c answer).recordCall c
    faults.record).removeCall c faults.remove).stores = _
  rw [answer_call_finished hphase, record_remove_finished hphase, start_stores]

/-- One that asks the submitter writes down what it is told. -/
theorem run_submitting (hfresh : s.calls.lookup c = none) {settlement : PreparedSettlement}
    {rawTxBytes : List UInt8}
    (hopening : opening d s c.caller request faults.read = .submitting settlement rawTxBytes)
    (answer : Except String SubmitOutcome) :
    (run (step d) s (settleSteps c request faults answer)).stores =
      match answer with
      | .error _ => s.stores
      | .ok outcome => (writeSettlement (libsqlPrepared texts) faults settlement
          (.fromSubmitOutcome outcome) s.now s.stores).2 := by
  have hphase : (s.startCall d c request faults.read).phase c =
      some (.submitting settlement rawTxBytes) := by
    rw [phase_start hfresh, hopening]
  have hclock : (s.startCall d c request faults.read).now = s.now := by
    rw [startCall_frame]
  show ((((s.startCall d c request faults.read).answerCall c answer).recordCall c
    faults.record).removeCall c faults.remove).stores = _
  rw [answer_record_remove hphase, start_stores, hclock]

end Run

/-! ## The two routes -/

theorem current_unix_seconds_of_lt {now : Nat} (hnow : now < 2 ^ 63) :
    currentUnixSeconds now = now := by
  unfold currentUnixSeconds
  omega

/-- A native settle call that nobody interrupts is `submit_settlement`. -/
theorem settle_undisturbed (d : Deployment C A V) {request : SettleRequest} {jkt : String}
    (hcaller : c.caller = some jkt) (hfresh : s.calls.lookup c = none) (hnow : s.now < 2 ^ 63)
    (faults : StoreFaults) (answer : Except String SubmitOutcome) :
    (run (step d) s (settleSteps c (.settle request) faults answer)).stores =
      (submitSettlement (libsqlPrepared d.sqlTexts) faults
        { nowUnixSeconds := s.now
          parseTransactionExpiryHeight := d.parseTransactionExpiryHeight
          submit := fun _ => answer } request jkt s.stores).stores := by
  unfold submitSettlement
  cases hadmitted : admitSettlement d.parseTransactionExpiryHeight request jkt
      (faults.find (libsqlPrepared d.sqlTexts) s.stores request.paymentId) with
  | error err =>
      have hopening : opening d s c.caller (.settle request) faults.read = .finished := by
        simp only [opening, hcaller, find_stores d.sqlTexts, hadmitted]
      rw [run_finished hfresh hopening]
  | ok admitted =>
      obtain ⟨settlement, rawTxBytes⟩ := admitted
      have hopening : opening d s c.caller (.settle request) faults.read =
          .submitting settlement rawTxBytes := by
        simp only [opening, hcaller, find_stores d.sqlTexts, hadmitted]
      rw [run_submitting hfresh hopening]
      cases answer with
      | error reason => rfl
      | ok outcome =>
          simp only [current_unix_seconds_of_lt hnow]
          cases writeSettlement (libsqlPrepared d.sqlTexts) faults settlement
              (.fromSubmitOutcome outcome) s.now s.stores with
          | mk written stores => cases written <;> rfl

/-- An x402 settle call that nobody interrupts is the handler. -/
theorem x402_settle_undisturbed (d : Deployment C A V) {request : FacilitatorRequest}
    (hcaller : c.caller = none) (hfresh : s.calls.lookup c = none) (hnow : s.now < 2 ^ 63)
    (faults : StoreFaults) (answer : Except String SubmitOutcome) :
    (run (step d) s (settleSteps c (.x402Settle request) faults answer)).stores =
      (x402SettleRun d.library (libsqlPrepared d.sqlTexts) faults
        { nowUnixSeconds := s.now
          chainNetwork := d.chainNetwork
          submit := fun _ => answer } request s.stores).stores := by
  unfold x402SettleRun
  cases hgates : x402SettleGates d.library
      (faults.find (libsqlPrepared d.sqlTexts) s.stores) request with
  | error reason =>
      have hopening : opening d s c.caller (.x402Settle request) faults.read = .finished := by
        simp only [opening, hcaller, find_stores d.sqlTexts, hgates]
      rw [run_finished hfresh hopening]
  | ok passed =>
      obtain ⟨settlement, prepared, verified⟩ := passed
      by_cases hnetwork : d.chainNetwork = zallyNetworkFor settlement.network
      · simp only [broadcastVerifiedPcztSettlement, hnetwork, ne_eq, not_true_eq_false, if_false]
        cases prepared with
        | none =>
            have hopening : opening d s c.caller (.x402Settle request) faults.read =
                .finished := by
              simp only [opening, hcaller, find_stores d.sqlTexts, hgates]
            rw [run_finished hfresh hopening]
            cases answer <;> rfl
        | some row =>
            have hopening : opening d s c.caller (.x402Settle request) faults.read =
                .submitting row verified.rawTxBytes := by
              simp only [opening, hcaller, find_stores d.sqlTexts, hgates, hnetwork, if_true]
            rw [run_submitting hfresh hopening]
            cases answer with
            | error reason => rfl
            | ok outcome =>
                simp only [recordLifecycle, current_unix_seconds_of_lt hnow]
                rfl
      · have hopening : opening d s c.caller (.x402Settle request) faults.read = .finished := by
          cases prepared with
          | none => simp only [opening, hcaller, find_stores d.sqlTexts, hgates]
          | some row =>
              simp only [opening, hcaller, find_stores d.sqlTexts, hgates, hnetwork, if_false]
        simp only [broadcastVerifiedPcztSettlement, hnetwork, ne_eq, not_false_eq_true, if_true]
        rw [run_finished hfresh hopening]

end Zpay.Lifecycle
