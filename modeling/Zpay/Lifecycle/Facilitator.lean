import Zpay.Machine.Run
import Zpay.X402.Handlers

/-!
# The facilitator as a machine

Requests of any number of callers run against the prepared store, the ledger and
the cached chain view, one store access or network answer at a time.  An event
is one such step; it carries what the environment decides: who calls with what,
what the chain answers, whether a store call fails and how, when a client goes
away, when the process crashes.  The background writers (confirmation poll,
reorg downgrades, view refreshes, sweeper) are events with arbitrary contents.

Payment ids are fresh: the id a prepare call generates is an injective function
of the call.  The rows ever prepared are kept as history, under `issued`.

## Main results

* `ledger_step`, `prepared_step`, `call_step` — everything an event can do to a
  payment's ledger row, to its prepared row, and to a call.
-/

open Zpay.Data Zpay.Core Zpay.X402 Zpay.Machine

namespace Zpay.Lifecycle

/-! ## Calls -/

/-- A request to the service; `caller` is the verified proof-of-possession
thumbprint, which the x402 routes do not ask for. -/
structure CallId where
  caller : Option String
  number : Nat
  deriving DecidableEq, Repr

inductive Request
  | prepare (request : PrepareRequest)
  | settle (request : SettleRequest)
  | x402Settle (request : FacilitatorRequest)
  deriving DecidableEq

/-- Where a call is suspended. -/
inductive Phase
  | awaitingTip (request : PrepareRequest)
  | submitting (settlement : PreparedSettlement) (rawTxBytes : List UInt8)
  | recording (settlement : PreparedSettlement) (outcome : BroadcastOutcome)
  | removing (settlement : PreparedSettlement)
  | finished
  deriving DecidableEq

/-- The settlement a suspended settle call is about. -/
def Phase.settlement : Phase → Option PreparedSettlement
  | .submitting settlement _ | .recording settlement _ | .removing settlement => some settlement
  | .awaitingTip _ | .finished => none

structure Call where
  request : Request
  phase : Phase
  deriving DecidableEq

/-! ## Configuration and state -/

/-- What the process is built with. -/
structure Deployment (C A V : Type) where
  sha256 : List UInt8 → List UInt8
  registry : PayeeRegistry
  sqlTexts : SqlTexts
  parseTransactionExpiryHeight : List UInt8 → Except String UInt32
  library : PcztLibrary C A V
  chainNetwork : Network
  finalityDepth : UInt32
  newPaymentId : CallId → PaymentId
  newPaymentId_injective : Function.Injective newPaymentId

structure State where
  now : Nat
  prepared : PreparedTxStore
  ledger : SettlementLedger
  chainStatus : ChainStatusCache
  calls : Table CallId Call
  issued : PreparedTxStore

/-- An empty service at some time. -/
def State.initial (now : Nat) : State where
  now := now
  prepared := ∅
  ledger := ∅
  chainStatus := .new
  calls := ∅
  issued := ∅

def State.setPhase (s : State) (c : CallId) (phase : Phase) : State :=
  { s with calls := Table.modify s.calls c fun call => { call with phase } }

/-- Where a call is suspended, once it has started. -/
def State.phase (s : State) (c : CallId) : Option Phase := (s.calls.lookup c).map Call.phase

/-- A lookup whose view, ledger and prepared reads were made in these states. -/
def lookupAcross {C A V : Type} (d : Deployment C A V) (paymentId : PaymentId)
    (atView atLedger atPrepared : State) : PaymentStatusSnapshot :=
  lookupPaymentStatus paymentId atPrepared.prepared atLedger.ledger d.finalityDepth
    atView.chainStatus.load atPrepared.now

/-- A lookup that loads its two tips in two states is one that loads both in one of them. -/
theorem lookup_across_mixed {C A V : Type} (d : Deployment C A V) (paymentId : PaymentId)
    (atVisible atSettled atLedger atPrepared : State) :
    lookupPaymentStatus paymentId atPrepared.prepared atLedger.ledger d.finalityDepth
        (atVisible.chainStatus.load.mixed atSettled.chainStatus.load) atPrepared.now ∈
      [lookupAcross d paymentId atVisible atLedger atPrepared,
        lookupAcross d paymentId atSettled atLedger atPrepared] := by
  rw [List.mem_pair]
  exact lookup_mixed_view _ _

/-! ## Events -/

inductive Event
  | tick (seconds : Nat)
  | start (c : CallId) (request : Request) (readFault : Option StoreError)
  | tip (c : CallId) (tip : Except TipError UInt32) (fault : Fault)
  | answer (c : CallId) (answer : Except String SubmitOutcome)
  | record (c : CallId) (fault : Fault)
  | remove (c : CallId) (fault : Fault)
  | drop (c : CallId)
  | crash
  | sweep
  | recordConfirmation (paymentId : PaymentId) (confirmationCount : UInt32)
      (minedBlockHeight : Option Nat)
  | downgradeOnReorg (paymentId : PaymentId)
  | downgradeReorgedRange (revertedStartHeight revertedEndHeight : Nat)
  | storeView (visibleTipHeight settledTipHeight : Nat)

/-- The call a step belongs to; a step of a background task belongs to none. -/
def Event.callId : Event → Option CallId
  | .start c _ _ | .tip c _ _ | .answer c _ | .record c _ | .remove c _ | .drop c => some c
  | .tick _ | .crash | .sweep | .recordConfirmation .. | .downgradeOnReorg _
  | .downgradeReorgedRange .. | .storeView .. => none

/-- The steps of the requests, as opposed to those of the background tasks. -/
def Event.ofCall (e : Event) : Bool := e.callId.isSome

section Step

variable {C A V : Type} (d : Deployment C A V)

/-- What a store read answers. -/
def State.find (s : State) (readFault : Option StoreError) : PreparedLookup := fun paymentId =>
  match readFault with
  | some err => .error err
  | none => .ok (s.prepared.findByPaymentId paymentId)

/-- The first part of a call: its gates, up to where it waits for the chain.
An x402 call that names no payment touches no store and ends here. -/
def opening (s : State) (caller : Option String) (request : Request)
    (readFault : Option StoreError) : Phase :=
  match request, caller with
  | .prepare request, some jkt =>
      if readFault.isSome && (usableKey request).isSome then .finished
      else if (proposeReplay s.prepared request jkt).isSome then .finished
      else .awaitingTip request
  | .settle request, some jkt =>
      match admitSettlement d.parseTransactionExpiryHeight request jkt
        (s.find readFault request.paymentId) with
      | .ok (settlement, rawTxBytes) => .submitting settlement rawTxBytes
      | .error _ => .finished
  | .x402Settle request, none =>
      match x402SettleGates d.library (s.find readFault) request with
      | .ok (settlementRequest, some settlement, verified) =>
          if d.chainNetwork = zallyNetworkFor settlementRequest.network then
            .submitting settlement verified.rawTxBytes
          else .finished
      | .ok (_, none, _) | .error _ => .finished
  | _, _ => .finished

def State.startCall (s : State) (c : CallId) (request : Request)
    (readFault : Option StoreError) : State :=
  match s.calls.lookup c with
  | some _ => s
  | none =>
      { s with
        calls := AList.insert c { request, phase := opening d s c.caller request readFault }
          s.calls }

/-- The second part of a prepare call. -/
def State.insertPrepared (s : State) (c : CallId) (request : PrepareRequest)
    (tip : Except TipError UInt32) (fault : Fault) : State :=
  match composeEntry d.sha256 d.registry request (c.caller.getD "") (d.newPaymentId c) tip
    (.ofNat s.now) with
  | .error _ => s
  | .ok entry =>
      match fault, PreparedTxStore.insert d.sqlTexts s.prepared entry with
      | .lost, _ | _, (.error _, _) => s
      | _, (.ok (), prepared) =>
          { s with prepared, issued := AList.insert (d.newPaymentId c) entry.toRow s.issued }

def State.tipCall (s : State) (c : CallId) (tip : Except TipError UInt32) (fault : Fault) :
    State :=
  match s.phase c with
  | some (.awaitingTip request) => (s.insertPrepared d c request tip fault).setPhase c .finished
  | _ => s

def State.answerCall (s : State) (c : CallId) (answer : Except String SubmitOutcome) : State :=
  match s.phase c with
  | some (.submitting settlement _) =>
      s.setPhase c
        (match answer with
          | .ok outcome => .recording settlement (.fromSubmitOutcome outcome)
          | .error _ => .finished)
  | _ => s

/-- The ledger write of a settle call; a success goes on to the removal. -/
def State.recordCall (s : State) (c : CallId) (fault : Fault) : State :=
  match s.phase c with
  | some (.recording settlement outcome) =>
      State.setPhase
        { s with
          ledger :=
            if fault = .lost then s.ledger
            else s.ledger.record settlement.paymentId (settlement.ledgerEntry outcome s.now) }
        c (if fault = .none ∧ outcome.isSuccess = true then .removing settlement else .finished)
  | _ => s

def State.removeCall (s : State) (c : CallId) (fault : Fault) : State :=
  match s.phase c with
  | some (.removing settlement) =>
      State.setPhase
        { s with
          prepared :=
            if fault = .lost then s.prepared
            else (PreparedTxStore.remove s.prepared settlement.paymentId).2 }
        c .finished
  | _ => s

/-- The stores survive a restart; the calls and the cached view do not. -/
def State.restart (s : State) : State :=
  { s with
    calls := Table.mapRows s.calls fun _ call => { call with phase := .finished }
    chainStatus := .new }

def step (s : State) : Event → State
  | .tick seconds => { s with now := s.now + seconds }
  | .start c request readFault => s.startCall d c request readFault
  | .tip c tip fault => s.tipCall d c tip fault
  | .answer c answer => s.answerCall c answer
  | .record c fault => s.recordCall c fault
  | .remove c fault => s.removeCall c fault
  | .drop c => s.setPhase c .finished
  | .crash => s.restart
  | .sweep => { s with prepared := PreparedTxStore.sweepExpired s.prepared s.now }
  | .recordConfirmation paymentId confirmationCount minedBlockHeight =>
      { s with
        ledger := s.ledger.recordConfirmation paymentId confirmationCount minedBlockHeight }
  | .downgradeOnReorg paymentId =>
      { s with ledger := s.ledger.downgradeOnReorg paymentId s.now }
  | .downgradeReorgedRange revertedStartHeight revertedEndHeight =>
      { s with
        ledger := s.ledger.downgradeReorgedRange revertedStartHeight revertedEndHeight s.now }
  | .storeView visibleTipHeight settledTipHeight =>
      { s with chainStatus := s.chainStatus.store visibleTipHeight settledTipHeight }

end Step

/-! ## What an event can do -/

section Inversion

variable {C A V : Type} {d : Deployment C A V} {s : State} {c : CallId} {paymentId : PaymentId}

@[simp] theorem setPhase_now (phase : Phase) : (s.setPhase c phase).now = s.now := rfl

@[simp] theorem setPhase_prepared (phase : Phase) :
    (s.setPhase c phase).prepared = s.prepared := rfl

@[simp] theorem setPhase_ledger (phase : Phase) : (s.setPhase c phase).ledger = s.ledger := rfl

@[simp] theorem setPhase_chainStatus (phase : Phase) :
    (s.setPhase c phase).chainStatus = s.chainStatus := rfl

@[simp] theorem setPhase_issued (phase : Phase) : (s.setPhase c phase).issued = s.issued := rfl

theorem lookup_calls_setPhase {phase : Phase} {other : CallId} :
    (s.setPhase c phase).calls.lookup other =
      if other = c then (s.calls.lookup c).map fun call => { call with phase }
      else s.calls.lookup other :=
  Table.lookup_modify s.calls c other _

/-- A write of the reconciliation to a payment's row. -/
def Event.rewrite (now : Nat) (paymentId : PaymentId) :
    Event → SettlementLedgerEntry → SettlementLedgerEntry
  | .recordConfirmation other count height, entry =>
      if paymentId = other then entry.recordConfirmation count height else entry
  | .downgradeOnReorg other, entry =>
      if paymentId = other then entry.downgradeOnReorg now else entry
  | .downgradeReorgedRange startHeight endHeight, entry =>
      if entry.minedWithin startHeight endHeight then entry.downgradeOnReorg now else entry
  | _, entry => entry

/-- The reconciliation never touches an outcome or an expiry height. -/
theorem rewrite_keeps (now : Nat) (e : Event) (entry : SettlementLedgerEntry) :
    (e.rewrite now paymentId entry).broadcastOutcome = entry.broadcastOutcome ∧
      (e.rewrite now paymentId entry).expiryHeight = entry.expiryHeight := by
  cases e with
  | recordConfirmation other count height =>
      by_cases hid : paymentId = other
      · simp [Event.rewrite, hid]
      · simp [Event.rewrite, hid]
  | downgradeOnReorg other =>
      by_cases hid : paymentId = other
      · simp [Event.rewrite, hid]
      · simp [Event.rewrite, hid]
  | downgradeReorgedRange startHeight endHeight =>
      by_cases hwithin : entry.minedWithin startHeight endHeight = true
      · simp [Event.rewrite, hwithin]
      · simp [Event.rewrite, hwithin]
  | _ => exact ⟨rfl, rfl⟩

theorem rewrite_of_call {e : Event} (he : e.ofCall = true) (now : Nat) :
    e.rewrite now paymentId = id := by
  cases e with
  | start | tip | answer | record | remove | drop => rfl
  | _ => exact absurd he (by simp [Event.ofCall, Event.callId])

/-- The event writes this row for `paymentId` at the end of a settle call. -/
def Records (s : State) (paymentId : PaymentId) (e : Event) (entry : SettlementLedgerEntry) :
    Prop :=
  ∃ c fault settlement outcome, e = .record c fault ∧ fault ≠ .lost ∧
    s.phase c = some (.recording settlement outcome) ∧ settlement.paymentId = paymentId ∧
    entry = settlement.ledgerEntry outcome s.now

/-- Inserting a prepared row: nothing happens, or the row of the call's own id is
new in the store and in the history. -/
theorem insertPrepared_cases (d : Deployment C A V) (s : State) (c : CallId)
    (request : PrepareRequest) (tip : Except TipError UInt32) (fault : Fault) :
    s.insertPrepared d c request tip fault = s ∨
    ∃ entry, composeEntry d.sha256 d.registry request (c.caller.getD "") (d.newPaymentId c) tip
        (.ofNat s.now) = .ok entry ∧
      (PreparedTxStore.insert d.sqlTexts s.prepared entry).1 = .ok () ∧
      s.insertPrepared d c request tip fault =
        { s with
          prepared := (PreparedTxStore.insert d.sqlTexts s.prepared entry).2
          issued := AList.insert (d.newPaymentId c) entry.toRow s.issued } := by
  unfold State.insertPrepared
  split
  · exact .inl rfl
  · next entry hentry =>
      split
      · exact .inl rfl
      · exact .inl rfl
      · next prepared _ hinsert =>
          refine .inr ⟨entry, hentry, ?_, ?_⟩
          · rw [hinsert]
          · rw [hinsert]

theorem rewrite_of_row (e : Event) (hid : e.rewrite s.now paymentId = id) :
    (s.ledger.lookup paymentId).map (e.rewrite s.now paymentId) =
      s.ledger.lookup paymentId := by
  rw [hid, Option.map_id_fun, id_eq]

/-- What one record leaves under each payment id. -/
theorem ledger_record_call {fault : Fault} :
    (s.recordCall c fault).ledger.lookup paymentId = s.ledger.lookup paymentId ∨
    ∃ entry, Records s paymentId (.record c fault) entry ∧
      (s.recordCall c fault).ledger.lookup paymentId = some entry := by
  unfold State.recordCall
  split
  · next settlement outcome hphase =>
      by_cases hlost : fault = .lost
      · left
        simp [hlost]
      · by_cases hid : paymentId = settlement.paymentId
        · right
          refine ⟨_, ⟨c, fault, settlement, outcome, rfl, hlost, hphase, hid.symm, rfl⟩, ?_⟩
          simp [hlost, hid]
        · left
          simp [hlost, hid]
  · exact .inl rfl

theorem ledger_of_records {e : Event} {entry : SettlementLedgerEntry}
    (h : Records s paymentId e entry) :
    (step d s e).ledger.lookup paymentId = some entry := by
  obtain ⟨c, fault, settlement, outcome, rfl, hfault, hphase, rfl, rfl⟩ := h
  show (s.recordCall c fault).ledger.lookup settlement.paymentId = _
  unfold State.recordCall
  rw [hphase]
  simp [hfault]

/-! ### What each handler leaves alone -/

theorem startCall_frame {request : Request} {readFault : Option StoreError} :
    s.startCall d c request readFault =
      { s with calls := (s.startCall d c request readFault).calls } := by
  unfold State.startCall
  split <;> rfl

theorem tipCall_frame {tip : Except TipError UInt32} {fault : Fault} :
    s.tipCall d c tip fault =
      { s with
        prepared := (s.tipCall d c tip fault).prepared
        issued := (s.tipCall d c tip fault).issued
        calls := (s.tipCall d c tip fault).calls } := by
  unfold State.tipCall
  split
  · next request _ =>
      rcases insertPrepared_cases d s c request tip fault with heq | ⟨_, -, -, heq⟩
      · rw [heq]
        rfl
      · rw [heq]
        rfl
  · rfl

theorem answerCall_frame {answer : Except String SubmitOutcome} :
    s.answerCall c answer = { s with calls := (s.answerCall c answer).calls } := by
  unfold State.answerCall
  split <;> rfl

theorem recordCall_frame {fault : Fault} :
    s.recordCall c fault =
      { s with
        ledger := (s.recordCall c fault).ledger
        calls := (s.recordCall c fault).calls } := by
  unfold State.recordCall
  split <;> rfl

theorem removeCall_frame {fault : Fault} :
    s.removeCall c fault =
      { s with
        prepared := (s.removeCall c fault).prepared
        calls := (s.removeCall c fault).calls } := by
  unfold State.removeCall
  split <;> rfl

/-! ### Ledger rows -/

/-- A ledger row is written by a settle call's record, or rewritten by the
reconciliation. -/
theorem ledger_step (d : Deployment C A V) (s : State) (paymentId : PaymentId) (e : Event) :
    (∃ entry, Records s paymentId e entry ∧
      (step d s e).ledger.lookup paymentId = some entry) ∨
    (step d s e).ledger.lookup paymentId =
      (s.ledger.lookup paymentId).map (e.rewrite s.now paymentId) := by
  cases e with
  | record c fault =>
      rw [rewrite_of_row (.record c fault) rfl]
      exact (ledger_record_call (c := c)).symm
  | recordConfirmation other count height =>
      right
      show (s.ledger.recordConfirmation other count height).lookup paymentId = _
      rw [SettlementLedger.lookup_record_confirmation]
      by_cases hid : paymentId = other
      · subst hid
        rw [if_pos rfl]
        congr 1
        funext entry
        exact (if_pos rfl).symm
      · rw [if_neg hid, rewrite_of_row]
        funext entry
        exact if_neg hid
  | downgradeOnReorg other =>
      right
      show (s.ledger.downgradeOnReorg other s.now).lookup paymentId = _
      rw [SettlementLedger.lookup_downgrade_on_reorg]
      by_cases hid : paymentId = other
      · subst hid
        rw [if_pos rfl]
        congr 1
        funext entry
        exact (if_pos rfl).symm
      · rw [if_neg hid, rewrite_of_row]
        funext entry
        exact if_neg hid
  | downgradeReorgedRange startHeight endHeight =>
      right
      exact SettlementLedger.lookup_downgrade_reorged_range
  | start c request readFault =>
      right
      rw [rewrite_of_row (.start c request readFault) rfl]
      show (s.startCall d c request readFault).ledger.lookup paymentId = _
      rw [startCall_frame]
  | tip c tip fault =>
      right
      rw [rewrite_of_row (.tip c tip fault) rfl]
      show (s.tipCall d c tip fault).ledger.lookup paymentId = _
      rw [tipCall_frame]
  | answer c answer =>
      right
      rw [rewrite_of_row (.answer c answer) rfl]
      show (s.answerCall c answer).ledger.lookup paymentId = _
      rw [answerCall_frame]
  | remove c fault =>
      right
      rw [rewrite_of_row (.remove c fault) rfl]
      show (s.removeCall c fault).ledger.lookup paymentId = _
      rw [removeCall_frame]
  | tick seconds => exact .inr (rewrite_of_row (.tick seconds) rfl).symm
  | drop c => exact .inr (rewrite_of_row (.drop c) rfl).symm
  | crash => exact .inr (rewrite_of_row .crash rfl).symm
  | sweep => exact .inr (rewrite_of_row .sweep rfl).symm
  | storeView visible settled =>
      exact .inr (rewrite_of_row (.storeView visible settled) rfl).symm

/-! ### Prepared rows -/

/-- The event stores this row under a freshly generated id. -/
def Issues (d : Deployment C A V) (s : State) (paymentId : PaymentId) (e : Event)
    (row : PreparedTxRow) : Prop :=
  ∃ c tip fault request entry, e = .tip c tip fault ∧
    s.phase c = some (.awaitingTip request) ∧ paymentId = d.newPaymentId c ∧
    composeEntry d.sha256 d.registry request (c.caller.getD "") (d.newPaymentId c) tip
      (.ofNat s.now) = .ok entry ∧
    row = entry.toRow

/-- The event removes the row of `paymentId` at the end of a settle call. -/
def Removes (s : State) (paymentId : PaymentId) (e : Event) : Prop :=
  ∃ c fault settlement, e = .remove c fault ∧ fault ≠ .lost ∧
    s.phase c = some (.removing settlement) ∧ settlement.paymentId = paymentId

theorem prepared_of_removes {e : Event} (h : Removes s paymentId e) :
    (step d s e).prepared.lookup paymentId = none := by
  obtain ⟨c, fault, settlement, rfl, hfault, hphase, rfl⟩ := h
  show (s.removeCall c fault).prepared.lookup settlement.paymentId = none
  unfold State.removeCall
  rw [hphase]
  simp only [setPhase_prepared, if_neg hfault, lookup_remove_prepared, if_pos]

/-- What one prepare call leaves under each payment id. -/
theorem prepared_tip_call (d : Deployment C A V) (s : State) (c : CallId)
    (paymentId : PaymentId) (tip : Except TipError UInt32) (fault : Fault) :
    (∃ row, Issues d s paymentId (.tip c tip fault) row ∧
      s.prepared.conflicts paymentId row = false ∧
      (s.tipCall d c tip fault).prepared.lookup paymentId = some row ∧
      (s.tipCall d c tip fault).issued.lookup paymentId = some row) ∨
    ((s.tipCall d c tip fault).prepared.lookup paymentId = s.prepared.lookup paymentId ∧
      (s.tipCall d c tip fault).issued.lookup paymentId = s.issued.lookup paymentId) := by
  unfold State.tipCall
  split
  · next request hphase =>
      rcases insertPrepared_cases d s c request tip fault with heq | ⟨entry, hentry, hinsert, heq⟩
      · rw [heq]
        exact .inr ⟨rfl, rfl⟩
      · rw [heq]
        obtain ⟨hstore, hconflict⟩ := insert_prepared_ok hinsert
        have hid := (compose_entry_payment_id hentry).1
        rw [hid] at hstore hconflict
        simp only [setPhase_prepared, setPhase_issued, hstore]
        by_cases hown : paymentId = d.newPaymentId c
        · left
          subst hown
          exact ⟨entry.toRow, ⟨c, tip, fault, request, entry, rfl, hphase, rfl, hentry, rfl⟩,
            hconflict, AList.lookup_insert _, AList.lookup_insert _⟩
        · exact .inr ⟨AList.lookup_insert_ne hown, AList.lookup_insert_ne hown⟩
  · exact .inr ⟨rfl, rfl⟩

/-- What one removal leaves under each payment id. -/
theorem prepared_remove_call (s : State) (c : CallId) (paymentId : PaymentId) (fault : Fault) :
    (s.removeCall c fault).issued = s.issued ∧
    ((s.removeCall c fault).prepared.lookup paymentId = s.prepared.lookup paymentId ∨
      Removes s paymentId (.remove c fault) ∧
        (s.removeCall c fault).prepared.lookup paymentId = none) := by
  unfold State.removeCall
  split
  · next settlement hphase =>
      refine ⟨rfl, ?_⟩
      by_cases hlost : fault = .lost
      · left
        simp [hlost]
      · by_cases hid : paymentId = settlement.paymentId
        · right
          refine ⟨⟨c, fault, settlement, rfl, hlost, hphase, hid.symm⟩, ?_⟩
          simp only [setPhase_prepared, if_neg hlost, lookup_remove_prepared, if_pos hid]
        · left
          simp only [setPhase_prepared, if_neg hlost, lookup_remove_prepared, if_neg hid]
  · exact ⟨rfl, .inl rfl⟩

/-- A prepared row is issued by a prepare call, removed by a settle call, swept,
or left alone; the history of issued rows only grows. -/
theorem prepared_step (d : Deployment C A V) (s : State) (paymentId : PaymentId) (e : Event) :
    (∃ row, Issues d s paymentId e row ∧ s.prepared.conflicts paymentId row = false ∧
      (step d s e).prepared.lookup paymentId = some row ∧
      (step d s e).issued.lookup paymentId = some row) ∨
    ((step d s e).issued.lookup paymentId = s.issued.lookup paymentId ∧
      ((step d s e).prepared.lookup paymentId = s.prepared.lookup paymentId ∨
        Removes s paymentId e ∧ (step d s e).prepared.lookup paymentId = none ∨
        e = .sweep ∧ (step d s e).prepared.lookup paymentId =
          (s.prepared.lookup paymentId).filter
            fun row => decide (s.now < row.expiresAtUnixSeconds.toNat))) := by
  cases e with
  | tip c tip fault =>
      rcases prepared_tip_call d s c paymentId tip fault with hissues | ⟨hprepared, hissued⟩
      · exact .inl hissues
      · exact .inr ⟨hissued, .inl hprepared⟩
  | remove c fault =>
      obtain ⟨hissued, hprepared⟩ :=
        prepared_remove_call s c paymentId fault
      refine .inr ⟨congrArg _ hissued, ?_⟩
      rcases hprepared with hsame | hremoved
      · exact .inl hsame
      · exact .inr (.inl hremoved)
  | sweep => exact .inr ⟨rfl, .inr (.inr ⟨rfl, lookup_sweep_prepared⟩)⟩
  | start c request readFault =>
      right
      show (s.startCall d c request readFault).issued.lookup paymentId = _ ∧
        ((s.startCall d c request readFault).prepared.lookup paymentId = _ ∨ _)
      rw [startCall_frame]
      exact ⟨rfl, .inl rfl⟩
  | answer c answer =>
      right
      show (s.answerCall c answer).issued.lookup paymentId = _ ∧
        ((s.answerCall c answer).prepared.lookup paymentId = _ ∨ _)
      rw [answerCall_frame]
      exact ⟨rfl, .inl rfl⟩
  | record c fault =>
      right
      show (s.recordCall c fault).issued.lookup paymentId = _ ∧
        ((s.recordCall c fault).prepared.lookup paymentId = _ ∨ _)
      rw [recordCall_frame]
      exact ⟨rfl, .inl rfl⟩
  | _ => exact .inr ⟨rfl, .inl rfl⟩

/-! ### Calls and the clock -/

theorem lookup_calls_setPhase_self {phase : Phase} {call : Call}
    (h : s.calls.lookup c = some call) :
    (s.setPhase c phase).calls.lookup c = some { call with phase } := by
  rw [lookup_calls_setPhase, if_pos rfl, h]
  rfl

theorem phase_eq_some {phase : Phase} :
    s.phase c = some phase ↔ ∃ call, s.calls.lookup c = some call ∧ call.phase = phase :=
  Option.map_eq_some_iff

/-- The events that end a call in a given phase. -/
inductive Ends (c : CallId) : Event → Phase → Prop
  | tip {request tip fault} : Ends c (.tip c tip fault) (.awaitingTip request)
  | refused {settlement rawTxBytes reason} :
      Ends c (.answer c (.error reason)) (.submitting settlement rawTxBytes)
  | record {settlement outcome fault} (h : ¬ (fault = .none ∧ outcome.isSuccess = true)) :
      Ends c (.record c fault) (.recording settlement outcome)
  | remove {settlement fault} : Ends c (.remove c fault) (.removing settlement)
  | drop {phase} : Ends c (.drop c) phase
  | crash {phase} : Ends c .crash phase

/-- How an event moves a call. -/
inductive CallStep (d : Deployment C A V) (s : State) (c : CallId) :
    Event → Option Call → Option Call → Prop
  | same {e row} : CallStep d s c e row row
  | finish {e call} (hends : Ends c e call.phase) :
      CallStep d s c e (some call) (some { call with phase := .finished })
  | start {request readFault} :
      CallStep d s c (.start c request readFault) none
        (some { request, phase := opening d s c.caller request readFault })
  | answer {request settlement rawTxBytes outcome} :
      CallStep d s c (.answer c (.ok outcome))
        (some { request, phase := .submitting settlement rawTxBytes })
        (some { request, phase := .recording settlement (.fromSubmitOutcome outcome) })
  | record {request settlement outcome} (hsuccess : outcome.isSuccess = true) :
      CallStep d s c (.record c .none)
        (some { request, phase := .recording settlement outcome })
        (some { request, phase := .removing settlement })

/-- Setting a call's phase moves that call and no other. -/
theorem callStep_setPhase {t : State} {c' : CallId} {phase : Phase} {e : Event}
    (hcalls : t.calls = s.calls)
    (hown : ∀ call, c' = c → s.calls.lookup c = some call →
      CallStep d s c e (some call) (some { call with phase })) :
    CallStep d s c e (s.calls.lookup c) ((t.setPhase c' phase).calls.lookup c) := by
  rw [lookup_calls_setPhase, hcalls]
  by_cases hc : c = c'
  · subst hc
    rw [if_pos rfl]
    cases hcall : s.calls.lookup c with
    | none => exact .same
    | some call => exact hown call rfl hcall
  · rw [if_neg hc]
    exact .same

/-- The call an event is about, suspended in the phase the event waits for. -/
theorem call_of_phase {call : Call} {phase : Phase} (hphase : s.phase c = some phase)
    (hcall : s.calls.lookup c = some call) : call = { call with phase } := by
  obtain ⟨call', hcall', rfl⟩ := phase_eq_some.1 hphase
  rw [hcall, Option.some.injEq] at hcall'
  rw [hcall']

theorem callStep_tipCall {c' : CallId} {tip : Except TipError UInt32} {fault : Fault} :
    CallStep d s c (.tip c' tip fault) (s.calls.lookup c)
      ((s.tipCall d c' tip fault).calls.lookup c) := by
  unfold State.tipCall
  split
  · next request hphase =>
      refine callStep_setPhase ?_ ?_
      · rcases insertPrepared_cases d s c' request tip fault with heq | ⟨_, -, -, heq⟩
        · rw [heq]
        · rw [heq]
      · intro call hc hcall
        subst hc
        rw [call_of_phase hphase hcall]
        exact .finish .tip
  · exact .same

theorem callStep_answerCall {c' : CallId} {answer : Except String SubmitOutcome} :
    CallStep d s c (.answer c' answer) (s.calls.lookup c)
      ((s.answerCall c' answer).calls.lookup c) := by
  unfold State.answerCall
  split
  · next settlement rawTxBytes hphase =>
      refine callStep_setPhase rfl ?_
      intro call hc hcall
      subst hc
      rw [call_of_phase hphase hcall]
      cases answer with
      | ok outcome => exact .answer
      | error reason => exact .finish .refused
  · exact .same

theorem callStep_recordCall {c' : CallId} {fault : Fault} :
    CallStep d s c (.record c' fault) (s.calls.lookup c)
      ((s.recordCall c' fault).calls.lookup c) := by
  unfold State.recordCall
  split
  · next settlement outcome hphase =>
      refine callStep_setPhase rfl ?_
      intro call hc hcall
      subst hc
      rw [call_of_phase hphase hcall]
      by_cases hdone : fault = .none ∧ outcome.isSuccess = true
      · rw [if_pos hdone]
        obtain ⟨rfl, hsuccess⟩ := hdone
        exact .record hsuccess
      · rw [if_neg hdone]
        exact .finish (.record hdone)
  · exact .same

theorem callStep_removeCall {c' : CallId} {fault : Fault} :
    CallStep d s c (.remove c' fault) (s.calls.lookup c)
      ((s.removeCall c' fault).calls.lookup c) := by
  unfold State.removeCall
  split
  · next settlement hphase =>
      refine callStep_setPhase rfl ?_
      intro call hc hcall
      subst hc
      rw [call_of_phase hphase hcall]
      exact .finish .remove
  · exact .same

/-- Every event moves every call as `CallStep` says. -/
theorem call_step (d : Deployment C A V) (s : State) (c : CallId) (e : Event) :
    CallStep d s c e (s.calls.lookup c) ((step d s e).calls.lookup c) := by
  cases e with
  | start c' request readFault =>
      show CallStep d s c _ _ ((s.startCall d c' request readFault).calls.lookup c)
      unfold State.startCall
      split
      · exact .same
      · next hfresh =>
          by_cases hc : c = c'
          · subst hc
            rw [hfresh, AList.lookup_insert]
            exact .start
          · rw [AList.lookup_insert_ne hc]
            exact .same
  | tip c' tip fault => exact callStep_tipCall
  | answer c' answer => exact callStep_answerCall
  | record c' fault => exact callStep_recordCall
  | remove c' fault => exact callStep_removeCall
  | drop c' =>
      refine callStep_setPhase rfl ?_
      intro call hc _
      subst hc
      exact .finish .drop
  | crash =>
      show CallStep d s c _ _ ((Table.mapRows s.calls _).lookup c)
      rw [Table.lookup_mapRows]
      cases s.calls.lookup c with
      | none => exact .same
      | some call => exact .finish .crash
  | _ => exact .same

/-! ### The clock and the view -/

def Event.elapsed : Event → Nat
  | .tick seconds => seconds
  | _ => 0

/-- What an event makes of the cached view. -/
def Event.refresh : Event → ChainStatusCache → ChainStatusCache
  | .crash, _ => .new
  | .storeView visibleTipHeight settledTipHeight, cache =>
      cache.store visibleTipHeight settledTipHeight
  | _, cache => cache

/-- The clock and the view depend on the event alone. -/
theorem clock_step (d : Deployment C A V) (s : State) (e : Event) :
    (step d s e).now = s.now + e.elapsed ∧
      (step d s e).chainStatus = e.refresh s.chainStatus := by
  cases e with
  | start c request readFault =>
      show (s.startCall d c request readFault).now = _ ∧
        (s.startCall d c request readFault).chainStatus = _
      rw [startCall_frame]
      exact ⟨rfl, rfl⟩
  | tip c tip fault =>
      show (s.tipCall d c tip fault).now = _ ∧ (s.tipCall d c tip fault).chainStatus = _
      rw [tipCall_frame]
      exact ⟨rfl, rfl⟩
  | answer c answer =>
      show (s.answerCall c answer).now = _ ∧ (s.answerCall c answer).chainStatus = _
      rw [answerCall_frame]
      exact ⟨rfl, rfl⟩
  | record c fault =>
      show (s.recordCall c fault).now = _ ∧ (s.recordCall c fault).chainStatus = _
      rw [recordCall_frame]
      exact ⟨rfl, rfl⟩
  | remove c fault =>
      show (s.removeCall c fault).now = _ ∧ (s.removeCall c fault).chainStatus = _
      rw [removeCall_frame]
      exact ⟨rfl, rfl⟩
  | _ => exact ⟨rfl, rfl⟩

end Inversion

/-! ### A sample deployment -/

/-- Call numbers in unary, then the caller. -/
def samplePaymentId (c : CallId) : PaymentId :=
  ⟨String.ofList (List.replicate c.number '0' ++ '1' ::
    match c.caller with
    | none => []
    | some jkt => 'k' :: jkt.toList)⟩

theorem samplePaymentId_injective : Function.Injective samplePaymentId := by
  intro c c' heq
  obtain ⟨caller, number⟩ := c
  obtain ⟨caller', number'⟩ := c'
  have hchars := String.ofList_injective (PaymentId.mk.inj heq)
  have hzeros : number = number' := by
    have hlength := congrArg (fun l => (l.takeWhile (· == '0')).length) hchars
    simpa [List.takeWhile_append, List.takeWhile_replicate] using hlength
  subst hzeros
  have hrest := List.append_cancel_left hchars
  cases caller with
  | none =>
      cases caller' with
      | none => rfl
      | some jkt => simp at hrest
  | some jkt =>
      cases caller' with
      | none => simp at hrest
      | some jkt' =>
          have hjkt : jkt.toList = jkt'.toList := by simpa using hrest
          rw [String.toList_injective hjkt]

/-- One payee at 5 zat; every transaction expires at 4047100. -/
def sampleDeployment : Deployment (Nat × UInt64) Nat Nat where
  sha256 _ := []
  registry := AList.insert ⟨"p"⟩
    [{ scheme := .zcash, network := .testnet, payTo := "utest1q", amountZat := 5,
       maxValiditySeconds := 100, expiryDeltaBlocks := some 10 }] ∅
  sqlTexts := sampleSqlTexts
  parseTransactionExpiryHeight _ := .ok 4047100
  library := samplePcztLibrary
  chainNetwork := .testnet
  finalityDepth := 3
  newPaymentId := samplePaymentId
  newPaymentId_injective := samplePaymentId_injective

def samplePrepareRequest : PrepareRequest where
  payeeId := ⟨"p"⟩
  network := .testnet
  scheme := .zcash
  resourceUri := "r"
  nonce := "n"
  evidencePackHash := none
  idempotencyKey := none

/-- The calls of one agent. -/
def ownerCall (number : Nat) : CallId := { caller := some "a", number }

/-- The payment that agent's first call prepares. -/
def samplePayment : PaymentId := samplePaymentId (ownerCall 0)

def prepareEvents : List Event :=
  [.start (ownerCall 0) (.prepare samplePrepareRequest) none,
    .tip (ownerCall 0) (.ok 4047090) .none]

/-- Another call of that agent reads the row it prepared. -/
def settleStart (number : Nat) : Event :=
  .start (ownerCall number) (.settle { paymentId := samplePayment, rawTxHex := "28" }) none

example : (run (step sampleDeployment) (State.initial 0) prepareEvents).prepared.lookup
    samplePayment ≠ none := by decide

end Zpay.Lifecycle
