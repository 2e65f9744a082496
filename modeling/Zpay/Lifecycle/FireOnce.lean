import Zpay.Lifecycle.Invariant

/-!
# Fire-once settlement

A settle call reads the prepared row, waits for the chain, writes the ledger row
and only then removes the prepared row.  A call that read the row before another
call's success was written still writes its own outcome afterwards, over that
success and over what the reconciliation has observed since.

## Main results

* `success_kept_iff` — along a run the settle calls keep every recorded success
  of a payment exactly when no call writes its outcome over a success, but for a
  success with the same transaction id over an untouched row.
* `serial_calls_fire_once` — that is so in every run without faults in which no
  call about the payment reads its row while another is in flight.
-/

open Zpay.Data Zpay.Core Zpay.X402 Zpay.Machine

namespace Zpay.Lifecycle

/-! ## What is to be kept -/

/-- A success row stands: same transaction, nothing observed is lost. -/
structure Stands (old new : SettlementLedgerEntry) : Prop where
  success : new.broadcastOutcome.isSuccess = true
  transactionId : new.broadcastOutcome.transactionId = old.broadcastOutcome.transactionId
  minedBlockHeight : new.minedBlockHeight = old.minedBlockHeight
  confirmationCount : new.confirmationCount = old.confirmationCount
  reorgCount : new.reorgCount = old.reorgCount

/-- A step of a request leaves the success row of a payment standing. -/
def SuccessKept {C A V : Type} (d : Deployment C A V) (paymentId : PaymentId) (s : State)
    (e : Event) : Prop :=
  e.ofCall = true → ∀ old, s.ledger.lookup paymentId = some old →
    old.broadcastOutcome.isSuccess = true →
    ∃ new, (step d s e).ledger.lookup paymentId = some new ∧ Stands old new

/-- The reconciliation has not written to the row yet. -/
structure Untouched (entry : SettlementLedgerEntry) : Prop where
  minedBlockHeight : entry.minedBlockHeight = none
  confirmationCount : entry.confirmationCount = none
  reorgCount : entry.reorgCount = 0

/-- When a call is about to write its outcome and the payment's row is a success
already, the row is untouched and the outcome is of the same transaction. -/
def WritesNoOther (paymentId : PaymentId) (s : State) (e : Event) : Prop :=
  ∀ c fault settlement outcome, e = .record c fault → fault ≠ .lost →
    s.phase c = some (.recording settlement outcome) → settlement.paymentId = paymentId →
    ∀ old, s.ledger.lookup paymentId = some old → old.broadcastOutcome.isSuccess = true →
    Untouched old ∧ outcome.transactionId = old.broadcastOutcome.transactionId

section Kept

variable {C A V : Type} {d : Deployment C A V} {paymentId : PaymentId} {s : State}

/-- A fresh row stands for an old one when that is untouched and of the same
transaction. -/
theorem stands_ledgerEntry {old : SettlementLedgerEntry} {settlement : PreparedSettlement}
    {outcome : BroadcastOutcome} {now : Nat} (hold : old.broadcastOutcome.isSuccess = true) :
    Stands old (settlement.ledgerEntry outcome now) ↔
      Untouched old ∧ outcome.transactionId = old.broadcastOutcome.transactionId := by
  constructor
  · intro hstands
    exact ⟨⟨hstands.minedBlockHeight.symm, hstands.confirmationCount.symm,
      hstands.reorgCount.symm⟩, hstands.transactionId⟩
  · rintro ⟨huntouched, htransaction⟩
    obtain ⟨id, hid⟩ := BroadcastOutcome.isSuccess_iff.1 hold
    have hsuccess : outcome.isSuccess = true :=
      BroadcastOutcome.isSuccess_iff.2 ⟨id, htransaction.trans hid⟩
    exact ⟨hsuccess, htransaction, huntouched.minedBlockHeight.symm,
      huntouched.confirmationCount.symm, huntouched.reorgCount.symm⟩

/-- One step: the success row stands exactly when the write is harmless. -/
theorem success_kept_step (e : Event) :
    SuccessKept d paymentId s e ↔ WritesNoOther paymentId s e := by
  constructor
  · intro hkept c fault settlement outcome he hfault hphase hid old hold hsuccess
    subst he hid
    obtain ⟨new, hnew, hstands⟩ := hkept rfl old hold hsuccess
    have hwritten : (step d s (.record c fault)).ledger.lookup settlement.paymentId =
        some (settlement.ledgerEntry outcome s.now) :=
      ledger_of_records ⟨c, fault, settlement, outcome, rfl, hfault, hphase, rfl, rfl⟩
    rw [hwritten, Option.some.injEq] at hnew
    subst hnew
    exact (stands_ledgerEntry hsuccess).1 hstands
  · intro hwrites he old hold hsuccess
    rcases ledger_step d s paymentId e with
      ⟨entry, ⟨c, fault, settlement, outcome, hrecord, hfault, hphase, hid, rfl⟩, hrow⟩ | hrow
    · have hharmless := hwrites c fault settlement outcome hrecord hfault hphase hid old hold
        hsuccess
      exact ⟨_, hrow, (stands_ledgerEntry hsuccess).2 hharmless⟩
    · rw [rewrite_of_call he, Option.map_id_fun, id_eq] at hrow
      exact ⟨old, hrow.trans hold, hsuccess, rfl, rfl, rfl, rfl⟩

/-- Along every run, the requests keep a payment's recorded success exactly when
no call writes over it, but for the same transaction over an untouched row. -/
theorem success_kept_iff (d : Deployment C A V) (paymentId : PaymentId) (s : State)
    (es : List Event) :
    Along (step d) (SuccessKept d paymentId) s es ↔
      Along (step d) (WritesNoOther paymentId) s es :=
  ⟨fun h => h.mono fun _ e hkept => (success_kept_step e).1 hkept,
    fun h => h.mono fun _ e hwrites => (success_kept_step e).2 hwrites⟩

/-- A success that every later step keeps is still there at the end. -/
theorem success_persists {es : List Event} (hkept : Along (step d) (SuccessKept d paymentId) s es)
    {old : SettlementLedgerEntry} (hold : s.ledger.lookup paymentId = some old)
    (hsuccess : old.broadcastOutcome.isSuccess = true) :
    ∃ new, (run (step d) s es).ledger.lookup paymentId = some new ∧
      new.broadcastOutcome.transactionId = old.broadcastOutcome.transactionId := by
  induction es generalizing s old with
  | nil => exact ⟨old, hold, rfl⟩
  | cons e es ih =>
      obtain ⟨mid, hmid, htransaction⟩ : ∃ mid, (step d s e).ledger.lookup paymentId = some mid ∧
          mid.broadcastOutcome.transactionId = old.broadcastOutcome.transactionId := by
        by_cases he : e.ofCall = true
        · obtain ⟨mid, hmid, hstands⟩ := hkept.1 he old hold hsuccess
          exact ⟨mid, hmid, hstands.transactionId⟩
        · rcases ledger_step d s paymentId e with
            ⟨_, ⟨_, _, _, _, rfl, -⟩, -⟩ | hrow
          · exact absurd rfl he
          · rw [hold] at hrow
            exact ⟨_, hrow, by rw [(rewrite_keeps s.now e old).1]⟩
      have hmidSuccess : mid.broadcastOutcome.isSuccess = true := by
        obtain ⟨id, hid⟩ := BroadcastOutcome.isSuccess_iff.1 hsuccess
        exact BroadcastOutcome.isSuccess_iff.2 ⟨id, htransaction.trans hid⟩
      obtain ⟨new, hnew, hsame⟩ := ih hkept.2 hmid hmidSuccess
      exact ⟨new, hnew, hsame.trans htransaction⟩

end Kept

/-! ## Calls that do not overlap -/

section Serial

/-- A settle call about the payment is between its read and its end. -/
def InFlight (s : State) (c : CallId) (paymentId : PaymentId) : Prop :=
  ∃ phase settlement, s.phase c = some phase ∧ phase.settlement = some settlement ∧
    settlement.paymentId = paymentId

/-- No call about the payment reads its row while another is in flight. -/
def ReadsAlone {C A V : Type} (d : Deployment C A V) (paymentId : PaymentId) (s : State)
    (e : Event) : Prop :=
  ∀ c request readFault settlement rawTxBytes, e = .start c request readFault →
    opening d s c.caller request readFault = .submitting settlement rawTxBytes →
    settlement.paymentId = paymentId → ∀ c', ¬ InFlight s c' paymentId

/-- Store operations and the process do not fail, and clients do not leave. -/
def Event.faultless : Event → Bool
  | .record _ fault | .remove _ fault | .tip _ _ fault => fault == .none
  | .drop _ | .crash => false
  | _ => true

/-- The row of a payment has been read by at most one call in flight; as long as
that call has not written, there is no success yet; after a success the row is
gone or about to go. -/
structure OneAtATime (paymentId : PaymentId) (s : State) : Prop where
  alone : ∀ c c', InFlight s c paymentId → InFlight s c' paymentId → c = c'
  unwritten : ∀ c settlement, settlement.paymentId = paymentId →
    ((∃ rawTxBytes, s.phase c = some (.submitting settlement rawTxBytes)) ∨
      ∃ outcome, s.phase c = some (.recording settlement outcome)) →
    ∀ entry, s.ledger.lookup paymentId = some entry → entry.broadcastOutcome.isSuccess = false
  gone : ∀ entry, s.ledger.lookup paymentId = some entry →
    entry.broadcastOutcome.isSuccess = true → s.prepared.lookup paymentId = none ∨
      ∃ c settlement, s.phase c = some (.removing settlement) ∧ settlement.paymentId = paymentId

variable {C A V : Type} {d : Deployment C A V} {paymentId : PaymentId} {s : State}

theorem oneAtATime_initial (paymentId : PaymentId) (now : Nat) :
    OneAtATime paymentId (State.initial now) where
  alone _ _ h := absurd h (by rintro ⟨_, _, hphase, -⟩; simp [State.phase, State.initial] at hphase)
  unwritten _ _ _ _ _ h := absurd h (by simp [State.initial])
  gone _ h := absurd h (by simp [State.initial])

/-- A call in flight after a step was so before it, or has just read the row. -/
theorem inFlight_before {c : CallId} {e : Event} (h : InFlight (step d s e) c paymentId) :
    InFlight s c paymentId ∨ ∃ request readFault settlement rawTxBytes,
      e = .start c request readFault ∧
      opening d s c.caller request readFault = .submitting settlement rawTxBytes ∧
      settlement.paymentId = paymentId := by
  obtain ⟨phase, settlement, hphase, hsettlement, hid⟩ := h
  obtain ⟨call, hcall, rfl⟩ := phase_eq_some.1 hphase
  have hstep := call_step d s c e
  rw [hcall] at hstep
  cases hold : s.calls.lookup c with
  | none =>
      rw [hold] at hstep
      cases hstep with
      | @start request readFault =>
          right
          obtain ⟨raw, hopen⟩ := opening_settlement hsettlement
          exact ⟨request, readFault, settlement, raw, rfl, hopen, hid⟩
  | some call' =>
      left
      rw [hold] at hstep
      cases hstep with
      | same => exact ⟨call.phase, settlement, phase_eq_some.2 ⟨call, hold, rfl⟩, hsettlement, hid⟩
      | finish => exact absurd hsettlement (by simp [Phase.settlement])
      | answer =>
          exact ⟨_, settlement, phase_eq_some.2 ⟨_, hold, rfl⟩, hsettlement, hid⟩
      | record =>
          exact ⟨_, settlement, phase_eq_some.2 ⟨_, hold, rfl⟩, hsettlement, hid⟩

theorem alone_step (hone : OneAtATime paymentId s) {e : Event}
    (hreads : ReadsAlone d paymentId s e) {c c' : CallId}
    (h : InFlight (step d s e) c paymentId) (h' : InFlight (step d s e) c' paymentId) :
    c = c' := by
  rcases inFlight_before h with hbefore | ⟨request, readFault, settlement, raw, rfl, hopen, hid⟩
  · rcases inFlight_before h' with hbefore' |
      ⟨request, readFault, settlement, raw, rfl, hopen, hid⟩
    · exact hone.alone c c' hbefore hbefore'
    · exact absurd hbefore (hreads c' request readFault settlement raw rfl hopen hid c)
  · rcases inFlight_before h' with hbefore' | ⟨_, _, _, _, heq, -⟩
    · exact absurd hbefore' (hreads c request readFault settlement raw rfl hopen hid c')
    · injection heq

/-- A record moves its call on. -/
theorem record_moves (d : Deployment C A V) (fault : Fault) {c : CallId}
    {settlement : PreparedSettlement} {outcome : BroadcastOutcome}
    (h : s.phase c = some (.recording settlement outcome)) :
    (step d s (.record c fault)).phase c =
      some (if fault = .none ∧ outcome.isSuccess = true then .removing settlement
        else .finished) := by
  obtain ⟨call, hcall, -⟩ := phase_eq_some.1 h
  show (s.recordCall c fault).phase c = _
  unfold State.recordCall
  rw [h]
  exact phase_eq_some.2 ⟨_, lookup_calls_setPhase_self hcall, rfl⟩

/-- Steps other than a record leave failures and absences of a row alone. -/
theorem unsuccessful_step {e : Event} (hrecord : ∀ entry, ¬ Records s paymentId e entry)
    (hbefore : ∀ entry, s.ledger.lookup paymentId = some entry →
      entry.broadcastOutcome.isSuccess = false) :
    ∀ entry, (step d s e).ledger.lookup paymentId = some entry →
      entry.broadcastOutcome.isSuccess = false := by
  intro entry hentry
  rcases ledger_step d s paymentId e with ⟨new, hnew, -⟩ | hrow
  · exact absurd hnew (hrecord new)
  · rw [hrow, Option.map_eq_some_iff] at hentry
    obtain ⟨old, hold, rfl⟩ := hentry
    rw [(rewrite_keeps s.now e old).1]
    exact hbefore old hold

/-- A call has read the row of its payment and not yet written its record. -/
def Unwritten (s : State) (c : CallId) (settlement : PreparedSettlement) : Prop :=
  (∃ rawTxBytes, s.phase c = some (.submitting settlement rawTxBytes)) ∨
    ∃ outcome, s.phase c = some (.recording settlement outcome)

theorem Unwritten.inFlight {c : CallId} {settlement : PreparedSettlement}
    (h : Unwritten s c settlement) : InFlight s c settlement.paymentId := by
  rcases h with ⟨raw, hsubmitting⟩ | ⟨outcome, hrecording⟩
  · exact ⟨_, settlement, hsubmitting, rfl, rfl⟩
  · exact ⟨_, settlement, hrecording, rfl, rfl⟩

/-- A call that has yet to write after a step was so before it, or has just read the row. -/
theorem unwritten_before {e : Event} {c : CallId} {settlement : PreparedSettlement}
    (h : Unwritten (step d s e) c settlement) :
    Unwritten s c settlement ∨ ∃ request readFault rawTxBytes, e = .start c request readFault ∧
      opening d s c.caller request readFault = .submitting settlement rawTxBytes := by
  have hactive : ∃ call, (step d s e).calls.lookup c = some call ∧
      call.phase.settlement = some settlement ∧
      ((∃ rawTxBytes, call.phase = .submitting settlement rawTxBytes) ∨
        ∃ outcome, call.phase = .recording settlement outcome) := by
    rcases h with ⟨raw, hsubmitting⟩ | ⟨outcome, hrecording⟩
    · obtain ⟨call, hcall, heq⟩ := phase_eq_some.1 hsubmitting
      exact ⟨call, hcall, by rw [heq]; rfl, .inl ⟨raw, heq⟩⟩
    · obtain ⟨call, hcall, heq⟩ := phase_eq_some.1 hrecording
      exact ⟨call, hcall, by rw [heq]; rfl, .inr ⟨outcome, heq⟩⟩
  obtain ⟨call, hcall, hsettlement, hactive⟩ := hactive
  have hstep := call_step d s c e
  rw [hcall] at hstep
  cases hold : s.calls.lookup c with
  | none =>
      rw [hold] at hstep
      cases hstep with
      | @start request readFault =>
          obtain ⟨raw, hopen⟩ := opening_settlement hsettlement
          exact .inr ⟨request, readFault, raw, rfl, hopen⟩
  | some call' =>
      left
      rw [hold] at hstep
      cases hstep with
      | same =>
          rcases hactive with ⟨raw, heq⟩ | ⟨outcome, heq⟩
          · exact .inl ⟨raw, phase_eq_some.2 ⟨call, hold, heq⟩⟩
          · exact .inr ⟨outcome, phase_eq_some.2 ⟨call, hold, heq⟩⟩
      | finish => exact absurd hsettlement (by simp [Phase.settlement])
      | record => rcases hactive with ⟨_, heq⟩ | ⟨_, heq⟩ <;> exact absurd heq (by simp)
      | @answer request settlement' raw outcome =>
          rw [Phase.settlement, Option.some.injEq] at hsettlement
          rw [← hsettlement]
          exact .inl ⟨raw, phase_eq_some.2 ⟨_, hold, rfl⟩⟩

/-- A record about the payment would be this call's own, and would have moved it on. -/
theorem not_records_of_unwritten (hone : OneAtATime paymentId s) {e : Event} {c : CallId}
    {settlement : PreparedSettlement} (hflight : InFlight s c paymentId)
    (h : Unwritten (step d s e) c settlement) (entry : SettlementLedgerEntry) :
    ¬ Records s paymentId e entry := by
  rintro ⟨c', fault, settlement', outcome, rfl, -, hrecording, hid', -⟩
  have hsame := hone.alone c c' hflight ⟨_, settlement', hrecording, rfl, hid'⟩
  subst hsame
  have hmoved := record_moves d fault hrecording
  rcases h with ⟨_, hsubmitting⟩ | ⟨_, hrecording'⟩
  · rw [hsubmitting] at hmoved
    split at hmoved <;> exact absurd hmoved (by simp)
  · rw [hrecording'] at hmoved
    split at hmoved <;> exact absurd hmoved (by simp)

theorem unwritten_step (hone : OneAtATime paymentId s) {e : Event}
    (hreads : ReadsAlone d paymentId s e) {c : CallId} {settlement : PreparedSettlement}
    (hid : settlement.paymentId = paymentId) (hunwritten : Unwritten (step d s e) c settlement) :
    ∀ entry, (step d s e).ledger.lookup paymentId = some entry →
      entry.broadcastOutcome.isSuccess = false := by
  rcases unwritten_before hunwritten with hbefore | ⟨request, readFault, raw, rfl, hopen⟩
  · have hflight : InFlight s c paymentId := hid ▸ hbefore.inFlight
    exact unsuccessful_step (not_records_of_unwritten hone hflight hunwritten)
      (hone.unwritten c settlement hid hbefore)
  · refine unsuccessful_step ?_ ?_
    · rintro entry ⟨_, _, _, _, heq, -⟩
      exact absurd heq (by simp)
    · -- The row was still there to read, so a success would be one not yet removed.
      intro entry hentry
      by_contra hsuccess
      rw [Bool.not_eq_false] at hsuccess
      obtain ⟨row, hrow, -⟩ := opening_submitting hopen
      rw [hid] at hrow
      rcases hone.gone entry hentry hsuccess with hnone | ⟨c', settlement', hremoving, hid'⟩
      · rw [hnone] at hrow
        exact absurd hrow (by simp)
      · exact hreads c request readFault settlement raw rfl hopen hid c'
          ⟨_, settlement', hremoving, rfl, hid'⟩

theorem gone_step (hsound : Sound d s) (hone : OneAtATime paymentId s) {e : Event}
    (hfaultless : e.faultless = true) {entry : SettlementLedgerEntry}
    (hentry : (step d s e).ledger.lookup paymentId = some entry)
    (hsuccess : entry.broadcastOutcome.isSuccess = true) :
    (step d s e).prepared.lookup paymentId = none ∨
      ∃ c settlement, (step d s e).phase c = some (.removing settlement) ∧
        settlement.paymentId = paymentId := by
  rcases ledger_step d s paymentId e with
    ⟨new, ⟨c, fault, settlement, outcome, rfl, -, hphase, hid, rfl⟩, hrow⟩ | hrow
  · right
    rw [hrow, Option.some.injEq] at hentry
    subst hentry
    have hnone : fault = .none := by simpa [Event.faultless] using hfaultless
    refine ⟨c, settlement, ?_, hid⟩
    rw [record_moves d fault hphase, if_pos ⟨hnone, hsuccess⟩]
  · rw [hrow, Option.map_eq_some_iff] at hentry
    obtain ⟨old, hold, rfl⟩ := hentry
    rw [(rewrite_keeps s.now e old).1] at hsuccess
    rcases hone.gone old hold hsuccess with hnone | ⟨c, settlement, hremoving, hid⟩
    · left
      rcases prepared_step d s paymentId e with
        ⟨_, ⟨c, _, _, request, _, -, hphase, rfl, -⟩, -⟩ | ⟨-, hsame | ⟨-, hgone⟩ | ⟨-, hswept⟩⟩
      · obtain ⟨row, hissued⟩ := hsound.ledger _ old hold
        rw [hsound.unissued c (.inr ⟨request, hphase⟩)] at hissued
        exact absurd hissued (by simp)
      · exact hsame.trans hnone
      · exact hgone
      · rw [hswept, hnone]
        rfl
    · obtain ⟨call, hcall, hphase⟩ := phase_eq_some.1 hremoving
      have hstep := call_step d s c e
      rw [hcall] at hstep
      generalize hnew : (step d s e).calls.lookup c = new at hstep
      cases hstep with
      | same => exact .inr ⟨c, settlement, phase_eq_some.2 ⟨call, hnew, hphase⟩, hid⟩
      | answer => exact absurd hphase (by simp)
      | record => exact absurd hphase (by simp)
      | finish hends =>
          rw [hphase] at hends
          cases hends with
          | @remove _ fault =>
              have hnone : fault = .none := by simpa [Event.faultless] using hfaultless
              subst hnone hid
              exact .inl (prepared_of_removes
                ⟨c, .none, settlement, rfl, by decide, hremoving, rfl⟩)
          | drop => exact absurd hfaultless (by simp [Event.faultless])
          | crash => exact absurd hfaultless (by simp [Event.faultless])

theorem oneAtATime_step (hsound : Sound d s) (hone : OneAtATime paymentId s) {e : Event}
    (hreads : ReadsAlone d paymentId s e) (hfaultless : e.faultless = true) :
    OneAtATime paymentId (step d s e) where
  alone _ _ h h' := alone_step hone hreads h h'
  unwritten _ _ hid hphase := unwritten_step hone hreads hid hphase
  gone _ hentry hsuccess := gone_step hsound hone hfaultless hentry hsuccess

/-- In a run without faults in which no call about a payment reads its row while
another is in flight, every recorded success stands. -/
theorem serial_calls_fire_once (d : Deployment C A V) (paymentId : PaymentId) (now : Nat)
    (es : List Event)
    (hserial : Along (step d)
      (fun s e => ReadsAlone d paymentId s e ∧ e.faultless = true) (State.initial now) es) :
    Along (step d) (SuccessKept d paymentId) (State.initial now) es := by
  have hstep : ∀ t e, Sound d t ∧ OneAtATime paymentId t →
      ReadsAlone d paymentId t e ∧ e.faultless = true →
      Sound d (step d t e) ∧ OneAtATime paymentId (step d t e) := by
    rintro t e ⟨hsound, hone⟩ ⟨hreads, hfaultless⟩
    exact ⟨sound_step hsound e, oneAtATime_step hsound hone hreads hfaultless⟩
  refine along_of_invariant hstep ?_ ⟨sound_initial d now, oneAtATime_initial paymentId now⟩
    hserial
  rintro t e ⟨-, hone⟩ -
  refine (success_kept_step e).2 ?_
  intro c fault settlement outcome _ _ hphase hid old hold hsuccess
  have hfailed := hone.unwritten c settlement hid (.inr ⟨outcome, hphase⟩) old hold
  rw [hfailed] at hsuccess
  exact absurd hsuccess (by simp)

end Serial

/-! ### Two calls that overlap -/

/-- Two calls read the row; the first is accepted, recorded and seen mined; the
second is refused. -/
def overlappingCalls : List Event :=
  prepareEvents ++
    [settleStart 1, settleStart 2, .answer (ownerCall 1) (.ok (.accepted "t1")),
      .record (ownerCall 1) .none, .recordConfirmation samplePayment 1 (some 4047095),
      .answer (ownerCall 2) (.ok (.rejected (.other "Unknown") "conflict"))]

/-- The second call's record replaces a mined success by a failure. -/
theorem recorded_success_lost :
    ((run (step sampleDeployment) (State.initial 0) overlappingCalls).ledger.lookup
      samplePayment).any (fun entry => entry.broadcastOutcome.isSuccess &&
        entry.minedBlockHeight == some 4047095) = true ∧
    ((run (step sampleDeployment) (State.initial 0)
      (overlappingCalls ++ [.record (ownerCall 2) .none])).ledger.lookup
        samplePayment).any (fun entry => !entry.broadcastOutcome.isSuccess &&
          entry.minedBlockHeight == none) = true ∧
    ¬ Along (step sampleDeployment) (SuccessKept sampleDeployment samplePayment)
      (State.initial 0) (overlappingCalls ++ [.record (ownerCall 2) .none]) := by
  have hbefore : ((run (step sampleDeployment) (State.initial 0) overlappingCalls).ledger.lookup
      samplePayment).any (fun entry => entry.broadcastOutcome.isSuccess &&
        entry.minedBlockHeight == some 4047095) = true := by decide
  have hafter : ((run (step sampleDeployment) (State.initial 0)
      (overlappingCalls ++ [.record (ownerCall 2) .none])).ledger.lookup
        samplePayment).any (fun entry => !entry.broadcastOutcome.isSuccess &&
          entry.minedBlockHeight == none) = true := by decide
  refine ⟨hbefore, hafter, ?_⟩
  intro hkept
  obtain ⟨old, hold, hsuccess⟩ := (Option.any_eq_true _ _).1 hbefore
  rw [Bool.and_eq_true] at hsuccess
  obtain ⟨new, hnew, hstands⟩ := hkept.at_prefix rfl old hold hsuccess.1
  obtain ⟨new', hnew', hfailed⟩ := (Option.any_eq_true _ _).1 hafter
  rw [run_append] at hnew'
  have hsame : new = new' := Option.some.inj (hnew.symm.trans hnew')
  rw [← hsame, hstands.success] at hfailed
  exact absurd hfailed (by simp)

end Zpay.Lifecycle
