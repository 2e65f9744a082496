import Zpay.Lifecycle.Facilitator

/-!
# What holds in every reachable state

One inductive invariant relates the stores, the history of issued rows and the
calls in flight.  It is all the later modules read.

## Main results

* `sound_step`, `sound_run` — the invariant is kept by every event, and holds
  after every run of an empty service.
* `issued_step` — an issued row is never issued again nor changed.
* `opening_submitting` — what a call that reaches the submitter has passed.
-/

open Zpay.Data Zpay.Core Zpay.X402 Zpay.Machine

namespace Zpay.Lifecycle

/-- What a settle call carries of a prepared row. -/
def settlementOf (paymentId : PaymentId) (row : PreparedTxRow) : PreparedSettlement :=
  (row.toEntry paymentId).settlement paymentId

section Entitled

variable {C A V : Type} (d : Deployment C A V)

/-- An x402 request that names a payment, asks for what its row asks for, and
carries a PCZT that verifies and expires when the row says. -/
structure MatchesRow (request : FacilitatorRequest) (paymentId : PaymentId)
    (row : PreparedTxRow) : Prop where
  named : zpayPaymentId request.paymentRequirements = .ok (some paymentId)
  requirements : ∃ settlement verified, settlementRequest request = .ok settlement ∧
    verifyPcztSettlement d.library settlement = .ok verified ∧
    row.network = settlement.network ∧ row.amountZat = settlement.amountZat ∧
    row.recipientUnifiedAddress = settlement.payTo ∧ verified.expiryHeight = row.expiryHeight

/-- A call may settle a row when its caller prepared it, or when it is an x402
request that matches it. -/
inductive Entitled (caller : Option String) (request : Request) (paymentId : PaymentId)
    (row : PreparedTxRow) : Prop
  | owner (howner : caller = some row.agentDpopJkt)
  | x402 (hcaller : caller = none) (facilitatorRequest : FacilitatorRequest)
      (hrequest : request = .x402Settle facilitatorRequest)
      (hmatches : MatchesRow d facilitatorRequest paymentId row)

end Entitled

/-! ## What the gates of a call establish -/

section Opening

variable {C A V : Type} {d : Deployment C A V} {s : State} {caller : Option String}
variable {request : Request} {readFault : Option StoreError}

theorem find_eq_ok {paymentId : PaymentId} {entry : PreparedTxEntry}
    (h : s.find readFault paymentId = .ok (some entry)) :
    ∃ row, s.prepared.lookup paymentId = some row ∧ entry = row.toEntry paymentId := by
  unfold State.find at h
  split at h
  · exact absurd h (by simp)
  · rw [Except.ok.injEq] at h
    obtain ⟨row, hrow, heq⟩ := Option.map_eq_some_iff.1 h
    exact ⟨row, hrow, heq.symm⟩

/-- A call that reaches the submitter found the row it is about, and is entitled
to settle it. -/
theorem opening_submitting {settlement : PreparedSettlement} {rawTxBytes : List UInt8}
    (h : opening d s caller request readFault = .submitting settlement rawTxBytes) :
    ∃ row, s.prepared.lookup settlement.paymentId = some row ∧
      settlement = settlementOf settlement.paymentId row ∧
      Entitled d caller request settlement.paymentId row := by
  unfold opening at h
  split at h
  · split at h
    · exact absurd h (by simp)
    · split at h
      · exact absurd h (by simp)
      · exact absurd h (by simp)
  · next settleRequest jkt =>
      split at h
      · next settlement' rawTxBytes' hadmit =>
          rw [Phase.submitting.injEq] at h
          obtain ⟨rfl, rfl⟩ := h
          obtain ⟨entry, hfound, hjkt, rfl, -, -⟩ := admit_settlement_ok hadmit
          obtain ⟨row, hrow, rfl⟩ := find_eq_ok hfound
          exact ⟨row, hrow, rfl, .owner (congrArg some hjkt.symm)⟩
      · exact absurd h (by simp)
  · next facilitatorRequest =>
      split at h
      · next settlementReq settlement' verified hgates =>
          split at h
          · rw [Phase.submitting.injEq] at h
            obtain ⟨rfl, -⟩ := h
            obtain ⟨hvalid, hsettlement, hfound, hverified, hexpiry⟩ :=
              x402_settle_gates_ok.1 hgates
            obtain ⟨-, -, named, hnamed⟩ := x402_request_invalid_reason_eq_none hvalid
            cases named with
            | none =>
                rw [find_prepared_of_unnamed hnamed] at hfound
                exact absurd hfound (by simp)
            | some paymentId =>
                obtain ⟨entry, hentry, ⟨hnetwork, hamount, hrecipient⟩, hsome⟩ :=
                  (find_prepared_of_named hnamed).1 hfound
                have heq := Option.some.inj hsome
                subst heq
                obtain ⟨row, hrow, rfl⟩ := find_eq_ok hentry
                refine ⟨row, hrow, rfl, .x402 rfl facilitatorRequest rfl ⟨hnamed, ?_⟩⟩
                exact ⟨settlementReq, verified, hsettlement, hverified, hnetwork, hamount,
                  hrecipient, hexpiry _ rfl⟩
          · exact absurd h (by simp)
      · exact absurd h (by simp)
      · exact absurd h (by simp)
  · exact absurd h (by simp)

/-- Only an authenticated prepare call waits for the tip. -/
theorem opening_awaitingTip {prepareRequest : PrepareRequest}
    (h : opening d s caller request readFault = .awaitingTip prepareRequest) :
    ∃ jkt, caller = some jkt := by
  unfold opening at h
  split at h
  · next jkt => exact ⟨jkt, rfl⟩
  · next jkt => exact ⟨jkt, rfl⟩
  · split at h
    · split at h
      · exact absurd h (by simp)
      · exact absurd h (by simp)
    · exact absurd h (by simp)
    · exact absurd h (by simp)
  · exact absurd h (by simp)

/-- The gates end a call or suspend it before the chain is asked. -/
theorem opening_cases (d : Deployment C A V) (s : State) (caller : Option String)
    (request : Request) (readFault : Option StoreError) :
    opening d s caller request readFault = .finished ∨
    (∃ prepareRequest, opening d s caller request readFault = .awaitingTip prepareRequest) ∨
    ∃ settlement rawTxBytes,
      opening d s caller request readFault = .submitting settlement rawTxBytes := by
  cases hphase : opening d s caller request readFault with
  | finished => exact .inl rfl
  | awaitingTip prepareRequest => exact .inr (.inl ⟨prepareRequest, rfl⟩)
  | submitting settlement rawTxBytes => exact .inr (.inr ⟨settlement, rawTxBytes, rfl⟩)
  | recording settlement outcome =>
      exfalso
      unfold opening at hphase
      repeat' split at hphase
      all_goals exact absurd hphase (by simp)
  | removing settlement =>
      exfalso
      unfold opening at hphase
      repeat' split at hphase
      all_goals exact absurd hphase (by simp)

/-- A call that opens with a settlement is to submit it. -/
theorem opening_settlement {caller : Option String} {request : Request}
    {readFault : Option StoreError} {settlement : PreparedSettlement}
    (h : (opening d s caller request readFault).settlement = some settlement) :
    ∃ rawTxBytes, opening d s caller request readFault = .submitting settlement rawTxBytes := by
  rcases opening_cases d s caller request readFault with
    hopen | ⟨_, hopen⟩ | ⟨settlement', raw, hopen⟩
  · rw [hopen] at h
    exact absurd h (by simp [Phase.settlement])
  · rw [hopen] at h
    exact absurd h (by simp [Phase.settlement])
  · rw [hopen] at h ⊢
    rw [Phase.settlement, Option.some.injEq] at h
    exact ⟨raw, by rw [h]⟩

end Opening

/-! ## The invariant -/

section Soundness

variable {C A V : Type}

/-- The call has not yet had the chance to store a row under its id. -/
def Unissued (s : State) (c : CallId) : Prop :=
  s.calls.lookup c = none ∨ ∃ request, s.phase c = some (.awaitingTip request)

structure Sound (d : Deployment C A V) (s : State) : Prop where
  /-- Ids are fresh until their call stores a row. -/
  unissued : ∀ c, Unissued s c → s.issued.lookup (d.newPaymentId c) = none
  /-- Only authenticated callers prepare. -/
  waiting : ∀ c request, s.phase c = some (.awaitingTip request) → ∃ jkt, c.caller = some jkt
  /-- A row carries the key of the call its id was generated for. -/
  issuedBy : ∀ paymentId row, s.issued.lookup paymentId = some row →
    ∃ c, paymentId = d.newPaymentId c ∧ c.caller = some row.agentDpopJkt
  /-- Stored rows are as they were issued. -/
  prepared : ∀ paymentId row, s.prepared.lookup paymentId = some row →
    s.issued.lookup paymentId = some row
  /-- A settle call in flight is about an issued row it is entitled to settle. -/
  settling : ∀ c call settlement, s.calls.lookup c = some call →
    call.phase.settlement = some settlement →
    ∃ row, s.issued.lookup settlement.paymentId = some row ∧
      settlement = settlementOf settlement.paymentId row ∧
      Entitled d c.caller call.request settlement.paymentId row
  /-- A row is removed only after its ledger row was written. -/
  removing : ∀ c settlement, s.phase c = some (.removing settlement) →
    ∃ entry, s.ledger.lookup settlement.paymentId = some entry
  /-- Only issued payments have a ledger row. -/
  ledger : ∀ paymentId entry, s.ledger.lookup paymentId = some entry →
    ∃ row, s.issued.lookup paymentId = some row
  /-- An issued row is kept until it expires or its ledger row is written. -/
  kept : ∀ paymentId row, s.issued.lookup paymentId = some row →
    s.prepared.lookup paymentId = some row ∨ row.expiresAtUnixSeconds.toNat ≤ s.now ∨
      ∃ entry, s.ledger.lookup paymentId = some entry

theorem sound_initial (d : Deployment C A V) (now : Nat) : Sound d (State.initial now) where
  unissued _ _ := rfl
  waiting _ _ h := absurd h (by simp [State.phase, State.initial])
  issuedBy _ _ h := absurd h (by simp [State.initial])
  prepared _ _ h := absurd h (by simp [State.initial])
  settling _ _ _ h := absurd h (by simp [State.initial])
  removing _ _ h := absurd h (by simp [State.phase, State.initial])
  ledger _ _ h := absurd h (by simp [State.initial])
  kept _ _ h := absurd h (by simp [State.initial])

variable {d : Deployment C A V} {s : State} {paymentId : PaymentId}

/-- Ledger rows are overwritten, never deleted. -/
theorem ledger_row_step {entry : SettlementLedgerEntry} (e : Event)
    (h : s.ledger.lookup paymentId = some entry) :
    ∃ entry', (step d s e).ledger.lookup paymentId = some entry' := by
  rcases ledger_step d s paymentId e with ⟨entry', -, hrow⟩ | hrow
  · exact ⟨entry', hrow⟩
  · rw [h] at hrow
    exact ⟨_, hrow⟩

/-- What a call was before a step, from what it is after it. -/
theorem phase_awaitingTip_before {c : CallId} {request : PrepareRequest} {e : Event}
    (h : (step d s e).phase c = some (.awaitingTip request)) : Unissued s c := by
  have hstep := call_step d s c e
  obtain ⟨call, hcall, hphase⟩ := phase_eq_some.1 h
  rw [hcall] at hstep
  cases hbefore : s.calls.lookup c with
  | none => exact .inl hbefore
  | some call' =>
      rw [hbefore] at hstep
      cases hstep with
      | same => exact .inr ⟨request, phase_eq_some.2 ⟨call, hbefore, hphase⟩⟩
      | finish => exact absurd hphase (by simp)
      | answer => exact absurd hphase (by simp)
      | record => exact absurd hphase (by simp)

theorem unissued_before {c : CallId} {e : Event} (h : Unissued (step d s e) c) :
    Unissued s c := by
  rcases h with hnone | ⟨request, hphase⟩
  · have hstep := call_step d s c e
    rw [hnone] at hstep
    cases hbefore : s.calls.lookup c with
    | none => exact .inl hbefore
    | some call =>
        rw [hbefore] at hstep
        cases hstep
  · exact phase_awaitingTip_before hphase

/-- A call that stored its row is finished. -/
theorem tip_finishes (d : Deployment C A V) (tip : Except TipError UInt32) (fault : Fault)
    {c : CallId} {request : PrepareRequest}
    (h : s.phase c = some (.awaitingTip request)) :
    (step d s (.tip c tip fault)).phase c = some .finished := by
  show (s.tipCall d c tip fault).phase c = some .finished
  unfold State.tipCall
  rw [h]
  obtain ⟨call, hcall, -⟩ := phase_eq_some.1 h
  refine phase_eq_some.2 ⟨{ call with phase := .finished }, ?_, rfl⟩
  refine lookup_calls_setPhase_self ?_
  rcases insertPrepared_cases d s c request tip fault with heq | ⟨_, -, -, heq⟩
  · rw [heq]
    exact hcall
  · rw [heq]
    exact hcall

/-- An issued row is never issued again nor changed. -/
theorem issued_step (hsound : Sound d s) (e : Event) {row : PreparedTxRow}
    (h : s.issued.lookup paymentId = some row) :
    (step d s e).issued.lookup paymentId = some row := by
  rcases prepared_step d s paymentId e with
    ⟨_, ⟨c, _, _, request, _, -, hphase, rfl, -⟩, -⟩ | ⟨hsame, -⟩
  · have hnone := hsound.unissued c (.inr ⟨request, hphase⟩)
    rw [hnone] at h
    exact absurd h (by simp)
  · rw [hsame]
    exact h

theorem unissued_step (hsound : Sound d s) (e : Event) {c : CallId}
    (h : Unissued (step d s e) c) :
    (step d s e).issued.lookup (d.newPaymentId c) = none := by
  have hbefore := unissued_before h
  rcases prepared_step d s (d.newPaymentId c) e with
    ⟨_, ⟨c', tip, fault, request, _, rfl, hphase, hid, -⟩, -⟩ | ⟨hsame, -⟩
  · have hc : c = c' := d.newPaymentId_injective hid
    subst hc
    have hfinished := tip_finishes d tip fault hphase
    rcases h with hnone | ⟨request', hwaiting⟩
    · rw [State.phase, hnone] at hfinished
      exact absurd hfinished (by simp)
    · rw [hwaiting] at hfinished
      exact absurd hfinished (by simp)
  · rw [hsame]
    exact hsound.unissued c hbefore

theorem waiting_step (hsound : Sound d s) (e : Event) {c : CallId} {request : PrepareRequest}
    (h : (step d s e).phase c = some (.awaitingTip request)) : ∃ jkt, c.caller = some jkt := by
  have hstep := call_step d s c e
  obtain ⟨call, hcall, hphase⟩ := phase_eq_some.1 h
  rw [hcall] at hstep
  cases hbefore : s.calls.lookup c with
  | none =>
      rw [hbefore] at hstep
      cases hstep with
      | start => exact opening_awaitingTip hphase
  | some call' =>
      rw [hbefore] at hstep
      cases hstep with
      | same => exact hsound.waiting c request (phase_eq_some.2 ⟨call, hbefore, hphase⟩)
      | finish => exact absurd hphase (by simp)
      | answer => exact absurd hphase (by simp)
      | record => exact absurd hphase (by simp)

theorem issuedBy_step (hsound : Sound d s) (e : Event) {row : PreparedTxRow}
    (h : (step d s e).issued.lookup paymentId = some row) :
    ∃ c, paymentId = d.newPaymentId c ∧ c.caller = some row.agentDpopJkt := by
  rcases prepared_step d s paymentId e with
    ⟨row', ⟨c, _, _, request, entry, -, hphase, hid, hentry, rfl⟩, -, -, hissued⟩ | ⟨hsame, -⟩
  · rw [hissued, Option.some.injEq] at h
    subst h
    obtain ⟨jkt, hcaller⟩ := hsound.waiting c request hphase
    refine ⟨c, hid, ?_⟩
    have hjkt := (compose_entry_payment_id hentry).2.1
    rw [hcaller] at hjkt
    show c.caller = some entry.agentDpopJkt
    rw [hcaller, hjkt]
    rfl
  · rw [hsame] at h
    exact hsound.issuedBy paymentId row h

theorem stored_step (hsound : Sound d s) (e : Event) {row : PreparedTxRow}
    (h : (step d s e).prepared.lookup paymentId = some row) :
    (step d s e).issued.lookup paymentId = some row := by
  rcases prepared_step d s paymentId e with
    ⟨row', -, -, hprepared, hissued⟩ | ⟨hsame, hprepared⟩
  · rw [hprepared] at h
    rw [hissued]
    exact h
  · rw [hsame]
    refine hsound.prepared paymentId row ?_
    rcases hprepared with heq | ⟨-, hnone⟩ | ⟨-, hswept⟩
    · rw [← heq]
      exact h
    · rw [hnone] at h
      exact absurd h (by simp)
    · rw [hswept, Option.filter_eq_some_iff] at h
      exact h.1

theorem settling_step (hsound : Sound d s) (e : Event) {c : CallId} {call : Call}
    {settlement : PreparedSettlement} (hcall : (step d s e).calls.lookup c = some call)
    (hphase : call.phase.settlement = some settlement) :
    ∃ row, (step d s e).issued.lookup settlement.paymentId = some row ∧
      settlement = settlementOf settlement.paymentId row ∧
      Entitled d c.caller call.request settlement.paymentId row := by
  have hbefore : ∃ row, s.issued.lookup settlement.paymentId = some row ∧
      settlement = settlementOf settlement.paymentId row ∧
      Entitled d c.caller call.request settlement.paymentId row := by
    have hstep := call_step d s c e
    rw [hcall] at hstep
    cases hold : s.calls.lookup c with
    | none =>
        rw [hold] at hstep
        cases hstep with
        | @start request readFault =>
            obtain ⟨raw, hopen⟩ := opening_settlement hphase
            obtain ⟨row, hrow, heq, hentitled⟩ := opening_submitting hopen
            exact ⟨row, hsound.prepared _ row hrow, heq, hentitled⟩
    | some call' =>
        rw [hold] at hstep
        cases hstep with
        | same => exact hsound.settling c call settlement hold hphase
        | finish => exact absurd hphase (by simp [Phase.settlement])
        | answer =>
            have hsettling := hsound.settling c _ settlement hold hphase
            exact hsettling
        | record =>
            have hsettling := hsound.settling c _ settlement hold hphase
            exact hsettling
  obtain ⟨row, hrow, hrest⟩ := hbefore
  exact ⟨row, issued_step hsound e hrow, hrest⟩

theorem removing_step (hsound : Sound d s) (e : Event) {c : CallId}
    {settlement : PreparedSettlement}
    (h : (step d s e).phase c = some (.removing settlement)) :
    ∃ entry, (step d s e).ledger.lookup settlement.paymentId = some entry := by
  have hstep := call_step d s c e
  obtain ⟨call, hcall, hphase⟩ := phase_eq_some.1 h
  rw [hcall] at hstep
  cases hold : s.calls.lookup c with
  | none =>
      rw [hold] at hstep
      cases hstep with
      | @start request readFault =>
          obtain ⟨_, hopen⟩ := opening_settlement (congrArg Phase.settlement hphase)
          exact absurd (hopen.symm.trans hphase) (by simp)
  | some call' =>
      rw [hold] at hstep
      cases hstep with
      | same =>
          obtain ⟨entry, hentry⟩ :=
            hsound.removing c settlement (phase_eq_some.2 ⟨call, hold, hphase⟩)
          exact ledger_row_step e hentry
      | finish => exact absurd hphase (by simp)
      | answer => exact absurd hphase (by simp)
      | @record request settlement' outcome hsuccess =>
          rw [Phase.removing.injEq] at hphase
          subst hphase
          have hrecording : s.phase c = some (.recording settlement' outcome) :=
            phase_eq_some.2 ⟨_, hold, rfl⟩
          refine ⟨settlement'.ledgerEntry outcome s.now, ?_⟩
          show (s.recordCall c .none).ledger.lookup settlement'.paymentId = _
          unfold State.recordCall
          rw [hrecording]
          simp

theorem ledger_issued_step (hsound : Sound d s) (e : Event) {entry : SettlementLedgerEntry}
    (h : (step d s e).ledger.lookup paymentId = some entry) :
    ∃ row, (step d s e).issued.lookup paymentId = some row := by
  have hbefore : ∃ row, s.issued.lookup paymentId = some row := by
    rcases ledger_step d s paymentId e with
      ⟨_, ⟨c, _, settlement, outcome, -, -, hphase, rfl, -⟩, -⟩ | hrow
    · obtain ⟨call, hcall, hrecording⟩ := phase_eq_some.1 hphase
      obtain ⟨row, hrow, -⟩ := hsound.settling c call settlement hcall (by rw [hrecording]; rfl)
      exact ⟨row, hrow⟩
    · rw [hrow, Option.map_eq_some_iff] at h
      obtain ⟨entry', hentry', -⟩ := h
      exact hsound.ledger paymentId entry' hentry'
  obtain ⟨row, hrow⟩ := hbefore
  exact ⟨row, issued_step hsound e hrow⟩

theorem kept_step (hsound : Sound d s) (e : Event) {row : PreparedTxRow}
    (h : (step d s e).issued.lookup paymentId = some row) :
    (step d s e).prepared.lookup paymentId = some row ∨
      row.expiresAtUnixSeconds.toNat ≤ (step d s e).now ∨
      ∃ entry, (step d s e).ledger.lookup paymentId = some entry := by
  have hclock := (clock_step d s e).1
  rcases prepared_step d s paymentId e with
    ⟨row', -, -, hprepared, hissued⟩ | ⟨hsame, hprepared⟩
  · rw [hissued] at h
    exact .inl (hprepared.trans h)
  · rw [hsame] at h
    rcases hsound.kept paymentId row h with hheld | hexpired | ⟨entry, hentry⟩
    · rcases hprepared with heq | ⟨⟨c, _, settlement, -, -, hphase, rfl⟩, -⟩ | ⟨-, hswept⟩
      · exact .inl (heq.trans hheld)
      · obtain ⟨entry, hentry⟩ := hsound.removing c settlement hphase
        exact .inr (.inr (ledger_row_step e hentry))
      · rw [hheld] at hswept
        by_cases hlive : s.now < row.expiresAtUnixSeconds.toNat
        · left
          rw [hswept]
          simp [hlive]
        · right
          left
          omega
    · right
      left
      omega
    · exact .inr (.inr (ledger_row_step e hentry))

theorem sound_step (hsound : Sound d s) (e : Event) : Sound d (step d s e) where
  unissued _ h := unissued_step hsound e h
  waiting _ _ h := waiting_step hsound e h
  issuedBy _ _ h := issuedBy_step hsound e h
  prepared _ _ h := stored_step hsound e h
  settling _ _ _ hcall hphase := settling_step hsound e hcall hphase
  removing _ _ h := removing_step hsound e h
  ledger _ _ h := ledger_issued_step hsound e h
  kept _ _ h := kept_step hsound e h

/-- The invariant holds after every run of an empty service. -/
theorem sound_run (d : Deployment C A V) (now : Nat) (es : List Event) :
    Sound d (run (step d) (State.initial now) es) := by
  have hstep : ∀ t e, Sound d t → Sound d (step d t e) := fun _ e hsound => sound_step hsound e
  exact run_invariant hstep (sound_initial d now) es

/-- An issued row stays issued along a run. -/
theorem issued_run (hsound : Sound d s) {row : PreparedTxRow}
    (h : s.issued.lookup paymentId = some row) (es : List Event) :
    (run (step d) s es).issued.lookup paymentId = some row := by
  induction es generalizing s with
  | nil => exact h
  | cons e es ih => exact ih (sound_step hsound e) (issued_step hsound e h)

end Soundness

end Zpay.Lifecycle
