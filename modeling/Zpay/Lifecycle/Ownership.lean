import Zpay.Lifecycle.Invariant

/-!
# Whose requests move a payment

A payment belongs to the key its prepare call was authenticated with.  The v1
settle route compares that key; the x402 route asks for none, and accepts any
request that names the payment and carries a transaction for it.  Requests of
other keys, and x402 requests about other payments, cannot be noticed: two runs
that differ in them agree on everything the key owns.

## Main results

* `moves_entitled` — a step of a request that writes a payment's ledger row or
  removes its prepared row belongs to its key, or to an x402 request matching it.
* `agree_left`, `agree_both` — the unwinding conditions for the rows of one key.
* `only_entitled_requests_move` — both, over whole runs.
-/

open Zpay.Data Zpay.Core Zpay.X402 Zpay.Machine

namespace Zpay.Lifecycle

/-! ## What a key owns -/

section Ownership

variable {C A V : Type} (d : Deployment C A V) (jkt : String)

/-- The id is generated for a call of this key. -/
def Owned (paymentId : PaymentId) : Prop :=
  ∃ c : CallId, c.caller = some jkt ∧ paymentId = d.newPaymentId c

/-- The key's own requests, and the x402 requests that name a payment of it. -/
inductive Concerns (c : CallId) (request : Request) : Prop
  | own (hcaller : c.caller = some jkt)
  | x402 (hcaller : c.caller = none) (facilitatorRequest : FacilitatorRequest)
      (paymentId : PaymentId) (hrequest : request = .x402Settle facilitatorRequest)
      (hnamed : zpayPaymentId facilitatorRequest.paymentRequirements = .ok (some paymentId))
      (howned : Owned d jkt paymentId)

/-- The step is a request's, and writes the payment's ledger row or removes its
prepared row. -/
def Moves (s : State) (paymentId : PaymentId) (e : Event) : Prop :=
  (∃ entry, Records s paymentId e entry) ∨ Removes s paymentId e ∨
    e.ofCall = true ∧
      ((step d s e).ledger.lookup paymentId ≠ s.ledger.lookup paymentId ∨
        s.prepared.lookup paymentId ≠ none ∧ (step d s e).prepared.lookup paymentId = none)

variable {d jkt} {s t : State} {paymentId : PaymentId}

/-- A stored row belongs to the key it names. -/
theorem owned_iff_issued (hsound : Sound d s) {row : PreparedTxRow}
    (hissued : s.issued.lookup paymentId = some row) :
    Owned d jkt paymentId ↔ row.agentDpopJkt = jkt := by
  obtain ⟨c, hid, hcaller⟩ := hsound.issuedBy paymentId row hissued
  constructor
  · rintro ⟨c', hcaller', hid'⟩
    have hsame : c = c' := d.newPaymentId_injective (hid.symm.trans hid')
    rw [hsame, hcaller', Option.some.injEq] at hcaller
    exact hcaller.symm
  · intro hjkt
    exact ⟨c, by rw [hcaller, hjkt], hid⟩

theorem owned_iff_prepared (hsound : Sound d s) {row : PreparedTxRow}
    (hrow : s.prepared.lookup paymentId = some row) :
    Owned d jkt paymentId ↔ row.agentDpopJkt = jkt :=
  owned_iff_issued hsound (hsound.prepared paymentId row hrow)

/-! ## Entitled calls -/

/-- Moving a payment takes a write or a removal of a settle call. -/
theorem moves_cases {e : Event} (h : Moves d s paymentId e) :
    (∃ entry, Records s paymentId e entry) ∨ Removes s paymentId e := by
  rcases h with hwrites | hremoves | ⟨hcall, hledger | ⟨hheld, hgone⟩⟩
  · exact .inl hwrites
  · exact .inr hremoves
  · rcases ledger_step d s paymentId e with ⟨entry, hwrites, -⟩ | hsame
    · exact .inl ⟨entry, hwrites⟩
    · rw [rewrite_of_call hcall, Option.map_id_fun, id_eq] at hsame
      exact absurd hsame hledger
  · rcases prepared_step d s paymentId e with
      ⟨row, -, -, hrow, -⟩ | ⟨-, hsame | ⟨hremoves, -⟩ | ⟨rfl, -⟩⟩
    · rw [hrow] at hgone
      exact absurd hgone (by simp)
    · rw [hsame] at hgone
      exact absurd hgone hheld
    · exact .inr hremoves
    · exact absurd hcall (by decide)

/-- The call behind a move is entitled to settle the payment. -/
theorem moves_entitled (hsound : Sound d s) {e : Event} (h : Moves d s paymentId e) :
    ∃ c call row, e.callId = some c ∧ s.calls.lookup c = some call ∧
      s.issued.lookup paymentId = some row ∧ Entitled d c.caller call.request paymentId row := by
  have hsettling : ∃ c settlement phase, e.callId = some c ∧ s.phase c = some phase ∧
      phase.settlement = some settlement ∧ settlement.paymentId = paymentId := by
    rcases moves_cases h with ⟨_, c, _, settlement, _, rfl, -, hphase, hid, -⟩ |
      ⟨c, _, settlement, rfl, -, hphase, hid⟩
    · exact ⟨c, settlement, _, rfl, hphase, rfl, hid⟩
    · exact ⟨c, settlement, _, rfl, hphase, rfl, hid⟩
  obtain ⟨c, settlement, phase, hc, hphase, hsettlement, rfl⟩ := hsettling
  obtain ⟨call, hcall, rfl⟩ := phase_eq_some.1 hphase
  obtain ⟨row, hissued, -, hentitled⟩ := hsound.settling c call settlement hcall hsettlement
  exact ⟨c, call, row, hc, hcall, hissued, hentitled⟩

/-- A call entitled to a payment of the key concerns the key. -/
theorem concerns_of_entitled (hsound : Sound d s) {row : PreparedTxRow}
    (hissued : s.issued.lookup paymentId = some row) (howned : Owned d jkt paymentId)
    {c : CallId} {request : Request} (h : Entitled d c.caller request paymentId row) :
    Concerns d jkt c request := by
  cases h with
  | owner howner =>
      rw [(owned_iff_issued hsound hissued).1 howned] at howner
      exact .own howner
  | x402 hcaller facilitatorRequest hrequest hmatches =>
      exact .x402 hcaller facilitatorRequest paymentId hrequest hmatches.named howned

/-- A move of an owned payment belongs to a request that concerns the key. -/
theorem concerns_of_moves (hsound : Sound d s) (howned : Owned d jkt paymentId) {e : Event}
    (h : Moves d s paymentId e) :
    ∃ c call, e.callId = some c ∧ s.calls.lookup c = some call ∧
      Concerns d jkt c call.request := by
  obtain ⟨c, call, row, hc, hcall, hissued, hentitled⟩ := moves_entitled hsound h
  exact ⟨c, call, hc, hcall, concerns_of_entitled hsound hissued howned hentitled⟩

/-! ## States that agree on what the key owns -/

/-- The clock, the view and the rows of the key's payments are the same, and so
are the calls that are kept: all by request, those that concern the key also by
phase. -/
structure Agree (d : Deployment C A V) (jkt : String) (others : CallId → Bool) (s t : State) :
    Prop where
  clock : s.now = t.now
  view : s.chainStatus = t.chainStatus
  ledger : ∀ paymentId, Owned d jkt paymentId →
    s.ledger.lookup paymentId = t.ledger.lookup paymentId
  prepared : ∀ paymentId, Owned d jkt paymentId →
    s.prepared.lookup paymentId = t.prepared.lookup paymentId
  requests : ∀ c, others c = false →
    (s.calls.lookup c).map Call.request = (t.calls.lookup c).map Call.request
  calls : ∀ c call, others c = false → s.calls.lookup c = some call →
    Concerns d jkt c call.request → t.calls.lookup c = some call

variable {others : CallId → Bool}

theorem Agree.refl (s : State) : Agree d jkt others s s where
  clock := rfl
  view := rfl
  ledger _ _ := rfl
  prepared _ _ := rfl
  requests _ _ := rfl
  calls _ _ _ h _ := h

/-- A kept call is there on both sides, under the same request. -/
theorem Agree.call (h : Agree d jkt others s t) {c : CallId} (hc : others c = false) {call : Call}
    (hcall : t.calls.lookup c = some call) :
    ∃ call', s.calls.lookup c = some call' ∧ call'.request = call.request := by
  have hrequests := h.requests c hc
  rw [hcall] at hrequests
  obtain ⟨call', hcall', heq⟩ := Option.map_eq_some_iff.1 hrequests
  exact ⟨call', hcall', heq⟩

theorem Agree.symm (h : Agree d jkt others s t) : Agree d jkt others t s where
  clock := h.clock.symm
  view := h.view.symm
  ledger paymentId howned := (h.ledger paymentId howned).symm
  prepared paymentId howned := (h.prepared paymentId howned).symm
  requests c hc := (h.requests c hc).symm
  calls c call hc hcall hconcerns := by
    obtain ⟨call', hcall', heq⟩ := h.call hc hcall
    have hsame := h.calls c call' hc hcall' (heq ▸ hconcerns)
    rw [hcall, Option.some.injEq] at hsame
    rw [hcall', hsame]

/-! ### Steps one side does not notice -/

/-- No call changes its request. -/
theorem request_step (d : Deployment C A V) (s : State) {c : CallId} {e : Event}
    (hstart : ∀ request readFault, e ≠ .start c request readFault) :
    ((step d s e).calls.lookup c).map Call.request = (s.calls.lookup c).map Call.request := by
  have hstep := call_step d s c e
  generalize s.calls.lookup c = old at hstep
  generalize (step d s e).calls.lookup c = new at hstep
  cases hstep with
  | same => rfl
  | finish => rfl
  | start => exact absurd rfl (hstart _ _)
  | answer => rfl
  | record => rfl

/-- A step of one call leaves the others where they are. -/
theorem calls_step_of_other (d : Deployment C A V) (s : State) {c other : CallId} {e : Event}
    (he : e.callId = some c) (hother : other ≠ c) :
    (step d s e).calls.lookup other = s.calls.lookup other := by
  have hstep := call_step d s other e
  generalize s.calls.lookup other = old at hstep
  generalize (step d s e).calls.lookup other = new at hstep
  cases hstep with
  | same => rfl
  | @finish _ call hends =>
      exfalso
      generalize call.phase = phase at hends
      cases hends with
      | crash => exact absurd he (by simp [Event.callId])
      | _ => exact hother (Option.some.inj he)
  | start => exact absurd (Option.some.inj he) hother
  | answer => exact absurd (Option.some.inj he) hother
  | record => exact absurd (Option.some.inj he) hother

/-- A step of a request that does not concern the key changes nothing of it. -/
theorem agree_left (hsound : Sound d s) (h : Agree d jkt others s t) {e : Event} {c : CallId}
    (he : e.callId = some c)
    (hcalls : ∀ call, s.calls.lookup c = some call → ¬ Concerns d jkt c call.request)
    (hstart : others c = false → ∀ request readFault, e ≠ .start c request readFault) :
    Agree d jkt others (step d s e) t := by
  have hcall : e.ofCall = true := by
    rw [Event.ofCall, he]
    rfl
  have hstill : ∀ paymentId, Owned d jkt paymentId → ¬ Moves d s paymentId e := by
    intro paymentId howned hmoves
    obtain ⟨c', call, hc', hcall', hconcerns⟩ := concerns_of_moves hsound howned hmoves
    have hsame : c = c' := Option.some.inj (he.symm.trans hc')
    subst hsame
    exact hcalls call hcall' hconcerns
  have hrequests : ∀ c', others c' = false →
      ((step d s e).calls.lookup c').map Call.request =
        (s.calls.lookup c').map Call.request := by
    intro c' hc'
    refine request_step d s ?_
    rintro request readFault rfl
    have hsame : c' = c := Option.some.inj he
    subst hsame
    exact hstart hc' request readFault rfl
  refine ⟨?_, ?_, ?_, ?_, ?_, ?_⟩
  · rw [(clock_step d s e).1, h.clock]
    cases e with
    | tick => exact absurd hcall (by simp [Event.ofCall, Event.callId])
    | _ => rfl
  · rw [(clock_step d s e).2, h.view]
    cases e with
    | crash | storeView => exact absurd hcall (by simp [Event.ofCall, Event.callId])
    | _ => rfl
  · intro paymentId howned
    rw [← h.ledger paymentId howned]
    by_contra hchanged
    exact hstill paymentId howned (.inr (.inr ⟨hcall, .inl hchanged⟩))
  · intro paymentId howned
    rw [← h.prepared paymentId howned]
    rcases prepared_step d s paymentId e with
      ⟨_, ⟨c', _, _, request, _, rfl, hphase, hid, -⟩, -⟩ | ⟨-, hsame | ⟨hremoves, -⟩ | ⟨rfl, -⟩⟩
    · -- the new row belongs to the key of the call
      obtain ⟨c₀, hcaller, hid₀⟩ := howned
      have hsame : c' = c := Option.some.inj he
      have howner : c' = c₀ := d.newPaymentId_injective (hid.symm.trans hid₀)
      rw [← howner, hsame] at hcaller
      rw [hsame] at hphase
      obtain ⟨call, hcall', -⟩ := phase_eq_some.1 hphase
      exact absurd (.own hcaller) (hcalls call hcall')
    · exact hsame
    · exact absurd (.inr (.inl hremoves)) (hstill paymentId howned)
    · exact absurd hcall (by decide)
  · intro c' hc'
    rw [hrequests c' hc']
    exact h.requests c' hc'
  · intro c' call hc' hcall' hconcerns
    by_cases hsame : c' = c
    · subst hsame
      have hbefore := hrequests c' hc'
      rw [hcall'] at hbefore
      obtain ⟨call', hold, hrequest⟩ := Option.map_eq_some_iff.1 hbefore.symm
      rw [← hrequest] at hconcerns
      exact absurd hconcerns (hcalls call' hold)
    · rw [calls_step_of_other d s he hsame] at hcall'
      exact h.calls c' call hc' hcall' hconcerns

/-! ### Steps both sides take -/

theorem agree_setPhase (h : Agree d jkt others s t) (c : CallId) (phase : Phase) :
    Agree d jkt others (s.setPhase c phase) (t.setPhase c phase) where
  clock := h.clock
  view := h.view
  ledger := h.ledger
  prepared := h.prepared
  requests c' hc' := by
    have hsame := h.requests c' hc'
    rw [lookup_calls_setPhase, lookup_calls_setPhase]
    by_cases hc : c' = c
    · subst hc
      rw [if_pos rfl, if_pos rfl, Option.map_map, Option.map_map]
      exact hsame
    · rw [if_neg hc, if_neg hc]
      exact hsame
  calls c' call hc' hcall hconcerns := by
    rw [lookup_calls_setPhase] at hcall ⊢
    by_cases hc : c' = c
    · subst hc
      rw [if_pos rfl, Option.map_eq_some_iff] at hcall
      obtain ⟨call', hold, rfl⟩ := hcall
      rw [if_pos rfl, h.calls c' call' hc' hold hconcerns]
      rfl
    · rw [if_neg hc] at hcall ⊢
      exact h.calls c' call hc' hcall hconcerns

/-- Idempotency keys are scoped by the caller. -/
theorem conflicts_agree (hs : Sound d s) (ht : Sound d t) (h : Agree d jkt others s t)
    (paymentId : PaymentId) {row : PreparedTxRow} (hrow : row.agentDpopJkt = jkt) :
    s.prepared.conflicts paymentId row = t.prepared.conflicts paymentId row := by
  rw [Bool.eq_iff_iff, conflicts_iff, conflicts_iff]
  refine and_congr_right fun _ => ?_
  constructor
  · rintro ⟨other, held, hheld, hne, hjkt, hkey⟩
    have howned : Owned d jkt other := (owned_iff_prepared hs hheld).2 (hjkt.trans hrow)
    exact ⟨other, held, (h.prepared other howned).symm.trans hheld, hne, hjkt, hkey⟩
  · rintro ⟨other, held, hheld, hne, hjkt, hkey⟩
    have howned : Owned d jkt other := (owned_iff_prepared ht hheld).2 (hjkt.trans hrow)
    exact ⟨other, held, (h.prepared other howned).trans hheld, hne, hjkt, hkey⟩

theorem replay_agree (hs : Sound d s) (ht : Sound d t) (h : Agree d jkt others s t)
    (request : PrepareRequest) :
    (proposeReplay s.prepared request jkt).isSome =
      (proposeReplay t.prepared request jkt).isSome := by
  unfold proposeReplay
  cases usableKey request with
  | none => rfl
  | some key =>
      rw [Option.isSome_map, Option.isSome_map, Option.bind_some, Option.bind_some,
        Bool.eq_iff_iff, find_by_idempotency_isSome,
        find_by_idempotency_isSome]
      constructor
      · rintro ⟨other, row, hrow, hjkt, hkey⟩
        have howned : Owned d jkt other := (owned_iff_prepared hs hrow).2 hjkt
        exact ⟨other, row, (h.prepared other howned).symm.trans hrow, hjkt, hkey⟩
      · rintro ⟨other, row, hrow, hjkt, hkey⟩
        have howned : Owned d jkt other := (owned_iff_prepared ht hrow).2 hjkt
        exact ⟨other, row, (h.prepared other howned).trans hrow, hjkt, hkey⟩

/-- A key settles no payment of another. -/
theorem opening_of_foreign (hsound : Sound d s) {request : SettleRequest}
    {readFault : Option StoreError} (hforeign : ¬ Owned d jkt request.paymentId) :
    opening d s (some jkt) (.settle request) readFault = .finished := by
  unfold opening
  cases hpassed : admitSettlement d.parseTransactionExpiryHeight request jkt
      (s.find readFault request.paymentId) with
  | error reason => simp only [hpassed]
  | ok admitted =>
      obtain ⟨settlement, rawTxBytes⟩ := admitted
      obtain ⟨entry, hfound, hjkt, -⟩ := admit_settlement_ok hpassed
      obtain ⟨row, hrow, rfl⟩ := find_eq_ok hfound
      exact absurd ((owned_iff_prepared hsound hrow).2 hjkt) hforeign

theorem find_agree (h : Agree d jkt others s t) (howned : Owned d jkt paymentId)
    (readFault : Option StoreError) :
    s.find readFault paymentId = t.find readFault paymentId := by
  unfold State.find PreparedTxStore.findByPaymentId
  rw [h.prepared paymentId howned]

/-- The gates of a request that concerns the key read only what it owns. -/
theorem opening_agree (hs : Sound d s) (ht : Sound d t) (h : Agree d jkt others s t)
    {c : CallId} {request : Request} (hconcerns : Concerns d jkt c request)
    (readFault : Option StoreError) :
    opening d s c.caller request readFault = opening d t c.caller request readFault := by
  cases hconcerns with
  | own hcaller =>
      rw [hcaller]
      cases request with
      | prepare request =>
          simp only [opening]
          rw [replay_agree hs ht h request]
      | settle request =>
          by_cases howned : Owned d jkt request.paymentId
          · simp only [opening]
            rw [find_agree h howned readFault]
          · rw [opening_of_foreign hs howned, opening_of_foreign ht howned]
      | x402Settle request => rfl
  | x402 hcaller facilitatorRequest paymentId hrequest hnamed howned =>
      subst hrequest
      rw [hcaller]
      simp only [opening]
      rw [x402_settle_gates_congr hnamed (find_agree h howned readFault)]

theorem agree_startCall (hs : Sound d s) (ht : Sound d t) (h : Agree d jkt others s t)
    {c : CallId} (hc : others c = false) (request : Request) (readFault : Option StoreError) :
    Agree d jkt others (s.startCall d c request readFault) (t.startCall d c request readFault) := by
  have hrequests := h.requests c hc
  unfold State.startCall
  cases hold : s.calls.lookup c with
  | some call =>
      rw [hold, Option.map_some] at hrequests
      obtain ⟨call', hcall', -⟩ := Option.map_eq_some_iff.1 hrequests.symm
      rw [hcall']
      exact h
  | none =>
      rw [hold, Option.map_none] at hrequests
      rw [Option.map_eq_none_iff.1 hrequests.symm]
      refine { h with requests := ?_, calls := ?_ }
      · intro c' hc'
        by_cases hsame : c' = c
        · subst hsame
          rw [AList.lookup_insert, AList.lookup_insert]
          rfl
        · rw [AList.lookup_insert_ne hsame, AList.lookup_insert_ne hsame]
          exact h.requests c' hc'
      · intro c' call hc' hcall hconcerns
        by_cases hsame : c' = c
        · subst hsame
          rw [AList.lookup_insert, Option.some.injEq] at hcall
          subst hcall
          rw [AList.lookup_insert, opening_agree hs ht h hconcerns readFault]
        · rw [AList.lookup_insert_ne hsame] at hcall ⊢
          exact h.calls c' call hc' hcall hconcerns

theorem agree_insertPrepared (hs : Sound d s) (ht : Sound d t) (h : Agree d jkt others s t)
    {c : CallId} (hcaller : c.caller = some jkt) (request : PrepareRequest)
    (tip : Except TipError UInt32) (fault : Fault) :
    Agree d jkt others (s.insertPrepared d c request tip fault)
      (t.insertPrepared d c request tip fault) := by
  unfold State.insertPrepared
  rw [h.clock]
  split
  · exact h
  · next entry hentry =>
      have hjkt : entry.toRow.agentDpopJkt = jkt := by
        show entry.agentDpopJkt = jkt
        rw [(compose_entry_payment_id hentry).2.1, hcaller]
        rfl
      have hconflicts := conflicts_agree hs ht h entry.preparation.paymentId hjkt
      have hinsert : (PreparedTxStore.insert d.sqlTexts s.prepared entry).1 =
            (PreparedTxStore.insert d.sqlTexts t.prepared entry).1 ∧
          ∀ other, Owned d jkt other →
            (PreparedTxStore.insert d.sqlTexts s.prepared entry).2.lookup other =
              (PreparedTxStore.insert d.sqlTexts t.prepared entry).2.lookup other := by
        unfold PreparedTxStore.insert
        rw [hconflicts]
        split
        · exact ⟨rfl, h.prepared⟩
        · split
          · exact ⟨rfl, h.prepared⟩
          · split
            · exact ⟨rfl, h.prepared⟩
            · refine ⟨rfl, ?_⟩
              intro other howned
              rw [Table.lookup_insert_eq, Table.lookup_insert_eq, h.prepared other howned]
      obtain ⟨hanswer, hrows⟩ := hinsert
      cases hleft : PreparedTxStore.insert d.sqlTexts s.prepared entry with
      | mk answer store =>
          cases hright : PreparedTxStore.insert d.sqlTexts t.prepared entry with
          | mk answer' store' =>
              rw [hleft, hright] at hanswer hrows
              subst hanswer
              cases answer with
              | error err => cases fault <;> exact h
              | ok _ =>
                  cases fault with
                  | lost => exact h
                  | none => exact ⟨rfl, h.view, h.ledger, hrows, h.requests, h.calls⟩
                  | unacknowledged => exact ⟨rfl, h.view, h.ledger, hrows, h.requests, h.calls⟩

section SamePhase

variable {c : CallId} {phase : Option Phase}

/-- The write of a prepare, of an agent that has the key. -/
theorem agree_tipCall (hs : Sound d s) (ht : Sound d t) (h : Agree d jkt others s t)
    (hleft : s.phase c = phase) (hright : t.phase c = phase)
    (hcaller : ∀ request, s.phase c = some (.awaitingTip request) → c.caller = some jkt)
    (tip : Except TipError UInt32) (fault : Fault) :
    Agree d jkt others (s.tipCall d c tip fault) (t.tipCall d c tip fault) := by
  unfold State.tipCall
  rw [hleft] at hcaller ⊢
  rw [hright]
  split
  · next request =>
      exact agree_setPhase (agree_insertPrepared hs ht h (hcaller request rfl) request tip fault)
        c _
  · exact h

theorem agree_answerCall (h : Agree d jkt others s t) (hleft : s.phase c = phase)
    (hright : t.phase c = phase) (answer : Except String SubmitOutcome) :
    Agree d jkt others (s.answerCall c answer) (t.answerCall c answer) := by
  unfold State.answerCall
  rw [hleft, hright]
  split
  · exact agree_setPhase h c _
  · exact h

/-- The ledger write of a settle call. -/
theorem agree_recordCall (h : Agree d jkt others s t) (hleft : s.phase c = phase)
    (hright : t.phase c = phase) (fault : Fault) :
    Agree d jkt others (s.recordCall c fault) (t.recordCall c fault) := by
  unfold State.recordCall
  rw [hleft, hright]
  split
  · next settlement outcome =>
      refine agree_setPhase ?_ c _
      refine { h with ledger := ?_ }
      intro paymentId howned
      by_cases hlost : fault = .lost
      · rw [if_pos hlost, if_pos hlost]
        exact h.ledger paymentId howned
      · rw [if_neg hlost, if_neg hlost, SettlementLedger.lookup_record,
          SettlementLedger.lookup_record, h.clock, h.ledger paymentId howned]
  · exact h

/-- The removal of a prepared row. -/
theorem agree_removeCall (h : Agree d jkt others s t) (hleft : s.phase c = phase)
    (hright : t.phase c = phase) (fault : Fault) :
    Agree d jkt others (s.removeCall c fault) (t.removeCall c fault) := by
  unfold State.removeCall
  rw [hleft, hright]
  split
  · next settlement =>
      refine agree_setPhase ?_ c _
      refine { h with prepared := ?_ }
      intro paymentId howned
      by_cases hlost : fault = .lost
      · rw [if_pos hlost, if_pos hlost]
        exact h.prepared paymentId howned
      · rw [if_neg hlost, if_neg hlost, lookup_remove_prepared, lookup_remove_prepared,
          h.prepared paymentId howned]
  · exact h

end SamePhase

/-- A step of a call that is suspended in the same phase on both sides. -/
theorem agree_handler (hs : Sound d s) (ht : Sound d t) (h : Agree d jkt others s t) {e : Event}
    {c : CallId} (he : e.callId = some c) {call : Call} (hc : others c = false)
    (hleft : s.calls.lookup c = some call) (hconcerns : Concerns d jkt c call.request)
    (hright : t.calls.lookup c = some call) :
    Agree d jkt others (step d s e) (step d t e) := by
  have hphase : t.phase c = s.phase c := by rw [State.phase, State.phase, hleft, hright]
  cases e with
  | start c' request readFault =>
      cases he
      exact agree_startCall hs ht h hc request readFault
  | tip c' tip fault =>
      cases he
      refine agree_tipCall hs ht h rfl hphase (fun request hwaiting => ?_) tip fault
      obtain ⟨jkt', hjkt'⟩ := hs.waiting c request hwaiting
      cases hconcerns with
      | own hcaller => exact hcaller
      | x402 hcaller => exact absurd (hcaller.symm.trans hjkt') (by simp)
  | answer c' answer =>
      cases he
      exact agree_answerCall h rfl hphase answer
  | record c' fault =>
      cases he
      exact agree_recordCall h rfl hphase fault
  | remove c' fault =>
      cases he
      exact agree_removeCall h rfl hphase fault
  | drop c' => exact agree_setPhase h c' .finished
  | _ => exact absurd he (by simp [Event.callId])

/-- A step of a background task, or a restart. -/
theorem agree_background (h : Agree d jkt others s t) {e : Event} (he : e.callId = none) :
    Agree d jkt others (step d s e) (step d t e) := by
  cases e with
  | tick seconds =>
      exact { h with clock := congrArg (· + seconds) h.clock }
  | crash =>
      refine { h with view := rfl, requests := ?_, calls := ?_ }
      · intro c hc
        have hsame := h.requests c hc
        show ((Table.mapRows s.calls _).lookup c).map _ = ((Table.mapRows t.calls _).lookup c).map _
        rw [Table.lookup_mapRows, Table.lookup_mapRows, Option.map_map, Option.map_map]
        exact hsame
      · intro c call hc hcall hconcerns
        show (Table.mapRows t.calls _).lookup c = some call
        have hcall' : (Table.mapRows s.calls _).lookup c = some call := hcall
        rw [Table.lookup_mapRows, Option.map_eq_some_iff] at hcall'
        obtain ⟨call', hold, rfl⟩ := hcall'
        rw [Table.lookup_mapRows, h.calls c call' hc hold hconcerns]
        rfl
  | sweep =>
      refine { h with prepared := ?_ }
      intro paymentId howned
      show (PreparedTxStore.sweepExpired s.prepared s.now).lookup paymentId =
        (PreparedTxStore.sweepExpired t.prepared t.now).lookup paymentId
      rw [lookup_sweep_prepared, lookup_sweep_prepared, h.prepared paymentId howned, h.clock]
  | recordConfirmation other count height =>
      refine { h with ledger := ?_ }
      intro paymentId howned
      show (s.ledger.recordConfirmation other count height).lookup paymentId =
        (t.ledger.recordConfirmation other count height).lookup paymentId
      rw [SettlementLedger.lookup_record_confirmation, SettlementLedger.lookup_record_confirmation]
      by_cases hid : paymentId = other
      · rw [if_pos hid, if_pos hid, ← hid, h.ledger paymentId howned]
      · rw [if_neg hid, if_neg hid, h.ledger paymentId howned]
  | downgradeOnReorg other =>
      refine { h with ledger := ?_ }
      intro paymentId howned
      show (s.ledger.downgradeOnReorg other s.now).lookup paymentId =
        (t.ledger.downgradeOnReorg other t.now).lookup paymentId
      rw [SettlementLedger.lookup_downgrade_on_reorg, SettlementLedger.lookup_downgrade_on_reorg]
      by_cases hid : paymentId = other
      · rw [if_pos hid, if_pos hid, ← hid, h.ledger paymentId howned, h.clock]
      · rw [if_neg hid, if_neg hid, h.ledger paymentId howned]
  | downgradeReorgedRange startHeight endHeight =>
      refine { h with ledger := ?_ }
      intro paymentId howned
      show (s.ledger.downgradeReorgedRange startHeight endHeight s.now).lookup paymentId =
        (t.ledger.downgradeReorgedRange startHeight endHeight t.now).lookup paymentId
      rw [SettlementLedger.lookup_downgrade_reorged_range,
        SettlementLedger.lookup_downgrade_reorged_range, h.ledger paymentId howned, h.clock]
  | storeView visible settled => exact { h with view := rfl }
  | _ => exact absurd he (by simp [Event.callId])

/-- Two agreeing states still agree after both have taken a kept step. -/
theorem agree_both (hs : Sound d s) (ht : Sound d t) (h : Agree d jkt others s t) {e : Event}
    (hkept : ∀ c, e.callId = some c → others c = false) :
    Agree d jkt others (step d s e) (step d t e) := by
  cases he : e.callId with
  | none => exact agree_background h he
  | some c =>
      have hc := hkept c he
      by_cases hstart : ∃ request readFault, e = .start c request readFault
      · obtain ⟨request, readFault, rfl⟩ := hstart
        exact agree_startCall hs ht h hc request readFault
      · have hnot : ∀ request readFault, e ≠ .start c request readFault :=
          fun request readFault heq => hstart ⟨request, readFault, heq⟩
        by_cases hconcerned : ∃ call, s.calls.lookup c = some call ∧
            Concerns d jkt c call.request
        · obtain ⟨call, hcall, hconcerns⟩ := hconcerned
          exact agree_handler hs ht h he hc hcall hconcerns
            (h.calls c call hc hcall hconcerns)
        · -- neither side notices a call that does not concern the key
          have hleft := agree_left hs h he
            (fun call hcall hconcerns => hconcerned ⟨call, hcall, hconcerns⟩) fun _ => hnot
          refine (agree_left ht hleft.symm he ?_ fun _ => hnot).symm
          intro call hcall hconcerns
          obtain ⟨call', hcall', heq⟩ := h.call hc hcall
          exact hconcerned ⟨call', hcall', heq ▸ hconcerns⟩

/-! ## Whole runs -/

/-- The steps that are left when the calls in `others` are deleted. -/
def keeps (others : CallId → Bool) (e : Event) : Bool := e.callId.all fun c => !others c

/-- Calls in `others` that have started do not concern the key. -/
def Strangers (d : Deployment C A V) (jkt : String) (others : CallId → Bool) (s : State) : Prop :=
  ∀ c call, others c = true → s.calls.lookup c = some call → ¬ Concerns d jkt c call.request

theorem strangers_step (h : Strangers d jkt others s) {e : Event}
    (hstart : ∀ c request readFault, e = .start c request readFault → others c = true →
      ¬ Concerns d jkt c request) : Strangers d jkt others (step d s e) := by
  intro c call hc hcall hconcerns
  have hstep := call_step d s c e
  rw [hcall] at hstep
  generalize hold : s.calls.lookup c = old at hstep
  cases hstep with
  | same => exact h c call hc hold hconcerns
  | finish => exact h c _ hc hold hconcerns
  | start => exact hstart c _ _ rfl hc hconcerns
  | answer => exact h c _ hc hold hconcerns
  | record => exact h c _ hc hold hconcerns

/-- Deleting calls that do not concern the key from a run leaves agreeing
states. -/
theorem agree_purged (now : Nat) (es : List Event)
    (hothers : ∀ c request readFault, .start c request readFault ∈ es → others c = true →
      ¬ Concerns d jkt c request) :
    Agree d jkt others (run (step d) (State.initial now) es)
      (run (step d) (State.initial now) (es.filter (keeps others))) := by
  have hkeep : ∀ e ∈ es, keeps others e = true → ∀ s t,
      Sound d s ∧ Sound d t ∧ Strangers d jkt others s ∧ Agree d jkt others s t →
      Sound d (step d s e) ∧ Sound d (step d t e) ∧ Strangers d jkt others (step d s e) ∧
        Agree d jkt others (step d s e) (step d t e) := by
    rintro e hmem hkeeps s t ⟨hs, ht, hstrangers, hagree⟩
    refine ⟨sound_step hs e, sound_step ht e, strangers_step hstrangers ?_,
      agree_both hs ht hagree ?_⟩
    · rintro c request readFault rfl
      exact hothers c request readFault hmem
    · intro c hc
      rw [keeps, hc] at hkeeps
      simpa using hkeeps
  have hdrop : ∀ e ∈ es, keeps others e = false → ∀ s t,
      Sound d s ∧ Sound d t ∧ Strangers d jkt others s ∧ Agree d jkt others s t →
      Sound d (step d s e) ∧ Sound d t ∧ Strangers d jkt others (step d s e) ∧
        Agree d jkt others (step d s e) t := by
    rintro e hmem hkeeps s t ⟨hs, ht, hstrangers, hagree⟩
    refine ⟨sound_step hs e, ht, strangers_step hstrangers ?_, ?_⟩
    · rintro c request readFault rfl
      exact hothers c request readFault hmem
    · cases hc : e.callId with
      | none =>
          rw [keeps, hc] at hkeeps
          exact absurd hkeeps (by simp)
      | some c =>
          have hother : others c = true := by
            rw [keeps, hc] at hkeeps
            simpa using hkeeps
          refine agree_left hs hagree hc (fun call hcall => hstrangers c call hother hcall) ?_
          intro hkept
          rw [hother] at hkept
          exact absurd hkept (by decide)
  have hstrangers : Strangers d jkt others (State.initial now) := by
    intro c call _ hcall
    exact absurd hcall (by simp [State.initial])
  exact (run_purge hkeep hdrop ⟨sound_initial d now, sound_initial d now, hstrangers,
    Agree.refl _⟩).2.2.2

/-- A payment is moved only by requests of the key it was prepared under, and by
x402 requests that match its row; and the deletion of any requests that are
neither the key's nor x402 requests naming a payment of it leaves every lookup of
the payment as it was. -/
theorem only_entitled_requests_move (d : Deployment C A V) (jkt : String) (now : Nat)
    (es : List Event) {row : PreparedTxRow}
    (hissued : (run (step d) (State.initial now) es).issued.lookup paymentId = some row)
    (hjkt : row.agentDpopJkt = jkt) :
    (∀ before after e, es = before ++ e :: after →
      Moves d (run (step d) (State.initial now) before) paymentId e →
      ∃ c call, e.callId = some c ∧
        (run (step d) (State.initial now) before).calls.lookup c = some call ∧
        (c.caller = some jkt ∨ c.caller = none ∧ ∃ facilitatorRequest,
          call.request = .x402Settle facilitatorRequest ∧
          MatchesRow d facilitatorRequest paymentId row)) ∧
    ∀ others : CallId → Bool,
      (∀ c request readFault, .start c request readFault ∈ es → others c = true →
        ¬ Concerns d jkt c request) →
      ∀ i j k, lookupAcross d paymentId
          (run (step d) (State.initial now) (es.take i))
          (run (step d) (State.initial now) (es.take j))
          (run (step d) (State.initial now) (es.take k)) =
        lookupAcross d paymentId
          (run (step d) (State.initial now) ((es.take i).filter (keeps others)))
          (run (step d) (State.initial now) ((es.take j).filter (keeps others)))
          (run (step d) (State.initial now) ((es.take k).filter (keeps others))) := by
  constructor
  · rintro before after e rfl hmoves
    have hsound := sound_run d now before
    obtain ⟨c, call, row', hc, hcall, hissued', hentitled⟩ := moves_entitled hsound hmoves
    have hrow : row' = row := by
      have hlater := issued_run hsound hissued' (e :: after)
      rw [← run_append, hissued, Option.some.injEq] at hlater
      exact hlater.symm
    subst hrow
    refine ⟨c, call, hc, hcall, ?_⟩
    cases hentitled with
    | owner howner => exact .inl (howner.trans (congrArg some hjkt))
    | x402 hcaller facilitatorRequest hrequest hmatches =>
        exact .inr ⟨hcaller, facilitatorRequest, hrequest, hmatches⟩
  · intro others hothers i j k
    have howned : Owned d jkt paymentId := (owned_iff_issued (sound_run d now es) hissued).2 hjkt
    have hagree : ∀ n, Agree d jkt others (run (step d) (State.initial now) (es.take n))
        (run (step d) (State.initial now) ((es.take n).filter (keeps others))) := by
      intro n
      refine agree_purged now (es.take n) ?_
      intro c request readFault hmem
      exact hothers c request readFault (List.mem_of_mem_take hmem)
    unfold lookupAcross
    rw [(hagree i).view, (hagree k).clock]
    exact lookup_payment_status_congr ((hagree j).ledger paymentId howned)
      ((hagree k).prepared paymentId howned)

end Ownership

/-! ### A rival's call, and an x402 request that matches -/

/-- A lookup of the sample payment at the end of a run. -/
def lookupAfter (es : List Event) : PaymentStatusSnapshot :=
  let s := run (step sampleDeployment) (State.initial 0) es
  lookupAcross sampleDeployment samplePayment s s s

/-- Another key tries to settle the sample payment before its owner does. -/
def rivalCall : CallId := { caller := some "b", number := 1 }

def rivalRun : List Event :=
  prepareEvents ++
    [.start rivalCall (.settle { paymentId := samplePayment, rawTxHex := "28" }) none,
      settleStart 1, .answer rivalCall (.ok (.accepted "t2")),
      .answer (ownerCall 1) (.ok (.accepted "t1")), .record (ownerCall 1) .none]

theorem only_entitled_requests_move_sample :
    lookupAfter (rivalRun.take 7) =
      lookupAfter ((rivalRun.take 7).filter (keeps (· == rivalCall))) := by
  have hissued : ∃ row, (run (step sampleDeployment) (State.initial 0) rivalRun).issued.lookup
      samplePayment = some row ∧ row.agentDpopJkt = "a" :=
    ⟨_, rfl, by decide⟩
  obtain ⟨row, hrow, hjkt⟩ := hissued
  refine (only_entitled_requests_move sampleDeployment "a" 0 rivalRun hrow hjkt).2 _ ?_ 7 7 7
  intro c request readFault _ hother hconcerns
  have hrival : c = rivalCall := by simpa using hother
  subst hrival
  cases hconcerns with
  | own hcaller => exact absurd hcaller (by decide)
  | x402 hcaller => exact absurd hcaller (by decide)

/-- An unauthenticated request that names the sample payment. -/
def anonymousCall : CallId := { caller := none, number := 1 }

def matchingRequirements : PaymentRequirements :=
  { sampleRequirements with extra := .ofList [("zpayPaymentId", .string samplePayment.value)] }

def matchingRequest : FacilitatorRequest :=
  { sampleFacilitatorRequest with
    paymentPayload :=
      { sampleFacilitatorRequest.paymentPayload with accepted := matchingRequirements }
    paymentRequirements := matchingRequirements }

def anonymousRun : List Event :=
  prepareEvents ++
    [.start anonymousCall (.x402Settle matchingRequest) none,
      .answer anonymousCall (.ok (.rejected (.other "Unknown") "conflict"))]

/-- A request without any key writes the ledger row of a payment prepared under
the key `a`, and so changes what a lookup of it returns. -/
theorem anonymous_request_moves_payment :
    (∃ row, (run (step sampleDeployment) (State.initial 0) anonymousRun).issued.lookup
        samplePayment = some row ∧ row.agentDpopJkt = "a") ∧
      Moves sampleDeployment (run (step sampleDeployment) (State.initial 0) anonymousRun)
        samplePayment (.record anonymousCall .none) ∧
      anonymousCall.caller ≠ some "a" ∧
      (lookupAfter (anonymousRun ++ [Event.record anonymousCall .none])).status = .failed ∧
      (lookupAfter ((anonymousRun ++ [Event.record anonymousCall .none]).filter
        (keeps (· == anonymousCall)))).status = .awaiting := by
  refine ⟨⟨_, rfl, by decide⟩, ?_, by decide, by decide, by decide⟩
  have hphase : (run (step sampleDeployment) (State.initial 0) anonymousRun).phase anonymousCall =
      some (.recording
        { paymentId := samplePayment, expiryHeight := 4047100, payeeId := ⟨"p"⟩, amountZat := 5 }
        (.fromSubmitOutcome (.rejected (.other "Unknown") "conflict"))) := by decide
  exact .inl ⟨_, anonymousCall, .none, _, _, rfl, by decide, hphase, rfl, rfl⟩

end Zpay.Lifecycle
