import Zpay.Lifecycle.Idempotency

/-!
# What a replayed preparation is

`propose` as one call on a store that any number of calls, removals and sweeps have left
behind.  A replay is chosen by the agent and the key alone: the source's comment says that
it returns the original preparation verbatim, and it does, whatever else the request says.

## Main results

* `propose_undisturbed` — the steps of a call nobody interrupts are the one call.
* `made_step` — every row composed was composed for the request of its call.
* `propose_prepares` — what the answer is: a fresh row for this request, or the row an
  earlier request of the agent left under the key.
* `replay_for_another_payee` — the earlier request is another one.
-/

open Zpay.Data Zpay.Core Zpay.Machine

namespace Zpay.Lifecycle.Idempotency

/-! ## The call -/

section Call

variable {σ : Type} (b : PreparedTxBackend σ) (config : Config)

/-- How the store calls of one `propose` fail. -/
structure ProposeFaults where
  read : Option StoreError
  insert : Fault
  insertError : StoreError

/-- The replay lookup; a request without a usable key makes none. -/
def proposeLookup (faults : ProposeFaults) (request : PrepareRequest) (jkt : String)
    (store : σ) : Except StoreError (Option PreparedTxEntry) :=
  match usableKey request with
  | none => .ok none
  | some key =>
      match faults.read with
      | some err => .error err
      | none => .ok (b.findByIdempotency store jkt key)

def propose (faults : ProposeFaults) (request : PrepareRequest) (jkt : String)
    (paymentId : PaymentId) (tip : Except TipError UInt32) (nowUnixSeconds : UInt64)
    (store : σ) : Except PrepareError Preparation × σ :=
  match proposeLookup b faults request jkt store with
  | .error err => (.error (.storage err), store)
  | .ok (some prior) => (.ok prior.preparation, store)
  | .ok none =>
      match composeEntry config.sha256 config.registry request jkt paymentId tip
        nowUnixSeconds with
      | .error err => (.error err, store)
      | .ok entry =>
          match faults.insert.apply faults.insertError store (b.insert store entry) with
          | (.error err, store) => (.error (.storage err), store)
          | (.ok _, store) => (.ok entry.preparation, store)

/-- The first step of a call of the machine, in these terms. -/
theorem opening_lookup {b : PreparedTxBackend σ} {faults : ProposeFaults} {s : State σ}
    {request : PrepareRequest} {jkt : String} :
    opening b s request jkt faults.read =
      match proposeLookup b faults request jkt s.store with
      | .error err => .finished (.error (.storage err))
      | .ok (some prior) => .finished (.ok prior)
      | .ok none => .awaitingTip := by
  unfold opening proposeLookup
  cases usableKey request with
  | none => rfl
  | some key =>
      cases faults.read with
      | some err => rfl
      | none =>
          simp only
          cases b.findByIdempotency s.store jkt key <;> rfl

/-- A finished call is left alone. -/
theorem tip_insert_finished {b : PreparedTxBackend σ} {config : Config} {s : State σ} {c : Nat}
    {call : Call} {result : Except PrepareError PreparedTxEntry}
    (hcall : s.calls.lookup c = some call) (hphase : call.phase = .finished result)
    (tip : Except TipError UInt32) (fault : Fault) (err : StoreError) :
    (s.tipCall config c tip).insertCall b c fault err = s := by
  obtain ⟨request, jkt, phase⟩ := call
  cases hphase
  have htip : s.tipCall config c tip = s := by
    unfold State.tipCall
    rw [hcall]
  rw [htip]
  unfold State.insertCall
  rw [hcall]

/-- The steps of a call nobody interrupts leave in the store what the call leaves. -/
theorem propose_undisturbed {b : PreparedTxBackend σ} {config : Config} {s : State σ} {c : Nat}
    (hfresh : s.calls.lookup c = none) (faults : ProposeFaults) (request : PrepareRequest)
    (jkt : String) (tip : Except TipError UInt32) :
    (run (step b config) s [.start c request jkt faults.read, .tip c tip,
      .insert c faults.insert faults.insertError]).store =
      (propose b config faults request jkt (config.newPaymentId c) tip (.ofNat s.now)
        s.store).2 := by
  let call : Call := { request, jkt, phase := opening b s request jkt faults.read }
  let s₁ := s.setCall c call
  have hstart : s.startCall b c request jkt faults.read = s₁ := by
    unfold State.startCall
    rw [hfresh]
  have hcall : s₁.calls.lookup c = some call := (lookup_setCall c c call).trans (if_pos rfl)
  show (((s.startCall b c request jkt faults.read).tipCall config c tip).insertCall b c
    faults.insert faults.insertError).store = _
  rw [hstart]
  unfold propose
  cases hlookup : proposeLookup b faults request jkt s.store with
  | error err =>
      have hphase : call.phase = .finished (.error (.storage err)) := by
        show opening b s request jkt faults.read = _
        rw [opening_lookup, hlookup]
      rw [tip_insert_finished hcall hphase]
      rfl
  | ok found =>
      cases found with
      | some prior =>
          have hphase : call.phase = .finished (.ok prior) := by
            show opening b s request jkt faults.read = _
            rw [opening_lookup, hlookup]
          rw [tip_insert_finished hcall hphase]
          rfl
      | none =>
          have hphase : call = { request, jkt, phase := .awaitingTip } := by
            show Call.mk request jkt (opening b s request jkt faults.read) = _
            rw [opening_lookup, hlookup]
          rw [hphase] at hcall
          unfold State.tipCall
          simp only [hcall]
          have hnow : s₁.now = s.now := rfl
          rw [hnow]
          cases hcomposed : composeEntry config.sha256 config.registry request jkt
              (config.newPaymentId c) tip (.ofNat s.now) with
          | error err =>
              unfold State.insertCall
              simp only [lookup_setCall, if_true]
              rfl
          | ok entry =>
              unfold State.insertCall
              simp only [lookup_setCall, if_true]
              show (faults.insert.apply faults.insertError s.store (b.insert s.store entry)).2 = _
              cases faults.insert.apply faults.insertError s.store (b.insert s.store entry) with
              | mk answer store => cases answer <;> rfl

end Call

/-! ## Whose rows there are -/

section Made

variable {σ : Type} {b : PreparedTxBackend σ} {config : Config} {s s' : State σ}

/-- Every row composed was composed for the request of its call. -/
def Made (config : Config) (s : State σ) : Prop :=
  ∀ c entry, s.composed.lookup c = some entry → ∃ call tip now,
    s.calls.lookup c = some call ∧
      composeEntry config.sha256 config.registry call.request call.jkt (config.newPaymentId c)
        tip now = .ok entry

/-- A call keeps its request and its agent. -/
def CallsStand (s s' : State σ) : Prop :=
  ∀ c call, s.calls.lookup c = some call → ∃ call', s'.calls.lookup c = some call' ∧
    call'.request = call.request ∧ call'.jkt = call.jkt

theorem callsStand_setCall {c : Nat} {call : Call}
    (hsame : ∀ held, s.calls.lookup c = some held →
      call.request = held.request ∧ call.jkt = held.jkt) : CallsStand s (s.setCall c call) := by
  intro other held hheld
  by_cases hother : other = c
  · subst hother
    exact ⟨call, (lookup_setCall _ _ _).trans (if_pos rfl), hsame held hheld⟩
  · exact ⟨held, (lookup_setCall _ _ _).trans ((if_neg hother).trans hheld), rfl, rfl⟩

theorem Made.stand (h : Made config s) (hstand : CallsStand s s')
    (hcomposed : ∀ c, s'.composed.lookup c = s.composed.lookup c) : Made config s' := by
  intro c entry hentry
  rw [hcomposed] at hentry
  obtain ⟨call, tip, now, hcall, hmade⟩ := h c entry hentry
  obtain ⟨call', hcall', hrequest, hjkt⟩ := hstand c call hcall
  exact ⟨call', tip, now, hcall', by rw [hrequest, hjkt]; exact hmade⟩

/-- A call that moves on with its request and agent makes nobody else's row. -/
theorem made_setCall (h : Made config s) {c : Nat} {call held : Call}
    (hheld : s.calls.lookup c = some held) (hrequest : call.request = held.request)
    (hjkt : call.jkt = held.jkt) : Made config (s.setCall c call) := by
  refine h.stand (callsStand_setCall ?_) fun _ => rfl
  intro other hother
  rw [hheld] at hother
  injection hother with heq
  subst heq
  exact ⟨hrequest, hjkt⟩

theorem made_tipCall (h : Made config s) (c : Nat) (tip : Except TipError UInt32) :
    Made config (s.tipCall config c tip) := by
  unfold State.tipCall
  split
  · next request jkt hcall =>
      split
      · exact made_setCall h hcall rfl rfl
      · next entry hentry =>
          intro other made hmade
          have hrecorded := (lookup_compose c other entry).symm.trans hmade
          by_cases hother : other = c
          · rw [if_pos hother] at hrecorded
            injection hrecorded with heq
            subst heq hother
            exact ⟨_, tip, .ofNat s.now, (lookup_setCall _ _ _).trans (if_pos rfl), hentry⟩
          · rw [if_neg hother] at hrecorded
            obtain ⟨call, tip', now, hcall', hmade'⟩ := h other made hrecorded
            exact ⟨call, tip', now, (lookup_setCall _ _ _).trans ((if_neg hother).trans hcall'),
              hmade'⟩
  · exact h

theorem made_step (h : Made config s) (e : Event) : Made config (step b config s e) := by
  cases e with
  | tick seconds => exact h
  | start c request jkt readFault =>
      show Made config (s.startCall b c request jkt readFault)
      unfold State.startCall
      split
      · exact h
      · next hnone =>
          refine h.stand (callsStand_setCall ?_) fun _ => rfl
          intro held hheld
          rw [hnone] at hheld
          exact absurd hheld (by simp)
  | tip c tip => exact made_tipCall h c tip
  | insert c fault err =>
      show Made config (s.insertCall b c fault err)
      unfold State.insertCall
      split
      · next request jkt entry hcall =>
          have hstored : Made config
              { s with store := (fault.apply err s.store (b.insert s.store entry)).2 } := h
          exact made_setCall hstored hcall rfl rfl
      · exact h
  | remove paymentId => exact h
  | sweep => exact h

theorem made_init : Made config (State.init b) := by
  intro c entry hentry
  exact absurd hentry (by simp [State.init])

end Made

/-! ## What the answer is -/

section Answer

variable {σ : Type} {b : PreparedTxBackend σ} {config : Config} {faults : ProposeFaults}
variable {request : PrepareRequest} {jkt : String} {paymentId : PaymentId}
variable {tip : Except TipError UInt32} {now : UInt64} {store : σ} {preparation : Preparation}

theorem propose_lookup_ok {key : String} {found : Option PreparedTxEntry}
    (hkey : usableKey request = some key)
    (h : proposeLookup b faults request jkt store = .ok found) :
    faults.read = none ∧ b.findByIdempotency store jkt key = found := by
  unfold proposeLookup at h
  rw [hkey] at h
  cases hread : faults.read with
  | some err => simp [hread] at h
  | none =>
      simp only [hread, Except.ok.injEq] at h
      exact ⟨rfl, h⟩

/-- A call that answers replays the row it found, or has inserted the row it composed. -/
theorem propose_ok
    (h : (propose b config faults request jkt paymentId tip now store).1 = .ok preparation) :
    (∃ prior, proposeLookup b faults request jkt store = .ok (some prior) ∧
      prior.preparation = preparation ∧
      (propose b config faults request jkt paymentId tip now store).2 = store) ∨
    ∃ entry, proposeLookup b faults request jkt store = .ok none ∧
      composeEntry config.sha256 config.registry request jkt paymentId tip now = .ok entry ∧
      entry.preparation = preparation ∧ (b.insert store entry).1 = .ok () ∧
      (propose b config faults request jkt paymentId tip now store).2 =
        (b.insert store entry).2 := by
  unfold propose at h ⊢
  split at h
  · exact absurd h (by simp)
  · next prior hprior =>
      exact .inl ⟨prior, hprior, Except.ok.inj h, rfl⟩
  · next hnone =>
      split at h
      · exact absurd h (by simp)
      · next entry hentry =>
          right
          cases hinsert : faults.insert.apply faults.insertError store (b.insert store entry) with
          | mk answer store' =>
              rw [hinsert] at h
              cases answer with
              | error err => exact absurd h (by simp)
              | ok _ =>
                  have hok : (faults.insert.apply faults.insertError store
                      (b.insert store entry)).1 = .ok () := by rw [hinsert]
                  obtain ⟨hfault, hmade⟩ := Fault.apply_eq_ok.1 hok
                  rw [hfault] at hinsert
                  have hstore : (b.insert store entry).2 = store' := congrArg Prod.snd hinsert
                  exact ⟨entry, hnone, hentry, Except.ok.inj h, hmade, hstore.symm⟩

end Answer

section Runs

variable {σ : Type} {b : PreparedTxBackend σ}

/-- The row's preparation is for this request: a fresh id's row of the agent, with the
request's payee, network and memo. -/
def PreparedFor (config : Config) (request : PrepareRequest) (entry : PreparedTxEntry) : Prop :=
  entry.payeeId = request.payeeId ∧ entry.network = request.network ∧
    entry.preparation.memoBytes = composeBindingMemo config.sha256 request.payeeId request.scheme
      request.network request.resourceUri request.nonce request.evidencePackHash

/-- On whatever store earlier calls, removals and sweeps have left: a `propose` with a
usable key answers with the preparation of a stored row of the calling agent.  Either
nothing was found under the key and the row is a fresh one for this request, with a
deadline ahead; or the row is the one found, which stays as it is, and an earlier request
of the agent with this key prepared it. -/
theorem propose_prepares (lawful : b.Lawful) (config : Config) (es : List Event)
    (faults : ProposeFaults) (request : PrepareRequest) (jkt key : String)
    (hkey : usableKey request = some key) (paymentId : PaymentId)
    (tip : Except TipError UInt32) (now : UInt64) (preparation : Preparation) :
    let s := run (step b config) (State.init b) es
    let called := propose b config faults request jkt paymentId tip now s.store
    called.1 = .ok preparation →
    ∃ entry, b.findByPaymentId called.2 preparation.paymentId = some entry ∧
      entry.preparation = preparation ∧ entry.agentDpopJkt = jkt ∧
      entry.idempotencyKey = some key ∧
      ((b.findByIdempotency s.store jkt key = none ∧ preparation.paymentId = paymentId ∧
          PreparedFor config request entry ∧
          (now.toNat < 2 ^ 64 - 1 → now.toNat < entry.expiresAtUnixSeconds.toNat)) ∨
        (b.findByIdempotency s.store jkt key = some entry ∧ called.2 = s.store ∧
          ∃ c call, s.calls.lookup c = some call ∧ call.jkt = jkt ∧
            usableKey call.request = some key ∧ PreparedFor config call.request entry)) := by
  intro s called hanswer
  have hinvStep : ∀ s e, Inv lawful config s → Inv lawful config (step b config s e) :=
    fun _ e h => inv_step h e
  have hmadeStep : ∀ s e, Made config s → Made config (step b config s e) :=
    fun _ e h => made_step h e
  have hinv : Inv lawful config s := run_invariant hinvStep inv_init es
  have hmade : Made config s := run_invariant hmadeStep made_init es
  obtain ⟨prior, hlookup, rfl, hstore⟩ | ⟨entry, hlookup, hcomposed, rfl, hinsert, hstore⟩ :=
    propose_ok hanswer
  · obtain ⟨hread, hprior⟩ := propose_lookup_ok hkey hlookup
    obtain ⟨hpair, hheld⟩ := lawful.found hinv.good hprior
    obtain ⟨hjkt, hpriorKey⟩ := pair_eq.1 hpair
    obtain ⟨maker, hmaker⟩ := hinv.held _ prior hheld
    obtain ⟨call, tip', now', hcall, hmade'⟩ := hmade maker prior hmaker
    obtain ⟨-, hagent, husable⟩ := compose_entry_payment_id hmade'
    obtain ⟨hpayee, hnetwork, hmemo, -⟩ := compose_entry_request hmade'
    refine ⟨prior, hstore ▸ hheld, rfl, hjkt, hpriorKey, .inr ⟨hprior, hstore, maker, call, hcall,
      hagent.symm.trans hjkt, husable.symm.trans hpriorKey, hpayee, hnetwork, hmemo⟩⟩
  · obtain ⟨hread, hnone⟩ := propose_lookup_ok hkey hlookup
    obtain ⟨hid, hagent, husable⟩ := compose_entry_payment_id hcomposed
    obtain ⟨hpayee, hnetwork, hmemo, seconds, hseconds, hexpires⟩ :=
      compose_entry_request hcomposed
    have hheld := lawful.find_insert entry.preparation.paymentId (compose_entry_toRow hcomposed)
      hinsert
    rw [if_pos rfl] at hheld
    refine ⟨entry, hstore ▸ hheld, rfl, hagent, husable.trans hkey, .inl ⟨hnone, hid,
      ⟨hpayee, hnetwork, hmemo⟩, ?_⟩⟩
    intro hnow
    rw [hexpires]
    exact lt_saturatingAdd64 hseconds hnow

end Runs

/-! ## A replay for another payee -/

/-- One payment is prepared under the key `k`. -/
def preparedOnce : List Event := composing 0 ++ [inserting 0]

def noProposeFaults : ProposeFaults where
  read := none
  insert := .none
  insertError := .unavailable ""

/-- The key used again by the same request replays its preparation. -/
theorem propose_prepares_sample :
    let b := libsqlPrepared sampleSqlTexts
    let s := run (step b sampleConfig) (State.init b) preparedOnce
    let called := propose b sampleConfig noProposeFaults sampleRequest "a"
      (sampleId 1) (.ok 100) 0 s.store
    called.1 = .ok (sampleEntry 0).preparation ∧
      ∃ entry, b.findByPaymentId called.2 (sampleId 0) = some entry ∧
        entry.preparation = (sampleEntry 0).preparation ∧ entry.agentDpopJkt = "a" := by
  intro b s called
  have hanswer : called.1 = .ok (sampleEntry 0).preparation := rfl
  obtain ⟨entry, hheld, hpreparation, hjkt, -⟩ :=
    propose_prepares (libsqlLawful sampleSqlTexts) sampleConfig preparedOnce noProposeFaults
      sampleRequest "a" "k" (by decide) (sampleId 1) (.ok 100) 0 (sampleEntry 0).preparation hanswer
  exact ⟨hanswer, entry, hheld, hpreparation, hjkt⟩

/-- The same key in a request for another payee replays it as well. -/
theorem replay_for_another_payee :
    ¬ ∀ es request jkt key paymentId tip now preparation, usableKey request = some key →
      let b := libsqlPrepared sampleSqlTexts
      let s := run (step b sampleConfig) (State.init b) es
      let called := propose b sampleConfig noProposeFaults request jkt paymentId tip now s.store
      called.1 = .ok preparation →
      ∃ entry, b.findByPaymentId called.2 preparation.paymentId = some entry ∧
        now < entry.expiresAtUnixSeconds ∧ entry.agentDpopJkt = jkt ∧
        PreparedFor sampleConfig request entry := by
  intro h
  obtain ⟨entry, hheld, -, -, hpayee, -⟩ :=
    h preparedOnce { sampleRequest with payeeId := ⟨"q"⟩ } "a" "k" (sampleId 1) (.ok 100) 0
      (sampleEntry 0).preparation (by decide) rfl
  have hentry : some (sampleEntry 0) = some entry := hheld
  rw [← Option.some.inj hentry] at hpayee
  exact absurd hpayee (by decide)

end Zpay.Lifecycle.Idempotency
