import Zpay.Core.PreparedBackend
import Zpay.Machine.Run

/-!
# Preparing twice with one key

Any number of `propose` calls against either prepared store, one store access or tip
answer at a time, with removals and sweeps at any point.  The settle path touches the
store through removals only, and a removal here may name any payment at any time.

Payment ids are fresh: the id a call generates is an injective function of the call.
Entries ever composed and payments ever removed are kept as history.

The README promises that replays of a key resolve to one payment id.  The row the promise
rests on is deleted by a successful settle, for the sake of fire-once, and by the sweep
after its deadline.

## Main results

* `inv_step` — whose rows are held, and how long the row behind an answer is.
* `agrees_step` — a pair whose rows were inserted one at a time is found by its lookup.
* `prepare_idempotent` — one payment id for one key, while its row stands.
* `prepared_twice` — what happens once it does not.
-/

open Zpay.Data Zpay.Core Zpay.Machine

namespace Zpay.Lifecycle.Idempotency

/-! ## The machine -/

structure Config where
  sha256 : List UInt8 → List UInt8
  registry : PayeeRegistry
  newPaymentId : Nat → PaymentId
  newPaymentId_injective : Function.Injective newPaymentId

/-- Where a `propose` call is suspended.  An answer is kept with the whole row behind it. -/
inductive Phase
  | awaitingTip
  | inserting (entry : PreparedTxEntry)
  | finished (result : Except PrepareError PreparedTxEntry)

structure Call where
  request : PrepareRequest
  jkt : String
  phase : Phase

structure State (σ : Type) where
  now : Nat
  store : σ
  calls : Table Nat Call
  composed : Table Nat PreparedTxEntry
  removed : List PaymentId

inductive Event
  | tick (seconds : Nat)
  | start (c : Nat) (request : PrepareRequest) (jkt : String) (readFault : Option StoreError)
  | tip (c : Nat) (tip : Except TipError UInt32)
  | insert (c : Nat) (fault : Fault) (err : StoreError)
  | remove (paymentId : PaymentId)
  | sweep

section Step

variable {σ : Type} (b : PreparedTxBackend σ) (config : Config)

def State.init : State σ where
  now := 0
  store := b.empty
  calls := ∅
  composed := ∅
  removed := []

def State.setCall (s : State σ) (c : Nat) (call : Call) : State σ :=
  { s with calls := s.calls.insert c call }

/-- Up to the chain tip. -/
def opening (s : State σ) (request : PrepareRequest) (jkt : String)
    (readFault : Option StoreError) : Phase :=
  match usableKey request with
  | none => .awaitingTip
  | some key =>
      match readFault with
      | some err => .finished (.error (.storage err))
      | none =>
          match b.findByIdempotency s.store jkt key with
          | some prior => .finished (.ok prior)
          | none => .awaitingTip

def State.startCall (s : State σ) (c : Nat) (request : PrepareRequest) (jkt : String)
    (readFault : Option StoreError) : State σ :=
  match s.calls.lookup c with
  | some _ => s
  | none => s.setCall c { request, jkt, phase := opening b s request jkt readFault }

/-- From the tip to the insert. -/
def State.tipCall (s : State σ) (c : Nat) (tip : Except TipError UInt32) : State σ :=
  match s.calls.lookup c with
  | some { request, jkt, phase := .awaitingTip } =>
      match composeEntry config.sha256 config.registry request jkt (config.newPaymentId c) tip
        (.ofNat s.now) with
      | .error err => s.setCall c { request, jkt, phase := .finished (.error err) }
      | .ok entry =>
          State.setCall { s with composed := s.composed.insert c entry } c
            { request, jkt, phase := .inserting entry }
  | _ => s

def State.insertCall (s : State σ) (c : Nat) (fault : Fault) (err : StoreError) : State σ :=
  match s.calls.lookup c with
  | some { request, jkt, phase := .inserting entry } =>
      let (result, store) := fault.apply err s.store (b.insert s.store entry)
      State.setCall { s with store } c
        { request, jkt
          phase := .finished (match result with
            | .ok _ => .ok entry
            | .error err => .error (.storage err)) }
  | _ => s

def step (s : State σ) : Event → State σ
  | .tick seconds => { s with now := s.now + seconds }
  | .start c request jkt readFault => s.startCall b c request jkt readFault
  | .tip c tip => s.tipCall config c tip
  | .insert c fault err => s.insertCall b c fault err
  | .remove paymentId =>
      { s with
        store := (b.remove s.store paymentId).2
        removed := paymentId :: s.removed }
  | .sweep => { s with store := (b.sweepExpired s.store s.now).2 }

/-! ## What is promised -/

/-- The call returned the row's preparation. -/
def State.answered (s : State σ) (c : Nat) (request : PrepareRequest) (jkt : String)
    (entry : PreparedTxEntry) : Prop :=
  s.calls.lookup c = some { request, jkt, phase := .finished (.ok entry) }

/-- A call that this step answers gets the payment id of any earlier answer to its agent
and key, before that answer's deadline and unless its row was removed. -/
def AnswersAlike (jkt key : String) (s : State σ) (e : Event) : Prop :=
  ∀ c c' request request' entry entry', usableKey request = some key →
    usableKey request' = some key → s.answered c request jkt entry →
    ¬ s.answered c' request' jkt entry' →
    (step b config s e).answered c' request' jkt entry' →
    s.now < entry.expiresAtUnixSeconds.toNat → entry.preparation.paymentId ∉ s.removed →
    entry'.preparation.paymentId = entry.preparation.paymentId

def AgentsApart (s : State σ) : Prop :=
  ∀ c c' request request' jkt jkt' entry entry', s.answered c request jkt entry →
    s.answered c' request' jkt' entry' → jkt ≠ jkt' →
    entry.preparation.paymentId ≠ entry'.preparation.paymentId

/-- An insert of the pair lands where a lookup of the pair would still find nothing. -/
def uncontested (jkt key : String) (s : State σ) : Event → Bool
  | .insert c _ _ =>
      match s.calls.lookup c with
      | some { request := _, jkt := _, phase := .inserting entry } =>
          entry.pair != some (jkt, key) || (b.findByIdempotency s.store jkt key).isNone
      | _ => true
  | _ => true

end Step

/-! ## The invariant -/

section Invariant

variable {σ : Type} {b : PreparedTxBackend σ} (lawful : b.Lawful) (config : Config)

/-- The row behind an answer is held, unless it was removed or is due. -/
def Kept (b : PreparedTxBackend σ) (s : State σ) (entry : PreparedTxEntry) : Prop :=
  entry.preparation.paymentId ∈ s.removed ∨ entry.expiresAtUnixSeconds.toNat ≤ s.now ∨
    b.findByPaymentId s.store entry.preparation.paymentId = some entry

/-- The row is one that answers this agent and request. -/
structure Answers (jkt : String) (request : PrepareRequest) (entry : PreparedTxEntry) : Prop where
  jkt : entry.agentDpopJkt = jkt
  key : entry.idempotencyKey = usableKey request

def CallInv (s : State σ) (c : Nat) (call : Call) : Prop :=
  match call.phase with
  | .awaitingTip => s.composed.lookup c = none
  | .inserting entry =>
      s.composed.lookup c = some entry ∧ Answers call.jkt call.request entry ∧
        b.findByPaymentId s.store (config.newPaymentId c) = none
  | .finished (.ok entry) =>
      (∃ maker, s.composed.lookup maker = some entry) ∧ Answers call.jkt call.request entry ∧
        Kept b s entry
  | .finished (.error _) => True

structure Inv (s : State σ) : Prop where
  good : lawful.Good s.store
  composed : ∀ c entry, s.composed.lookup c = some entry →
    entry.preparation.paymentId = config.newPaymentId c ∧ entry.Composed
  held : ∀ paymentId entry, b.findByPaymentId s.store paymentId = some entry →
    ∃ maker, s.composed.lookup maker = some entry
  calls : ∀ c call, s.calls.lookup c = some call → CallInv (b := b) config s c call
  uncalled : ∀ c, s.calls.lookup c = none → s.composed.lookup c = none

/-- What a step does to the calls other than the one it belongs to. -/
structure Evolves (b : PreparedTxBackend σ) (config : Config) (s s' : State σ)
    (actor : Option Nat) : Prop where
  composed : ∀ c entry, s.composed.lookup c = some entry → s'.composed.lookup c = some entry
  calls : ∀ c, actor ≠ some c → s'.calls.lookup c = s.calls.lookup c
  idle : ∀ c, actor ≠ some c → s'.composed.lookup c = s.composed.lookup c
  absent : ∀ c, actor ≠ some c → b.findByPaymentId s.store (config.newPaymentId c) = none →
    b.findByPaymentId s'.store (config.newPaymentId c) = none
  kept : ∀ entry, Kept b s entry → Kept b s' entry

variable {lawful config} {s s' : State σ} {actor : Option Nat}

theorem CallInv.evolve {c : Nat} {call : Call} (h : CallInv (b := b) config s c call)
    (hevolves : Evolves b config s s' actor) (hc : actor ≠ some c) :
    CallInv (b := b) config s' c call := by
  unfold CallInv at h ⊢
  split at h
  · exact (hevolves.idle c hc).trans h
  · next entry hphase =>
      exact ⟨hevolves.composed c entry h.1, h.2.1, hevolves.absent c hc h.2.2⟩
  · next entry hphase =>
      obtain ⟨⟨maker, hmaker⟩, hanswers, hkept⟩ := h
      exact ⟨⟨maker, hevolves.composed maker entry hmaker⟩, hanswers, hevolves.kept entry hkept⟩
  · trivial

/-- One call moves on, and the rest evolves. -/
theorem Inv.evolve (h : Inv lawful config s) (hevolves : Evolves b config s s' actor)
    (hgood : lawful.Good s'.store)
    (hcomposed : ∀ c, actor = some c → ∀ entry, s'.composed.lookup c = some entry →
      entry.preparation.paymentId = config.newPaymentId c ∧ entry.Composed)
    (hheld : ∀ paymentId entry, b.findByPaymentId s'.store paymentId = some entry →
      ∃ maker, s'.composed.lookup maker = some entry)
    (hactor : ∀ c, actor = some c → ∃ call, s'.calls.lookup c = some call ∧
      CallInv (b := b) config s' c call) : Inv lawful config s' := by
  refine ⟨hgood, ?_, hheld, ?_, ?_⟩
  · intro c entry hentry
    by_cases hc : actor = some c
    · exact hcomposed c hc entry hentry
    · rw [hevolves.idle c hc] at hentry
      exact h.composed c entry hentry
  · intro c call hcall
    by_cases hc : actor = some c
    · obtain ⟨call', hcall', hinv⟩ := hactor c hc
      rw [hcall] at hcall'
      injection hcall' with heq
      rw [heq]
      exact hinv
    · rw [hevolves.calls c hc] at hcall
      exact (h.calls c call hcall).evolve hevolves hc
  · intro c hnone
    by_cases hc : actor = some c
    · obtain ⟨call', hcall', _⟩ := hactor c hc
      rw [hnone] at hcall'
      exact absurd hcall' (by simp)
    · rw [hevolves.calls c hc] at hnone
      rw [hevolves.idle c hc]
      exact h.uncalled c hnone

theorem lookup_setCall (c other : Nat) (call : Call) :
    (s.setCall c call).calls.lookup other =
      if other = c then some call else s.calls.lookup other :=
  Table.lookup_insert_eq s.calls c other call

/-- A step that only moves a call on changes nothing else. -/
theorem evolves_setCall (b : PreparedTxBackend σ) (config : Config) (s : State σ) (c : Nat)
    (call : Call) :
    Evolves b config s (s.setCall c call) (some c) where
  composed := fun _ _ h => h
  calls := by
    intro other hother
    rw [lookup_setCall, if_neg]
    exact fun heq => hother (congrArg some heq.symm)
  idle := fun _ _ => rfl
  absent := fun _ _ h => h
  kept := fun _ h => h

theorem inv_setCall (h : Inv lawful config s) (c : Nat) {call : Call}
    (hcall : CallInv (b := b) config s c call) : Inv lawful config (s.setCall c call) := by
  apply h.evolve (evolves_setCall b config s c call) h.good
  · intro c' _ entry hentry
    exact h.composed c' entry hentry
  · exact h.held
  · intro c' hc'
    injection hc' with hc'
    subst hc'
    refine ⟨call, ?_, hcall⟩
    rw [lookup_setCall, if_pos rfl]

/-- Where a call stands after its first store access. -/
theorem opening_phase (b : PreparedTxBackend σ) (s : State σ) (request : PrepareRequest)
    (jkt : String) (readFault : Option StoreError) :
    opening b s request jkt readFault = .awaitingTip ∨
      (∃ err, opening b s request jkt readFault = .finished (.error err)) ∨
      ∃ key prior, usableKey request = some key ∧
        b.findByIdempotency s.store jkt key = some prior ∧
        opening b s request jkt readFault = .finished (.ok prior) := by
  unfold opening
  split
  · exact .inl rfl
  · next key hkey =>
      split
      · next err => exact .inr (.inl ⟨_, rfl⟩)
      · split
        · next prior hprior => exact .inr (.inr ⟨key, prior, hkey, hprior, rfl⟩)
        · exact .inl rfl

theorem inv_startCall (h : Inv lawful config s) (c : Nat) (request : PrepareRequest)
    (jkt : String) (readFault : Option StoreError) :
    Inv lawful config (s.startCall b c request jkt readFault) := by
  unfold State.startCall
  split
  · exact h
  · next hnone =>
      apply inv_setCall h
      obtain hphase | ⟨err, hphase⟩ | ⟨key, prior, hkey, hprior, hphase⟩ :=
        opening_phase b s request jkt readFault
      · rw [hphase]
        exact h.uncalled c hnone
      · rw [hphase]
        trivial
      · -- The row found is held under its own id and filed under this pair.
        rw [hphase]
        obtain ⟨hpair, hheld⟩ := lawful.found h.good hprior
        obtain ⟨hjkt, hentryKey⟩ := pair_eq.1 hpair
        exact ⟨h.held _ prior hheld, ⟨hjkt, hentryKey.trans hkey.symm⟩, .inr (.inr hheld)⟩

/-- Nothing is held under the id of a call that has composed nothing. -/
theorem unheld_of_uncomposed (h : Inv lawful config s) {c : Nat}
    (hunmade : s.composed.lookup c = none) :
    b.findByPaymentId s.store (config.newPaymentId c) = none := by
  cases hheld : b.findByPaymentId s.store (config.newPaymentId c) with
  | none => rfl
  | some other =>
      obtain ⟨maker, hmaker⟩ := h.held _ other hheld
      have hmade := (h.composed maker other hmaker).1
      rw [lawful.find_id h.good hheld] at hmade
      rw [config.newPaymentId_injective hmade, hmaker] at hunmade
      exact absurd hunmade (by simp)

theorem lookup_compose (c other : Nat) (entry : PreparedTxEntry) :
    (s.composed.insert c entry).lookup other =
      if other = c then some entry else s.composed.lookup other :=
  Table.lookup_insert_eq s.composed c other entry

/-- Composing an entry is the one thing that is ever recorded for a call. -/
theorem evolves_compose (b : PreparedTxBackend σ) (config : Config) {s : State σ} {c : Nat}
    (hunmade : s.composed.lookup c = none) (entry : PreparedTxEntry) (call : Call) :
    Evolves b config s (State.setCall { s with composed := s.composed.insert c entry } c call)
      (some c) where
  composed := by
    intro other made hmade
    refine (lookup_compose c other entry).trans ?_
    rw [if_neg, hmade]
    intro heq
    rw [heq, hunmade] at hmade
    exact absurd hmade (by simp)
  calls := (evolves_setCall b config s c call).calls
  idle := by
    intro other hother
    refine (lookup_compose c other entry).trans ?_
    rw [if_neg]
    exact fun heq => hother (congrArg some heq.symm)
  absent := fun _ _ hnone => hnone
  kept := fun _ hkept => hkept

theorem inv_tipCall (h : Inv lawful config s) (c : Nat) (tip : Except TipError UInt32) :
    Inv lawful config (s.tipCall config c tip) := by
  unfold State.tipCall
  split
  · next request jkt hphase =>
      have hunmade : s.composed.lookup c = none := h.calls c _ hphase
      split
      · exact inv_setCall h c trivial
      · next entry hentry =>
          obtain ⟨hid, hjkt, hkey⟩ := compose_entry_payment_id hentry
          have hevolves := evolves_compose b config hunmade entry
            { request, jkt, phase := .inserting entry }
          apply h.evolve hevolves h.good
          · intro c' hc' made hmade
            injection hc' with hc'
            have hrecorded := (lookup_compose c c' entry).symm.trans hmade
            rw [if_pos hc'.symm] at hrecorded
            injection hrecorded with hmade
            rw [← hmade, ← hc']
            exact ⟨hid, compose_entry_toRow hentry⟩
          · intro paymentId held hheld
            obtain ⟨maker, hmaker⟩ := h.held paymentId held hheld
            exact ⟨maker, hevolves.composed maker held hmaker⟩
          · intro c' hc'
            injection hc' with hc'
            subst hc'
            refine ⟨_, (lookup_setCall _ _ _).trans (if_pos rfl), ?_, ⟨hjkt, hkey⟩, ?_⟩
            · exact (lookup_compose c c entry).trans (if_pos rfl)
            · exact unheld_of_uncomposed h hunmade
  · exact h

/-- The store after an insert is either as before or holds one more row, and a successful
answer means the latter. -/
theorem insert_outcome (lawful : b.Lawful) {s : State σ} {entry : PreparedTxEntry}
    (hcomposed : entry.Composed) (fault : Fault) (err : StoreError) :
    ((∃ e, (fault.apply err s.store (b.insert s.store entry)).1 = .error e) ∧
      (fault.apply err s.store (b.insert s.store entry)).2 = s.store) ∨
    ((b.insert s.store entry).1 = .ok () ∧
      (fault.apply err s.store (b.insert s.store entry)).2 = (b.insert s.store entry).2 ∧
      ∀ paymentId, b.findByPaymentId (b.insert s.store entry).2 paymentId =
        if paymentId = entry.preparation.paymentId then some entry
        else b.findByPaymentId s.store paymentId) := by
  cases hinsert : (b.insert s.store entry).1 with
  | error e =>
      left
      have hsame : (b.insert s.store entry).2 = s.store := lawful.insert_error hinsert
      cases fault with
      | none => exact ⟨⟨e, hinsert⟩, hsame⟩
      | lost => exact ⟨⟨err, rfl⟩, rfl⟩
      | unacknowledged => exact ⟨⟨err, rfl⟩, hsame⟩
  | ok _ =>
      have hfind := fun paymentId => lawful.find_insert paymentId hcomposed hinsert
      cases fault with
      | none => exact .inr ⟨rfl, rfl, hfind⟩
      | lost => exact .inl ⟨⟨err, rfl⟩, rfl⟩
      | unacknowledged => exact .inr ⟨rfl, rfl, hfind⟩

/-- A row is stored under its own call's id, which no other row has. -/
theorem evolves_store (b : PreparedTxBackend σ) {config : Config} {s : State σ} {c : Nat}
    {entry : PreparedTxEntry} {store : σ}
    (hid : entry.preparation.paymentId = config.newPaymentId c)
    (hfresh : b.findByPaymentId s.store entry.preparation.paymentId = none)
    (hfind : ∀ paymentId, b.findByPaymentId store paymentId =
      if paymentId = entry.preparation.paymentId then some entry
      else b.findByPaymentId s.store paymentId) (call : Call) :
    Evolves b config s (State.setCall { s with store } c call) (some c) where
  composed := fun _ _ hmade => hmade
  calls := (evolves_setCall b config s c call).calls
  idle := fun _ _ => rfl
  absent := by
    intro other hother hnone
    refine (hfind _).trans ?_
    rw [if_neg, hnone]
    intro heq
    rw [hid] at heq
    exact hother (congrArg some (config.newPaymentId_injective heq).symm)
  kept := by
    intro other hkept
    refine hkept.imp_right (Or.imp_right fun hheld => ?_)
    refine (hfind _).trans ?_
    rw [if_neg, hheld]
    intro heq
    rw [heq, hfresh] at hheld
    exact absurd hheld (by simp)

theorem inv_insertCall (h : Inv lawful config s) (c : Nat) (fault : Fault) (err : StoreError) :
    Inv lawful config (s.insertCall b c fault err) := by
  unfold State.insertCall
  split
  · next request jkt entry hphase =>
      obtain ⟨hmade, hanswers, hfresh⟩ := h.calls c _ hphase
      obtain ⟨hid, hcomposed⟩ := h.composed c entry hmade
      rw [← hid] at hfresh
      simp only
      obtain ⟨⟨e, hfailed⟩, hsame⟩ | ⟨hinsert, hstored, hfind⟩ :=
        insert_outcome lawful hcomposed fault err
      · rw [hfailed, hsame]
        exact inv_setCall h c trivial
      · rw [hstored]
        apply h.evolve (evolves_store b hid hfresh hfind _) (lawful.good_insert h.good hfresh)
        · intro c' _ made hmade'
          exact h.composed c' made hmade'
        · intro paymentId held hheld
          change b.findByPaymentId (b.insert s.store entry).2 paymentId = some held at hheld
          rw [hfind] at hheld
          split at hheld
          · injection hheld with heq
            rw [← heq]
            exact ⟨c, hmade⟩
          · exact h.held paymentId held hheld
        · intro c' hc'
          injection hc' with hc'
          subst hc'
          refine ⟨_, (lookup_setCall _ _ _).trans (if_pos rfl), ?_⟩
          have hstands : b.findByPaymentId (b.insert s.store entry).2
              entry.preparation.paymentId = some entry := (hfind _).trans (if_pos rfl)
          cases (fault.apply err s.store (b.insert s.store entry)).1 with
          | error e => trivial
          | ok _ => exact ⟨⟨c, hmade⟩, hanswers, .inr (.inr hstands)⟩
  · exact h

theorem inv_removePayment (h : Inv lawful config s) (paymentId : PaymentId) :
    Inv lawful config (step b config s (.remove paymentId)) := by
  have hfind := lawful.find_remove s.store paymentId
  have hevolves : Evolves b config s (step b config s (.remove paymentId)) none := by
    refine ⟨fun _ _ hmade => hmade, fun _ _ => rfl, fun _ _ => rfl, ?_, ?_⟩
    · intro c _ hnone
      refine (hfind _).trans ?_
      rw [hnone, ite_self]
    · intro entry hkept
      by_cases hid : entry.preparation.paymentId = paymentId
      · left
        rw [hid]
        exact List.mem_cons_self
      · obtain hremoved | hdue | hheld := hkept
        · exact .inl (List.mem_cons_of_mem paymentId hremoved)
        · exact .inr (.inl hdue)
        · exact .inr (.inr ((hfind _).trans ((if_neg hid).trans hheld)))
  apply h.evolve hevolves (lawful.good_remove h.good) nofun _ nofun
  intro other entry hheld
  change b.findByPaymentId (b.remove s.store paymentId).2 other = some entry at hheld
  rw [hfind] at hheld
  split at hheld
  · exact absurd hheld (by simp)
  · exact h.held other entry hheld

theorem inv_sweep (h : Inv lawful config s) : Inv lawful config (step b config s .sweep) := by
  have hevolves : Evolves b config s (step b config s .sweep) none := by
    refine ⟨fun _ _ hmade => hmade, fun _ _ => rfl, fun _ _ => rfl, ?_, ?_⟩
    · intro c _ hnone
      show b.findByPaymentId (b.sweepExpired s.store s.now).2 (config.newPaymentId c) = none
      cases hheld : b.findByPaymentId (b.sweepExpired s.store s.now).2 (config.newPaymentId c) with
      | none => rfl
      | some entry =>
          rw [lawful.sweep_find hheld] at hnone
          exact absurd hnone (by simp)
    · intro entry hkept
      obtain hremoved | hdue | hheld := hkept
      · exact .inl hremoved
      · exact .inr (.inl hdue)
      · by_cases hdue : entry.expiresAtUnixSeconds.toNat ≤ s.now
        · exact .inr (.inl hdue)
        · exact .inr (.inr (lawful.find_sweep hheld (Nat.not_le.1 hdue)))
  apply h.evolve hevolves (lawful.good_sweep h.good) nofun _ nofun
  intro paymentId entry hheld
  exact h.held paymentId entry (lawful.sweep_find hheld)

theorem inv_step (h : Inv lawful config s) (e : Event) :
    Inv lawful config (step b config s e) := by
  cases e with
  | tick seconds =>
      have hevolves : Evolves b config s (step b config s (.tick seconds)) none := by
        refine ⟨fun _ _ hmade => hmade, fun _ _ => rfl, fun _ _ => rfl, fun _ _ hnone => hnone, ?_⟩
        intro entry hkept
        refine hkept.imp_right (Or.imp_left fun hdue => ?_)
        exact Nat.le_trans hdue (Nat.le_add_right s.now seconds)
      exact h.evolve hevolves h.good nofun h.held nofun
  | start c request jkt readFault => exact inv_startCall h c request jkt readFault
  | tip c tip => exact inv_tipCall h c tip
  | insert c fault err => exact inv_insertCall h c fault err
  | remove paymentId => exact inv_removePayment h paymentId
  | sweep => exact inv_sweep h

theorem inv_init : Inv lawful config (State.init b) where
  good := lawful.good_empty
  composed := by
    intro c entry hmade
    exact absurd hmade (by simp [State.init])
  held := by
    intro paymentId entry hheld
    exact absurd ((lawful.find_empty paymentId).symm.trans hheld) (by simp)
  calls := by
    intro c call hcall
    exact absurd hcall (by simp [State.init])
  uncalled := fun _ _ => rfl

/-- Answers under one payment id come from one composed entry. -/
theorem agents_apart (h : Inv lawful config s) : AgentsApart s := by
  intro c c' request request' jkt jkt' entry entry' hanswered hanswered' hne hid
  obtain ⟨⟨maker, hmade⟩, hanswers, _⟩ := h.calls c _ hanswered
  obtain ⟨⟨maker', hmade'⟩, hanswers', _⟩ := h.calls c' _ hanswered'
  have hmakers : maker = maker' := by
    apply config.newPaymentId_injective
    rw [← (h.composed maker entry hmade).1, ← (h.composed maker' entry' hmade').1]
    exact hid
  rw [hmakers, hmade'] at hmade
  injection hmade with hentries
  apply hne
  have hjkt : entry.agentDpopJkt = jkt := hanswers.jkt
  have hjkt' : entry'.agentDpopJkt = jkt' := hanswers'.jkt
  rw [← hjkt, ← hjkt', hentries]

/-! ## One key -/

/-- An insert of the pair that goes through finds no row of it. -/
def FirstOfPair (b : PreparedTxBackend σ) (jkt key : String) (s : State σ) (e : Event) : Prop :=
  ∀ c fault err request agent entry, e = .insert c fault err →
    s.calls.lookup c = some { request, jkt := agent, phase := .inserting entry } →
    entry.pair = some (jkt, key) → (b.insert s.store entry).1 = .ok () →
    b.findByIdempotency s.store jkt key = none

variable {jkt key : String} {e : Event}

theorem firstOfPair_of_uncontested (h : uncontested b jkt key s e = true) :
    FirstOfPair b jkt key s e := by
  intro c fault err request agent entry he hphase hpair _
  rw [he] at h
  simp only [uncontested, hphase, hpair, bne_self_eq_false, Bool.false_or] at h
  exact Option.isNone_iff_eq_none.1 h

/-- The unique index admits no second row of a pair. -/
theorem firstOfPair_libsql {texts : SqlTexts} {s : State PreparedTxStore}
    (h : Inv (libsqlLawful texts) config s) :
    FirstOfPair (libsqlPrepared texts) jkt key s e := by
  intro c fault err request agent entry _ hphase hpair hinsert
  obtain ⟨hmade, _, hfresh⟩ := h.calls c _ hphase
  rw [← (h.composed c entry hmade).1] at hfresh
  exact libsql_exclusive (Option.map_eq_none_iff.1 hfresh) hinsert hpair

/-- A pair whose rows came one at a time is found by its lookup. -/
theorem agrees_step (h : Inv lawful config s) (hagrees : b.Agrees jkt key s.store)
    (hfirst : FirstOfPair b jkt key s e) : b.Agrees jkt key (step b config s e).store := by
  cases e with
  | tick seconds => exact hagrees
  | start c request agent readFault =>
      show b.Agrees jkt key (s.startCall b c request agent readFault).store
      unfold State.startCall
      split
      · exact hagrees
      · exact hagrees
  | tip c tip =>
      show b.Agrees jkt key (s.tipCall config c tip).store
      unfold State.tipCall
      split
      · split
        · exact hagrees
        · exact hagrees
      · exact hagrees
  | insert c fault err =>
      show b.Agrees jkt key (s.insertCall b c fault err).store
      unfold State.insertCall
      split
      · next request agent entry hphase =>
          obtain ⟨hmade, _, hfresh⟩ := h.calls c _ hphase
          obtain ⟨hid, hcomposed⟩ := h.composed c entry hmade
          rw [← hid] at hfresh
          show b.Agrees jkt key (fault.apply err s.store (b.insert s.store entry)).2
          obtain ⟨_, hsame⟩ | ⟨hinsert, hstored, _⟩ :=
            insert_outcome lawful hcomposed fault err
          · rw [hsame]
            exact hagrees
          · rw [hstored]
            exact lawful.agrees_insert h.good hcomposed hfresh
              (fun hpair => hfirst c fault err request agent entry rfl hphase hpair hinsert)
              hagrees
      · exact hagrees
  | remove paymentId => exact lawful.agrees_remove h.good hagrees
  | sweep => exact lawful.agrees_sweep h.good hagrees

theorem agrees_init (lawful : b.Lawful) : b.Agrees jkt key (State.init b).store := by
  intro paymentId entry hheld _
  exact absurd ((lawful.find_empty paymentId).symm.trans hheld) (by simp)

theorem answered_setCall {c c' : Nat} {call : Call} {request : PrepareRequest}
    {entry : PreparedTxEntry} (h : (s.setCall c call).answered c' request jkt entry) :
    s.answered c' request jkt entry ∨
      (c' = c ∧ call = { request, jkt, phase := .finished (.ok entry) }) := by
  unfold State.answered at h ⊢
  rw [lookup_setCall] at h
  split at h
  · next hc => exact .inr ⟨hc, Option.some.inj h⟩
  · exact .inl h

/-- Where a call gets its answer: from the row found, or from the row inserted. -/
theorem answered_step {c : Nat} {request : PrepareRequest} {entry : PreparedTxEntry}
    (hbefore : ¬ s.answered c request jkt entry)
    (hafter : (step b config s e).answered c request jkt entry) :
    (∃ key, usableKey request = some key ∧
      b.findByIdempotency s.store jkt key = some entry) ∨
    ∃ fault err, e = .insert c fault err ∧
      s.calls.lookup c = some { request, jkt, phase := .inserting entry } ∧
      (fault.apply err s.store (b.insert s.store entry)).1 = .ok () := by
  cases e with
  | tick seconds => exact absurd hafter hbefore
  | start c' request' jkt' readFault =>
      change (s.startCall b c' request' jkt' readFault).answered c request jkt entry at hafter
      unfold State.startCall at hafter
      split at hafter
      · exact absurd hafter hbefore
      · obtain ⟨_, hcall⟩ := (answered_setCall hafter).resolve_left hbefore
        injection hcall with hrequest hjkt hphase
        rw [hrequest, hjkt] at hphase
        left
        obtain hopening | ⟨err, hopening⟩ | ⟨key, prior, hkey, hprior, hopening⟩ :=
          opening_phase b s request jkt readFault
        · rw [hopening] at hphase
          exact absurd hphase (by simp)
        · rw [hopening] at hphase
          exact absurd hphase (by simp)
        · rw [hopening] at hphase
          injection hphase with hresult
          injection hresult with hentry
          rw [hentry] at hprior
          exact ⟨key, hkey, hprior⟩
  | tip c' tip =>
      change (s.tipCall config c' tip).answered c request jkt entry at hafter
      unfold State.tipCall at hafter
      split at hafter
      · split at hafter
        · have hcall := (answered_setCall hafter).resolve_left hbefore
          exact absurd hcall.2 (by simp)
        · have hcall := (answered_setCall hafter).resolve_left hbefore
          exact absurd hcall.2 (by simp)
      · exact absurd hafter hbefore
  | insert c' fault err =>
      change (s.insertCall b c' fault err).answered c request jkt entry at hafter
      unfold State.insertCall at hafter
      split at hafter
      · next request' jkt' entry' hphase =>
          simp only at hafter
          obtain ⟨hc, hcall⟩ := (answered_setCall hafter).resolve_left hbefore
          right
          injection hcall with hrequest hjkt hresult
          injection hresult with hresult
          split at hresult
          · next hok =>
              injection hresult with hentry
              rw [hrequest, hjkt, hentry] at hphase
              rw [hentry] at hok
              exact ⟨fault, err, by rw [hc], by rw [hc]; exact hphase, hok⟩
          · exact absurd hresult (by simp)
      · exact absurd hafter hbefore
  | remove paymentId => exact absurd hafter hbefore
  | sweep => exact absurd hafter hbefore

/-- While its row stands, every answer under the pair is the one that is found. -/
theorem answers_alike (h : Inv lawful config s) (hagrees : b.Agrees jkt key s.store)
    (hfirst : FirstOfPair b jkt key s e) : AnswersAlike b config jkt key s e := by
  intro c c' request request' entry entry' hkey hkey' hanswered hbefore hafter hlive hremoved
  obtain ⟨_, hanswers, hkept⟩ := h.calls c _ hanswered
  have hheld : b.findByPaymentId s.store entry.preparation.paymentId = some entry := by
    obtain hgone | hdue | hheld := hkept
    · exact absurd hgone hremoved
    · exact absurd hlive (Nat.not_lt.2 hdue)
    · exact hheld
  have hfound : b.findByIdempotency s.store jkt key = some entry :=
    hagrees _ entry hheld (pair_eq.2 ⟨hanswers.jkt, hanswers.key.trans hkey⟩)
  obtain ⟨key', hsame, hprior⟩ | ⟨fault, err, he, hphase, hok⟩ := answered_step hbefore hafter
  · rw [hkey'] at hsame
    injection hsame with hsame
    rw [← hsame, hfound] at hprior
    injection hprior with hentries
    rw [hentries]
  · -- An insert that goes through would have found nothing.
    obtain ⟨_, hanswers', _⟩ := h.calls c' _ hphase
    have hpair : entry'.pair = some (jkt, key) :=
      pair_eq.2 ⟨hanswers'.jkt, hanswers'.key.trans hkey'⟩
    have hinsert : (b.insert s.store entry').1 = .ok () := (Fault.apply_eq_ok.1 hok).2
    have hnone := hfirst c' fault err request' jkt entry' he hphase hpair hinsert
    rw [hfound] at hnone
    exact absurd hnone (by simp)

end Invariant

/-! ## Whole runs -/

section Runs

variable {config : Config}

theorem libsql_run (texts : SqlTexts) (config : Config) (jkt key : String) (es : List Event) :
    Inv (libsqlLawful texts) config
        (run (step (libsqlPrepared texts) config) (State.init (libsqlPrepared texts)) es) ∧
      (libsqlPrepared texts).Agrees jkt key
        (run (step (libsqlPrepared texts) config) (State.init (libsqlPrepared texts)) es).store := by
  have hstep : ∀ s e, Inv (libsqlLawful texts) config s →
      Inv (libsqlLawful texts) config (step (libsqlPrepared texts) config s e) :=
    fun _ e h => inv_step h e
  have hinv : Inv (libsqlLawful texts) config
      (run (step (libsqlPrepared texts) config) (State.init (libsqlPrepared texts)) es) :=
    run_invariant hstep inv_init es
  exact ⟨hinv, libsql_agrees hinv.good⟩

theorem memory_run (config : Config) {jkt key : String} {es : List Event}
    (halong : Along (step memoryPrepared config)
      (fun s e => uncontested memoryPrepared jkt key s e = true) (State.init memoryPrepared) es) :
    Inv memoryLawful config (run (step memoryPrepared config) (State.init memoryPrepared) es) ∧
      memoryPrepared.Agrees jkt key
        (run (step memoryPrepared config) (State.init memoryPrepared) es).store := by
  have hstep : ∀ s e,
      (Inv memoryLawful config s ∧ memoryPrepared.Agrees jkt key s.store) →
      uncontested memoryPrepared jkt key s e = true →
      Inv memoryLawful config (step memoryPrepared config s e) ∧
        memoryPrepared.Agrees jkt key (step memoryPrepared config s e).store :=
    fun s e h hfirst =>
      ⟨inv_step h.1 e, agrees_step h.1 h.2 (firstOfPair_of_uncontested hfirst)⟩
  exact run_invariant_along hstep ⟨inv_init, agrees_init memoryLawful⟩ halong

/-- One key resolves to one payment id: in the database until the row is removed or due,
and in memory too, where no two inserts of the pair overlap. -/
theorem prepare_idempotent (texts : SqlTexts) (config : Config) (jkt key : String)
    (es : List Event) (e : Event) :
    AnswersAlike (libsqlPrepared texts) config jkt key
        (run (step (libsqlPrepared texts) config) (State.init (libsqlPrepared texts)) es) e ∧
      (Along (step memoryPrepared config)
          (fun s e => uncontested memoryPrepared jkt key s e = true) (State.init memoryPrepared)
          (es ++ [e]) →
        AnswersAlike memoryPrepared config jkt key
          (run (step memoryPrepared config) (State.init memoryPrepared) es) e) ∧
      AgentsApart
        (run (step (libsqlPrepared texts) config) (State.init (libsqlPrepared texts)) es) ∧
      AgentsApart (run (step memoryPrepared config) (State.init memoryPrepared) es) := by
  obtain ⟨hlibsql, hagrees⟩ := libsql_run texts config jkt key es
  have hstep : ∀ s e, Inv memoryLawful config s →
      Inv memoryLawful config (step memoryPrepared config s e) := fun _ e h => inv_step h e
  have hmemory : Inv memoryLawful config
      (run (step memoryPrepared config) (State.init memoryPrepared) es) :=
    run_invariant hstep inv_init es
  refine ⟨answers_alike hlibsql hagrees (firstOfPair_libsql hlibsql), fun halong => ?_,
    agents_apart hlibsql, agents_apart hmemory⟩
  rw [along_append] at halong
  obtain ⟨hbefore, hlast, _⟩ := halong
  obtain ⟨hinv, hagrees⟩ := memory_run config hbefore
  exact answers_alike hinv hagrees (firstOfPair_of_uncontested hlast)

end Runs

/-! ## Sample runs -/

/-- Call numbers in unary. -/
def sampleId (c : Nat) : PaymentId := ⟨String.ofList (List.replicate c '0')⟩

theorem sampleId_injective : Function.Injective sampleId := by
  intro c c' heq
  have hzeros := congrArg List.length (String.ofList_injective (PaymentId.mk.inj heq))
  rw [List.length_replicate, List.length_replicate] at hzeros
  exact hzeros

def sampleConfig : Config where
  sha256 _ := []
  registry := AList.insert ⟨"p"⟩
    [{ scheme := .zcash, network := .testnet, payTo := "u", amountZat := 7,
       maxValiditySeconds := 60, expiryDeltaBlocks := none }] ∅
  newPaymentId := sampleId
  newPaymentId_injective := sampleId_injective

def sampleRequest : PrepareRequest where
  payeeId := ⟨"p"⟩
  network := .testnet
  scheme := .zcash
  resourceUri := "r"
  nonce := "n"
  evidencePackHash := none
  idempotencyKey := some "k"

/-- What a call at time 0 composes. -/
def sampleEntry (c : Nat) : PreparedTxEntry where
  preparation :=
    { paymentId := sampleId c
      paymentUri := composePaymentUri "u" 7 [protocolMemoTag, protocolMemoVersion]
      memoBytes := [protocolMemoTag, protocolMemoVersion]
      expiryHeight := 140
      amountZat := 7 }
  payeeId := ⟨"p"⟩
  network := .testnet
  recipientUnifiedAddress := "u"
  amountZat := 7
  expiresAtUnixSeconds := 60
  idempotencyKey := some "k"
  agentDpopJkt := "a"

def composing (c : Nat) : List Event :=
  [.start c sampleRequest "a" none, .tip c (.ok 100)]

def inserting (c : Nat) : Event := .insert c .none (.unavailable "")

/-- Used again while the first payment stands, the key finds it. -/
theorem prepare_idempotent_replay :
    Along (step memoryPrepared sampleConfig)
        (fun s e => uncontested memoryPrepared "a" "k" s e = true) (State.init memoryPrepared)
        (composing 0 ++ [inserting 0] ++ [.start 1 sampleRequest "a" none]) ∧
      (run (step memoryPrepared sampleConfig) (State.init memoryPrepared)
        (composing 0 ++ [inserting 0] ++ [.start 1 sampleRequest "a" none])).answered 1
          sampleRequest "a" (sampleEntry 0) ∧
      AnswersAlike memoryPrepared sampleConfig "a" "k"
        (run (step memoryPrepared sampleConfig) (State.init memoryPrepared)
          (composing 0 ++ [inserting 0])) (.start 1 sampleRequest "a" none) := by
  have halong : Along (step memoryPrepared sampleConfig)
      (fun s e => uncontested memoryPrepared "a" "k" s e = true) (State.init memoryPrepared)
      (composing 0 ++ [inserting 0] ++ [.start 1 sampleRequest "a" none]) := by decide
  have hreplay := prepare_idempotent sampleSqlTexts sampleConfig "a" "k"
    (composing 0 ++ [inserting 0]) (.start 1 sampleRequest "a" none)
  exact ⟨halong, rfl, hreplay.2.1 halong⟩

/-- The first payment is settled, and its row removed, before the key is used again. -/
def settledAway : List Event :=
  composing 0 ++ [inserting 0, .remove (sampleId 0)] ++ composing 1

/-- Both calls look the key up before either inserts. -/
def raced : List Event := composing 0 ++ composing 1 ++ [inserting 0]

/-- Two calls of one agent with one key are answered with two payments, the second before
the deadline of the first. -/
def AnswersTwice {σ : Type} (b : PreparedTxBackend σ) (config : Config) (s : State σ)
    (e : Event) : Prop :=
  ∃ c c' request jkt entry entry', (usableKey request).isSome = true ∧
    s.answered c request jkt entry ∧ (step b config s e).answered c' request jkt entry' ∧
    s.now < entry.expiresAtUnixSeconds.toNat ∧
    entry'.preparation.paymentId ≠ entry.preparation.paymentId

theorem prepared_twice :
    AnswersTwice (libsqlPrepared sampleSqlTexts) sampleConfig
        (run (step (libsqlPrepared sampleSqlTexts) sampleConfig)
          (State.init (libsqlPrepared sampleSqlTexts)) settledAway)
        (inserting 1) ∧
      AnswersTwice memoryPrepared sampleConfig
        (run (step memoryPrepared sampleConfig) (State.init memoryPrepared) raced)
        (inserting 1) ∧
      (run (step memoryPrepared sampleConfig) (State.init memoryPrepared) raced).removed = [] := by
  have hdistinct : sampleId 1 ≠ sampleId 0 := sampleId_injective.ne (by decide)
  refine ⟨⟨0, 1, sampleRequest, "a", sampleEntry 0, sampleEntry 1, by decide, rfl, rfl, by decide,
    hdistinct⟩, ⟨0, 1, sampleRequest, "a", sampleEntry 0, sampleEntry 1, by decide, rfl, rfl,
    by decide, hdistinct⟩, rfl⟩

end Zpay.Lifecycle.Idempotency
