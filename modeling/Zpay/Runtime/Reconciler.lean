import Zpay.Lifecycle.Facilitator
import Zpay.Runtime.Chain

/-!
# The reconciliation against the chain

The service runs beside a chain that moves on its own.  Two tasks keep its
ledger and its cached view up to date: the confirmation poll, and the chain-event
task, which runs one poll on startup and on every cursor expiry and otherwise
applies the envelopes of a resumable subscription.  Every await is a step of its
own, so an answer that was true when it was given is acted on later.

What the oracle and the subscription answer is checked against the chain at that
moment: an event that says something else does not happen.  Every move of the
chain is logged as one envelope, and deliveries read the log.

## Main results

* `step_service` — a step performs at most one operation of the service.
* `service_run` — every run is a run of the service.
-/

open Zpay.Data Zpay.Core Zpay.Machine Zpay.Lifecycle

namespace Zpay.Runtime

/-! ## The oracle -/

/-- Outcome of `fetch_confirmations`. -/
inductive ConfirmationOutcome
  | mined (blockHeight : Nat) (confirmationCount : UInt32)
  | inMempool
  | notFound
  | conflictingChain
  deriving DecidableEq, Repr

section Truth

variable {txExpiry : String → Option Nat} (chain : Chain txExpiry)

/-- A truthful `chain_status`; a tip may be missing. -/
def TellsTips (view : ChainStatusView) : Prop :=
  (∀ tip ∈ view.visibleTipHeight, tip = chain.visibleTip) ∧
    ∀ tip ∈ view.settledTipHeight, tip = chain.settledTip

/-- A truthful `fetch_confirmations`. -/
def TellsPlace (tx : String) : ConfirmationOutcome → Prop
  | .mined blockHeight confirmationCount =>
      chain.Mined tx blockHeight ∧
        confirmationCount.toNat = chain.visibleTip + 1 - blockHeight
  | .inMempool | .notFound | .conflictingChain => ¬ chain.Includes tx

instance (view : ChainStatusView) : Decidable (TellsTips chain view) :=
  inferInstanceAs (Decidable (_ ∧ _))

instance (tx : String) : (outcome : ConfirmationOutcome) → Decidable (TellsPlace chain tx outcome)
  | .mined _ _ => inferInstanceAs (Decidable (_ ∧ _))
  | .inMempool | .notFound | .conflictingChain => inferInstanceAs (Decidable (¬ _))

end Truth

/-- The submitter names a transaction that expires when the settlement says. -/
def truthfulAnswer (txExpiry : String → Option Nat) (s : Lifecycle.State) :
    Lifecycle.Event → Bool
  | .answer c (.ok outcome) =>
      match s.phase c with
      | some (.submitting settlement _) =>
          (BroadcastOutcome.fromSubmitOutcome outcome).transactionId.all fun tx =>
            decide (txExpiry tx = some settlement.expiryHeight.toNat)
      | _ => true
  | _ => true

/-! ## Tasks -/

/-- The two callers of `poll_oracle_once`. -/
inductive Poller
  | confirmation
  | chainEvents
  deriving DecidableEq, Repr

/-- Where a poll is suspended. -/
inductive PollPhase
  | idle
  | statusRead (answer : Option ChainStatusView)
  | refreshed (chainView : ChainStatusView)
  | sweeping (chainView : ChainStatusView) (rows : List SuccessKindRow)
  | fetched (chainView : ChainStatusView) (row : SuccessKindRow) (outcome : ConfirmationOutcome)
      (rows : List SuccessKindRow)
  deriving DecidableEq, Repr

/-- The view a poll goes on with. -/
def PollPhase.chainView : PollPhase → Option ChainStatusView
  | .idle | .statusRead _ => none
  | .refreshed chainView | .sweeping chainView _ | .fetched chainView _ _ _ => some chainView

/-- Position a subscription resumes from. -/
inductive Resume
  | liveTail
  | after (cursor : Nat)
  deriving DecidableEq, Repr

/-- A chain-event delivery. -/
structure Envelope where
  visibleTip : Nat
  settledTip : Nat
  reverted : Option (Nat × Nat)
  deriving DecidableEq, Repr

/-- Where `run_loop` is suspended. -/
inductive Subscription
  | reconciling
  | subscribing (resume : Resume)
  | draining (resume : Resume) (next : Nat)
  | handlingReorg (cursor : Nat) (startHeight endHeight : Nat)
  deriving DecidableEq, Repr

inductive SubscribeOutcome
  | opened
  | cursorExpired
  | reconnect
  deriving DecidableEq, Repr

inductive StreamItem
  | delivery
  | cursorExpired
  | disconnect
  deriving DecidableEq, Repr

/-- `none` is an error of the oracle. -/
inductive PollStep
  | chainStatus (answer : Option ChainStatusView)
  | refresh
  | readRows (answered : Bool)
  | nextRow (answer : Option ConfirmationOutcome)
  | write (fault : Fault)
  deriving DecidableEq, Repr

/-! ## The system -/

inductive Event
  | chain (move : Chain.Move)
  | service (e : Lifecycle.Event)
  | crash
  | poll (p : Poller) (pollStep : PollStep)
  | subscribe (outcome : SubscribeOutcome)
  | next (item : StreamItem)
  | handleReorg (fault : Fault)

/-- `views` are all the views the process has read or cached since it started:
the ones a lookup may still go on with. -/
structure System (txExpiry : String → Option Nat) where
  chain : Chain txExpiry
  log : List Envelope
  service : Lifecycle.State
  polls : Poller → PollPhase
  subscription : Subscription
  views : List ChainStatusView

namespace System

variable {txExpiry : String → Option Nat}

/-- An empty service on a running chain. -/
def initial (chain : Chain txExpiry) (now : Nat) : System txExpiry where
  chain := chain
  log := []
  service := .initial now
  polls _ := .idle
  subscription := .reconciling
  views := [ChainStatusCache.new.load]

/-- Requests, the clock and the sweeper; the other events of the service are the
reconciliation's. -/
def ofService : Lifecycle.Event → Bool
  | .crash | .recordConfirmation .. | .downgradeOnReorg _ | .downgradeReorgedRange ..
  | .storeView .. => false
  | _ => true

/-- Apply a fetched outcome to the row it was fetched for. -/
def reconcileUnsettledRow (row : SuccessKindRow) : ConfirmationOutcome → Option Lifecycle.Event
  | .mined blockHeight confirmationCount =>
      some (.recordConfirmation row.paymentId confirmationCount (some blockHeight))
  | .inMempool =>
      some (if row.minedBlockHeight.isSome then .downgradeOnReorg row.paymentId
        else .recordConfirmation row.paymentId 0 none)
  | .notFound | .conflictingChain =>
      if row.minedBlockHeight.isSome then some (.downgradeOnReorg row.paymentId) else none

/-- The envelope the next delivery reads. -/
def pending (s : System txExpiry) : Option Envelope :=
  match s.subscription with
  | .draining _ next => s.log[next]?
  | _ => none

/-- The operation of the service a step performs. -/
def operation (s : System txExpiry) : Event → Option Lifecycle.Event
  | .service e => if ofService e && truthfulAnswer txExpiry s.service e then some e else none
  | .crash => some .crash
  | .poll p .refresh =>
      match s.polls p with
      | .statusRead (some { visibleTipHeight := some visible, settledTipHeight := some settled }) =>
          some (.storeView visible settled)
      | _ => none
  | .poll p (.write fault) =>
      match s.polls p with
      | .fetched _ row outcome _ =>
          if fault = .lost then none else reconcileUnsettledRow row outcome
      | _ => none
  | .next .delivery =>
      s.pending.map fun envelope => .storeView envelope.visibleTip envelope.settledTip
  | .handleReorg fault =>
      match s.subscription with
      | .handlingReorg _ startHeight endHeight =>
          if fault = .lost then none else some (.downgradeReorgedRange startHeight endHeight)
      | _ => none
  | _ => none

/-- The view a step takes in. -/
def takes (s : System txExpiry) : Event → Option ChainStatusView
  | .poll p .refresh =>
      match s.polls p with
      | .statusRead answer => some (answer.getD s.service.chainStatus.load)
      | _ => none
  | .next .delivery =>
      s.pending.map fun envelope =>
        { visibleTipHeight := some envelope.visibleTip
          settledTipHeight := some envelope.settledTip }
  | _ => none

/-- The next phase of a poll.  A row under the settled tip costs no chain call. -/
def nextPoll (s : System txExpiry) (p : Poller) (pollStep : PollStep) : PollPhase :=
  match s.polls p, pollStep with
  | .idle, .chainStatus answer =>
      if (p = .chainEvents → s.subscription = .reconciling) ∧
          ∀ view ∈ answer, TellsTips s.chain view then .statusRead answer
      else .idle
  | .statusRead answer, .refresh => .refreshed (answer.getD s.service.chainStatus.load)
  | .refreshed chainView, .readRows true =>
      .sweeping chainView s.service.ledger.successKindTransactions
  | .refreshed _, .readRows false => .idle
  | .sweeping _ [], .nextRow _ => .idle
  | .sweeping chainView (row :: rows), .nextRow answer =>
      if row.minedBlockHeight.any chainView.isSettledAt then .sweeping chainView rows
      else
        match answer with
        | none => .sweeping chainView rows
        | some outcome =>
            if TellsPlace s.chain row.transactionId outcome then
              .fetched chainView row outcome rows
            else .sweeping chainView (row :: rows)
  | .fetched chainView _ _ rows, .write _ => .sweeping chainView rows
  | phase, _ => phase

def nextPolls (s : System txExpiry) : Event → Poller → PollPhase
  | .crash => fun _ => .idle
  | .poll p pollStep => fun p' => if p' = p then s.nextPoll p pollStep else s.polls p'
  | _ => s.polls

/-- The end of a reconciliation leads back to the live tail. -/
def nextSubscription (s : System txExpiry) : Event → Subscription
  | .crash => .reconciling
  | .poll p pollStep =>
      if p = .chainEvents ∧ s.polls p ≠ .idle ∧ s.nextPoll p pollStep = .idle then
        .subscribing .liveTail
      else s.subscription
  | .subscribe outcome =>
      match s.subscription, outcome with
      | .subscribing .liveTail, .opened => .draining .liveTail s.log.length
      | .subscribing (.after cursor), .opened => .draining (.after cursor) (cursor + 1)
      | .subscribing _, .cursorExpired => .reconciling
      | subscription, _ => subscription
  | .next .delivery =>
      match s.subscription, s.pending with
      | .draining _ next, some { reverted := none, .. } => .draining (.after next) (next + 1)
      | .draining _ next, some { reverted := some (startHeight, endHeight), .. } =>
          .handlingReorg next startHeight endHeight
      | subscription, _ => subscription
  | .next item =>
      match s.subscription, item with
      | .draining _ _, .cursorExpired => .reconciling
      | .draining resume _, .disconnect => .subscribing resume
      | subscription, _ => subscription
  | .handleReorg _ =>
      match s.subscription with
      | .handlingReorg cursor _ _ => .draining (.after cursor) (cursor + 1)
      | subscription => subscription
  | _ => s.subscription

/-- The log entry of a move that was made. -/
def envelope (before after : Chain txExpiry) : Chain.Move → Envelope
  | .reorg forkHeight _ =>
      { visibleTip := after.visibleTip
        settledTip := after.settledTip
        reverted := some (forkHeight + 1, before.visibleTip) }
  | .extend _ | .settle _ =>
      { visibleTip := after.visibleTip, settledTip := after.settledTip, reverted := none }

def nextChain (s : System txExpiry) : Event → Chain txExpiry
  | .chain move => s.chain.moved move
  | _ => s.chain

def nextLog (s : System txExpiry) : Event → List Envelope
  | .chain move =>
      match s.chain.move move with
      | some chain => s.log ++ [envelope s.chain chain move]
      | none => s.log
  | _ => s.log

/-- A restart forgets the views of the process before it. -/
def nextViews (s : System txExpiry) : Event → List ChainStatusView
  | .crash => [ChainStatusCache.new.load]
  | e => (s.takes e).toList ++ s.views

variable {C A V : Type} (d : Deployment C A V)

def step (s : System txExpiry) (e : Event) : System txExpiry where
  chain := s.nextChain e
  log := s.nextLog e
  service := (s.operation e).elim s.service (Lifecycle.step d s.service)
  polls := s.nextPolls e
  subscription := s.nextSubscription e
  views := s.nextViews e

variable {d} {s : System txExpiry}

/-! ## The service underneath -/

/-- What a written verdict does to its row. -/
theorem reconcile_cases {row : SuccessKindRow} {outcome : ConfirmationOutcome}
    {op : Lifecycle.Event} (h : reconcileUnsettledRow row outcome = some op) :
    (∃ height count, outcome = .mined height count ∧
      op = .recordConfirmation row.paymentId count (some height)) ∨
    op = .recordConfirmation row.paymentId 0 none ∨ op = .downgradeOnReorg row.paymentId := by
  unfold reconcileUnsettledRow at h
  split at h
  · next height count => exact .inl ⟨height, count, rfl, (Option.some.inj h).symm⟩
  · right
    rw [← Option.some.inj h]
    split
    · exact .inr rfl
    · exact .inl rfl
  · split at h
    · exact .inr (.inr (Option.some.inj h).symm)
    · exact absurd h (by simp)
  · split at h
    · exact .inr (.inr (Option.some.inj h).symm)
    · exact absurd h (by simp)

/-- The operations of the service, and the steps that perform them. -/
inductive Performs (s : System txExpiry) : Event → Lifecycle.Event → Prop
  | service {e : Lifecycle.Event} (hservice : ofService e = true)
      (htruthful : truthfulAnswer txExpiry s.service e = true) : Performs s (.service e) e
  | crash : Performs s .crash .crash
  | refresh {p : Poller} {visible settled : Nat}
      (hphase : s.polls p = .statusRead (some
        { visibleTipHeight := some visible, settledTipHeight := some settled })) :
      Performs s (.poll p .refresh) (.storeView visible settled)
  | write {p : Poller} {fault : Fault} {chainView : ChainStatusView} {row : SuccessKindRow}
      {outcome : ConfirmationOutcome} {rows : List SuccessKindRow} {op : Lifecycle.Event}
      (hfault : fault ≠ .lost) (hphase : s.polls p = .fetched chainView row outcome rows)
      (hreconcile : reconcileUnsettledRow row outcome = some op) :
      Performs s (.poll p (.write fault)) op
  | delivery {envelope : Envelope} (hpending : s.pending = some envelope) :
      Performs s (.next .delivery) (.storeView envelope.visibleTip envelope.settledTip)
  | handleReorg {fault : Fault} {cursor startHeight endHeight : Nat} (hfault : fault ≠ .lost)
      (hphase : s.subscription = .handlingReorg cursor startHeight endHeight) :
      Performs s (.handleReorg fault) (.downgradeReorgedRange startHeight endHeight)

theorem performs_of_operation {s : System txExpiry} {e : Event} {op : Lifecycle.Event}
    (h : s.operation e = some op) : s.Performs e op := by
  unfold operation at h
  split at h
  · split at h
    · next hfits =>
        rw [Bool.and_eq_true] at hfits
        rw [← Option.some.inj h]
        exact .service hfits.1 hfits.2
    · exact absurd h (by simp)
  · rw [← Option.some.inj h]
    exact .crash
  · split at h
    · next hphase =>
        rw [← Option.some.inj h]
        exact .refresh hphase
    · exact absurd h (by simp)
  · split at h
    · next hphase =>
        split at h
        · exact absurd h (by simp)
        · next hfault => exact .write hfault hphase h
    · exact absurd h (by simp)
  · obtain ⟨envelope, hpending, rfl⟩ := Option.map_eq_some_iff.1 h
    exact .delivery hpending
  · split at h
    · next hphase =>
        split at h
        · exact absurd h (by simp)
        · next hfault =>
            rw [← Option.some.inj h]
            exact .handleReorg hfault hphase
    · exact absurd h (by simp)
  · exact absurd h (by simp)

/-- A step performs at most one operation of the service. -/
theorem step_service (d : Deployment C A V) (s : System txExpiry) (e : Event) :
    (s.step d e).service = run (Lifecycle.step d) s.service (s.operation e).toList := by
  show (s.operation e).elim s.service (Lifecycle.step d s.service) = _
  cases s.operation e with
  | none => rfl
  | some op => rfl

/-- Every run is a run of the service. -/
theorem service_run (d : Deployment C A V) (s : System txExpiry) (es : List Event) :
    ∃ ops, (run (step d) s es).service = run (Lifecycle.step d) s.service ops := by
  induction es generalizing s with
  | nil => exact ⟨[], rfl⟩
  | cons e es ih =>
      obtain ⟨ops, hops⟩ := ih (s.step d e)
      refine ⟨(s.operation e).toList ++ ops, ?_⟩
      rw [run_append, ← step_service]
      exact hops

end System

/-! ### A sample chain -/

/-- The sample transaction expires at height 10. -/
def sampleTxExpiry (tx : String) : Option Nat := if tx = "t1" then some 10 else none

def reconciledDeployment : Deployment (Nat × UInt64) Nat Nat :=
  { sampleDeployment with parseTransactionExpiryHeight := fun _ => .ok 10 }

/-- Nothing but the genesis block. -/
def genesis : Chain sampleTxExpiry where
  blocks := [[]]
  settledTip := 0
  settled_lt := by decide
  in_time := rfl

/-- The sample payment is prepared at height 0, accepted and recorded. -/
def acceptedPayment : List Event :=
  [.service (.start (ownerCall 0) (.prepare samplePrepareRequest) none),
    .service (.tip (ownerCall 0) (.ok 0) .none), .service (settleStart 1),
    .service (.answer (ownerCall 1) (.ok (.accepted "t1"))),
    .service (.record (ownerCall 1) .none)]

/-- A poll with these answers, up to its one row. -/
def pollOnce (p : Poller) (visible settled : Nat) (answer : Option ConfirmationOutcome) :
    List Event :=
  [.poll p (.chainStatus (some
      { visibleTipHeight := some visible, settledTipHeight := some settled })),
    .poll p .refresh, .poll p (.readRows true), .poll p (.nextRow answer)]

end Zpay.Runtime
