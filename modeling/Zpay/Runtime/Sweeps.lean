import Zpay.Runtime.Reconciler

/-!
# Any number of reconciliations

The confirmation poll and the chain-event task sweep the same ledger, each from
its own copy of the rows and its own answers of the oracle, with settle calls and
range downgrades in between.  Here any number of sweeps run at once, a ledger
access or an answer at a time, and the oracle says what it likes, but that a mined
transaction has a confirmation.

A sweep decides from its copy of a row.  A verdict that the transaction waits in
the mempool, decided on a copy without a height, zeroes the count and leaves the
height; the row may have one by then.

## Main results

* `mined_state_consistent_iff` — heights and counts agree throughout a run exactly
  when no such verdict lands on a row with a height.
* `mined_without_confirmation` — two sweeps, the older answer written last.
-/

open Zpay.Data Zpay.Core Zpay.Machine Zpay.Lifecycle

namespace Zpay.Runtime

/-! ## The sweeps -/

/-- A mined answer counts at least one confirmation. -/
def ConfirmationOutcome.counted : ConfirmationOutcome → Bool
  | .mined _ confirmationCount => decide (1 ≤ confirmationCount)
  | .inMempool | .notFound | .conflictingChain => true

/-- `poll_oracle_once`, over the ledger and the cached view of the moment. -/
def PollPhase.next (ledger : SettlementLedger) (cached : ChainStatusView) :
    PollPhase → PollStep → PollPhase
  | .idle, .chainStatus answer => .statusRead answer
  | .statusRead answer, .refresh => .refreshed (answer.getD cached)
  | .refreshed chainView, .readRows true => .sweeping chainView ledger.successKindTransactions
  | .refreshed _, .readRows false => .idle
  | .sweeping _ [], .nextRow _ => .idle
  | .sweeping chainView (row :: rows), .nextRow answer =>
      if row.minedBlockHeight.any chainView.isSettledAt then .sweeping chainView rows
      else
        match answer with
        | none => .sweeping chainView rows
        | some outcome =>
            if outcome.counted then .fetched chainView row outcome rows
            else .sweeping chainView (row :: rows)
  | .fetched chainView _ _ rows, .write _ => .sweeping chainView rows
  | phase, _ => phase

structure Sweeps where
  service : Lifecycle.State
  polls : Nat → PollPhase

namespace Sweeps

def initial (now : Nat) : Sweeps where
  service := .initial now
  polls _ := .idle

inductive Event
  | service (e : Lifecycle.Event)
  | crash
  | poll (p : Nat) (pollStep : PollStep)

/-- Requests, the clock, the sweeper and the chain-event deliveries; the other
events of the service are the sweeps'. -/
def ofService : Lifecycle.Event → Bool
  | .crash | .recordConfirmation .. | .downgradeOnReorg _ => false
  | _ => true

/-- The operation of the service a step performs. -/
def operation (s : Sweeps) : Event → Option Lifecycle.Event
  | .service e => if ofService e then some e else none
  | .crash => some .crash
  | .poll p .refresh =>
      match s.polls p with
      | .statusRead (some { visibleTipHeight := some visible, settledTipHeight := some settled }) =>
          some (.storeView visible settled)
      | _ => none
  | .poll p (.write fault) =>
      match s.polls p with
      | .fetched _ row outcome _ =>
          if fault = .lost then none else System.reconcileUnsettledRow row outcome
      | _ => none
  | _ => none

def nextPolls (s : Sweeps) : Event → Nat → PollPhase
  | .crash => fun _ => .idle
  | .poll p pollStep => fun p' =>
      if p' = p then (s.polls p).next s.service.ledger s.service.chainStatus.load pollStep
      else s.polls p'
  | .service _ => s.polls

def step {C A V : Type} (d : Deployment C A V) (s : Sweeps) (e : Event) : Sweeps where
  service := (s.operation e).elim s.service (Lifecycle.step d s.service)
  polls := s.nextPolls e

end Sweeps

/-! ## Consistent rows -/

/-- A height is stored exactly when a confirmation is counted. -/
def ConsistentRow (entry : SettlementLedgerEntry) : Prop :=
  entry.minedBlockHeight.isSome = true ↔ ∃ count, entry.confirmationCount = some count ∧ 1 ≤ count

def Consistent (ledger : SettlementLedger) : Prop :=
  ∀ paymentId entry, ledger.lookup paymentId = some entry → ConsistentRow entry

theorem consistent_fresh (settlement : PreparedSettlement) (outcome : BroadcastOutcome)
    (now : Nat) : ConsistentRow (settlement.ledgerEntry outcome now) := by
  unfold ConsistentRow PreparedSettlement.ledgerEntry
  simp

theorem zero_counts_none : ¬ ∃ count, (some 0 : Option UInt32) = some count ∧ 1 ≤ count := by
  intro hcounted
  obtain ⟨count, heq, hpos⟩ := hcounted
  rw [← Option.some.inj heq] at hpos
  exact absurd hpos (by decide)

theorem consistent_confirmed (entry : SettlementLedgerEntry) {count : UInt32} {height : Nat}
    (hcount : 1 ≤ count) : ConsistentRow (entry.recordConfirmation count (some height)) := by
  unfold ConsistentRow SettlementLedgerEntry.recordConfirmation
  exact iff_of_true rfl ⟨count, rfl, hcount⟩

/-- Zeroing the count is right for a row without a height. -/
theorem consistent_zeroed_iff (entry : SettlementLedgerEntry) :
    ConsistentRow (entry.recordConfirmation 0 none) ↔ entry.minedBlockHeight = none := by
  unfold ConsistentRow SettlementLedgerEntry.recordConfirmation
  rw [iff_false_right zero_counts_none, Option.none_or]
  simp

theorem consistent_downgraded {entry : SettlementLedgerEntry} (now : Nat)
    (h : ConsistentRow entry) : ConsistentRow (entry.downgradeOnReorg now) := by
  cases hmined : entry.minedBlockHeight with
  | none =>
      unfold SettlementLedgerEntry.downgradeOnReorg
      rw [hmined]
      exact h
  | some height =>
      unfold ConsistentRow SettlementLedgerEntry.downgradeOnReorg
      rw [hmined]
      simp only [Option.isSome_none, Bool.false_eq_true, false_iff]
      exact zero_counts_none

/-! ## One operation -/

/-- The operation counts a confirmation only along with a height. -/
def WritesBoth : Lifecycle.Event → Prop
  | .recordConfirmation _ count height => height.isSome = true ∧ 1 ≤ count
  | _ => True

variable {C A V : Type}

theorem consistent_rewrite {op : Lifecycle.Event} {now : Nat} {paymentId : PaymentId}
    {entry : SettlementLedgerEntry} (hop : WritesBoth op) (h : ConsistentRow entry) :
    ConsistentRow (op.rewrite now paymentId entry) := by
  cases op with
  | recordConfirmation other count height =>
      by_cases hid : paymentId = other
      · rw [Event.rewrite, if_pos hid]
        obtain ⟨hheight, hcount⟩ := hop
        cases height with
        | none => exact absurd hheight (by decide)
        | some height => exact consistent_confirmed entry hcount
      · rw [Event.rewrite, if_neg hid]
        exact h
  | downgradeOnReorg other =>
      by_cases hid : paymentId = other
      · rw [Event.rewrite, if_pos hid]
        exact consistent_downgraded now h
      · rw [Event.rewrite, if_neg hid]
        exact h
  | downgradeReorgedRange startHeight endHeight =>
      by_cases hwithin : entry.minedWithin startHeight endHeight = true
      · rw [Event.rewrite, if_pos hwithin]
        exact consistent_downgraded now h
      · rw [Event.rewrite, if_neg hwithin]
        exact h
  | _ => exact h

theorem consistent_operation (d : Deployment C A V) {s : Lifecycle.State} {op : Lifecycle.Event}
    (hop : WritesBoth op) (hs : Consistent s.ledger) :
    Consistent (Lifecycle.step d s op).ledger := by
  intro paymentId entry hentry
  rcases ledger_step d s paymentId op with ⟨fresh, hfresh, hrow⟩ | hrow
  · rw [hrow, Option.some.injEq] at hentry
    obtain ⟨_, _, settlement, outcome, -, -, -, -, heq⟩ := hfresh
    rw [← hentry, heq]
    exact consistent_fresh settlement outcome s.now
  · rw [hrow] at hentry
    obtain ⟨old, hold, rfl⟩ := Option.map_eq_some_iff.1 hentry
    exact consistent_rewrite hop (hs paymentId old hold)

/-- Zeroing a count is right for a payment whose row, if any, has no height. -/
theorem consistent_zeroing_iff (d : Deployment C A V) {s : Lifecycle.State}
    {paymentId : PaymentId} (hs : Consistent s.ledger) :
    Consistent (Lifecycle.step d s (.recordConfirmation paymentId 0 none)).ledger ↔
      ∀ entry, s.ledger.lookup paymentId = some entry → entry.minedBlockHeight = none := by
  have hrow : ∀ other,
      (Lifecycle.step d s (.recordConfirmation paymentId 0 none)).ledger.lookup other =
        if other = paymentId then
          (s.ledger.lookup paymentId).map fun entry => entry.recordConfirmation 0 none
        else s.ledger.lookup other :=
    fun other => SettlementLedger.lookup_record_confirmation
  constructor
  · intro hafter entry hentry
    have hwritten := hrow paymentId
    rw [if_pos rfl, hentry, Option.map_some] at hwritten
    exact (consistent_zeroed_iff entry).1 (hafter paymentId _ hwritten)
  · intro hunmined other entry hentry
    rw [hrow other] at hentry
    split at hentry
    · obtain ⟨old, hold, rfl⟩ := Option.map_eq_some_iff.1 hentry
      exact (consistent_zeroed_iff old).2 (hunmined old hold)
    · exact hs other entry hentry

/-! ## One step -/

namespace Sweeps

/-- The step writes, for this payment, a mempool verdict decided on a copy of its
row without a height. -/
def Zeroes (s : Sweeps) (e : Event) (paymentId : PaymentId) : Prop :=
  ∃ p fault chainView row rows, e = .poll p (.write fault) ∧ fault ≠ .lost ∧
    s.polls p = .fetched chainView row .inMempool rows ∧ row.minedBlockHeight = none ∧
    row.paymentId = paymentId

/-- Such a verdict finds the row still without a height. -/
def FreshVerdict (s : Sweeps) (e : Event) : Prop :=
  ∀ paymentId, s.Zeroes e paymentId → ∀ entry, s.service.ledger.lookup paymentId = some entry →
    entry.minedBlockHeight = none

/-- The answers under way count at least one confirmation. -/
def AnswersCounted (s : Sweeps) : Prop :=
  ∀ p chainView row outcome rows, s.polls p = .fetched chainView row outcome rows →
    outcome.counted = true

theorem answers_counted_step (d : Deployment C A V) (s : Sweeps) (e : Event)
    (hs : AnswersCounted s) : AnswersCounted (s.step d e) := by
  intro p chainView row outcome rows hphase
  cases e with
  | service e => exact hs p chainView row outcome rows hphase
  | crash => exact absurd hphase (by simp [step, nextPolls])
  | poll other pollStep =>
      change (if p = other then (s.polls other).next _ _ pollStep else s.polls p) = _ at hphase
      by_cases hp : p = other
      · rw [if_pos hp] at hphase
        unfold PollPhase.next at hphase
        split at hphase
        all_goals try exact absurd hphase (by simp)
        · split at hphase
          · exact absurd hphase (by simp)
          · split at hphase
            · exact absurd hphase (by simp)
            · split at hphase
              · next hcounted =>
                  cases hphase
                  exact hcounted
              · exact absurd hphase (by simp)
        · exact hs other chainView row outcome rows hphase
      · rw [if_neg hp] at hphase
        exact hs p chainView row outcome rows hphase

theorem zeroes_operation {s : Sweeps} {e : Event} {paymentId : PaymentId}
    (h : s.Zeroes e paymentId) : s.operation e = some (.recordConfirmation paymentId 0 none) := by
  obtain ⟨p, fault, chainView, row, rows, rfl, hfault, hphase, hcopy, rfl⟩ := h
  have hreconcile : System.reconcileUnsettledRow row .inMempool =
      some (.recordConfirmation row.paymentId 0 none) := by
    simp [System.reconcileUnsettledRow, hcopy]
  rw [← hreconcile]
  simp only [operation, hphase]
  exact if_neg hfault

/-- A count is zeroed for a mempool verdict on a copy without a height. -/
theorem zeroing_verdict {row : SuccessKindRow} {outcome : ConfirmationOutcome}
    (h : System.reconcileUnsettledRow row outcome =
      some (.recordConfirmation row.paymentId 0 none)) :
    outcome = .inMempool ∧ row.minedBlockHeight = none := by
  unfold System.reconcileUnsettledRow at h
  split at h
  · exact absurd h (by simp)
  · refine ⟨rfl, ?_⟩
    cases hcopy : row.minedBlockHeight with
    | none => rfl
    | some height => exact absurd h (by simp [hcopy])
  · split at h
    · exact absurd h (by simp)
    · exact absurd h (by simp)
  · split at h
    · exact absurd h (by simp)
    · exact absurd h (by simp)

/-- Every other write that counts stores a height. -/
theorem writes_both {s : Sweeps} {e : Event} {op : Lifecycle.Event} (hs : AnswersCounted s)
    (hzero : ∀ paymentId, ¬ s.Zeroes e paymentId) (hop : s.operation e = some op) :
    WritesBoth op := by
  unfold operation at hop
  split at hop
  · split at hop
    · next hservice =>
        cases hop
        cases op with
        | recordConfirmation => exact absurd hservice (by simp [ofService])
        | _ => trivial
    · exact absurd hop (by simp)
  · cases hop
    trivial
  · split at hop
    · cases hop
      trivial
    · exact absurd hop (by simp)
  · next p fault =>
      split at hop
      · next chainView row outcome rows hphase =>
          split at hop
          · exact absurd hop (by simp)
          · next hfault =>
              have hcounted := hs p chainView row outcome rows hphase
              rcases System.reconcile_cases hop with ⟨height, count, rfl, rfl⟩ | rfl | rfl
              · exact ⟨rfl, of_decide_eq_true hcounted⟩
              · obtain ⟨rfl, hcopy⟩ := zeroing_verdict hop
                exact absurd ⟨p, fault, chainView, row, rows, rfl, hfault, hphase, hcopy, rfl⟩
                  (hzero row.paymentId)
              · trivial
      · exact absurd hop (by simp)
  · exact absurd hop (by simp)

theorem fresh_verdict_iff (d : Deployment C A V) (s : Sweeps) (e : Event)
    (hanswers : AnswersCounted s) (hs : Consistent s.service.ledger) :
    FreshVerdict s e ↔ Consistent (s.step d e).service.ledger := by
  show _ ↔ Consistent ((s.operation e).elim s.service (Lifecycle.step d s.service)).ledger
  by_cases hzeroes : ∃ paymentId, s.Zeroes e paymentId
  · obtain ⟨paymentId, hzero⟩ := hzeroes
    rw [zeroes_operation hzero, Option.elim_some, consistent_zeroing_iff d hs]
    constructor
    · intro hfresh
      exact hfresh paymentId hzero
    · intro hunmined other hother
      have hsame : (some (Lifecycle.Event.recordConfirmation other 0 none)) =
          some (.recordConfirmation paymentId 0 none) := by
        rw [← zeroes_operation hother, zeroes_operation hzero]
      cases hsame
      exact hunmined
  · have hnone : ∀ paymentId, ¬ s.Zeroes e paymentId := not_exists.1 hzeroes
    have hfresh : FreshVerdict s e := fun paymentId hzero => absurd hzero (hnone paymentId)
    refine iff_of_true hfresh ?_
    cases hop : s.operation e with
    | none => exact hs
    | some op => exact consistent_operation d (writes_both hanswers hnone hop) hs

/-! ## Whole runs -/

/-- Every row has a height exactly when it counts a confirmation, in every state of
a run, if and only if every mempool verdict decided on a copy without a height
finds the row without one. -/
theorem mined_state_consistent_iff (d : Deployment C A V) (now : Nat) (es : List Event) :
    (∀ n, Consistent (run (Sweeps.step d) (.initial now) (es.take n)).service.ledger) ↔
      Along (Sweeps.step d) FreshVerdict (.initial now) es := by
  have hstep : ∀ s e, AnswersCounted s → Consistent s.service.ledger →
      (FreshVerdict s e ↔ Consistent (s.step d e).service.ledger) := fresh_verdict_iff d
  have hanswers : AnswersCounted (.initial now) := by
    intro p chainView row outcome rows hphase
    exact absurd hphase (by simp [initial])
  have hempty : Consistent (Sweeps.initial now).service.ledger := by
    intro paymentId entry hentry
    exact absurd hentry (by simp [initial, Lifecycle.State.initial])
  exact always_iff_along (answers_counted_step d) hstep hanswers hempty es

/-! ### Two sweeps -/

/-- The sample payment is prepared, accepted and recorded. -/
def recordedPayment : List Event :=
  (prepareEvents ++ [settleStart 1, .answer (ownerCall 1) (.ok (.accepted "t1")),
    .record (ownerCall 1) .none]).map .service

/-- A sweep up to the answer for its one row. -/
def sweepUntil (p : Nat) (answer : ConfirmationOutcome) : List Event :=
  [.poll p (.chainStatus none), .poll p .refresh, .poll p (.readRows true),
    .poll p (.nextRow (some answer))]

/-- The first sweep hears that the transaction waits, the second, later, that it
is mined; the second writes before the first. -/
def overtakenSweep : List Event :=
  recordedPayment ++ sweepUntil 0 .inMempool ++ sweepUntil 1 (.mined 4047095 1) ++
    [.poll 1 (.write .none), .poll 0 (.write .none)]

/-- The row keeps its height and loses its confirmation. -/
theorem mined_without_confirmation :
    (((run (Sweeps.step sampleDeployment) (.initial 0) overtakenSweep).service.ledger.lookup
        samplePayment).any fun entry =>
      entry.minedBlockHeight == some 4047095 && entry.confirmationCount == some 0) = true ∧
    ¬ Consistent
      (run (Sweeps.step sampleDeployment) (.initial 0) overtakenSweep).service.ledger := by
  have hrow : (((run (Sweeps.step sampleDeployment) (.initial 0)
      overtakenSweep).service.ledger.lookup samplePayment).any fun entry =>
        entry.minedBlockHeight == some 4047095 && entry.confirmationCount == some 0) = true := by
    decide
  refine ⟨hrow, ?_⟩
  intro hconsistent
  obtain ⟨entry, hentry, hstored⟩ := (Option.any_eq_true _ _).1 hrow
  rw [Bool.and_eq_true, beq_iff_eq, beq_iff_eq] at hstored
  have hmined : entry.minedBlockHeight.isSome = true := by rw [hstored.1]; rfl
  obtain ⟨count, hcount, hpos⟩ := (hconsistent samplePayment entry hentry).1 hmined
  rw [hstored.2, Option.some.injEq] at hcount
  rw [← hcount] at hpos
  exact absurd hpos (by decide)

end Sweeps

end Zpay.Runtime
