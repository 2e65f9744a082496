import Mathlib.Data.List.TakeWhile
import Zpay.Core.Status
import Zpay.Machine.Run
import Zpay.Runtime.EventLoop

/-!
# Reorgs and the resume cursor

The loop moves its cursor past an envelope before it hands the envelope's reorg
to the sink, and the sink keeps a failed downgrade to itself.  Every later
subscribe resumes after the envelope, so the reorg is not delivered again.

The ledger is shared with the settle handlers and the polls; `others` is what
they make of it between two reorgs.

## Main results

* `reorgs_applied_iff` — resuming after a cursor means that every reorg up to it
  was applied exactly when no downgrade of a delivered reorg is lost.
* `skipped_reorg` — one lost downgrade, and the row stays mined.
-/

open Zpay.Data Zpay.Core Zpay.Machine

namespace Zpay.Runtime.EventLoop

variable {C : Type*}

/-! ## The sink over the ledger -/

/-- One call of `handle_reorg`. -/
structure Handling where
  startHeight : Nat
  endHeight : Nat
  applied : Bool
  before : SettlementLedger
  after : SettlementLedger

/-- The ledger, the reorgs handled so far, and every subscribe with the reorgs
that had been handled by then. -/
structure ReorgWorld (C : Type*) where
  ledger : SettlementLedger
  handled : List Handling
  subscribed : List (Resume C × List Handling)

/-- What happens around the `n`-th downgrade: the clock, the other writers, and
how the store fails. -/
structure Surroundings where
  now : Nat → Nat
  others : Nat → SettlementLedger → SettlementLedger
  fault : Nat → Fault

section Sink

variable (env : Surroundings)

/-- `downgrade_reorged_range`, whose error is logged and dropped. -/
def handleReorg (revertedStartHeight revertedEndHeight : Nat) (w : ReorgWorld C) :
    ReorgWorld C :=
  let n := w.handled.length
  let before := env.others n w.ledger
  let after :=
    if env.fault n = .lost then before
    else before.downgradeReorgedRange revertedStartHeight revertedEndHeight (env.now n)
  { w with
    ledger := after
    handled := w.handled ++
      [{ startHeight := revertedStartHeight
         endHeight := revertedEndHeight
         applied := decide (env.fault n ≠ .lost)
         before
         after }] }

/-- The sweeps and the view touch neither the cursor nor the reorgs. -/
def runtimeSink : LoopSink C (ReorgWorld C) where
  subscribe resume w := { w with subscribed := w.subscribed ++ [(resume, w.handled)] }
  reconcile w := w
  storeChainView _ _ w := w
  handleReorg := handleReorg env
  backoffSleep _ w := w

end Sink

def ReorgWorld.initial (ledger : SettlementLedger) : ReorgWorld C where
  ledger := ledger
  handled := []
  subscribed := []

/-- Whenever the loop has subscribed after a cursor, every reorg delivered up to
it has been applied, and has left no row in its range. -/
def ReorgsApplied (w : ReorgWorld C) : Prop :=
  ∀ cursor handled, (.after cursor, handled) ∈ w.subscribed → ∀ h ∈ handled,
    h.applied = true ∧ ∀ paymentId entry, h.after.lookup paymentId = some entry →
      entry.minedWithin h.startHeight h.endHeight = false

def Observation.isReorg : Observation C → Bool
  | .delivered delivery => delivery.reverted.isSome
  | .asked | .expired | .broken => false

/-- The reorgs the loop is delivered. -/
def deliveredReorgs (script : List (SubscribeOutcome C)) : Nat :=
  (observed script).countP Observation.isReorg

/-! ## What the calls leave behind -/

variable {env : Surroundings} {w : ReorgWorld C}

/-- A downgraded range is empty. -/
theorem downgraded_range_empty {ledger : SettlementLedger} {startHeight endHeight now : Nat}
    {paymentId : PaymentId} {entry : SettlementLedgerEntry}
    (h : (ledger.downgradeReorgedRange startHeight endHeight now).lookup paymentId =
      some entry) : entry.minedWithin startHeight endHeight = false := by
  rw [SettlementLedger.lookup_downgrade_reorged_range, Option.map_eq_some_iff] at h
  obtain ⟨old, -, heq⟩ := h
  by_cases hwithin : old.minedWithin startHeight endHeight = true
  · rw [if_pos hwithin] at heq
    rw [← heq]
    unfold SettlementLedgerEntry.minedWithin
    rw [SettlementLedgerEntry.downgradeOnReorg_minedBlockHeight]
    rfl
  · rw [if_neg hwithin] at heq
    rw [← heq]
    exact Bool.eq_false_iff.2 hwithin

/-- Every handled reorg was applied unless its downgrade was lost, and every
subscribe saw a part of them. -/
structure Handled (env : Surroundings) (w : ReorgWorld C) : Prop where
  applied : ∀ n h, w.handled[n]? = some h → h.applied = decide (env.fault n ≠ .lost)
  emptied : ∀ h ∈ w.handled, h.applied = true → ∀ paymentId entry,
    h.after.lookup paymentId = some entry → entry.minedWithin h.startHeight h.endHeight = false
  seen : ∀ entry ∈ w.subscribed, entry.2 <+: w.handled

theorem handled_initial (ledger : SettlementLedger) :
    Handled env (ReorgWorld.initial ledger : ReorgWorld C) where
  applied _ _ h := absurd h (by simp [ReorgWorld.initial])
  emptied _ h := absurd h (by simp [ReorgWorld.initial])
  seen _ h := absurd h (by simp [ReorgWorld.initial])

theorem handled_reorg (hw : Handled env w) (startHeight endHeight : Nat) :
    Handled env (handleReorg env startHeight endHeight w) where
  applied n h hn := by
    rw [handleReorg, List.getElem?_append] at hn
    by_cases hold : n < w.handled.length
    · rw [if_pos hold] at hn
      exact hw.applied n h hn
    · rw [if_neg hold, List.getElem?_singleton] at hn
      split at hn
      · next hzero =>
          have hlast : n = w.handled.length := by omega
          rw [← Option.some.inj hn, hlast]
      · exact absurd hn (by simp)
  emptied h hmem happlied paymentId entry hentry := by
    rcases List.mem_append.1 hmem with hold | hnew
    · exact hw.emptied h hold happlied paymentId entry hentry
    · rw [List.mem_singleton] at hnew
      subst hnew
      have hkept : env.fault w.handled.length ≠ .lost := of_decide_eq_true happlied
      simp only [if_neg hkept] at hentry
      exact downgraded_range_empty hentry
  seen entry hentry := (hw.seen entry hentry).trans (List.prefix_append _ _)

theorem handled_perform (hw : Handled env w) (call : Call C) :
    Handled env ((runtimeSink env).perform w call) := by
  cases call with
  | subscribe resume =>
      refine ⟨hw.applied, hw.emptied, ?_⟩
      intro entry hentry
      rcases List.mem_append.1 hentry with hold | hnew
      · exact hw.seen entry hold
      · rw [List.mem_singleton.1 hnew]
        exact List.prefix_rfl
  | handleReorg startHeight endHeight => exact handled_reorg hw startHeight endHeight
  | reconcile | storeChainView | backoffSleep => exact hw

theorem handled_calls (hw : Handled env w) (calls : List (Call C)) :
    Handled env (calls.foldl (runtimeSink env).perform w) := by
  induction calls generalizing w with
  | nil => exact hw
  | cons call calls ih => exact ih (handled_perform hw call)

/-- One reorg is handled for each that is delivered. -/
theorem length_handled (env : Surroundings) (past os : List (Observation C)) (w : ReorgWorld C) :
    ((referenceFrom past os).foldl (runtimeSink env).perform w).handled.length =
      w.handled.length + os.countP Observation.isReorg := by
  induction os generalizing past w with
  | nil => rfl
  | cons o os ih =>
      rw [referenceFrom, List.foldl_append, ih, List.countP_cons]
      cases o with
      | delivered delivery =>
          rw [answer]
          cases hreverted : delivery.reverted with
          | none =>
              simp [Observation.isReorg, hreverted, LoopSink.perform, runtimeSink]
          | some range =>
              simp [Observation.isReorg, hreverted, LoopSink.perform, runtimeSink, handleReorg]
              omega
      | asked | expired | broken => rfl

/-- The loop ends with a subscribe. -/
theorem observed_eq_append (script : List (SubscribeOutcome C)) :
    ∃ os, observed script = os ++ [.asked] := by
  induction script with
  | nil => exact ⟨[], rfl⟩
  | cons outcome script ih =>
      obtain ⟨os, hos⟩ := ih
      cases outcome with
      | opened items =>
          refine ⟨.asked :: (observedStream items ++ os), ?_⟩
          rw [observed, hos, List.cons_append, List.append_assoc]
      | cursorExpired =>
          refine ⟨.asked :: .expired :: os, ?_⟩
          rw [observed, hos]
          rfl
      | reconnect =>
          refine ⟨.asked :: .broken :: os, ?_⟩
          rw [observed, hos]
          rfl

/-- With no expiry, the loop resumes after a cursor once anything was delivered. -/
theorem resume_point_after {past : List (Observation C)}
    (hunexpired : ∀ o ∈ past, o.isExpired = false) (hdelivered : ∃ o ∈ past, o.isReorg = true) :
    ∃ cursor, resumePoint past = .after cursor := by
  have hall : past.takeWhile (fun o => !o.isExpired) = past := by
    rw [List.takeWhile_eq_self_iff]
    intro o ho
    rw [hunexpired o ho]
    rfl
  rw [resumePoint, hall]
  cases hcursor : past.findSome? Observation.cursor? with
  | some cursor => exact ⟨cursor, rfl⟩
  | none =>
      obtain ⟨o, ho, hreorg⟩ := hdelivered
      have hnone := List.findSome?_eq_none_iff.1 hcursor o ho
      cases o with
      | delivered delivery => exact absurd hnone (by simp [Observation.cursor?])
      | asked | expired | broken => exact absurd hreorg (by simp [Observation.isReorg])

/-! ## No reorg is skipped -/

/-- The loop's calls are the reference's, made one by one. -/
theorem run_loop_performs (env : Surroundings) (ledger : SettlementLedger)
    (script : List (SubscribeOutcome C)) :
    runLoop (runtimeSink env) script (.initial ledger) =
      (referenceFrom [] (observed script)).foldl (runtimeSink env).perform
        (.initial ledger) := by
  have hrecorded :
      runLoop recording script [] = .reconcile :: referenceFrom [] (observed script) :=
    run_loop_from_calls script [] (recording.reconcile ([] : List (Call C)))
  rw [run_loop_eq_foldl, hrecorded]
  rfl

theorem handled_run (env : Surroundings) (ledger : SettlementLedger)
    (script : List (SubscribeOutcome C)) :
    Handled env (runLoop (runtimeSink env) script (.initial ledger)) := by
  rw [run_loop_performs]
  exact handled_calls (handled_initial ledger) (referenceFrom [] (observed script))

theorem length_handled_run (env : Surroundings) (ledger : SettlementLedger)
    (script : List (SubscribeOutcome C)) :
    (runLoop (runtimeSink env) script (.initial ledger)).handled.length =
      deliveredReorgs script := by
  rw [run_loop_performs, length_handled]
  exact Nat.zero_add _

/-- The last subscribe comes after all that was delivered. -/
theorem subscribed_last (env : Surroundings) (ledger : SettlementLedger)
    {script : List (SubscribeOutcome C)} {os : List (Observation C)}
    (hos : observed script = os ++ [.asked]) :
    (resumePoint os.reverse, (runLoop (runtimeSink env) script (.initial ledger)).handled) ∈
      (runLoop (runtimeSink env) script (.initial ledger)).subscribed := by
  rw [run_loop_performs, hos, reference_from_append, List.foldl_append, List.append_nil]
  exact List.mem_append_right _ List.mem_cons_self

/-- If no downgrade of a delivered reorg is lost, every subscribe follows applied ones. -/
theorem reorgs_applied_of_kept {ledger : SettlementLedger} {script : List (SubscribeOutcome C)}
    (hfaults : ∀ n < deliveredReorgs script, env.fault n ≠ .lost) :
    ReorgsApplied (runLoop (runtimeSink env) script (.initial ledger)) := by
  have hhandled := handled_run env ledger script
  intro cursor handled hsubscribed h hmem
  have hprefix : handled <+: _ := hhandled.seen _ hsubscribed
  have hheld := hprefix.subset hmem
  obtain ⟨n, hn⟩ := List.mem_iff_getElem?.1 hheld
  have hlt := (List.getElem?_eq_some_iff.1 hn).1
  rw [length_handled_run] at hlt
  have happlied : h.applied = true := by
    rw [hhandled.applied n h hn, decide_eq_true_eq]
    exact hfaults n hlt
  exact ⟨happlied, hhandled.emptied h hheld happlied⟩

/-- A reorg that was delivered is behind the cursor the loop last subscribes after. -/
theorem kept_of_reorgs_applied {ledger : SettlementLedger} {script : List (SubscribeOutcome C)}
    (hunexpired : ∀ o ∈ observed script, o.isExpired = false)
    (happlied : ReorgsApplied (runLoop (runtimeSink env) script (.initial ledger))) {n : Nat}
    (hn : n < deliveredReorgs script) : env.fault n ≠ .lost := by
  obtain ⟨os, hos⟩ := observed_eq_append script
  have hdelivered : ∃ o ∈ os.reverse, o.isReorg = true := by
    have hpositive : 0 < (observed script).countP Observation.isReorg := Nat.zero_lt_of_lt hn
    obtain ⟨o, ho, hreorg⟩ := List.countP_pos_iff.1 hpositive
    rw [hos, List.mem_append, List.mem_singleton] at ho
    rcases ho with hmem | rfl
    · exact ⟨o, List.mem_reverse.2 hmem, hreorg⟩
    · exact absurd hreorg (by simp [Observation.isReorg])
  have hpast : ∀ o ∈ os.reverse, o.isExpired = false := by
    intro o ho
    refine hunexpired o ?_
    rw [hos]
    exact List.mem_append_left _ (List.mem_reverse.1 ho)
  obtain ⟨cursor, hcursor⟩ := resume_point_after hpast hdelivered
  have hsubscribed := subscribed_last env ledger hos
  rw [hcursor] at hsubscribed
  rw [← length_handled_run env ledger script] at hn
  have hrow := List.getElem?_eq_getElem hn
  have hkept := (happlied cursor _ hsubscribed _ (List.mem_of_getElem? hrow)).1
  rw [(handled_run env ledger script).applied n _ hrow, decide_eq_true_eq] at hkept
  exact hkept

/-- Without a cursor expiry, the loop resumes only after applied reorgs exactly
when no downgrade of a delivered reorg is lost. -/
theorem reorgs_applied_iff (env : Surroundings) (ledger : SettlementLedger)
    (script : List (SubscribeOutcome C))
    (hunexpired : ∀ o ∈ observed script, o.isExpired = false) :
    ReorgsApplied (runLoop (runtimeSink env) script (.initial ledger)) ↔
      ∀ n < deliveredReorgs script, env.fault n ≠ .lost :=
  ⟨fun happlied _ hn => kept_of_reorgs_applied hunexpired happlied hn, reorgs_applied_of_kept⟩

/-! ### A lost downgrade -/

/-- One stream that delivers one reorg, and ends. -/
def oneReorg : List (SubscribeOutcome Nat) :=
  [.opened [.delivery
    { visibleTip := 8, settledTip := 2, cursor := 5, reverted := some (6, 7) }]]

/-- Nobody else writes, and the first downgrade fails as told. -/
def firstDowngrade (fault : Fault) : Surroundings where
  now _ := 0
  others _ ledger := ledger
  fault n := if n = 0 then fault else .none

/-- A payment mined in the reverted range. -/
def revertedRow : SettlementLedgerEntry where
  broadcastOutcome := .accepted "t1"
  settledAtUnixSeconds := 0
  confirmationCount := some 2
  minedBlockHeight := some 7
  reorgCount := 0
  lastReorgedAt := none
  expiryHeight := some 40
  payeeId := ⟨"p"⟩
  amountZat := 5

/-- The row loses its block, and the loop resumes after an applied reorg. -/
theorem reorgs_applied_one_reorg :
    let w := runLoop (runtimeSink (firstDowngrade .none)) oneReorg
      (.initial (SettlementLedger.record ∅ ⟨"pay_1"⟩ revertedRow))
    (w.ledger.lookup ⟨"pay_1"⟩).map (fun row => (row.minedBlockHeight, row.reorgCount)) =
        some (none, 1) ∧
      ReorgsApplied w := by
  intro w
  refine ⟨by decide, ?_⟩
  exact (reorgs_applied_iff (firstDowngrade .none)
    (SettlementLedger.record ∅ ⟨"pay_1"⟩ revertedRow) oneReorg (by decide)).2 (by decide)

/-- The loop resumes after the envelope, and the row is still mined. -/
theorem skipped_reorg :
    ∃ w : ReorgWorld Nat, w = runLoop (runtimeSink (firstDowngrade .lost)) oneReorg
        (.initial (SettlementLedger.record ∅ ⟨"pay_1"⟩ revertedRow)) ∧
      (w.subscribed.map Prod.fst).getLast? = some (.after 5) ∧
      w.ledger.lookup ⟨"pay_1"⟩ = some revertedRow ∧ ¬ ReorgsApplied w := by
  refine ⟨_, rfl, by decide, by decide, ?_⟩
  intro happlied
  have hlost := (happlied 5 _ (List.mem_cons_of_mem _ List.mem_cons_self) _
    List.mem_cons_self).1
  exact absurd hlost (by decide)

end Zpay.Runtime.EventLoop
