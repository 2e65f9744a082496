import Zpay.Runtime.Promises

/-!
# Settled payments

A lookup reports a payment settled when the height recorded for it lies at or
below a settled tip.  The height is as old as the poll that recorded it, the tip
may be newer, and the polls stop asking about a row on that very comparison: a
block that was reorged out while nobody looked is never noticed once a settled
tip above it has been taken in.

## Main results

* `settled_sound_iff` — settled is sound along a run exactly when no settled tip
  is taken in over a row that has lost its block, and no overtaken verdict is
  written below a tip already taken in.
* `settled_without_block` — a restart after a missed reorg does the former.
-/

open Zpay.Data Zpay.Core Zpay.Machine Zpay.Lifecycle

namespace Zpay.Runtime

variable {txExpiry : String → Option Nat} {C A V : Type}

/-- Whenever a lookup that reads the ledger now reports a payment settled, its
transaction is in the chain at the reported height, and no move takes it out. -/
def SettledSound (d : Deployment C A V) (s : System txExpiry) : Prop :=
  ∀ view ∈ s.views, ∀ paymentId prepared now,
    (lookupPaymentStatus paymentId prepared s.service.ledger d.finalityDepth view now).settled
        = true →
    ∃ tx height,
      (lookupPaymentStatus paymentId prepared s.service.ledger d.finalityDepth view
        now).broadcastOutcome.bind BroadcastOutcome.transactionId = some tx ∧
      (lookupPaymentStatus paymentId prepared s.service.ledger d.finalityDepth view
        now).minedBlockHeight = some height ∧
      ∀ moves, (run Chain.moved s.chain moves).Mined tx height

/-- No settled tip is taken in while a row recorded at or below it has lost its
block, and no mined verdict is written for a transaction that is no longer where
the verdict says, at or below a settled tip the process holds. -/
structure NotOvertaken (s : System txExpiry) (e : Event) : Prop where
  taken : ∀ view, s.takes e = some view → ∀ paymentId entry tx height,
    s.service.ledger.lookup paymentId = some entry →
    entry.broadcastOutcome.transactionId = some tx → entry.observedHeight = some height →
    view.isSettledAt height = true → s.chain.Mined tx height
  written : ∀ p fault chainView row height count rows, e = .poll p (.write fault) →
    fault ≠ .lost → s.polls p = .fetched chainView row (.mined height count) rows →
    ∀ entry tx, s.service.ledger.lookup row.paymentId = some entry →
    entry.broadcastOutcome.transactionId = some tx →
    (∃ view ∈ s.views, view.isSettledAt height = true) → s.chain.Mined tx height

namespace System

/-- The promise behind the settled flag. -/
def settledPromise : Promise txExpiry := fun chain view entry =>
  ∀ tx height, entry.broadcastOutcome.transactionId = some tx →
    entry.observedHeight = some height → view.isSettledAt height = true →
    ∀ moves, (run Chain.moved chain moves).Mined tx height

variable {d : Deployment C A V} {s : System txExpiry} {e : Event}

theorem settled_sound_iff_kept (d : Deployment C A V) (s : System txExpiry) :
    SettledSound d s ↔ Kept settledPromise s := by
  constructor
  · intro hsound view hview paymentId entry hentry tx height htx hheight hat
    have hsuccess : entry.broadcastOutcome.isSuccess = true :=
      BroadcastOutcome.isSuccess_iff.2 ⟨tx, htx⟩
    have hsettled : (lookupPaymentStatus paymentId ∅ s.service.ledger d.finalityDepth view
        0).settled = true :=
      lookup_settled_iff.2 ⟨entry, height, hentry, hsuccess, hheight, hat⟩
    obtain ⟨tx', height', htx', hheight', hmined⟩ :=
      hsound view hview paymentId ∅ 0 hsettled
    rw [lookup_of_row hentry] at htx' hheight'
    have htxSame : tx = tx' := Option.some.inj (htx.symm.trans htx')
    have hheightSame : height = height' :=
      Option.some.inj ((observed_height_eq_some.1 hheight).1.symm.trans hheight')
    rw [htxSame, hheightSame]
    exact hmined
  · intro hkept view hview paymentId prepared now hsettled
    obtain ⟨entry, height, hentry, hsuccess, hheight, hat⟩ := lookup_settled_iff.1 hsettled
    obtain ⟨tx, htx⟩ := BroadcastOutcome.isSuccess_iff.1 hsuccess
    rw [lookup_of_row hentry]
    exact ⟨tx, height, htx, (observed_height_eq_some.1 hheight).1,
      hkept view hview paymentId entry hentry tx height htx hheight hat⟩

/-- A height below a settled tip the chain has had stays as it is. -/
theorem mined_of_moves_iff {chain : Chain txExpiry} {view : ChainStatusView} {tx : String}
    {height : Nat} (htips : ∀ tip ∈ view.settledTipHeight, tip ≤ chain.settledTip)
    (hat : view.isSettledAt height = true) :
    (∀ moves, (run Chain.moved chain moves).Mined tx height) ↔ chain.Mined tx height := by
  obtain ⟨tip, htip, hle⟩ := ChainStatusView.isSettledAt_iff.1 hat
  have hheight : height ≤ chain.settledTip := Nat.le_trans hle (htips tip htip)
  exact ⟨fun h => h [], fun h moves => Chain.mined_of_moves hheight h moves⟩

/-- Writes that carry no mined height leave a row as it is, or unobserved. -/
theorem not_observed_of_rewrite (paymentId : PaymentId) {op : Lifecycle.Event}
    {other : PaymentId}
    (hop : op = .recordConfirmation other 0 none ∨ op = .downgradeOnReorg other ∨
      ∃ startHeight endHeight, op = .downgradeReorgedRange startHeight endHeight)
    (now : Nat) (old : SettlementLedgerEntry) :
    op.rewrite now paymentId old = old ∨ (op.rewrite now paymentId old).observedHeight = none := by
  have hdowngraded : (old.downgradeOnReorg now).observedHeight = none := by
    unfold SettlementLedgerEntry.observedHeight
    rw [SettlementLedgerEntry.downgradeOnReorg_minedBlockHeight]
    rfl
  rcases hop with rfl | rfl | ⟨startHeight, endHeight, rfl⟩
  · by_cases hid : paymentId = other
    · right
      rw [Lifecycle.Event.rewrite, if_pos hid]
      unfold SettlementLedgerEntry.observedHeight
      rw [Option.filter_eq_none_iff]
      intro height _
      simp [SettlementLedgerEntry.recordConfirmation]
    · exact .inl (if_neg hid)
  · by_cases hid : paymentId = other
    · right
      rw [Lifecycle.Event.rewrite, if_pos hid]
      exact hdowngraded
    · exact .inl (if_neg hid)
  · by_cases hwithin : old.minedWithin startHeight endHeight = true
    · right
      rw [Lifecycle.Event.rewrite, if_pos hwithin]
      exact hdowngraded
    · exact .inl (if_neg hwithin)

/-- Only a mined verdict leaves a row with an observed height that it did not
have. -/
theorem observed_of_writes {paymentId : PaymentId} {entry : SettlementLedgerEntry} {height : Nat}
    (h : s.Writes e paymentId entry) (hheight : entry.observedHeight = some height) :
    ∃ p fault chainView row count rows old, e = .poll p (.write fault) ∧ fault ≠ .lost ∧
      s.polls p = .fetched chainView row (.mined height count) rows ∧
      row.paymentId = paymentId ∧ s.service.ledger.lookup paymentId = some old ∧
      entry.broadcastOutcome = old.broadcastOutcome := by
  obtain ⟨op, hop, ⟨_, _, _, _, -, -, -, -, rfl⟩ | ⟨old, hold, rfl, hne⟩⟩ := h
  · exact absurd (observed_height_eq_some.1 hheight).1 (by simp [PreparedSettlement.ledgerEntry])
  · have hobserved : ∀ other, ¬ (op = .recordConfirmation other 0 none ∨
        op = .downgradeOnReorg other ∨
        ∃ startHeight endHeight, op = .downgradeReorgedRange startHeight endHeight) := by
      intro other hunobserved
      rcases not_observed_of_rewrite paymentId hunobserved s.service.now old with
        hsame | hnone
      · exact hne hsame
      · rw [hnone] at hheight
        exact absurd hheight (by simp)
    rcases rewrite_of_operation paymentId hop with
      ⟨p, fault, chainView, row, outcome, rows, he, hfault, hphase, hreconcile⟩ |
      ⟨startHeight, endHeight, hrange⟩ | hid
    · rcases reconcile_cases hreconcile with ⟨blockHeight, count, rfl, rfl⟩ | hunobserved
      · by_cases hid : paymentId = row.paymentId
        · rw [Lifecycle.Event.rewrite, if_pos hid] at hheight ⊢
          have hheights : some blockHeight = some height := (observed_height_eq_some.1 hheight).1
          rw [Option.some.inj hheights] at hphase
          exact ⟨p, fault, chainView, row, count, rows, old, he, hfault, hphase, hid.symm, hold,
            rfl⟩
        · exact absurd (if_neg hid) hne
      · exact absurd (hunobserved.imp id .inl) (hobserved row.paymentId)
    · exact absurd (.inr (.inr ⟨startHeight, endHeight, hrange⟩)) (hobserved paymentId)
    · exact absurd (congrFun (hid _) old) hne

/-- A mined verdict that is written leaves its height in the row. -/
theorem mined_verdict_written {p : Poller} {fault : Fault} {chainView : ChainStatusView}
    {row : SuccessKindRow} {height : Nat} {count : UInt32} {rows : List SuccessKindRow}
    {old : SettlementLedgerEntry} (hfault : fault ≠ .lost)
    (hphase : s.polls p = .fetched chainView row (.mined height count) rows)
    (hold : s.service.ledger.lookup row.paymentId = some old) :
    old.recordConfirmation count (some height) = old ∨
      s.Writes (.poll p (.write fault)) row.paymentId
        (old.recordConfirmation count (some height)) := by
  by_cases hsame : old.recordConfirmation count (some height) = old
  · exact .inl hsame
  · right
    refine ⟨.recordConfirmation row.paymentId count (some height), ?_, .inr ⟨old, hold, ?_, hsame⟩⟩
    · simp only [operation, hphase, if_neg hfault]
      rfl
    · rw [Lifecycle.Event.rewrite, if_pos rfl]

/-- One step: settled stays sound exactly when nothing overtaken is taken up. -/
theorem not_overtaken_iff (hwired : Wired s) (hkept : Kept settledPromise s) (e : Event) :
    NotOvertaken s e ↔ Justified settledPromise s e := by
  constructor
  · intro hcurrent
    refine ⟨?_, ?_, ?_⟩
    · intro view htakes paymentId entry hentry tx height htx hheight hat
      refine (mined_of_moves_iff (takes_settled hwired htakes) hat).2 ?_
      exact hcurrent.taken view htakes paymentId entry tx height hentry htx hheight hat
    · intro paymentId entry hwrites view hview tx height htx hheight hat
      obtain ⟨p, fault, chainView, row, count, rows, old, he, hfault, hphase, hid, hold, hsame⟩ :=
        observed_of_writes hwrites hheight
      refine (mined_of_moves_iff (hwired.views view hview) hat).2 ?_
      rw [hsame] at htx
      exact hcurrent.written p fault chainView row height count rows he hfault hphase old tx
        (by rw [hid]; exact hold) htx ⟨view, hview, hat⟩
    · rintro m - view hview paymentId entry hentry tx height htx hheight hat moves
      exact hkept view hview paymentId entry hentry tx height htx hheight hat (m :: moves)
  · intro hjustified
    refine ⟨?_, ?_⟩
    · intro view htakes paymentId entry tx height hentry htx hheight hat
      exact hjustified.taken view htakes paymentId entry hentry tx height htx hheight hat []
    · rintro p fault chainView row height count rows rfl hfault hphase old tx hold htx
        ⟨view, hview, hat⟩
      have hpositive := hwired.counted p chainView row height count rows hphase
      have hheight : (old.recordConfirmation count (some height)).observedHeight = some height :=
        observed_height_eq_some.2 ⟨rfl, count, rfl, hpositive⟩
      rcases mined_verdict_written hfault hphase hold with hsame | hwrites
      · rw [hsame] at hheight
        exact hkept view hview row.paymentId old hold tx height htx hheight hat []
      · exact hjustified.written row.paymentId _ hwrites view hview tx height htx hheight hat []

end System

/-- In every run, settled is sound in every state reached exactly when no step
takes up an overtaken height. -/
theorem settled_sound_iff (d : Deployment C A V) (chain : Chain txExpiry) (now : Nat)
    (es : List Event) :
    (∀ n, SettledSound d (run (System.step d) (System.initial chain now) (es.take n))) ↔
      Along (System.step d) NotOvertaken (System.initial chain now) es := by
  have hinv : ∀ (s : System txExpiry) e, System.Wired s → System.Wired (s.step d e) :=
    fun _ e hwired => System.wired_step d hwired e
  have hstep : ∀ (s : System txExpiry) e, System.Wired s → SettledSound d s →
      (NotOvertaken s e ↔ SettledSound d (s.step d e)) := by
    intro s e hwired hsound
    have hkept := (System.settled_sound_iff_kept d s).1 hsound
    rw [System.not_overtaken_iff hwired hkept e, System.settled_sound_iff_kept]
    refine System.kept_step_iff d ?_ hkept e
    intro chain entry tx height _ _ hat
    exact absurd hat (by simp)
  have hstart : SettledSound d (System.initial chain now) := by
    refine (System.settled_sound_iff_kept d _).2 ?_
    intro view _ paymentId entry hentry
    exact absurd hentry (by simp [System.initial, State.initial])
  exact always_iff_along hinv hstep (System.wired_initial chain now) hstart es

/-! ### A missed reorg -/

/-- The payment is seen mined at height 1. -/
def minedPayment : List Event :=
  acceptedPayment ++ [.chain (.extend ["t1"])] ++
    pollOnce .confirmation 1 0 (some (.mined 1 1)) ++ [.poll .confirmation (.write .none)]

/-- While the process is down its block is reorged out and height 1 settles; the
startup sweep then takes the row for settled and does not ask about it. -/
def missedReorg : List Event :=
  minedPayment ++
    [.chain (.reorg 0 [[], []]), .chain (.settle 1), .crash] ++
    pollOnce .chainEvents 2 1 none ++ [.poll .chainEvents (.nextRow none)]

def missedReorgSystem : System sampleTxExpiry :=
  run (System.step reconciledDeployment) (.initial genesis 0) missedReorg

/-- The payment is reported settled at height 1, and is not in the chain. -/
theorem settled_without_block :
    (lookupPaymentStatus samplePayment missedReorgSystem.service.prepared
        missedReorgSystem.service.ledger reconciledDeployment.finalityDepth
        missedReorgSystem.service.chainStatus.load
        missedReorgSystem.service.now).settled = true ∧
      ¬ missedReorgSystem.chain.Includes "t1" ∧
      ¬ SettledSound reconciledDeployment missedReorgSystem := by
  have hsettled : (lookupPaymentStatus samplePayment missedReorgSystem.service.prepared
      missedReorgSystem.service.ledger reconciledDeployment.finalityDepth
      missedReorgSystem.service.chainStatus.load
      missedReorgSystem.service.now).settled = true := by decide
  have hgone : ¬ missedReorgSystem.chain.Includes "t1" := by decide
  refine ⟨hsettled, hgone, ?_⟩
  intro hsound
  have hview := (System.wired_run reconciledDeployment genesis 0 missedReorg).cached
  obtain ⟨tx, height, htx, -, hmined⟩ := hsound _ hview _ _ _ hsettled
  have houtcome : (lookupPaymentStatus samplePayment missedReorgSystem.service.prepared
      missedReorgSystem.service.ledger reconciledDeployment.finalityDepth
      missedReorgSystem.service.chainStatus.load
      missedReorgSystem.service.now).broadcastOutcome.bind BroadcastOutcome.transactionId =
        some "t1" := by decide
  have hsame : "t1" = tx := Option.some.inj (houtcome.symm.trans htx)
  rw [hsame] at hgone
  exact hgone ⟨height, hmined []⟩

end Zpay.Runtime
