import Zpay.Runtime.Promises

/-!
# Expired broadcasts

A broadcast payment reads expired when no poll has confirmed it and a visible
tip has reached its expiry height.  The tip comes with every envelope, the
confirmation only with a poll: a transaction mined in one of its last blocks
reads expired until the next poll, and so does one that a reorg brings back.

## Main results

* `expired_sound_iff` — expired is sound along a run exactly when no tip is taken
  in over an unconfirmed row whose window is still open, no write leaves such a
  row below a tip already taken in, and no reorg opens a window that reads lapsed.
* `expired_in_chain` — an envelope that outruns the poll does the first.
-/

open Zpay.Data Zpay.Core Zpay.Machine Zpay.Lifecycle

namespace Zpay.Runtime

variable {txExpiry : String → Option Nat} {C A V : Type}

/-- Whenever a lookup that reads the ledger now reports a broadcast payment
expired, its transaction is not in the chain, and in no extension of it. -/
def ExpiredSound (d : Deployment C A V) (s : System txExpiry) : Prop :=
  ∀ view ∈ s.views, ∀ paymentId prepared now tx,
    (lookupPaymentStatus paymentId prepared s.service.ledger d.finalityDepth view now).status
        = .expired →
    (lookupPaymentStatus paymentId prepared s.service.ledger d.finalityDepth view
      now).broadcastOutcome.bind BroadcastOutcome.transactionId = some tx →
    ¬ s.chain.Includes tx ∧ ∀ chain', s.chain.Extends chain' → ¬ chain'.Includes tx

/-- A success row no confirmation has been counted for, with its transaction and
its expiry height. -/
structure Unconfirmed (entry : SettlementLedgerEntry) (tx : String) (expiry : UInt32) : Prop where
  transactionId : entry.broadcastOutcome.transactionId = some tx
  observedHeight : entry.observedHeight = none
  expiryHeight : entry.expiryHeight = some expiry

/-- The window of an unconfirmed row is closed when a visible tip at or above its
expiry height is taken in, when the row is written while the process holds such a
tip, and after a reorg while it holds one. -/
structure NotReopened (s : System txExpiry) (e : Event) : Prop where
  taken : ∀ view, s.takes e = some view → ∀ paymentId entry tx expiry,
    s.service.ledger.lookup paymentId = some entry → Unconfirmed entry tx expiry →
    view.isLapsedAt expiry.toNat = true → s.chain.WindowClosed tx expiry.toNat
  written : ∀ paymentId entry tx expiry, s.Writes e paymentId entry →
    Unconfirmed entry tx expiry → (∃ view ∈ s.views, view.isLapsedAt expiry.toNat = true) →
    s.chain.WindowClosed tx expiry.toNat
  reorged : ∀ forkHeight blocks, e = .chain (.reorg forkHeight blocks) →
    ∀ paymentId entry tx expiry, s.service.ledger.lookup paymentId = some entry →
    Unconfirmed entry tx expiry → (∃ view ∈ s.views, view.isLapsedAt expiry.toNat = true) →
    (s.chain.moved (.reorg forkHeight blocks)).WindowClosed tx expiry.toNat

namespace System

/-- The promise behind an expired broadcast. -/
def expiredPromise : Promise txExpiry := fun chain view entry =>
  ∀ tx expiry, Unconfirmed entry tx expiry → view.isLapsedAt expiry.toNat = true →
    chain.WindowClosed tx expiry.toNat

variable {d : Deployment C A V} {s : System txExpiry} {e : Event}

/-! ## Rows carry the expiry of their transaction -/

structure Expiring (s : System txExpiry) : Prop where
  answered : ∀ c settlement outcome tx,
    s.service.phase c = some (.recording settlement outcome) →
    outcome.transactionId = some tx → txExpiry tx = some settlement.expiryHeight.toNat
  rows : ∀ paymentId entry tx, s.service.ledger.lookup paymentId = some entry →
    entry.broadcastOutcome.transactionId = some tx →
    ∃ expiry : UInt32, entry.expiryHeight = some expiry ∧ txExpiry tx = some expiry.toNat

/-- The expiry height a row shows is its transaction's. -/
theorem Expiring.expiry (hexpiring : Expiring s) {paymentId : PaymentId}
    {entry : SettlementLedgerEntry} {tx : String} {expiry : UInt32}
    (hentry : s.service.ledger.lookup paymentId = some entry)
    (htx : entry.broadcastOutcome.transactionId = some tx)
    (hexpiry : entry.expiryHeight = some expiry) : txExpiry tx = some expiry.toNat := by
  obtain ⟨expiry', hexpiry', htxExpiry⟩ := hexpiring.rows paymentId entry tx hentry htx
  have hsame : expiry' = expiry := Option.some.inj (hexpiry'.symm.trans hexpiry)
  rw [hsame] at htxExpiry
  exact htxExpiry

theorem expiring_initial (chain : Chain txExpiry) (now : Nat) : Expiring (initial chain now) where
  answered _ _ _ _ h := absurd h (by simp [initial, State.initial, State.phase])
  rows _ _ _ h := absurd h (by simp [initial, State.initial])

/-- The submitter's answers that reach the service are truthful. -/
theorem truthful_of_operation {op : Lifecycle.Event} (h : s.operation e = some op) :
    truthfulAnswer txExpiry s.service op = true := by
  cases performs_of_operation h with
  | service _ htruthful => exact htruthful
  | write _ _ hreconcile =>
      rcases reconcile_cases hreconcile with ⟨_, _, -, rfl⟩ | rfl | rfl
      · rfl
      · rfl
      · rfl
  | crash | refresh | delivery | handleReorg => rfl

theorem answered_step (d : Deployment C A V) (hexpiring : Expiring s) {c : CallId}
    {settlement : PreparedSettlement} {outcome : BroadcastOutcome} {tx : String}
    (hphase : (s.step d e).service.phase c = some (.recording settlement outcome))
    (htx : outcome.transactionId = some tx) :
    txExpiry tx = some settlement.expiryHeight.toNat := by
  have hservice : (s.step d e).service =
      (s.operation e).elim s.service (Lifecycle.step d s.service) := rfl
  rw [hservice] at hphase
  cases hop : s.operation e with
  | none =>
      rw [hop] at hphase
      exact hexpiring.answered c settlement outcome tx hphase htx
  | some op =>
      rw [hop, Option.elim_some] at hphase
      obtain ⟨call, hcall, hrecording⟩ := phase_eq_some.1 hphase
      have hstep := call_step d s.service c op
      rw [hcall] at hstep
      generalize hold : s.service.calls.lookup c = old at hstep
      cases hstep with
      | same =>
          exact hexpiring.answered c settlement outcome tx
            (phase_eq_some.2 ⟨call, hold, hrecording⟩) htx
      | finish => exact absurd hrecording (by simp)
      | @start request readFault =>
          obtain ⟨_, hopen⟩ := opening_settlement (congrArg Phase.settlement hrecording)
          exact absurd (hopen.symm.trans hrecording) (by simp)
      | @answer request submitted rawTxBytes answer =>
          have hsubmitting : s.service.phase c = some (.submitting submitted rawTxBytes) :=
            phase_eq_some.2 ⟨_, hold, rfl⟩
          have htruthful := truthful_of_operation hop
          rw [Phase.recording.injEq] at hrecording
          rw [← hrecording.2] at htx
          simp only [truthfulAnswer, hsubmitting, htx, Option.all_some,
            decide_eq_true_eq] at htruthful
          rw [← hrecording.1]
          exact htruthful
      | record => exact absurd hrecording (by simp)

theorem rows_step (d : Deployment C A V) (hexpiring : Expiring s) {paymentId : PaymentId}
    {entry : SettlementLedgerEntry} {tx : String}
    (hentry : (s.step d e).service.ledger.lookup paymentId = some entry)
    (htx : entry.broadcastOutcome.transactionId = some tx) :
    ∃ expiry : UInt32, entry.expiryHeight = some expiry ∧ txExpiry tx = some expiry.toNat := by
  rcases row_of_step hentry with hold | ⟨op, -, hrecords | ⟨old, hold, rfl, -⟩⟩
  · exact hexpiring.rows paymentId entry tx hold htx
  · obtain ⟨c, _, settlement, outcome, -, -, hphase, -, rfl⟩ := hrecords
    exact ⟨settlement.expiryHeight, rfl, hexpiring.answered c settlement outcome tx hphase htx⟩
  · have hkeeps : (op.rewrite s.service.now paymentId old).broadcastOutcome =
          old.broadcastOutcome ∧
        (op.rewrite s.service.now paymentId old).expiryHeight = old.expiryHeight :=
      rewrite_keeps s.service.now op old
    rw [hkeeps.1] at htx
    rw [hkeeps.2]
    exact hexpiring.rows paymentId old tx hold htx

theorem expiring_step (d : Deployment C A V) (hexpiring : Expiring s) (e : Event) :
    Expiring (s.step d e) where
  answered _ _ _ _ hphase htx := answered_step d hexpiring hphase htx
  rows _ _ _ hentry htx := rows_step d hexpiring hentry htx

/-! ## The promise -/

theorem expired_sound_iff_kept (d : Deployment C A V) (hexpiring : Expiring s) :
    ExpiredSound d s ↔ Kept expiredPromise s := by
  constructor
  · intro hsound view hview paymentId entry hentry tx expiry hunconfirmed hlapsed
    have htxExpiry : txExpiry tx = some expiry.toNat :=
      hexpiring.expiry hentry hunconfirmed.transactionId hunconfirmed.expiryHeight
    have hexpired : (lookupPaymentStatus paymentId ∅ s.service.ledger d.finalityDepth view
          0).status = .expired ∧
        (lookupPaymentStatus paymentId ∅ s.service.ledger d.finalityDepth view
          0).broadcastOutcome.bind BroadcastOutcome.transactionId = some tx :=
      lookup_expired_iff.2 ⟨entry, expiry, hentry, hunconfirmed.transactionId,
        hunconfirmed.observedHeight, hunconfirmed.expiryHeight, hlapsed⟩
    exact (Chain.windowClosed_iff htxExpiry).2
      (hsound view hview paymentId ∅ 0 tx hexpired.1 hexpired.2).2
  · intro hkept view hview paymentId prepared now tx hstatus houtcome
    obtain ⟨entry, expiry, hentry, htx, hunobserved, hexpiry, hlapsed⟩ :=
      lookup_expired_iff.1 ⟨hstatus, houtcome⟩
    have htxExpiry : txExpiry tx = some expiry.toNat := hexpiring.expiry hentry htx hexpiry
    have hclosed := hkept view hview paymentId entry hentry tx expiry
      ⟨htx, hunobserved, hexpiry⟩ hlapsed
    exact ⟨hclosed.absent, (Chain.windowClosed_iff htxExpiry).1 hclosed⟩

/-- One step: expired stays sound exactly when no window is reopened. -/
theorem not_reopened_iff (hexpiring : Expiring s) (hkept : Kept expiredPromise s) (e : Event) :
    NotReopened s e ↔ Justified expiredPromise s e := by
  constructor
  · intro hclosed
    refine ⟨?_, ?_, ?_⟩
    · intro view htakes paymentId entry hentry tx expiry hunconfirmed hlapsed
      exact hclosed.taken view htakes paymentId entry tx expiry hentry hunconfirmed hlapsed
    · intro paymentId entry hwrites view hview tx expiry hunconfirmed hlapsed
      exact hclosed.written paymentId entry tx expiry hwrites hunconfirmed ⟨view, hview, hlapsed⟩
    · intro m hm view hview paymentId entry hentry tx expiry hunconfirmed hlapsed
      by_cases hreorg : ∃ forkHeight blocks, m = .reorg forkHeight blocks
      · obtain ⟨forkHeight, blocks, rfl⟩ := hreorg
        exact hclosed.reorged forkHeight blocks hm paymentId entry tx expiry hentry hunconfirmed
          ⟨view, hview, hlapsed⟩
      · have hbefore := hkept view hview paymentId entry hentry tx expiry hunconfirmed hlapsed
        have htxExpiry : txExpiry tx = some expiry.toNat :=
          hexpiring.expiry hentry hunconfirmed.transactionId hunconfirmed.expiryHeight
        rw [Chain.moved]
        cases hmove : s.chain.move m with
        | none => exact hbefore
        | some chain =>
            exact Chain.windowClosed_of_move htxExpiry hbefore hmove
              fun forkHeight blocks heq => hreorg ⟨forkHeight, blocks, heq⟩
  · intro hjustified
    refine ⟨?_, ?_, ?_⟩
    · intro view htakes paymentId entry tx expiry hentry hunconfirmed hlapsed
      exact hjustified.taken view htakes paymentId entry hentry tx expiry hunconfirmed hlapsed
    · rintro paymentId entry tx expiry hwrites hunconfirmed ⟨view, hview, hlapsed⟩
      exact hjustified.written paymentId entry hwrites view hview tx expiry hunconfirmed hlapsed
    · rintro forkHeight blocks he paymentId entry tx expiry hentry hunconfirmed
        ⟨view, hview, hlapsed⟩
      exact hjustified.moved _ he view hview paymentId entry hentry tx expiry hunconfirmed hlapsed

end System

/-- In every run, expired is sound in every state reached exactly when no step
reopens a window. -/
theorem expired_sound_iff (d : Deployment C A V) (chain : Chain txExpiry) (now : Nat)
    (es : List Event) :
    (∀ n, ExpiredSound d (run (System.step d) (System.initial chain now) (es.take n))) ↔
      Along (System.step d) NotReopened (System.initial chain now) es := by
  have hinv : ∀ (s : System txExpiry) e, System.Expiring s → System.Expiring (s.step d e) :=
    fun _ e hexpiring => System.expiring_step d hexpiring e
  have hstep : ∀ (s : System txExpiry) e, System.Expiring s → ExpiredSound d s →
      (NotReopened s e ↔ ExpiredSound d (s.step d e)) := by
    intro s e hexpiring hsound
    have hkept := (System.expired_sound_iff_kept d hexpiring).1 hsound
    rw [System.not_reopened_iff hexpiring hkept e,
      System.expired_sound_iff_kept d (System.expiring_step d hexpiring e)]
    refine System.kept_step_iff d ?_ hkept e
    intro chain entry tx expiry _ hlapsed
    exact absurd hlapsed (by simp)
  have hstart : ExpiredSound d (System.initial chain now) := by
    refine (System.expired_sound_iff_kept d (System.expiring_initial chain now)).2 ?_
    intro view _ paymentId entry hentry
    exact absurd hentry (by simp [System.initial, State.initial])
  exact always_iff_along hinv hstep (System.expiring_initial chain now) hstart es

/-! ### An envelope that outruns the poll -/

/-- The subscription is open before the payment is accepted, and the payment is
mined in the last block it may be mined in. -/
def minedAtExpiry : List Event :=
  pollOnce .chainEvents 0 0 none ++ [.subscribe .opened] ++ acceptedPayment ++
    List.replicate 9 (.chain (.extend [])) ++ List.replicate 9 (.next .delivery) ++
    [.chain (.extend ["t1"]), .next .delivery]

def minedAtExpirySystem : System sampleTxExpiry :=
  run (System.step reconciledDeployment) (.initial genesis 0) minedAtExpiry

/-- The payment is reported expired while its transaction is in the chain. -/
theorem expired_in_chain :
    (lookupPaymentStatus samplePayment minedAtExpirySystem.service.prepared
        minedAtExpirySystem.service.ledger reconciledDeployment.finalityDepth
        minedAtExpirySystem.service.chainStatus.load
        minedAtExpirySystem.service.now).status = .expired ∧
      minedAtExpirySystem.chain.Mined "t1" 10 ∧
      ¬ ExpiredSound reconciledDeployment minedAtExpirySystem := by
  have hexpired : (lookupPaymentStatus samplePayment minedAtExpirySystem.service.prepared
      minedAtExpirySystem.service.ledger reconciledDeployment.finalityDepth
      minedAtExpirySystem.service.chainStatus.load
      minedAtExpirySystem.service.now).status = .expired := by decide
  have hmined : minedAtExpirySystem.chain.Mined "t1" 10 := by decide
  refine ⟨hexpired, hmined, ?_⟩
  intro hsound
  have hview := (System.wired_run reconciledDeployment genesis 0 minedAtExpiry).cached
  exact (hsound _ hview _ _ _ "t1" hexpired (by decide)).1 ⟨10, hmined⟩

end Zpay.Runtime
