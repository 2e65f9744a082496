import Zpay.Lifecycle.Invariant

/-!
# What a lookup remembers of a broadcast

Between the submitter's answer and the ledger write nothing durable says that a
transaction was sent.  Until then the prepared row speaks for the payment, and
the sweeper deletes it when it expires; a write that fails, or never happens
because the process went down, leaves nothing behind.

## Main results

* `forgotten_iff` — a lookup reports a payment without an outcome when its ledger
  read finds no row and its prepared read finds none that is still live.
* `forgotten_after_broadcast` — after a broadcast that takes a ledger write that
  has not been applied, and an expired preparation (or the write landing between
  the lookup's two reads).
-/

open Zpay.Data Zpay.Core Zpay.X402 Zpay.Machine

namespace Zpay.Lifecycle

/-- The payment is reported as never issued, or expired without an outcome. -/
def Forgotten (snapshot : PaymentStatusSnapshot) : Prop :=
  snapshot.status = .neverIssued ∨
    snapshot.status = .expired ∧ snapshot.broadcastOutcome = none

instance (snapshot : PaymentStatusSnapshot) : Decidable (Forgotten snapshot) :=
  inferInstanceAs (Decidable (_ ∨ _ ∧ _))

theorem not_forgotten_of_outcome {entry : SettlementLedgerEntry} {paymentId : PaymentId}
    {depth : UInt32} {view : ChainStatusView} :
    ¬ Forgotten (entry.snapshot paymentId depth view) := by
  rintro (hnever | ⟨-, hnone⟩)
  · cases hsuccess : entry.broadcastOutcome.isSuccess with
    | true =>
        have hcases := classify_cases entry depth view
        rw [(snapshot_of_success hsuccess).1] at hnever
        rw [hnever] at hcases
        exact absurd hcases (by decide)
    | false =>
        rw [(snapshot_of_failure hsuccess).1] at hnever
        exact absurd hnever (by decide)
  · exact absurd hnone (by simp [SettlementLedgerEntry.snapshot])

/-- A payment is forgotten when the ledger has no row and the prepared store no
live one. -/
theorem forgotten_iff {paymentId : PaymentId} {prepared : PreparedTxStore}
    {ledger : SettlementLedger} {depth : UInt32} {view : ChainStatusView} {now : Nat} :
    Forgotten (lookupPaymentStatus paymentId prepared ledger depth view now) ↔
      ledger.lookup paymentId = none ∧
      ∀ row, prepared.lookup paymentId = some row →
        row.expiresAtUnixSeconds.toNat ≤ now := by
  cases hledger : ledger.lookup paymentId with
  | some entry =>
      rw [lookup_of_row hledger]
      simp [not_forgotten_of_outcome]
  | none =>
      cases hprepared : prepared.lookup paymentId with
      | none =>
          rw [lookup_of_absent hledger hprepared]
          simp [Forgotten, unattemptedSnapshot]
      | some row =>
          rw [lookup_of_prepared hledger hprepared]
          by_cases hlive : now < row.expiresAtUnixSeconds.toNat
          · rw [if_pos hlive]
            simp [Forgotten, unattemptedSnapshot, hlive]
          · rw [if_neg hlive]
            simp [Forgotten, unattemptedSnapshot, Nat.not_lt.1 hlive]

section AfterBroadcast

variable {C A V : Type}

/-- Once the submitter has answered a call, with a success or otherwise, a later
lookup forgets the payment only if no ledger write for it had been applied at
its ledger read, and by its prepared read the preparation had expired, or the
write had come in between. -/
theorem forgotten_after_broadcast (d : Deployment C A V) (now : Nat)
    (es toLedger toPrepared : List Event) (atView : State) {atLedger atPrepared : State}
    {c : CallId} {settlement : PreparedSettlement} {outcome : BroadcastOutcome}
    (hsubmitted : (run (step d) (State.initial now) es).phase c =
      some (.recording settlement outcome))
    (hledger : atLedger = run (step d) (State.initial now) (es ++ toLedger))
    (hprepared : atPrepared = run (step d) atLedger toPrepared)
    (hforgotten : Forgotten
      (lookupAcross d settlement.paymentId atView atLedger atPrepared)) :
    atLedger.ledger.lookup settlement.paymentId = none ∧
    ∃ row, (run (step d) (State.initial now) es).issued.lookup settlement.paymentId = some row ∧
      (row.expiresAtUnixSeconds.toNat ≤ atPrepared.now ∨
        ∃ entry, atPrepared.ledger.lookup settlement.paymentId = some entry) := by
  obtain ⟨hnone, hexpired⟩ := forgotten_iff.1 hforgotten
  have hsound := sound_run d now es
  obtain ⟨call, hcall, hphase⟩ := phase_eq_some.1 hsubmitted
  obtain ⟨row, hissued, -⟩ := hsound.settling c call settlement hcall (by rw [hphase]; rfl)
  refine ⟨hnone, row, hissued, ?_⟩
  have hreached : atPrepared =
      run (step d) (run (step d) (State.initial now) es) (toLedger ++ toPrepared) := by
    rw [hprepared, hledger, run_append, run_append]
  have hsoundAfter : Sound d atPrepared := by
    rw [hreached, ← run_append]
    exact sound_run d now _
  have hissuedAfter : atPrepared.issued.lookup settlement.paymentId = some row := by
    rw [hreached]
    exact issued_run hsound hissued _
  rcases hsoundAfter.kept _ row hissuedAfter with hheld | hlapsed | hwritten
  · exact .inl (hexpired row hheld)
  · exact .inl hlapsed
  · exact .inr hwritten

end AfterBroadcast

/-! ### A broadcast that is forgotten -/

/-- A call whose transaction was accepted, up to the answer. -/
def acceptedCall : List Event :=
  prepareEvents ++ [settleStart 1, .answer (ownerCall 1) (.ok (.accepted "t1"))]

/-- The process goes down before the ledger write, and the row expires. -/
def downUntilExpiry : List Event := [.crash, .tick 100, .sweep]

def forgottenState : State :=
  run (step sampleDeployment) (State.initial 0) (acceptedCall ++ downUntilExpiry)

theorem forgotten_after_broadcast_sample :
    forgottenState.ledger.lookup samplePayment = none ∧
    ∃ row, (run (step sampleDeployment) (State.initial 0) acceptedCall).issued.lookup samplePayment
        = some row ∧
      (row.expiresAtUnixSeconds.toNat ≤ forgottenState.now ∨
        ∃ entry, forgottenState.ledger.lookup samplePayment = some entry) := by
  have hsubmitted : (run (step sampleDeployment) (State.initial 0) acceptedCall).phase
      (ownerCall 1) = some (.recording
        { paymentId := samplePayment, expiryHeight := 4047100, payeeId := ⟨"p"⟩, amountZat := 5 }
        (.accepted "t1")) := by decide
  exact forgotten_after_broadcast sampleDeployment 0 acceptedCall downUntilExpiry []
    forgottenState hsubmitted rfl rfl (by decide)

/-- After the submitter accepted the transaction, the payment is reported as
never issued. -/
theorem accepted_payment_never_issued :
    (run (step sampleDeployment) (State.initial 0) acceptedCall).phase (ownerCall 1) =
      some (.recording
        { paymentId := samplePayment, expiryHeight := 4047100, payeeId := ⟨"p"⟩, amountZat := 5 }
        (.accepted "t1")) ∧
    (lookupAcross sampleDeployment samplePayment forgottenState forgottenState
      forgottenState).status = .neverIssued := by
  constructor
  · decide
  · decide

end Zpay.Lifecycle
