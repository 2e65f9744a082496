import Zpay.Lifecycle.Invariant

/-!
# Closing snapshots

An event stream closes after a snapshot that is settled, failed, expired or
never issued.  Such a snapshot is not the last word: a failed payment may be
settled again, an expired row is swept, a late settle call records its outcome,
the reconciliation moves a row to another height or across the finality depth,
and the view is overwritten with whatever a background task last read.  Between
steps of these kinds it does not move.

## Main results

* `calm_run` — what such steps leave of a payment's rows and of the view.
* `closed_snapshot_stays` — a lookup after a closing one reports the same status
  and the same settled flag, whatever else ran before, between and during them.
-/

open Zpay.Data Zpay.Core Zpay.X402 Zpay.Machine

namespace Zpay.Lifecycle

/-! ## Views that advance -/

/-- Neither tip is lost or lowered. -/
structure Advances (view later : ChainStatusView) : Prop where
  visible : ∀ tip, view.visibleTipHeight = some tip →
    ∃ tip', later.visibleTipHeight = some tip' ∧ tip ≤ tip'
  settled : ∀ tip, view.settledTipHeight = some tip →
    ∃ tip', later.settledTipHeight = some tip' ∧ tip ≤ tip'

namespace Advances

variable {view later latest : ChainStatusView}

theorem refl (view : ChainStatusView) : Advances view view where
  visible tip h := ⟨tip, h, Nat.le_refl tip⟩
  settled tip h := ⟨tip, h, Nat.le_refl tip⟩

theorem trans (h : Advances view later) (h' : Advances later latest) : Advances view latest where
  visible tip htip := by
    obtain ⟨tip', htip', hle⟩ := h.visible tip htip
    obtain ⟨tip'', htip'', hle'⟩ := h'.visible tip' htip'
    exact ⟨tip'', htip'', Nat.le_trans hle hle'⟩
  settled tip htip := by
    obtain ⟨tip', htip', hle⟩ := h.settled tip htip
    obtain ⟨tip'', htip'', hle'⟩ := h'.settled tip' htip'
    exact ⟨tip'', htip'', Nat.le_trans hle hle'⟩

theorem isSettledAt (h : Advances view later) {height : Nat}
    (hsettled : view.isSettledAt height = true) : later.isSettledAt height = true := by
  rw [ChainStatusView.isSettledAt_iff] at hsettled ⊢
  obtain ⟨tip, htip, hheight⟩ := hsettled
  obtain ⟨tip', htip', hle⟩ := h.settled tip htip
  exact ⟨tip', htip', Nat.le_trans hheight hle⟩

theorem isLapsedAt (h : Advances view later) {expiryHeight : Nat}
    (hlapsed : view.isLapsedAt expiryHeight = true) : later.isLapsedAt expiryHeight = true := by
  rw [ChainStatusView.isLapsedAt_iff] at hlapsed ⊢
  obtain ⟨tip, htip, hexpiry⟩ := hlapsed
  obtain ⟨tip', htip', hle⟩ := h.visible tip htip
  exact ⟨tip', htip', Nat.le_trans hexpiry hle⟩

end Advances

/-- A success row whose snapshot closes the stream under a view. -/
def Closes (entry : SettlementLedgerEntry) (depth : UInt32) (view : ChainStatusView) : Prop :=
  (classifySuccessRow entry depth view).2 = true ∨
    (classifySuccessRow entry depth view).1.isTerminal = true

/-- Of what `classify_success_row` reads of a row, the later row has kept what a closing
status depends on: it is observed at a height only if the row is, at none above the row's,
and on the same side of the finality depth. -/
structure KeepsHeight (depth : UInt32) (entry later : SettlementLedgerEntry) : Prop where
  unobserved : entry.observedHeight = none → later.observedHeight = none
  observed : ∀ height, entry.observedHeight = some height →
    (∃ height', later.observedHeight = some height' ∧ height' ≤ height) ∧
      (depth ≤ later.confirmationCount.getD 0 ↔ depth ≤ entry.confirmationCount.getD 0)

namespace KeepsHeight

variable {depth : UInt32} {entry later latest : SettlementLedgerEntry}

theorem refl (entry : SettlementLedgerEntry) : KeepsHeight depth entry entry where
  unobserved h := h
  observed height h := ⟨⟨height, h, Nat.le_refl height⟩, Iff.rfl⟩

theorem trans (h : KeepsHeight depth entry later) (h' : KeepsHeight depth later latest) :
    KeepsHeight depth entry latest where
  unobserved hnone := h'.unobserved (h.unobserved hnone)
  observed height hobserved := by
    obtain ⟨⟨height', hobserved', hle⟩, hside⟩ := h.observed height hobserved
    obtain ⟨⟨height'', hobserved'', hle'⟩, hside'⟩ := h'.observed height' hobserved'
    exact ⟨⟨height'', hobserved'', Nat.le_trans hle' hle⟩, hside'.trans hside⟩

end KeepsHeight

/-- A success row that closes the stream under a view reads the same under every later
one, also after writes that keep its height. -/
theorem classify_closed_stays {entry later : SettlementLedgerEntry} {depth : UInt32}
    {view laterView : ChainStatusView} (hadvances : Advances view laterView)
    (hkept : KeepsHeight depth entry later) (hexpiry : later.expiryHeight = entry.expiryHeight)
    (hclosed : Closes entry depth view) :
    classifySuccessRow later depth laterView = classifySuccessRow entry depth view := by
  rcases hclosed with hsettled | hterminal
  · obtain ⟨height, hobserved, hat⟩ := classify_settled_iff.1 hsettled
    obtain ⟨⟨height', hobserved', hle⟩, hside⟩ := hkept.observed height hobserved
    have hat' : laterView.isSettledAt height' = true := by
      obtain ⟨tip, htip, hheight⟩ := ChainStatusView.isSettledAt_iff.1 (hadvances.isSettledAt hat)
      exact ChainStatusView.isSettledAt_iff.2 ⟨tip, htip, Nat.le_trans hle hheight⟩
    unfold classifySuccessRow
    rw [hobserved, hobserved']
    simp only [hside, hat, hat']
  · have hexpired : (classifySuccessRow entry depth view).1 = .expired := by
      have hcases := classify_cases entry depth view
      simp only [List.mem_cons, List.not_mem_nil, or_false] at hcases
      rcases hcases with h | h | h | h
      · rw [h] at hterminal
        exact absurd hterminal (by decide)
      · rw [h] at hterminal
        exact absurd hterminal (by decide)
      · exact h
      · rw [h] at hterminal
        exact absurd hterminal (by decide)
    obtain ⟨hobserved, expiry, hheight, hat⟩ := classify_expired_iff.1 hexpired
    have hlater := hadvances.isLapsedAt hat
    unfold classifySuccessRow
    rw [hobserved, hkept.unobserved hobserved, hexpiry]
    simp only [hheight, Option.any_some, hat, hlater]

/-- Such a row still closes the stream. -/
theorem Closes.stays {entry later : SettlementLedgerEntry} {depth : UInt32}
    {view laterView : ChainStatusView} (hclosed : Closes entry depth view)
    (hadvances : Advances view laterView) (hkept : KeepsHeight depth entry later)
    (hexpiry : later.expiryHeight = entry.expiryHeight) : Closes later depth laterView := by
  unfold Closes
  rw [classify_closed_stays hadvances hkept hexpiry hclosed]
  exact hclosed

/-! ## Quiet steps -/

section Quiet

variable {C A V : Type}

/-- The step records no outcome for the payment, does not sweep its expired row, does not
lower the view its success row is read with, and keeps the height of a success row that
closes the stream under that view. -/
structure Quiet (d : Deployment C A V) (paymentId : PaymentId) (s : State) (e : Event) :
    Prop where
  unrecorded : ∀ entry, ¬ Records s paymentId e entry
  unswept : e = .sweep → s.ledger.lookup paymentId = none →
    ∀ row, s.prepared.lookup paymentId = some row → s.now < row.expiresAtUnixSeconds.toNat
  unrevised : ∀ entry, s.ledger.lookup paymentId = some entry →
    entry.broadcastOutcome.isSuccess = true →
    Advances s.chainStatus.load (e.refresh s.chainStatus).load ∧
      (Closes entry d.finalityDepth s.chainStatus.load →
        KeepsHeight d.finalityDepth entry (e.rewrite s.now paymentId entry))

/-- A step that is neither a record nor a sweep. -/
theorem Quiet.of_unrevised {d : Deployment C A V} {paymentId : PaymentId} {s : State}
    {e : Event} (hrecord : ∀ c fault, e ≠ .record c fault) (hsweep : e ≠ .sweep)
    (hunrevised : ∀ entry, s.ledger.lookup paymentId = some entry →
      entry.broadcastOutcome.isSuccess = true →
      Advances s.chainStatus.load (e.refresh s.chainStatus).load ∧
        (Closes entry d.finalityDepth s.chainStatus.load →
          KeepsHeight d.finalityDepth entry (e.rewrite s.now paymentId entry))) :
    Quiet d paymentId s e where
  unrecorded := by
    rintro entry ⟨c, fault, _, _, heq, -⟩
    exact hrecord c fault heq
  unswept heq := absurd heq hsweep
  unrevised := hunrevised

/-- What quiet steps leave of an issued payment. -/
structure Calm (d : Deployment C A V) (paymentId : PaymentId) (s t : State) : Prop where
  clock : s.now ≤ t.now
  unwritten : s.ledger.lookup paymentId = none → t.ledger.lookup paymentId = none
  failed : ∀ entry, s.ledger.lookup paymentId = some entry →
    entry.broadcastOutcome.isSuccess = false →
    ∃ entry', t.ledger.lookup paymentId = some entry' ∧
      entry'.broadcastOutcome.isSuccess = false
  success : ∀ entry, s.ledger.lookup paymentId = some entry →
    entry.broadcastOutcome.isSuccess = true →
    Advances s.chainStatus.load t.chainStatus.load ∧
      ∃ later, t.ledger.lookup paymentId = some later ∧
        later.broadcastOutcome.isSuccess = true ∧ later.expiryHeight = entry.expiryHeight ∧
        (Closes entry d.finalityDepth s.chainStatus.load →
          KeepsHeight d.finalityDepth entry later)
  gone : s.prepared.lookup paymentId = none → t.prepared.lookup paymentId = none
  lapsed : ∀ row, s.ledger.lookup paymentId = none → s.prepared.lookup paymentId = some row →
    row.expiresAtUnixSeconds.toNat ≤ s.now → t.prepared.lookup paymentId = some row

variable {d : Deployment C A V} {paymentId : PaymentId} {s t u : State}

theorem Calm.refl (s : State) : Calm d paymentId s s where
  clock := Nat.le_refl _
  unwritten h := h
  failed entry h hfailed := ⟨entry, h, hfailed⟩
  success entry h hsuccess :=
    ⟨Advances.refl _, entry, h, hsuccess, rfl, fun _ => KeepsHeight.refl entry⟩
  gone h := h
  lapsed _ _ h _ := h

theorem Calm.trans (h : Calm d paymentId s t) (h' : Calm d paymentId t u) :
    Calm d paymentId s u where
  clock := Nat.le_trans h.clock h'.clock
  unwritten hnone := h'.unwritten (h.unwritten hnone)
  failed entry hentry hfailed := by
    obtain ⟨entry', hentry', hfailed'⟩ := h.failed entry hentry hfailed
    exact h'.failed entry' hentry' hfailed'
  success entry hentry hsuccess := by
    obtain ⟨hadvances, later, hlater, hkind, hexpiry, hkeeps⟩ := h.success entry hentry hsuccess
    obtain ⟨hadvances', latest, hlatest, hkind', hexpiry', hkeeps'⟩ :=
      h'.success later hlater hkind
    refine ⟨hadvances.trans hadvances', latest, hlatest, hkind', hexpiry'.trans hexpiry, ?_⟩
    intro hcloses
    have hkept := hkeeps hcloses
    exact hkept.trans (hkeeps' (hcloses.stays hadvances hkept hexpiry))
  gone hnone := h'.gone (h.gone hnone)
  lapsed row hnone hrow hexpired :=
    h'.lapsed row (h.unwritten hnone) (h.lapsed row hnone hrow hexpired)
      (Nat.le_trans hexpired h.clock)

/-- A success row was a success row all along. -/
theorem Calm.success_before (h : Calm d paymentId s t) {entry : SettlementLedgerEntry}
    (hentry : t.ledger.lookup paymentId = some entry)
    (hsuccess : entry.broadcastOutcome.isSuccess = true) :
    ∃ before, s.ledger.lookup paymentId = some before ∧
      before.broadcastOutcome.isSuccess = true := by
  cases hbefore : s.ledger.lookup paymentId with
  | none =>
      rw [h.unwritten hbefore] at hentry
      exact absurd hentry (by simp)
  | some before =>
      cases hkind : before.broadcastOutcome.isSuccess with
      | true => exact ⟨before, rfl, hkind⟩
      | false =>
          obtain ⟨failed, hfailed, hkind'⟩ := h.failed before hbefore hkind
          rw [hentry, Option.some.injEq] at hfailed
          rw [hfailed, hkind'] at hsuccess
          exact absurd hsuccess (by simp)

/-- A quiet step rewrites the payment's ledger row in place. -/
theorem Quiet.ledger_lookup {e : Event} (hquiet : Quiet d paymentId s e) :
    (step d s e).ledger.lookup paymentId =
      (s.ledger.lookup paymentId).map (e.rewrite s.now paymentId) := by
  rcases ledger_step d s paymentId e with ⟨entry, hrecords, -⟩ | hrow
  · exact absurd hrecords (hquiet.unrecorded entry)
  · exact hrow

theorem calm_step (hsound : Sound d s) {issuedRow : PreparedTxRow}
    (hissued : s.issued.lookup paymentId = some issuedRow) {e : Event}
    (hquiet : Quiet d paymentId s e) : Calm d paymentId s (step d s e) := by
  have hledger := hquiet.ledger_lookup
  have hprepared : (step d s e).prepared.lookup paymentId = s.prepared.lookup paymentId ∨
      Removes s paymentId e ∧ (step d s e).prepared.lookup paymentId = none ∨
      e = .sweep ∧ (step d s e).prepared.lookup paymentId =
        (s.prepared.lookup paymentId).filter
          fun row => decide (s.now < row.expiresAtUnixSeconds.toNat) := by
    rcases prepared_step d s paymentId e with
      ⟨_, ⟨c, _, _, request, _, -, hphase, rfl, -⟩, -⟩ | ⟨-, hprepared⟩
    · -- the id was issued before, so no call is still to store a row under it
      rw [hsound.unissued c (.inr ⟨request, hphase⟩)] at hissued
      exact absurd hissued (by simp)
    · exact hprepared
  refine ⟨?_, ?_, ?_, ?_, ?_, ?_⟩
  · rw [(clock_step d s e).1]
    omega
  · intro hnone
    rw [hledger, hnone]
    rfl
  · intro entry hentry hfailed
    refine ⟨_, by rw [hledger, hentry]; rfl, ?_⟩
    rw [(rewrite_keeps s.now e entry).1]
    exact hfailed
  · intro entry hentry hsuccess
    obtain ⟨hadvances, hkeeps⟩ := hquiet.unrevised entry hentry hsuccess
    obtain ⟨houtcome, hexpiry⟩ : (e.rewrite s.now paymentId entry).broadcastOutcome =
        entry.broadcastOutcome ∧ (e.rewrite s.now paymentId entry).expiryHeight =
        entry.expiryHeight := rewrite_keeps s.now e entry
    refine ⟨?_, e.rewrite s.now paymentId entry, by rw [hledger, hentry]; rfl, ?_, hexpiry,
      hkeeps⟩
    · rw [(clock_step d s e).2]
      exact hadvances
    · rw [houtcome]
      exact hsuccess
  · intro hnone
    rcases hprepared with hsame | ⟨-, hremoved⟩ | ⟨-, hswept⟩
    · rw [hsame]
      exact hnone
    · exact hremoved
    · rw [hswept, hnone]
      rfl
  · intro row hunwritten hrow hexpired
    rcases hprepared with hsame | ⟨⟨c, fault, settlement, rfl, -, hphase, hid⟩, -⟩ | ⟨rfl, -⟩
    · rw [hsame]
      exact hrow
    · -- a removal comes after the payment's ledger row
      obtain ⟨entry, hentry⟩ := hsound.removing c settlement hphase
      rw [hid, hunwritten] at hentry
      exact absurd hentry (by simp)
    · have hlive := hquiet.unswept rfl hunwritten row hrow
      omega

/-- Between two points of a quiet run the payment is calm. -/
theorem calm_run (hsound : Sound d s) {issuedRow : PreparedTxRow}
    (hissued : s.issued.lookup paymentId = some issuedRow) {es : List Event}
    (hquiet : Along (step d) (Quiet d paymentId) s es) {i j : Nat} (hij : i ≤ j) :
    Calm d paymentId (run (step d) s (es.take i)) (run (step d) s (es.take j)) := by
  obtain ⟨bs, hreach, hbetween⟩ := hquiet.between hij
  have hinv : ∀ t e, (Sound d t ∧ t.issued.lookup paymentId = some issuedRow) →
      Sound d (step d t e) ∧ (step d t e).issued.lookup paymentId = some issuedRow := by
    intro t e ht
    exact ⟨sound_step ht.1 e, issued_step ht.1 e ht.2⟩
  have hstep : ∀ t e, (Sound d t ∧ t.issued.lookup paymentId = some issuedRow) →
      Quiet d paymentId t e → Calm d paymentId t (step d t e) := by
    intro t e ht hq
    exact calm_step ht.1 ht.2 hq
  rw [hreach]
  exact run_related_along Calm.refl Calm.trans hinv hstep
    (run_invariant hinv ⟨hsound, hissued⟩ (es.take i)) hbetween

end Quiet

/-! ## Lookups -/

section Lookups

variable {C A V : Type} {d : Deployment C A V} {paymentId : PaymentId}

/-- A closing snapshot is read again wherever the payment has been calm since
its reads. -/
theorem closed_of_calm {atView atLedger atPrepared laterView laterLedger laterPrepared : State}
    (hfirst : Calm d paymentId atView atLedger) (hsecond : Calm d paymentId atLedger atPrepared)
    (hview : Calm d paymentId atView laterView) (hledger : Calm d paymentId atLedger laterLedger)
    (hprepared : Calm d paymentId atPrepared laterPrepared)
    (hclosed : (lookupAcross d paymentId atView atLedger atPrepared).streamClosed = true) :
    (lookupAcross d paymentId laterView laterLedger laterPrepared).status =
        (lookupAcross d paymentId atView atLedger atPrepared).status ∧
      (lookupAcross d paymentId laterView laterLedger laterPrepared).settled =
        (lookupAcross d paymentId atView atLedger atPrepared).settled := by
  unfold lookupAcross at hclosed ⊢
  cases hrow : atLedger.ledger.lookup paymentId with
  | some entry =>
      rw [lookup_of_row hrow] at hclosed ⊢
      cases hsuccess : entry.broadcastOutcome.isSuccess with
      | false =>
          obtain ⟨entry', hentry', hfailed⟩ := hledger.failed entry hrow hsuccess
          rw [lookup_of_row hentry', (snapshot_of_failure hsuccess).1,
            (snapshot_of_failure hsuccess).2, (snapshot_of_failure hfailed).1,
            (snapshot_of_failure hfailed).2]
          exact ⟨rfl, rfl⟩
      | true =>
          obtain ⟨before, hbefore, hkind⟩ := hfirst.success_before hrow hsuccess
          have hadvances := (hview.success before hbefore hkind).1
          have hadvances' := (hfirst.success before hbefore hkind).1
          obtain ⟨-, later, hlater, hkind', hexpiry, hkeeps⟩ := hledger.success entry hrow hsuccess
          rw [PaymentStatusSnapshot.streamClosed, (snapshot_of_success hsuccess).1,
            (snapshot_of_success hsuccess).2, Bool.or_eq_true] at hclosed
          have hcloses : Closes entry d.finalityDepth atLedger.chainStatus.load :=
            Closes.stays hclosed hadvances' (KeepsHeight.refl entry) rfl
          have hstays := classify_closed_stays hadvances (hkeeps hcloses) hexpiry hclosed
          rw [lookup_of_row hlater, (snapshot_of_success hkind').1,
            (snapshot_of_success hkind').2, (snapshot_of_success hsuccess).1,
            (snapshot_of_success hsuccess).2, hstays]
          exact ⟨rfl, rfl⟩
  | none =>
      have hlater := hledger.unwritten hrow
      cases hstored : atPrepared.prepared.lookup paymentId with
      | none =>
          rw [lookup_of_absent hrow hstored, lookup_of_absent hlater (hprepared.gone hstored)]
          exact ⟨rfl, rfl⟩
      | some row =>
          rw [lookup_of_prepared hrow hstored] at hclosed ⊢
          have hexpired : ¬ atPrepared.now < row.expiresAtUnixSeconds.toNat := by
            intro hlive
            rw [if_pos hlive] at hclosed
            exact absurd hclosed (by simp [PaymentStatusSnapshot.streamClosed,
              unattemptedSnapshot, PaymentStatus.isTerminal])
          have hunwritten := hsecond.unwritten hrow
          have hkept := hprepared.lapsed row hunwritten hstored (Nat.not_lt.1 hexpired)
          have hexpired' : ¬ laterPrepared.now < row.expiresAtUnixSeconds.toNat := by
            have hclock := hprepared.clock
            omega
          rw [lookup_of_prepared hlater hkept, if_neg hexpired, if_neg hexpired']
          exact ⟨rfl, rfl⟩

/-- The snapshot of a lookup whose view, ledger and prepared reads happen after
the first `i`, `j` and `k` steps of a run. -/
def lookupDuring (d : Deployment C A V) (paymentId : PaymentId) (s : State) (es : List Event)
    (i j k : Nat) : PaymentStatusSnapshot :=
  lookupAcross d paymentId (run (step d) s (es.take i)) (run (step d) s (es.take j))
    (run (step d) s (es.take k))

/-- Once a lookup of an issued payment has returned a closing snapshot, every
later one returns the same status and settled flag, as long as the steps since
are quiet for the payment. -/
theorem closed_snapshot_stays (d : Deployment C A V) (paymentId : PaymentId) (now : Nat)
    (before es : List Event) {row : PreparedTxRow}
    (hissued : (run (step d) (State.initial now) before).issued.lookup paymentId = some row)
    (hquiet : Along (step d) (Quiet d paymentId) (run (step d) (State.initial now) before) es)
    {i j k l m n : Nat} (hij : i ≤ j) (hjk : j ≤ k) (hkl : k ≤ l) (hlm : l ≤ m) (hmn : m ≤ n)
    (hclosed : (lookupDuring d paymentId (run (step d) (State.initial now) before) es
      i j k).streamClosed = true) :
    (lookupDuring d paymentId (run (step d) (State.initial now) before) es l m n).status =
        (lookupDuring d paymentId (run (step d) (State.initial now) before) es i j k).status ∧
      (lookupDuring d paymentId (run (step d) (State.initial now) before) es l m n).settled =
        (lookupDuring d paymentId (run (step d) (State.initial now) before) es i j k).settled := by
  have hsound := sound_run d now before
  have hcalm : ∀ {a b : Nat}, a ≤ b → _ := fun hab => calm_run hsound hissued hquiet hab
  exact closed_of_calm (hcalm hij) (hcalm hjk) (hcalm (by omega)) (hcalm (by omega))
    (hcalm (by omega)) hclosed

end Lookups

/-! ### A settled payment, and one that is settled after it failed -/

/-- Accepted, recorded and seen mined below the settled tip. -/
def settledCall : List Event :=
  prepareEvents ++
    [settleStart 1, .answer (ownerCall 1) (.ok (.accepted "t1")), .record (ownerCall 1) .none,
      .recordConfirmation samplePayment 1 (some 4047095), .storeView 4047099 4047095]

def settledState : State := run (step sampleDeployment) (State.initial 0) settledCall

/-- One more confirmation is counted, short of finality, and both tips move up. -/
def refreshes : List Event :=
  [.tick 60, .recordConfirmation samplePayment 2 (some 4047095), .storeView 4047101 4047097]

theorem closed_snapshot_stays_sample :
    (lookupDuring sampleDeployment samplePayment settledState refreshes 3 3 3).status =
        (lookupDuring sampleDeployment samplePayment settledState refreshes 0 0 0).status ∧
      (lookupDuring sampleDeployment samplePayment settledState refreshes 3 3 3).settled =
        (lookupDuring sampleDeployment samplePayment settledState refreshes 0 0 0).settled := by
  have htick : Quiet sampleDeployment samplePayment settledState (.tick 60) := by
    refine .of_unrevised (by simp) (by simp) ?_
    intro entry _ _
    exact ⟨Advances.refl _, fun _ => KeepsHeight.refl entry⟩
  have hcount : Quiet sampleDeployment samplePayment
      (run (step sampleDeployment) settledState (refreshes.take 1))
      (.recordConfirmation samplePayment 2 (some 4047095)) := by
    refine .of_unrevised (by simp) (by simp) ?_
    intro entry hentry _
    refine ⟨Advances.refl _, fun _ => ?_⟩
    have hrow : (run (step sampleDeployment) settledState (refreshes.take 1)).ledger.lookup
        samplePayment = some
          { broadcastOutcome := .accepted "t1", settledAtUnixSeconds := 0,
            confirmationCount := some 1, minedBlockHeight := some 4047095, reorgCount := 0,
            lastReorgedAt := none, expiryHeight := some 4047100, payeeId := ⟨"p"⟩,
            amountZat := 5 } := by decide
    obtain rfl := Option.some.inj (hrow.symm.trans hentry)
    refine ⟨fun hnone => absurd hnone (by decide), fun height hobserved => ?_⟩
    refine ⟨⟨height, ?_, Nat.le_refl height⟩, by decide⟩
    rw [← hobserved]
    decide
  have hview : (run (step sampleDeployment) settledState (refreshes.take 2)).chainStatus.load =
      { visibleTipHeight := some 4047099, settledTipHeight := some 4047095 } := by decide
  have hrefresh : Quiet sampleDeployment samplePayment
      (run (step sampleDeployment) settledState (refreshes.take 2))
      (.storeView 4047101 4047097) := by
    refine .of_unrevised (by simp) (by simp) ?_
    intro entry _ _
    refine ⟨?_, fun _ => KeepsHeight.refl entry⟩
    rw [hview]
    constructor
    · intro tip htip
      cases htip
      exact ⟨4047101, rfl, by omega⟩
    · intro tip htip
      cases htip
      exact ⟨4047097, rfl, by omega⟩
  have hissued : ∃ row, settledState.issued.lookup samplePayment = some row :=
    Option.isSome_iff_exists.1 (by decide)
  obtain ⟨row, hrow⟩ := hissued
  exact closed_snapshot_stays sampleDeployment samplePayment 0 settledCall refreshes hrow
    ⟨htick, hcount, hrefresh, trivial⟩ (Nat.le_refl 0) (Nat.le_refl 0) (by omega)
    (Nat.le_refl 3) (Nat.le_refl 3) (by decide)

/-- A refused call, and the agent's second try. -/
def refusedCall : List Event :=
  prepareEvents ++
    [settleStart 1, .answer (ownerCall 1) (.ok (.rejected (.other "Unknown") "conflict")),
      .record (ownerCall 1) .none]

def secondTry : List Event :=
  [settleStart 2, .answer (ownerCall 2) (.ok (.accepted "t1")), .record (ownerCall 2) .none]

/-- A failed payment closes the stream and is broadcast afterwards. -/
theorem failed_payment_broadcast :
    (run (step sampleDeployment) (State.initial 0) refusedCall).issued.lookup samplePayment
        ≠ none ∧
      (lookupDuring sampleDeployment samplePayment
        (run (step sampleDeployment) (State.initial 0) refusedCall) secondTry 0 0
        0).streamClosed = true ∧
      (lookupDuring sampleDeployment samplePayment
        (run (step sampleDeployment) (State.initial 0) refusedCall) secondTry 0 0
        0).status = .failed ∧
      (lookupDuring sampleDeployment samplePayment
        (run (step sampleDeployment) (State.initial 0) refusedCall) secondTry 3 3
        3).status = .broadcast := by
  refine ⟨?_, ?_, ?_, ?_⟩
  · decide
  · decide
  · decide
  · decide

end Zpay.Lifecycle
