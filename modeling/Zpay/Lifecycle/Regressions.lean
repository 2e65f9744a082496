import Zpay.Lifecycle.Facilitator

/-!
# Counting regressions

A row's `reorg_count` is meant to be the number of times its payment went from
mined back to unmined.  Confirmations and downgrades keep it so.  A settle call
overwrites the whole row, counter and height included, whatever is there.

## Main results

* `rewrite_counts` — what the reconciliation does to the counter.
* `reorg_count_counts_iff` — the counter counts along a run exactly when every
  record finds no row, or one that has never been mined.
* `reorg_count_reset` — a settle call that is tried again after a failed removal.
-/

open Zpay.Data Zpay.Core Zpay.Machine

namespace Zpay.Lifecycle

variable {C A V : Type} {d : Deployment C A V} {paymentId : PaymentId}

/-! ## The history of a row -/

/-- The row goes from a stored height to none. -/
def regresses (old new : Option SettlementLedgerEntry) : Bool :=
  old.any fun entry => entry.minedBlockHeight.isSome &&
    new.any fun entry' => entry'.minedBlockHeight.isNone

/-- The service, and how often the payment's row has regressed so far. -/
structure Counted where
  service : State
  regressions : Nat

def Counted.initial (now : Nat) : Counted where
  service := .initial now
  regressions := 0

def Counted.row (s : Counted) (paymentId : PaymentId) : Option SettlementLedgerEntry :=
  s.service.ledger.lookup paymentId

def Counted.step (d : Deployment C A V) (paymentId : PaymentId) (s : Counted) (e : Event) :
    Counted :=
  let service := Lifecycle.step d s.service e
  { service
    regressions :=
      s.regressions +
        if regresses (s.row paymentId) (service.ledger.lookup paymentId) then 1 else 0 }

/-- Below its ceiling the stored counter is the number of regressions. -/
def Tallied (paymentId : PaymentId) (s : Counted) : Prop :=
  ∀ entry, s.row paymentId = some entry → entry.reorgCount.toNat < 2 ^ 32 - 1 →
    entry.reorgCount.toNat = s.regressions

/-- The step leaves the stored counter no lower than it was. -/
def NeverDecreases (d : Deployment C A V) (paymentId : PaymentId) (s : Counted) (e : Event) :
    Prop :=
  ∀ old new, s.row paymentId = some old → (s.step d paymentId e).row paymentId = some new →
    old.reorgCount ≤ new.reorgCount

/-- A settle call that writes the row finds it never mined. -/
def RecordsUnmined (paymentId : PaymentId) (s : Counted) (e : Event) : Prop :=
  ∀ entry, Records s.service paymentId e entry → ∀ old, s.row paymentId = some old →
    old.reorgCount = 0 ∧ old.minedBlockHeight = none

/-! ## What the writers do to the counter -/

theorem downgrade_counts (entry : SettlementLedgerEntry) (now : Nat) :
    (entry.downgradeOnReorg now).reorgCount.toNat =
      min (entry.reorgCount.toNat + if entry.minedBlockHeight.isSome then 1 else 0)
        (2 ^ 32 - 1) := by
  have hbound := entry.reorgCount.toNat_lt
  unfold SettlementLedgerEntry.downgradeOnReorg
  cases entry.minedBlockHeight with
  | none =>
      show entry.reorgCount.toNat = min (entry.reorgCount.toNat + 0) (2 ^ 32 - 1)
      omega
  | some height => exact saturating_succ_toNat entry.reorgCount

/-- The reconciliation counts every height it takes away, up to the ceiling. -/
theorem rewrite_counts (paymentId : PaymentId) (now : Nat) (e : Event)
    (entry : SettlementLedgerEntry) :
    (e.rewrite now paymentId entry).reorgCount.toNat =
      min (entry.reorgCount.toNat +
        if regresses (some entry) (some (e.rewrite now paymentId entry)) then 1 else 0)
        (2 ^ 32 - 1) := by
  have hbound := entry.reorgCount.toNat_lt
  have hkept : entry.reorgCount.toNat =
      min (entry.reorgCount.toNat + if regresses (some entry) (some entry) then 1 else 0)
        (2 ^ 32 - 1) := by
    have hstays : regresses (some entry) (some entry) = false := by
      cases hmined : entry.minedBlockHeight <;> simp [regresses, hmined]
    rw [hstays]
    simp only [Bool.false_eq_true, if_false]
    omega
  have hdowngraded : regresses (some entry) (some (entry.downgradeOnReorg now)) =
      entry.minedBlockHeight.isSome := by
    simp [regresses]
  cases e with
  | recordConfirmation other count height =>
      by_cases hid : paymentId = other
      · rw [Event.rewrite, if_pos hid]
        have hstays : regresses (some entry) (some (entry.recordConfirmation count height)) =
            false := by
          cases hmined : entry.minedBlockHeight with
          | none => simp [regresses, hmined]
          | some mined =>
              cases height <;> simp [regresses, hmined, SettlementLedgerEntry.recordConfirmation]
        rw [hstays]
        simp only [Bool.false_eq_true, if_false,
          SettlementLedgerEntry.recordConfirmation_reorgCount]
        omega
      · rw [Event.rewrite, if_neg hid]
        exact hkept
  | downgradeOnReorg other =>
      by_cases hid : paymentId = other
      · rw [Event.rewrite, if_pos hid, hdowngraded]
        exact downgrade_counts entry now
      · rw [Event.rewrite, if_neg hid]
        exact hkept
  | downgradeReorgedRange startHeight endHeight =>
      by_cases hwithin : entry.minedWithin startHeight endHeight = true
      · rw [Event.rewrite, if_pos hwithin, hdowngraded]
        exact downgrade_counts entry now
      · rw [Event.rewrite, if_neg hwithin]
        exact hkept
  | _ => exact hkept

/-! ## One step -/

/-- A payment that has no row has never regressed. -/
def Unrowed (paymentId : PaymentId) (s : Counted) : Prop :=
  s.row paymentId = none → s.regressions = 0

/-- A step records a fresh row, or rewrites the one there is. -/
theorem row_step (d : Deployment C A V) (s : Counted) (e : Event) :
    (∃ entry, Records s.service paymentId e entry ∧
      (s.step d paymentId e).row paymentId = some entry) ∨
    (∀ entry, ¬ Records s.service paymentId e entry) ∧
      (s.step d paymentId e).row paymentId =
        (s.row paymentId).map (e.rewrite s.service.now paymentId) := by
  by_cases hrecords : ∃ entry, Records s.service paymentId e entry
  · obtain ⟨entry, hentry⟩ := hrecords
    exact .inl ⟨entry, hentry, ledger_of_records hentry⟩
  · right
    have hnone : ∀ entry, ¬ Records s.service paymentId e entry :=
      fun entry hentry => hrecords ⟨entry, hentry⟩
    rcases ledger_step d s.service paymentId e with ⟨entry, hentry, -⟩ | hrow
    · exact absurd hentry (hnone entry)
    · exact ⟨hnone, hrow⟩

theorem unrowed_step (d : Deployment C A V) (s : Counted) (e : Event)
    (hs : Unrowed paymentId s) : Unrowed paymentId (s.step d paymentId e) := by
  intro hafter
  rcases row_step d s e with ⟨entry, -, hrow⟩ | ⟨-, hrow⟩
  · rw [hrow] at hafter
    exact absurd hafter (by simp)
  · rw [hrow, Option.map_eq_none_iff] at hafter
    show s.regressions + (if regresses (s.row paymentId) _ then 1 else 0) = 0
    rw [hs hafter, hafter]
    rfl

/-- What a record leaves: a counter at zero, and no height. -/
theorem records_zero {s : State} {e : Event} {entry : SettlementLedgerEntry}
    (h : Records s paymentId e entry) :
    entry.reorgCount = 0 ∧ entry.minedBlockHeight = none := by
  obtain ⟨_, _, _, _, -, -, -, -, rfl⟩ := h
  exact ⟨rfl, rfl⟩

theorem regressions_step (d : Deployment C A V) (paymentId : PaymentId) (s : Counted) (e : Event) :
    (s.step d paymentId e).regressions =
      s.regressions +
        if regresses (s.row paymentId) ((s.step d paymentId e).row paymentId) then 1 else 0 :=
  rfl

/-- A record counts on exactly when the row it overwrites has never been mined. -/
theorem records_exact (d : Deployment C A V) (s : Counted) (e : Event)
    {entry : SettlementLedgerEntry} (hrecords : Records s.service paymentId e entry)
    (hrow : (s.step d paymentId e).row paymentId = some entry)
    (hunrowed : Unrowed paymentId s) (htallied : Tallied paymentId s) :
    RecordsUnmined paymentId s e ↔
      Tallied paymentId (s.step d paymentId e) ∧ NeverDecreases d paymentId s e := by
  obtain ⟨hcount, hheight⟩ := records_zero hrecords
  have hcounter : entry.reorgCount.toNat = 0 := by rw [hcount]; rfl
  have hstep := regressions_step d paymentId s e
  rw [hrow] at hstep
  cases hold : s.row paymentId with
  | none =>
      have hnever : s.regressions = 0 := hunrowed hold
      rw [hold, hnever] at hstep
      refine iff_of_true ?_ ⟨?_, ?_⟩
      · intro _ _ old hrowed
        rw [hold] at hrowed
        exact absurd hrowed (by simp)
      · intro after hafter _
        rw [hrow, Option.some.injEq] at hafter
        rw [← hafter, hcounter, hstep]
        rfl
      · intro old _ hrowed _
        rw [hold] at hrowed
        exact absurd hrowed (by simp)
  | some old =>
      have hregresses : regresses (some old) (some entry) = old.minedBlockHeight.isSome := by
        simp [regresses, hheight]
      rw [hold, hregresses] at hstep
      constructor
      · intro hunmined
        obtain ⟨hzero, hnone⟩ := hunmined entry hrecords old hold
        have hold_counter : old.reorgCount.toNat = 0 := by rw [hzero]; rfl
        have hnever : old.reorgCount.toNat = s.regressions := htallied old hold (by omega)
        constructor
        · intro after hafter _
          rw [hrow, Option.some.injEq] at hafter
          rw [← hafter, hcounter, hstep, ← hnever, hold_counter, hnone]
          rfl
        · intro before after hbefore _
          rw [hold, Option.some.injEq] at hbefore
          rw [← hbefore, hzero]
          exact UInt32.zero_le
      · rintro ⟨hafter, hdecreases⟩ _ _ before hbefore
        rw [hold, Option.some.injEq] at hbefore
        subst hbefore
        have hle : old.reorgCount ≤ entry.reorgCount := hdecreases old entry hold hrow
        have hold_counter : old.reorgCount.toNat = 0 := by
          have htoNat := UInt32.le_iff_toNat_le.1 hle
          omega
        have hnever : old.reorgCount.toNat = s.regressions := htallied old hold (by omega)
        have hstill : entry.reorgCount.toNat = _ := hafter entry hrow (by omega)
        rw [hstep] at hstill
        constructor
        · exact UInt32.toNat_inj.1 hold_counter
        · cases hmined : old.minedBlockHeight with
          | none => rfl
          | some height =>
              rw [hmined, Option.isSome_some, if_pos rfl] at hstill
              omega

/-- Every other step counts. -/
theorem rewrite_tallies (d : Deployment C A V) (s : Counted) (e : Event)
    (hrow : (s.step d paymentId e).row paymentId =
      (s.row paymentId).map (e.rewrite s.service.now paymentId))
    (htallied : Tallied paymentId s) :
    Tallied paymentId (s.step d paymentId e) ∧ NeverDecreases d paymentId s e := by
  have hstep := regressions_step d paymentId s e
  rw [hrow] at hstep
  constructor
  · intro after hafter hbelow
    rw [hrow] at hafter
    obtain ⟨old, hold, rfl⟩ := Option.map_eq_some_iff.1 hafter
    have hcounts := rewrite_counts paymentId s.service.now e old
    rw [hold, Option.map_some] at hstep
    have hnever : old.reorgCount.toNat = s.regressions := htallied old hold (by omega)
    omega
  · intro old after hold hafter
    rw [hrow, hold, Option.map_some, Option.some.injEq] at hafter
    subst hafter
    have hbound := old.reorgCount.toNat_lt
    have hcounts := rewrite_counts paymentId s.service.now e old
    rw [UInt32.le_iff_toNat_le]
    omega

/-- Among the steps of the service only a record can lose count, and does unless
the row has never been mined. -/
theorem records_unmined_iff (d : Deployment C A V) (s : Counted) (e : Event)
    (hunrowed : Unrowed paymentId s) (htallied : Tallied paymentId s) :
    RecordsUnmined paymentId s e ↔
      Tallied paymentId (s.step d paymentId e) ∧ NeverDecreases d paymentId s e := by
  rcases row_step d s e with ⟨entry, hrecords, hrow⟩ | ⟨hnone, hrow⟩
  · exact records_exact d s e hrecords hrow hunrowed htallied
  · have hvacuous : RecordsUnmined paymentId s e := fun entry hentry =>
      absurd hentry (hnone entry)
    exact iff_of_true hvacuous (rewrite_tallies d s e hrow htallied)

/-! ## Whole runs -/

/-- Along every run the counter counts and never goes down if and only if every
write of a settle call finds no row, or one that has never been mined. -/
theorem reorg_count_counts_iff (d : Deployment C A V) (now : Nat) (paymentId : PaymentId)
    (es : List Event) :
    ((∀ n, Tallied paymentId (run (Counted.step d paymentId) (.initial now) (es.take n))) ∧
      Along (Counted.step d paymentId) (NeverDecreases d paymentId) (.initial now) es) ↔
    Along (Counted.step d paymentId) (RecordsUnmined paymentId) (.initial now) es := by
  have hstep : ∀ s e, Unrowed paymentId s → Tallied paymentId s →
      (RecordsUnmined paymentId s e ↔
        Tallied paymentId (s.step d paymentId e) ∧ NeverDecreases d paymentId s e) :=
    fun s e => records_unmined_iff d s e
  have hunrowed : Unrowed paymentId (.initial now) := fun _ => rfl
  have htallied : Tallied paymentId (.initial now) := by
    intro entry hentry
    exact absurd hentry (by simp [Counted.row, Counted.initial, State.initial])
  exact always_and_along_iff (unrowed_step d) hstep hunrowed htallied es

/-! ### A call that is tried again -/

/-- The payment is broadcast, but the removal of its prepared row fails; it is
seen mined and then reorged out, and the agent tries again. -/
def retriedCall : List Event :=
  prepareEvents ++
    [settleStart 1, .answer (ownerCall 1) (.ok (.accepted "t1")), .record (ownerCall 1) .none,
      .remove (ownerCall 1) .lost, .recordConfirmation samplePayment 1 (some 4047095),
      .downgradeOnReorg samplePayment, settleStart 2,
      .answer (ownerCall 2) (.ok (.duplicate "t1"))]

/-- The counted service after those steps, and after the second record. -/
def retriedState : Counted :=
  run (Counted.step sampleDeployment samplePayment) (.initial 0) retriedCall

def recordedAgain : Counted :=
  retriedState.step sampleDeployment samplePayment (.record (ownerCall 2) .none)

/-- The second record puts the counter back to zero, after one regression. -/
theorem reorg_count_reset :
    (retriedState.row samplePayment).map (·.reorgCount) = some 1 ∧
      (recordedAgain.row samplePayment).map (·.reorgCount) = some 0 ∧
      recordedAgain.regressions = 1 ∧
      ¬ NeverDecreases sampleDeployment samplePayment retriedState
          (.record (ownerCall 2) .none) ∧
      ¬ Tallied samplePayment recordedAgain := by
  have hbefore : (retriedState.row samplePayment).map (·.reorgCount) = some 1 := by decide
  have hafter : (recordedAgain.row samplePayment).map (·.reorgCount) = some 0 := by decide
  have hregressed : recordedAgain.regressions = 1 := by decide
  obtain ⟨old, hold, hone⟩ := Option.map_eq_some_iff.1 hbefore
  obtain ⟨new, hnew, hzero⟩ := Option.map_eq_some_iff.1 hafter
  refine ⟨hbefore, hafter, hregressed, ?_, ?_⟩
  · intro hdecreases
    have hle : old.reorgCount ≤ new.reorgCount := hdecreases old new hold hnew
    rw [hone, hzero] at hle
    exact absurd hle (by decide)
  · intro htallied
    have hcount := htallied new hnew (by rw [hzero]; decide)
    rw [hzero, hregressed] at hcount
    exact absurd hcount (by decide)

end Zpay.Lifecycle
