import Zpay.Core.LedgerStore
import Zpay.Machine.Simulation

/-!
# The settlement ledger in SQL

`LibsqlSettlementLedgerStore` over its `settlement_ledger` table: the columns, the
`CHECK` constraints of the fourth migration, the encoding of an entry and the
decoding of a row, and the statement of each operation.

An `INTEGER` column is an integer.  The one that grows, the reorg counter, is within
its 64 bits for any sequence of operations that can be run.

## Main results

* `reorg_counts_fit` — no counter overflows its column.
-/

open Zpay.Data Zpay.Machine

namespace Zpay.Core

/-! ## Rows -/

/-- A row of `settlement_ledger`; `payment_id` is the key. -/
structure SettlementRow where
  broadcastOutcomeKind : String
  transactionId : Option String
  upstreamMessage : Option String
  settledAtUnixSeconds : Int
  confirmationCount : Option Int
  minedBlockHeight : Option Int
  lastConfirmationCheckAtUnixSeconds : Option Int
  reorgCount : Int
  lastReorgedAt : Option Int
  expiryHeight : Option Int
  payeeId : String
  amountZat : Int
  deriving DecidableEq, Repr

abbrev SettlementTable := Table PaymentId SettlementRow

/-- The `CHECK` of `broadcast_outcome_kind`. -/
def SettlementRow.kindKnown (row : SettlementRow) : Bool :=
  ["accepted", "duplicate", "invalid_encoding", "rejected", "unknown"].contains
    row.broadcastOutcomeKind

/-- `broadcast_outcome_kind IN ('accepted', 'duplicate')`. -/
def SettlementRow.successKind (row : SettlementRow) : Bool :=
  ["accepted", "duplicate"].contains row.broadcastOutcomeKind

/-- `settlement_outcome_columns_v4`. -/
def SettlementRow.outcomeColumns (row : SettlementRow) : Bool :=
  (row.successKind && row.transactionId.isSome && row.upstreamMessage.isNone) ||
  (["invalid_encoding", "rejected", "unknown"].contains row.broadcastOutcomeKind &&
    row.transactionId.isNone && row.upstreamMessage.isSome)

def SettlementRow.checked (row : SettlementRow) : Bool := row.kindKnown && row.outcomeColumns

/-! ## Encoding -/

/-- `i64::try_from(value).unwrap_or(i64::MAX)`. -/
def clampI64 (value : Nat) : Int := if value < 2 ^ 63 then value else 2 ^ 63 - 1

/-- `u32::try_from(raw).unwrap_or(u32::MAX)`. -/
def readU32 (raw : Int) : UInt32 :=
  if 0 ≤ raw ∧ raw < 2 ^ 32 then .ofNat raw.toNat else .ofNat (2 ^ 32 - 1)

/-- `u64::try_from(raw).unwrap_or(0)`, of a 64-bit integer. -/
def readU64 (raw : Int) : Nat := raw.toNat

def encodeBroadcastOutcome : BroadcastOutcome → String × Option String × Option String
  | .accepted transactionId => ("accepted", some transactionId, none)
  | .duplicate transactionId => ("duplicate", some transactionId, none)
  | .invalidEncoding upstreamMessage => ("invalid_encoding", none, some upstreamMessage)
  | .rejected upstreamMessage => ("rejected", none, some upstreamMessage)
  | .unknown upstreamMessage => ("unknown", none, some upstreamMessage)

def decodeBroadcastOutcome (kind : String) (transactionId upstreamMessage : Option String) :
    Except StoreError BroadcastOutcome :=
  if kind = "accepted" then
    match transactionId with
    | some transactionId => .ok (.accepted transactionId)
    | none => .error (.rowMalformed "accepted row missing transaction_id")
  else if kind = "duplicate" then
    match transactionId with
    | some transactionId => .ok (.duplicate transactionId)
    | none => .error (.rowMalformed "duplicate row missing transaction_id")
  else if kind = "invalid_encoding" then .ok (.invalidEncoding (upstreamMessage.getD ""))
  else if kind = "rejected" then .ok (.rejected (upstreamMessage.getD ""))
  else if kind = "unknown" then .ok (.unknown (upstreamMessage.getD ""))
  else .error (.rowMalformed ("unknown broadcast_outcome_kind: " ++ kind))

/-- The values `record` inserts. -/
def SettlementLedgerEntry.toRow (entry : SettlementLedgerEntry) : SettlementRow :=
  let (kind, transactionId, upstreamMessage) := encodeBroadcastOutcome entry.broadcastOutcome
  { broadcastOutcomeKind := kind
    transactionId
    upstreamMessage
    settledAtUnixSeconds := entry.settledAtUnixSeconds
    confirmationCount := entry.confirmationCount.map fun count => count.toNat
    minedBlockHeight := entry.minedBlockHeight.map clampI64
    lastConfirmationCheckAtUnixSeconds := none
    reorgCount := entry.reorgCount.toNat
    lastReorgedAt := entry.lastReorgedAt
    expiryHeight := entry.expiryHeight.map fun height => height.toNat
    payeeId := entry.payeeId.value
    amountZat := clampI64 entry.amountZat.toNat }

/-- The entry of a row with this outcome. -/
def SettlementRow.withOutcome (row : SettlementRow) (outcome : BroadcastOutcome) :
    SettlementLedgerEntry where
  broadcastOutcome := outcome
  settledAtUnixSeconds := row.settledAtUnixSeconds
  confirmationCount := row.confirmationCount.map readU32
  minedBlockHeight := row.minedBlockHeight.map readU64
  reorgCount := readU32 row.reorgCount
  lastReorgedAt := row.lastReorgedAt
  expiryHeight := row.expiryHeight.map readU32
  payeeId := ⟨row.payeeId⟩
  amountZat := .ofNat (readU64 row.amountZat)

def rowToSettlementLedgerEntry (row : SettlementRow) : Except StoreError SettlementLedgerEntry :=
  (decodeBroadcastOutcome row.broadcastOutcomeKind row.transactionId row.upstreamMessage).map
    row.withOutcome

/-! ## Statements -/

/-- The columns a confirmation sets; a null height leaves the stored one. -/
def SettlementRow.confirmed (confirmationCount : UInt32) (minedBlockHeight : Option Nat)
    (nowUnixSeconds : Int) (row : SettlementRow) : SettlementRow :=
  { row with
    confirmationCount := some confirmationCount.toNat
    minedBlockHeight := (minedBlockHeight.map clampI64).or row.minedBlockHeight
    lastConfirmationCheckAtUnixSeconds := some nowUnixSeconds }

/-- The columns a downgrade sets. -/
def SettlementRow.downgraded (reorgedAtUnixSeconds : Int) (row : SettlementRow) : SettlementRow :=
  { row with
    minedBlockHeight := none
    confirmationCount := some 0
    reorgCount := row.reorgCount + 1
    lastReorgedAt := some reorgedAtUnixSeconds }

namespace SettlementTable

variable (texts : SqlTexts)

/-- `INSERT … ON CONFLICT(payment_id) DO UPDATE` of every column. -/
def upsert (table : SettlementTable) (paymentId : PaymentId) (row : SettlementRow) :
    Except StoreError SettlementTable :=
  if row.checked then .ok (AList.insert paymentId row table)
  else .error (.unavailable texts.checkFailed)

/-- `UPDATE … SET … WHERE …`, with the ids of the rows it wrote. -/
def update (table : SettlementTable) (selects : PaymentId → SettlementRow → Bool)
    (set : SettlementRow → SettlementRow) :
    Except StoreError (List PaymentId × SettlementTable) :=
  let selected := (Table.rows table).filter fun row => selects row.1 row.2
  if selected.all fun row => (set row.2).checked then
    .ok (selected.map Prod.fst,
      Table.mapRows table fun paymentId row => if selects paymentId row then set row else row)
  else .error (.unavailable texts.checkFailed)

/-- The answer of a statement that leaves the table alone when it fails. -/
def answered {ρ : Type} (table : SettlementTable)
    (result : Except StoreError (ρ × SettlementTable)) : Except StoreError ρ × SettlementTable :=
  match result with
  | .ok (answer, table') => (.ok answer, table')
  | .error err => (.error err, table)

def record (table : SettlementTable) (paymentId : PaymentId) (entry : SettlementLedgerEntry) :
    Except StoreError Unit × SettlementTable :=
  answered table ((table.upsert texts paymentId entry.toRow).map ((), ·))

def find (table : SettlementTable) (paymentId : PaymentId) :
    Except StoreError (Option SettlementLedgerEntry) :=
  match table.lookup paymentId with
  | none => .ok none
  | some row => (rowToSettlementLedgerEntry row).map some

def entryCount (table : SettlementTable) : Nat := (Table.rows table).length

/-- One row of the poll's query. -/
def successKindRow (paymentId : PaymentId) (row : SettlementRow) :
    Except StoreError SuccessKindRow :=
  match row.transactionId with
  | none => .error (.rowMalformed ("transaction_id read failed: " ++ texts.nullRead))
  | some transactionId =>
      .ok { paymentId, transactionId, minedBlockHeight := row.minedBlockHeight.map readU64 }

def successKindTransactions (table : SettlementTable) : Except StoreError (List SuccessKindRow) :=
  ((Table.rows table).filter fun row => row.2.successKind).mapM fun row =>
    successKindRow texts row.1 row.2

/-- `ORDER BY payment_id DESC LIMIT ?`, perhaps `WHERE payee_id = ?`. -/
def listRecent (table : SettlementTable) (limit : UInt32) (payeeId : Option PayeeId) :
    Except StoreError (List (PaymentId × SettlementLedgerEntry)) :=
  ((newestFirst ((Table.rows table).filter fun row =>
    payeeId.all fun wanted => row.2.payeeId == wanted.value)).take limit.toNat).mapM fun row =>
      (rowToSettlementLedgerEntry row.2).map (row.1, ·)

def recordConfirmation (table : SettlementTable) (paymentId : PaymentId)
    (confirmationCount : UInt32) (minedBlockHeight : Option Nat) (nowUnixSeconds : Int) :
    Except StoreError Bool × SettlementTable :=
  answered table ((table.update texts (fun other _ => other == paymentId)
    (SettlementRow.confirmed confirmationCount minedBlockHeight nowUnixSeconds)).map
      fun (affected, table') => (!affected.isEmpty, table'))

def downgradeOnReorg (table : SettlementTable) (paymentId : PaymentId)
    (reorgedAtUnixSeconds : Int) : Except StoreError Bool × SettlementTable :=
  answered table ((table.update texts (fun other row => other == paymentId &&
    row.minedBlockHeight.isSome) (SettlementRow.downgraded reorgedAtUnixSeconds)).map
      fun (affected, table') => (!affected.isEmpty, table'))

/-- `… WHERE mined_block_height BETWEEN ? AND ? RETURNING payment_id`. -/
def downgradeReorgedRange (table : SettlementTable) (revertedStartHeight revertedEndHeight : Nat)
    (reorgedAtUnixSeconds : Int) : Except StoreError (List PaymentId) × SettlementTable :=
  answered table (table.update texts (fun _ row => row.minedBlockHeight.any fun height =>
    decide (clampI64 revertedStartHeight ≤ height) &&
      decide (height ≤ clampI64 revertedEndHeight))
    (SettlementRow.downgraded reorgedAtUnixSeconds))

def perform (table : SettlementTable) (call : LedgerCall) :
    Except StoreError LedgerAnswer × SettlementTable :=
  match call.operation with
  | .record paymentId entry =>
      (table.record texts paymentId entry).map (Except.map fun _ => .recorded) id
  | .find paymentId => ((table.find paymentId).map .found, table)
  | .entryCount => (.ok (.count table.entryCount), table)
  | .successKindTransactions => ((table.successKindTransactions texts).map .transactions, table)
  | .listRecent limit payeeId => ((table.listRecent limit payeeId).map .recent, table)
  | .recordConfirmation paymentId confirmationCount minedBlockHeight =>
      (table.recordConfirmation texts paymentId confirmationCount minedBlockHeight
        call.nowUnixSeconds).map (Except.map .updated) id
  | .downgradeOnReorg paymentId reorgedAtUnixSeconds =>
      (table.downgradeOnReorg texts paymentId reorgedAtUnixSeconds).map (Except.map .updated) id
  | .downgradeReorgedRange revertedStartHeight revertedEndHeight reorgedAtUnixSeconds =>
      (table.downgradeReorgedRange texts revertedStartHeight revertedEndHeight
        reorgedAtUnixSeconds).map (Except.map .downgraded) id

end SettlementTable

/-! ## The one column that grows -/

section Counters

variable {texts : SqlTexts} {table : SettlementTable} {n : Nat}

/-- No reorg counter of the table is above the ceiling by more than `n`. -/
def CountersWithin (n : Nat) (table : SettlementTable) : Prop :=
  ∀ paymentId row, table.lookup paymentId = some row → row.reorgCount ≤ 2 ^ 32 - 1 + n

theorem CountersWithin.succ (h : CountersWithin n table) : CountersWithin (n + 1) table := by
  intro paymentId row hrow
  have hle := h paymentId row hrow
  push_cast
  omega

theorem countersWithin_upsert (h : CountersWithin n table) (paymentId : PaymentId)
    (entry : SettlementLedgerEntry) :
    CountersWithin (n + 1) (table.record texts paymentId entry).2 := by
  have hfits := entry.reorgCount.toNat_lt
  unfold SettlementTable.record SettlementTable.upsert
  split
  · intro other row hrow
    change (AList.insert paymentId entry.toRow table).lookup other = some row at hrow
    rw [Table.lookup_insert_eq] at hrow
    split at hrow
    · rw [← Option.some.inj hrow]
      show ((entry.reorgCount.toNat : Nat) : Int) ≤ _
      push_cast
      omega
    · exact h.succ other row hrow
  · exact h.succ

theorem countersWithin_update {ρ : Type} (h : CountersWithin n table)
    {selects : PaymentId → SettlementRow → Bool} {set : SettlementRow → SettlementRow}
    (hset : ∀ row : SettlementRow, (set row).reorgCount ≤ row.reorgCount + 1)
    (answer : List PaymentId → ρ) :
    CountersWithin (n + 1) (SettlementTable.answered table
      ((table.update texts selects set).map fun (affected, table') =>
        (answer affected, table'))).2 := by
  unfold SettlementTable.update
  simp only
  split
  · intro paymentId row hrow
    change (Table.mapRows table fun paymentId row =>
      if selects paymentId row then set row else row).lookup paymentId = some row at hrow
    rw [Table.lookup_mapRows] at hrow
    obtain ⟨old, hold, rfl⟩ := Option.map_eq_some_iff.1 hrow
    have hle := h paymentId old hold
    have hstep := hset old
    push_cast
    split
    · omega
    · omega
  · exact h.succ

theorem countersWithin_perform (h : CountersWithin n table) (call : LedgerCall) :
    CountersWithin (n + 1) (table.perform texts call).2 := by
  have hdowngraded : ∀ (reorgedAt : Int) (row : SettlementRow),
      (row.downgraded reorgedAt).reorgCount ≤ row.reorgCount + 1 := fun _ _ => Int.le_refl _
  have hconfirmed : ∀ (count : UInt32) (height : Option Nat) (row : SettlementRow),
      (row.confirmed count height call.nowUnixSeconds).reorgCount ≤ row.reorgCount + 1 := by
    intro count height row
    show row.reorgCount ≤ row.reorgCount + 1
    omega
  unfold SettlementTable.perform
  cases call.operation with
  | record paymentId entry => exact countersWithin_upsert h paymentId entry
  | find | entryCount | successKindTransactions | listRecent => exact h.succ
  | recordConfirmation paymentId count height =>
      exact countersWithin_update h (hconfirmed count height) fun affected => !affected.isEmpty
  | downgradeOnReorg paymentId reorgedAt =>
      exact countersWithin_update h (hdowngraded reorgedAt) fun affected => !affected.isEmpty
  | downgradeReorgedRange startHeight endHeight reorgedAt =>
      have hsame : ∀ result : Except StoreError (List PaymentId × SettlementTable),
          (result.map fun (affected, table') => (id affected, table')) = result := by
        intro result
        cases result <;> rfl
      show CountersWithin (n + 1)
        (table.downgradeReorgedRange texts startHeight endHeight reorgedAt).2
      unfold SettlementTable.downgradeReorgedRange
      rw [← hsame (table.update _ _ _)]
      exact countersWithin_update h (hdowngraded reorgedAt) id

/-- The counters stay in 64 bits for any sequence short enough to be run. -/
theorem reorg_counts_fit (texts : SqlTexts) (calls : List LedgerCall)
    (hshort : calls.length ≤ 2 ^ 63 - 2 ^ 32) (paymentId : PaymentId) (row : SettlementRow)
    (hrow : (final (SettlementTable.perform texts) ∅ calls).lookup paymentId = some row) :
    row.reorgCount < 2 ^ 63 := by
  have hempty : CountersWithin 0 ∅ := by
    intro paymentId row hrow
    exact absurd hrow (by simp)
  have hstep : ∀ n table (call : LedgerCall), CountersWithin n table →
      CountersWithin (n + 1) (table.perform texts call).2 :=
    fun _ _ call h => countersWithin_perform h call
  have hbound := final_bounded hstep hempty calls paymentId row hrow
  push_cast at hbound
  omega

end Counters

end Zpay.Core
