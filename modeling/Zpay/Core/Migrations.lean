import Zpay.Core.LedgerTable
import Zpay.Data.Sql
import Zpay.Machine.Session

/-!
# Schema migrations

The migration scripts of the store, statement by statement, and the runner that applies
those whose version is above the persisted one, each script one atomic batch.

A run may be cut before any of its batches and queries, and started again.

## Main definitions

* `migration0001` … `migration0004` — the scripts.
* `runMigrations` — the runner.
* `rowToLedgerEntry` — what the ledger store reads of a row.
-/

open Zpay.Data Zpay.Data.Sql Zpay.Machine

namespace Zpay.Core.Migrations

/-! ## Names -/

inductive TableName
  | zpaySchemaMigrations
  | preparedTx
  | settlementLedger
  | settlementLedgerV4
  deriving DecidableEq, Repr

inductive ColumnName
  | version
  | appliedAtMs
  | description
  | paymentId
  | payeeId
  | network
  | recipientUnifiedAddress
  | amountZat
  | memoBytes
  | expiryHeight
  | agentDpopJkt
  | idempotencyKey
  | expiresAtUnixSeconds
  | broadcastOutcomeKind
  | transactionId
  | upstreamMessage
  | settledAtUnixSeconds
  | confirmationCount
  | minedBlockHeight
  | lastConfirmationCheckAtUnixSeconds
  | reorgCount
  | lastReorgedAt
  deriving DecidableEq, Repr

inductive IndexName
  | preparedTxExpiresIdx
  | preparedTxIdempotencyIdx
  | settlementLedgerTransactionIdIdx
  | settlementLedgerMinedBlockHeightIdx
  | settlementLedgerPayeeIdIdx
  deriving DecidableEq, Repr

abbrev StoreRow := Row ColumnName

abbrev StoreRelation := Relation ColumnName

abbrev StoreDatabase := Database TableName ColumnName IndexName

abbrev StoreSqlError := SqlError TableName ColumnName IndexName

abbrev Script := List (Statement TableName ColumnName IndexName)

/-! ## Scripts -/

def column (name : ColumnName) (type : ColumnType) : Column ColumnName where
  name := name
  type := type
  notNull := false
  default := .null

/-- A column declared `NOT NULL`, with its `DEFAULT` or none. -/
def notNull (name : ColumnName) (type : ColumnType) (default : Value) : Column ColumnName where
  name := name
  type := type
  notNull := true
  default := default

/-- The row of the version table that ends each script; `unixepoch()` is in seconds. -/
def recordVersion (orIgnore : Bool) (version nowSeconds : Int) (description : String) :
    Statement TableName ColumnName IndexName :=
  .insert orIgnore .zpaySchemaMigrations
    [(.version, .integer version), (.appliedAtMs, .integer (nowSeconds * 1000)),
      (.description, .text description)]

/-- `CHECK (broadcast_outcome_kind IN (…))`. -/
def broadcastOutcomeKinds : Condition ColumnName :=
  .isIn .broadcastOutcomeKind ["accepted", "duplicate", "invalid_encoding", "rejected", "unknown"]

def transactionIdIdx : Index TableName ColumnName where
  unique := false
  table := .settlementLedger
  columns := [.transactionId]
  condition := some (.isNotNull .transactionId)

def minedBlockHeightIdx : Index TableName ColumnName where
  unique := false
  table := .settlementLedger
  columns := [.minedBlockHeight]
  condition := some (.isNotNull .minedBlockHeight)

def payeeIdIdx : Index TableName ColumnName where
  unique := false
  table := .settlementLedger
  columns := [.payeeId]
  condition := some (.differs .payeeId "")

def migration0001 (nowSeconds : Int) : Script :=
  [.createTable true .zpaySchemaMigrations
      [column .version .integer,
        notNull .appliedAtMs .integer .null,
        notNull .description .text .null]
      .version [],
    .createTable true .preparedTx
      [column .paymentId .text,
        notNull .payeeId .text .null,
        notNull .network .text .null,
        notNull .recipientUnifiedAddress .text .null,
        notNull .amountZat .integer .null,
        notNull .memoBytes .blob .null,
        notNull .expiryHeight .integer .null,
        notNull .agentDpopJkt .text .null,
        column .idempotencyKey .text,
        notNull .expiresAtUnixSeconds .integer .null]
      .paymentId
      [.isIn .network ["mainnet", "testnet", "regtest"], .atLeast .amountZat 0],
    .createIndex true .preparedTxExpiresIdx
      { unique := false, table := .preparedTx, columns := [.expiresAtUnixSeconds],
        condition := none },
    .createIndex true .preparedTxIdempotencyIdx
      { unique := true, table := .preparedTx, columns := [.agentDpopJkt, .idempotencyKey],
        condition := some (.isNotNull .idempotencyKey) },
    .createTable true .settlementLedger
      [column .paymentId .text,
        notNull .broadcastOutcomeKind .text .null,
        column .transactionId .text,
        column .upstreamMessage .text,
        notNull .settledAtUnixSeconds .integer .null,
        column .confirmationCount .integer,
        column .minedBlockHeight .integer,
        column .lastConfirmationCheckAtUnixSeconds .integer]
      .paymentId [broadcastOutcomeKinds],
    .createIndex true .settlementLedgerTransactionIdIdx transactionIdIdx,
    recordVersion true 1 nowSeconds "initial: prepared_tx (DPoP-bound), settlement_ledger"]

def migration0002 (nowSeconds : Int) : Script :=
  [.addColumn .settlementLedger (notNull .reorgCount .integer (.integer 0)),
    .addColumn .settlementLedger (column .lastReorgedAt .integer),
    .addColumn .settlementLedger (column .expiryHeight .integer),
    .createIndex true .settlementLedgerMinedBlockHeightIdx minedBlockHeightIdx,
    recordVersion true 2 nowSeconds
      "reorg-aware settlement: reorg_count, last_reorged_at, expiry_height"]

def migration0003 (nowSeconds : Int) : Script :=
  [.addColumn .settlementLedger (notNull .payeeId .text (.text "")),
    .addColumn .settlementLedger (notNull .amountZat .integer (.integer 0)),
    .createIndex true .settlementLedgerPayeeIdIdx payeeIdIdx,
    recordVersion true 3 nowSeconds
      "settlement_ledger: payee_id, amount_zat for the operator payments console (ADR-0014)"]

/-- `settlement_outcome_columns_v4`. -/
def settlementOutcomeColumns : Condition ColumnName :=
  .or
    (.and (.and (.isIn .broadcastOutcomeKind ["accepted", "duplicate"])
      (.isNotNull .transactionId)) (.isNull .upstreamMessage))
    (.and (.and (.isIn .broadcastOutcomeKind ["invalid_encoding", "rejected", "unknown"])
      (.isNull .transactionId)) (.isNotNull .upstreamMessage))

/-- The columns that are copied into the new table. -/
def copiedColumns : List ColumnName :=
  [.paymentId, .broadcastOutcomeKind, .transactionId, .upstreamMessage, .settledAtUnixSeconds,
    .confirmationCount, .minedBlockHeight, .lastConfirmationCheckAtUnixSeconds, .reorgCount,
    .lastReorgedAt, .expiryHeight, .payeeId, .amountZat]

def migration0004 (nowSeconds : Int) : Script :=
  [.createTable false .settlementLedgerV4
      [column .paymentId .text,
        notNull .broadcastOutcomeKind .text .null,
        column .transactionId .text,
        column .upstreamMessage .text,
        notNull .settledAtUnixSeconds .integer .null,
        column .confirmationCount .integer,
        column .minedBlockHeight .integer,
        column .lastConfirmationCheckAtUnixSeconds .integer,
        notNull .reorgCount .integer (.integer 0),
        column .lastReorgedAt .integer,
        column .expiryHeight .integer,
        notNull .payeeId .text (.text ""),
        notNull .amountZat .integer (.integer 0)]
      .paymentId [broadcastOutcomeKinds, settlementOutcomeColumns],
    .insertSelect .settlementLedgerV4 copiedColumns .settlementLedger,
    .dropTable .settlementLedger,
    .renameTable .settlementLedgerV4 .settlementLedger,
    .createIndex false .settlementLedgerTransactionIdIdx transactionIdIdx,
    .createIndex false .settlementLedgerMinedBlockHeightIdx minedBlockHeightIdx,
    .createIndex false .settlementLedgerPayeeIdIdx payeeIdIdx,
    recordVersion false 4 nowSeconds
      ("settlement outcome columns: success requires transaction_id; failure requires "
        ++ "upstream_message")]

/-! ## The runner -/

/-- Every script with the schema version it produces. -/
def migrations : List (UInt32 × (Int → Script)) :=
  [(1, migration0001), (2, migration0002), (3, migration0003), (4, migration0004)]

def schemaVersion : UInt32 := 4

def settlementOutcomeColumnsInvariant : String := "settlement_outcome_columns_v4"

/-- The errors of the store that a run of the migrations reports. -/
inductive MigrationError
  | store (err : StoreError)
  | migrationPending (currentVersion requiredVersion : UInt32)
  | schemaInvariantViolation (invariant : String) (violatingRows : UInt64)
  deriving DecidableEq, Repr

/-- What libSQL prints of a failed statement and of a value that it cannot read. -/
structure LibsqlTexts where
  failed : StoreSqlError → String
  unreadable : Value → String

section Runner

variable (texts : LibsqlTexts)

/-- An error of the connection. -/
def unavailable {α : Type} (context : String) (result : Except StoreSqlError α) :
    Except MigrationError α :=
  result.mapError fun err => .store (.unavailable (context ++ texts.failed err))

def applyMigration (sql : Script) : Session StoreDatabase MigrationError Unit :=
  .update fun db => unavailable texts "schema migration failed: " (executeBatch sql db)

/-- `row.get` of an `i64`, then `u32::try_from`; a null is coalesced to zero. -/
def readVersion : Value → Except MigrationError UInt32
  | .null => .ok 0
  | .integer raw =>
      if 0 ≤ raw ∧ raw < 2 ^ 32 then .ok (.ofNat raw.toNat)
      else .error (.store (.rowMalformed "migration version overflowed u32"))
  | value =>
      .error (.store (.rowMalformed
        ("migration version column non-integer: " ++ texts.unreadable value)))

def maxAppliedVersion : Session StoreDatabase MigrationError UInt32 :=
  .query fun db => do
    let raw ← unavailable texts "read of migration version failed: "
      (db.maxOf .zpaySchemaMigrations .version)
    readVersion texts raw

/-- The rows that break the outcome columns' contract. -/
def violatesOutcomeColumns : Condition ColumnName :=
  .caseWhen (.isIn .broadcastOutcomeKind ["accepted", "duplicate"])
    (.or (.isNull .transactionId) (.isNotNull .upstreamMessage))
    (.caseWhen (.isIn .broadcastOutcomeKind ["invalid_encoding", "rejected", "unknown"])
      (.or (.isNotNull .transactionId) (.isNull .upstreamMessage))
      .always)

def validateSettlementOutcomeColumns : Session StoreDatabase MigrationError Unit :=
  .query fun db => do
    let violatingRows ← unavailable texts "settlement outcome invariant query failed: "
      (db.countWhere .settlementLedger violatesOutcomeColumns)
    ensure (violatingRows = 0)
      (.schemaInvariantViolation settlementOutcomeColumnsInvariant (.ofNat violatingRows))

/-- `run_migrations`, with the time at which each script runs. -/
def runMigrations (now : UInt32 → Int) : Session StoreDatabase MigrationError Unit := do
  applyMigration texts (migration0001 (now 1))
  let applied ← maxAppliedVersion texts
  if schemaVersion < applied then
    .fail (.migrationPending applied schemaVersion)
  else
    (migrations.drop 1).forM fun (version, sql) =>
      if applied < version then do
        if version = 4 then validateSettlementOutcomeColumns texts
        applyMigration texts (sql (now version))
      else pure ()
    validateSettlementOutcomeColumns texts

end Runner

/-! ## Reading the ledger -/

section Reading

variable (texts : LibsqlTexts)

def readFailed {α : Type} (name : String) (value : Value) : Except StoreError α :=
  .error (.rowMalformed (name ++ " read failed: " ++ texts.unreadable value))

def readText (name : String) : Value → Except StoreError String
  | .text s => .ok s
  | value => readFailed texts name value

def readOptionText (name : String) : Value → Except StoreError (Option String)
  | .null => .ok none
  | .text s => .ok (some s)
  | value => readFailed texts name value

def readInteger (name : String) : Value → Except StoreError Int
  | .integer n => .ok n
  | value => readFailed texts name value

def readOptionInteger (name : String) : Value → Except StoreError (Option Int)
  | .null => .ok none
  | .integer n => .ok (some n)
  | value => readFailed texts name value

/-- `row_to_settlement_ledger_entry`; the column of the last check is not read. -/
def rowToLedgerEntry (row : StoreRow) : Except StoreError SettlementLedgerEntry := do
  let kind ← readText texts "broadcast_outcome_kind" (row .broadcastOutcomeKind)
  let transactionId ← readOptionText texts "transaction_id" (row .transactionId)
  let upstreamMessage ← readOptionText texts "upstream_message" (row .upstreamMessage)
  let settledAtUnixSeconds ←
    readInteger texts "settled_at_unix_seconds" (row .settledAtUnixSeconds)
  let confirmationCount ← readOptionInteger texts "confirmation_count" (row .confirmationCount)
  let minedBlockHeight ← readOptionInteger texts "mined_block_height" (row .minedBlockHeight)
  let reorgCount ← readInteger texts "reorg_count" (row .reorgCount)
  let lastReorgedAt ← readOptionInteger texts "last_reorged_at" (row .lastReorgedAt)
  let expiryHeight ← readOptionInteger texts "expiry_height" (row .expiryHeight)
  let payeeId ← readText texts "payee_id" (row .payeeId)
  let amountZat ← readInteger texts "amount_zat" (row .amountZat)
  rowToSettlementLedgerEntry
    { broadcastOutcomeKind := kind, transactionId, upstreamMessage, settledAtUnixSeconds,
      confirmationCount, minedBlockHeight, lastConfirmationCheckAtUnixSeconds := none,
      reorgCount, lastReorgedAt, expiryHeight, payeeId, amountZat }

end Reading

end Zpay.Core.Migrations
