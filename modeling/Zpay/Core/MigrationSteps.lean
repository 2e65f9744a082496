import Zpay.Core.Migrations

/-!
# What each script does

The database of every schema version, as its tables' columns and constraints over any rows,
and what each script makes of it.  A binary of a version leaves the database of that version
with some rows that its constraints admit; before the first one it is empty.

## Main results

* `migration0001_empty`, `migration0001_again`, `migration0002_ok`, `migration0003_ok`,
  `migration0004_ok` — the scripts, from one version to the next.
* `violates_iff` — the runner's query counts the rows that the last script's `CHECK` rejects.
* `exists_storeRow`, `rowToLedgerEntry_ok` — a row of the last version's ledger is the storage of
  a typed one, and the store reads it.
-/

open Zpay.Data Zpay.Data.Sql Zpay.Machine

namespace Zpay.Core.Migrations

/-! ## Databases of each schema version -/

def versionTable (rows : List StoreRow) : StoreRelation where
  columns :=
    [column .version .integer, notNull .appliedAtMs .integer .null,
      notNull .description .text .null]
  primaryKey := .version
  checks := []
  rows := rows

def preparedTable (rows : List StoreRow) : StoreRelation where
  columns :=
    [column .paymentId .text, notNull .payeeId .text .null, notNull .network .text .null,
      notNull .recipientUnifiedAddress .text .null, notNull .amountZat .integer .null,
      notNull .memoBytes .blob .null, notNull .expiryHeight .integer .null,
      notNull .agentDpopJkt .text .null, column .idempotencyKey .text,
      notNull .expiresAtUnixSeconds .integer .null]
  primaryKey := .paymentId
  checks := [.isIn .network ["mainnet", "testnet", "regtest"], .atLeast .amountZat 0]
  rows := rows

/-- The columns that a schema version adds to the ledger. -/
def newColumns : Nat → List (Column ColumnName)
  | 1 =>
      [column .paymentId .text, notNull .broadcastOutcomeKind .text .null,
        column .transactionId .text, column .upstreamMessage .text,
        notNull .settledAtUnixSeconds .integer .null, column .confirmationCount .integer,
        column .minedBlockHeight .integer, column .lastConfirmationCheckAtUnixSeconds .integer]
  | 2 =>
      [notNull .reorgCount .integer (.integer 0), column .lastReorgedAt .integer,
        column .expiryHeight .integer]
  | 3 => [notNull .payeeId .text (.text ""), notNull .amountZat .integer (.integer 0)]
  | _ => []

def ledgerColumns : Nat → List (Column ColumnName)
  | 0 => []
  | k + 1 => ledgerColumns k ++ newColumns (k + 1)

/-- The columns that the scripts from one version to another add. -/
def addedColumns (k j : Nat) : List (Column ColumnName) :=
  (ledgerColumns j).drop (ledgerColumns k).length

theorem ledgerColumns_append {k j : Nat} (h : k ≤ j) :
    ledgerColumns j = ledgerColumns k ++ addedColumns k j := by
  have hprefix : ledgerColumns k <+: ledgerColumns j := by
    induction h with
    | refl => exact List.prefix_rfl
    | step _ ih => exact ih.trans (List.prefix_append _ _)
  exact (List.prefix_iff_eq_append.1 hprefix).symm

def ledgerChecks (k : Nat) : List (Condition ColumnName) :=
  if k < 4 then [broadcastOutcomeKinds] else [broadcastOutcomeKinds, settlementOutcomeColumns]

def ledgerTable (k : Nat) (rows : List StoreRow) : StoreRelation where
  columns := ledgerColumns k
  primaryKey := .paymentId
  checks := ledgerChecks k
  rows := rows

def expiresIdx : Index TableName ColumnName where
  unique := false
  table := .preparedTx
  columns := [.expiresAtUnixSeconds]
  condition := none

def idempotencyIdx : Index TableName ColumnName where
  unique := true
  table := .preparedTx
  columns := [.agentDpopJkt, .idempotencyKey]
  condition := some (.isNotNull .idempotencyKey)

def preparedIndexes : List (IndexName × Index TableName ColumnName) :=
  [(.preparedTxExpiresIdx, expiresIdx), (.preparedTxIdempotencyIdx, idempotencyIdx)]

/-- The indexes on the ledger. -/
def ledgerIndexes : Nat → List (IndexName × Index TableName ColumnName)
  | 0 => []
  | 1 => [(.settlementLedgerTransactionIdIdx, transactionIdIdx)]
  | 2 =>
      [(.settlementLedgerTransactionIdIdx, transactionIdIdx),
        (.settlementLedgerMinedBlockHeightIdx, minedBlockHeightIdx)]
  | _ =>
      [(.settlementLedgerTransactionIdIdx, transactionIdIdx),
        (.settlementLedgerMinedBlockHeightIdx, minedBlockHeightIdx),
        (.settlementLedgerPayeeIdIdx, payeeIdIdx)]

structure Contents where
  versions : List StoreRow
  prepared : List StoreRow
  ledger : List StoreRow

def databaseAt : Nat → Contents → StoreDatabase
  | 0, _ => .empty
  | k + 1, contents =>
      { tables := fun
          | .zpaySchemaMigrations => some (versionTable contents.versions)
          | .preparedTx => some (preparedTable contents.prepared)
          | .settlementLedger => some (ledgerTable (k + 1) contents.ledger)
          | .settlementLedgerV4 => none
        indexes := preparedIndexes ++ ledgerIndexes (k + 1) }

/-- Rows that a schema version admits; its version table holds the versions up to it. -/
structure Contents.Valid (k : Nat) (contents : Contents) : Prop where
  versions : (versionTable contents.versions).Valid
  numbers : ∀ n : Int, (∃ row ∈ contents.versions, row .version = .integer n) ↔ 1 ≤ n ∧ n ≤ k
  prepared : (preparedTable contents.prepared).Valid
  idempotency : contents.prepared.Pairwise fun row row' => idempotencyIdx.clashes row row' = false
  ledger : (ledgerTable k contents.ledger).Valid

/-- What a binary of a schema version can have left. -/
inductive LeftBy : Nat → Contents → Prop
  | empty : LeftBy 0 { versions := [], prepared := [], ledger := [] }
  | version {k : Nat} {contents : Contents} (hpos : 1 ≤ k) (hle : k ≤ 4)
      (hvalid : contents.Valid k) : LeftBy k contents

/-! ## The version table -/

/-- The row that a script leaves in the version table. -/
def versionRow (version nowSeconds : Int) (description : String) : StoreRow :=
  (versionTable []).newRow
    [(.version, .integer version), (.appliedAtMs, .integer (nowSeconds * 1000)),
      (.description, .text description)]

section VersionTable

variable {db : StoreDatabase} {rows : List StoreRow} {n nowSeconds : Int} {description : String}

theorem recordVersion_ok {orIgnore : Bool}
    (h : db.tables .zpaySchemaMigrations = some (versionTable rows))
    (hfresh : ∀ row ∈ rows, row .version ≠ .integer n)
    (hindexes : ∀ index ∈ db.indexes, index.2.table ≠ .zpaySchemaMigrations) :
    (recordVersion orIgnore n nowSeconds description).execute db =
      .ok (db.setTable .zpaySchemaMigrations
        (some (versionTable (rows ++ [versionRow n nowSeconds description])))) := by
  have hdoubles : db.doubles .zpaySchemaMigrations (versionTable rows)
      (versionRow n nowSeconds description) = false := by
    unfold Database.doubles
    rw [List.any_eq_false]
    intro old hold
    have hkey : (versionTable rows).sameKey (versionRow n nowSeconds description) old = false := by
      show (true && (Value.integer n == old .version)) = false
      rw [Bool.true_and, beq_eq_false_iff_ne]
      exact Ne.symm (hfresh old hold)
    have hnone : (db.indexes.any fun index => decide (index.2.table = .zpaySchemaMigrations) &&
        index.2.clashes (versionRow n nowSeconds description) old) = false := by
      rw [List.any_eq_false]
      intro index hindex
      simp [hindexes index hindex]
    simp [hkey, hnone]
  exact execute_insert h rfl rfl hdoubles

theorem recordVersion_again (h : db.tables .zpaySchemaMigrations = some (versionTable rows))
    (hold : ∃ row ∈ rows, row .version = .integer n) :
    (recordVersion true n nowSeconds description).execute db = .ok db := by
  obtain ⟨row, hrow, hversion⟩ := hold
  refine execute_insert_ignored h rfl ?_
  unfold Database.doubles
  refine List.any_eq_true.2 ⟨row, hrow, ?_⟩
  refine Bool.or_eq_true_iff.2 (.inl ?_)
  show (true && (Value.integer n == row .version)) = true
  rw [hversion, Bool.true_and, beq_self_eq_true]

end VersionTable

/-! ## From one version to the next -/

/-- The description that a script records of itself. -/
def versionDescription : Nat → String
  | 1 => "initial: prepared_tx (DPoP-bound), settlement_ledger"
  | 2 => "reorg-aware settlement: reorg_count, last_reorged_at, expiry_height"
  | 3 => "settlement_ledger: payee_id, amount_zat for the operator payments console (ADR-0014)"
  | _ =>
      "settlement outcome columns: success requires transaction_id; failure requires "
        ++ "upstream_message"

/-- The rows after the script of a version: the version is recorded, and the ledger's new
columns are at their defaults. -/
def Contents.migrated (contents : Contents) (version : Nat) (nowSeconds : Int) : Contents where
  versions := contents.versions ++ [versionRow version nowSeconds (versionDescription version)]
  prepared := contents.prepared
  ledger := contents.ledger.map (setDefaults (newColumns version))

section Scripts

variable {contents : Contents} {nowSeconds : Int}

theorem index_tables (k : Nat) : ∀ index ∈ preparedIndexes ++ ledgerIndexes k,
    index.2.table = .preparedTx ∨ index.2.table = .settlementLedger := by
  intro index hindex
  rcases List.mem_append.1 hindex with hprepared | hledger
  · left
    simp only [preparedIndexes, List.mem_cons, List.not_mem_nil, or_false] at hprepared
    rcases hprepared with rfl | rfl <;> rfl
  · right
    unfold ledgerIndexes at hledger
    split at hledger <;> simp only [List.mem_cons, List.not_mem_nil, or_false] at hledger
    · rw [hledger]
      rfl
    · rcases hledger with rfl | rfl <;> rfl
    · rcases hledger with rfl | rfl | rfl <;> rfl

theorem indexes_not_on {t : TableName} (hprepared : t ≠ .preparedTx)
    (hledger : t ≠ .settlementLedger) (k : Nat) :
    ∀ index ∈ preparedIndexes ++ ledgerIndexes k, index.2.table ≠ t := by
  intro index hindex
  rcases index_tables k index hindex with htable | htable
  · rw [htable]
    exact Ne.symm hprepared
  · rw [htable]
    exact Ne.symm hledger

theorem indexes_not_on_versions (k : Nat) :
    ∀ index ∈ preparedIndexes ++ ledgerIndexes k, index.2.table ≠ .zpaySchemaMigrations :=
  indexes_not_on (by decide) (by decide) k

theorem Contents.Valid.version_fresh {k : Nat} (h : contents.Valid k) :
    ∀ row ∈ contents.versions, row .version ≠ .integer (k + 1 : Nat) := by
  intro row hrow hversion
  have hle := ((h.numbers _).1 ⟨row, hrow, hversion⟩).2
  omega

/-- The end of a script, table by table. -/
theorem executeBatch_end {db db' : StoreDatabase}
    (hversions : db.tables .zpaySchemaMigrations = db'.tables .zpaySchemaMigrations)
    (hprepared : db.tables .preparedTx = db'.tables .preparedTx)
    (hledger : db.tables .settlementLedger = db'.tables .settlementLedger)
    (hledgerV4 : db.tables .settlementLedgerV4 = db'.tables .settlementLedgerV4)
    (hindexes : db.indexes = db'.indexes) : executeBatch [] db = .ok db' := by
  rw [executeBatch_nil]
  refine congrArg Except.ok (Database.ext (funext fun t => ?_) hindexes)
  cases t with
  | zpaySchemaMigrations => exact hversions
  | preparedTx => exact hprepared
  | settlementLedger => exact hledger
  | settlementLedgerV4 => exact hledgerV4

theorem migration0002_ok (h : contents.Valid 1) :
    executeBatch (migration0002 nowSeconds) (databaseAt 1 contents) =
      .ok (databaseAt 2 (contents.migrated 2 nowSeconds)) := by
  unfold migration0002
  refine (executeBatch_cons (execute_addColumn rfl rfl rfl)).trans ?_
  refine (executeBatch_cons (execute_addColumn (setTable_self _ _ _) rfl rfl)).trans ?_
  refine (executeBatch_cons (execute_addColumn (setTable_self _ _ _) rfl rfl)).trans ?_
  refine (executeBatch_cons (execute_createIndex (setTable_self _ _ _) rfl rfl
    (pairwise_of_not_unique rfl _))).trans ?_
  refine (executeBatch_cons (recordVersion_ok rfl h.version_fresh
    (indexes_not_on_versions 2))).trans ?_
  refine executeBatch_end rfl rfl ?_ rfl rfl
  exact congrArg some (foldl_addColumn (ledgerTable 1 contents.ledger) (newColumns 2))

theorem migration0003_ok (h : contents.Valid 2) :
    executeBatch (migration0003 nowSeconds) (databaseAt 2 contents) =
      .ok (databaseAt 3 (contents.migrated 3 nowSeconds)) := by
  unfold migration0003
  refine (executeBatch_cons (execute_addColumn rfl rfl rfl)).trans ?_
  refine (executeBatch_cons (execute_addColumn (setTable_self _ _ _) rfl rfl)).trans ?_
  refine (executeBatch_cons (execute_createIndex (setTable_self _ _ _) rfl rfl
    (pairwise_of_not_unique rfl _))).trans ?_
  refine (executeBatch_cons (recordVersion_ok rfl h.version_fresh
    (indexes_not_on_versions 3))).trans ?_
  refine executeBatch_end rfl rfl ?_ rfl rfl
  exact congrArg some (foldl_addColumn (ledgerTable 2 contents.ledger) (newColumns 3))

/-- The first script makes an empty database one of the first version. -/
theorem migration0001_empty :
    executeBatch (migration0001 nowSeconds) .empty =
      .ok (databaseAt 1 (Contents.migrated ⟨[], [], []⟩ 1 nowSeconds)) := by
  unfold migration0001
  refine (executeBatch_cons (execute_createTable rfl)).trans ?_
  refine (executeBatch_cons (execute_createTable rfl)).trans ?_
  refine (executeBatch_cons (execute_createIndex (setTable_self _ _ _) rfl rfl
    (pairwise_of_not_unique rfl _))).trans ?_
  refine (executeBatch_cons (execute_createIndex (r := preparedTable []) rfl rfl rfl
    .nil)).trans ?_
  refine (executeBatch_cons (execute_createTable rfl)).trans ?_
  refine (executeBatch_cons (execute_createIndex (setTable_self _ _ _) rfl rfl
    (pairwise_of_not_unique rfl _))).trans ?_
  refine (executeBatch_cons (recordVersion_ok rfl (by simp) (indexes_not_on_versions 1))).trans ?_
  exact executeBatch_end rfl rfl rfl rfl rfl

/-- On any later one it changes nothing. -/
theorem migration0001_again {k : Nat} (h : contents.Valid (k + 1)) :
    executeBatch (migration0001 nowSeconds) (databaseAt (k + 1) contents) =
      .ok (databaseAt (k + 1) contents) := by
  have hindex : ((databaseAt (k + 1) contents).indexes.any
      (·.1 = .settlementLedgerTransactionIdIdx)) = true := by
    refine List.any_eq_true.2 ⟨(.settlementLedgerTransactionIdIdx, transactionIdIdx), ?_, rfl⟩
    refine List.mem_append_right _ ?_
    unfold ledgerIndexes
    split <;> first | exact List.mem_cons_self | contradiction
  have hversion : ∃ row ∈ contents.versions, row .version = .integer 1 :=
    (h.numbers 1).2 ⟨by omega, by omega⟩
  unfold migration0001
  refine (executeBatch_cons (execute_createTable_exists rfl)).trans ?_
  refine (executeBatch_cons (execute_createTable_exists rfl)).trans ?_
  refine (executeBatch_cons (execute_createIndex_exists rfl rfl)).trans ?_
  refine (executeBatch_cons (execute_createIndex_exists rfl rfl)).trans ?_
  refine (executeBatch_cons (execute_createTable_exists rfl)).trans ?_
  refine (executeBatch_cons (execute_createIndex_exists rfl hindex)).trans ?_
  refine (executeBatch_cons (recordVersion_again rfl hversion)).trans ?_
  exact executeBatch_nil

/-- A row of the old table that meets the outcome columns' `CHECK` is one of the new table. -/
theorem accepts_outcomes {row : StoreRow} {rows rows' : List StoreRow}
    (h : (ledgerTable 3 rows).accepts row = true)
    (houtcome : settlementOutcomeColumns.eval row = some true) :
    (ledgerTable 4 rows').accepts row = true := by
  obtain ⟨hcolumns, hchecks⟩ := accepts_iff.1 h
  refine accepts_iff.2 ⟨hcolumns, fun check hcheck => ?_⟩
  simp only [ledgerTable, ledgerChecks, lt_irrefl, if_false, List.mem_cons, List.not_mem_nil,
    or_false] at hcheck
  rcases hcheck with rfl | rfl
  · exact hchecks _ List.mem_cons_self
  · rw [houtcome]
    decide

/-- The last script copies the ledger into a table with the outcome columns' `CHECK`, where
every row of the old one meets it. -/
theorem migration0004_ok (h : contents.Valid 3)
    (houtcome : ∀ row ∈ contents.ledger, settlementOutcomeColumns.eval row = some true) :
    executeBatch (migration0004 nowSeconds) (databaseAt 3 contents) =
      .ok (databaseAt 4 (contents.migrated 4 nowSeconds)) := by
  have haccepts : ∀ row ∈ contents.ledger, (ledgerTable 4 []).accepts row = true :=
    fun row hrow => accepts_outcomes (h.ledger.accepted row hrow) (houtcome row hrow)
  unfold migration0004
  refine (executeBatch_cons (execute_createTable rfl)).trans ?_
  refine (executeBatch_cons (execute_insertSelect (r := ledgerTable 4 []) rfl rfl rfl rfl ?_
    (by exact h.ledger.within) (by exact haccepts) (by exact h.ledger.distinct) ?_)).trans ?_
  · decide
  · exact indexes_not_on (by decide) (by decide) 3
  refine (executeBatch_cons (execute_dropTable rfl)).trans ?_
  refine (executeBatch_cons (execute_renameTable rfl rfl)).trans ?_
  refine (executeBatch_cons (execute_createIndex rfl rfl rfl
    (pairwise_of_not_unique rfl _))).trans ?_
  refine (executeBatch_cons (execute_createIndex rfl rfl rfl
    (pairwise_of_not_unique rfl _))).trans ?_
  refine (executeBatch_cons (execute_createIndex rfl rfl rfl
    (pairwise_of_not_unique rfl _))).trans ?_
  refine (executeBatch_cons (recordVersion_ok rfl h.version_fresh
    (indexes_not_on_versions 4))).trans ?_
  have hsame : (contents.migrated 4 nowSeconds).ledger = contents.ledger :=
    List.map_id' contents.ledger
  refine executeBatch_end rfl rfl ?_ rfl rfl
  rw [show (databaseAt 4 (contents.migrated 4 nowSeconds)).tables .settlementLedger =
    some (ledgerTable 4 (contents.migrated 4 nowSeconds).ledger) from rfl, hsame]
  rfl

end Scripts

/-! ## The rows stay within the constraints -/

section Valid

variable {contents : Contents} {nowSeconds : Int} {k : Nat}

theorem versions_valid (h : (versionTable contents.versions).Valid)
    (hfresh : ∀ row ∈ contents.versions, row .version ≠ .integer (k + 1 : Nat)) :
    (versionTable (contents.migrated (k + 1) nowSeconds).versions).Valid := by
  refine h.insert ?_ ?_ rfl ?_ fun old hold => Ne.symm (hfresh old hold)
  · intro name hname
    change (versionTable []).hasColumn name = false at hname
    cases name <;> first | rfl | exact absurd hname (by decide)
  · intro column hcolumn
    simp only [versionTable, List.mem_cons, List.not_mem_nil, or_false] at hcolumn
    rcases hcolumn with rfl | rfl | rfl <;> rfl
  · show Value.integer (k + 1 : Nat) ≠ .null
    simp

theorem versions_numbers
    (h : ∀ n : Int, (∃ row ∈ contents.versions, row .version = .integer n) ↔ 1 ≤ n ∧ n ≤ k) :
    ∀ n : Int, (∃ row ∈ (contents.migrated (k + 1) nowSeconds).versions,
      row .version = .integer n) ↔ 1 ≤ n ∧ n ≤ (k + 1 : Nat) := by
  intro n
  have hlast : versionRow (k + 1 : Nat) nowSeconds (versionDescription (k + 1)) .version =
      .integer (k + 1 : Nat) := rfl
  constructor
  · rintro ⟨row, hrow, hversion⟩
    rcases List.mem_append.1 hrow with hold | hnew
    · have hbounds := (h n).1 ⟨row, hold, hversion⟩
      omega
    · rw [List.mem_singleton.1 hnew, hlast] at hversion
      have hn := Value.integer.inj hversion
      omega
  · rintro ⟨hpos, hle⟩
    by_cases hn : n ≤ k
    · obtain ⟨row, hrow, hversion⟩ := (h n).2 ⟨hpos, hn⟩
      exact ⟨row, List.mem_append_left _ hrow, hversion⟩
    · refine ⟨_, List.mem_append_right _ List.mem_cons_self, hlast.trans ?_⟩
      congr 1
      omega

theorem ledger_valid_of_columns (h : (ledgerTable k contents.ledger).Valid)
    (hchecks : ledgerChecks (k + 1) = ledgerChecks k)
    (hnew : ∀ column ∈ newColumns (k + 1), (ledgerTable k []).hasColumn column.name = false)
    (hnodup : ((newColumns (k + 1)).map Column.name).Nodup)
    (hdefault : ∀ column ∈ newColumns (k + 1), (column.notNull && column.default == .null) = false ∧
      column.type.admits column.default = true) :
    (ledgerTable (k + 1) (contents.migrated (k + 1) nowSeconds).ledger).Valid := by
  have htable : ledgerTable (k + 1) (contents.migrated (k + 1) nowSeconds).ledger =
      (newColumns (k + 1)).foldl Relation.addColumn (ledgerTable k contents.ledger) := by
    rw [foldl_addColumn]
    unfold ledgerTable
    rw [hchecks]
    rfl
  rw [htable]
  exact h.addColumns hnew hnodup hdefault

/-- In the last script's table, with its `CHECK`. -/
theorem ledger_valid_of_outcomes (h : (ledgerTable 3 contents.ledger).Valid)
    (houtcome : ∀ row ∈ contents.ledger, settlementOutcomeColumns.eval row = some true) :
    (ledgerTable 4 contents.ledger).Valid where
  keyed := rfl
  reads := by
    show ∀ check ∈ (ledgerTable 4 []).checks, ∀ name ∈ check.columns,
      (ledgerTable 4 []).hasColumn name = true
    decide
  within := h.within
  typed := h.typed
  accepted row hrow := accepts_outcomes (h.accepted row hrow) (houtcome row hrow)
  keys := h.keys
  distinct := h.distinct

/-- Before the outcome columns' `CHECK`, every script leaves what its version admits. -/
theorem Contents.Valid.migrated (h : contents.Valid k)
    (hledger : (ledgerTable (k + 1) (contents.migrated (k + 1) nowSeconds).ledger).Valid) :
    (contents.migrated (k + 1) nowSeconds).Valid (k + 1) where
  versions := versions_valid h.versions h.version_fresh
  numbers := versions_numbers h.numbers
  prepared := h.prepared
  idempotency := h.idempotency
  ledger := hledger

theorem valid_migrated_1 : (Contents.migrated ⟨[], [], []⟩ 1 nowSeconds).Valid 1 where
  versions := by
    have hempty : (versionTable []).Valid := Relation.valid_of_no_rows rfl rfl (by decide)
    exact versions_valid hempty (by simp)
  numbers := by
    refine versions_numbers fun n => ⟨?_, ?_⟩
    · rintro ⟨row, hrow, -⟩
      exact absurd hrow (by simp)
    · intro hbounds
      omega
  prepared := by
    have hempty : (preparedTable []).Valid := Relation.valid_of_no_rows rfl rfl (by decide)
    exact hempty
  idempotency := .nil
  ledger := by
    have hempty : (ledgerTable 1 []).Valid := Relation.valid_of_no_rows rfl rfl (by decide)
    exact hempty

end Valid

/-! ## The outcome columns -/

section OutcomeColumns

variable {row : StoreRow} {rows : List StoreRow} {k : Nat}

/-- A row of the ledger has one of the kinds. -/
theorem kind_of_accepts (h : (ledgerTable (k + 1) rows).accepts row = true) :
    ∃ s, row .broadcastOutcomeKind = .text s ∧
      (s ∈ ["accepted", "duplicate"] ∨ s ∈ ["invalid_encoding", "rejected", "unknown"]) := by
  obtain ⟨hcolumns, hchecks⟩ := accepts_iff.1 h
  have hmem : notNull .broadcastOutcomeKind .text .null ∈ ledgerColumns (k + 1) := by
    rw [ledgerColumns_append (Nat.le_add_left 1 k)]
    exact List.mem_append_left _ (List.mem_cons_of_mem _ List.mem_cons_self)
  have hnull : row .broadcastOutcomeKind ≠ .null := hcolumns _ hmem rfl
  have hkinds : broadcastOutcomeKinds.eval row ≠ some false := by
    refine hchecks _ ?_
    show broadcastOutcomeKinds ∈ ledgerChecks (k + 1)
    unfold ledgerChecks
    split <;> exact List.mem_cons_self
  unfold broadcastOutcomeKinds Condition.eval at hkinds
  cases hkind : row .broadcastOutcomeKind with
  | null => exact absurd hkind hnull
  | integer n | blob bytes =>
      rw [hkind] at hkinds
      exact absurd rfl hkinds
  | text s =>
      rw [hkind] at hkinds
      refine ⟨s, rfl, ?_⟩
      simp only [ne_eq, Option.some.injEq, Bool.not_eq_false, List.contains_iff_mem] at hkinds
      simpa [or_assoc] using hkinds

/-- The rows that the runner counts are those that the last script's `CHECK` rejects. -/
theorem violates_iff (h : (ledgerTable (k + 1) rows).accepts row = true) :
    violatesOutcomeColumns.eval row = some true ↔
      settlementOutcomeColumns.eval row ≠ some true := by
  obtain ⟨s, hkind, hs⟩ := kind_of_accepts h
  have hboth : ¬ (s ∈ ["accepted", "duplicate"] ∧
      s ∈ ["invalid_encoding", "rejected", "unknown"]) := by
    rintro ⟨hsuccess, hfailure⟩
    simp only [List.mem_cons, List.not_mem_nil, or_false] at hsuccess
    rcases hsuccess with rfl | rfl <;> exact absurd hfailure (by decide)
  unfold violatesOutcomeColumns settlementOutcomeColumns
  simp only [ne_eq, eval_caseWhen, eval_or, eval_and, eval_isIn, eval_isNull, eval_isNotNull,
    eval_always, hkind, Value.text.injEq, exists_eq_right']
  tauto

/-- The `CHECK` of the outcome columns is never null. -/
theorem outcome_decided (h : (ledgerTable (k + 1) rows).accepts row = true) :
    settlementOutcomeColumns.eval row = some true ∨
      settlementOutcomeColumns.eval row = some false := by
  obtain ⟨s, hkind, -⟩ := kind_of_accepts h
  unfold settlementOutcomeColumns
  simp only [Condition.eval, hkind]
  generalize ["accepted", "duplicate"].contains s = success
  generalize ["invalid_encoding", "rejected", "unknown"].contains s = failure
  unfold bne
  generalize (row .transactionId == .null) = noTransaction
  generalize (row .upstreamMessage == .null) = noMessage
  revert success failure noTransaction noMessage
  decide

/-- Every row of the last version's ledger meets the `CHECK`. -/
theorem outcome_of_accepts (h : (ledgerTable 4 rows).accepts row = true) :
    settlementOutcomeColumns.eval row = some true := by
  refine (outcome_decided h).resolve_right fun hfalse => ?_
  exact (accepts_iff.1 h).2 settlementOutcomeColumns (List.mem_cons_of_mem _ List.mem_cons_self)
    hfalse

end OutcomeColumns

/-! ## The typed ledger

A row of the last version's ledger is a row of the `SettlementTable`, column by column. -/

def optionText : Option String → Value
  | none => .null
  | some s => .text s

def optionInteger : Option Int → Value
  | none => .null
  | some n => .integer n

/-- The columns of a typed row. -/
def storeRow (paymentId : PaymentId) (row : SettlementRow) : StoreRow
  | .paymentId => .text paymentId.value
  | .broadcastOutcomeKind => .text row.broadcastOutcomeKind
  | .transactionId => optionText row.transactionId
  | .upstreamMessage => optionText row.upstreamMessage
  | .settledAtUnixSeconds => .integer row.settledAtUnixSeconds
  | .confirmationCount => optionInteger row.confirmationCount
  | .minedBlockHeight => optionInteger row.minedBlockHeight
  | .lastConfirmationCheckAtUnixSeconds => optionInteger row.lastConfirmationCheckAtUnixSeconds
  | .reorgCount => .integer row.reorgCount
  | .lastReorgedAt => optionInteger row.lastReorgedAt
  | .expiryHeight => optionInteger row.expiryHeight
  | .payeeId => .text row.payeeId
  | .amountZat => .integer row.amountZat
  | _ => .null

section Typed

variable {texts : LibsqlTexts} {rows : List StoreRow} {value : Value}

theorem isNull_optionText (o : Option String) : (optionText o == .null) = o.isNone := by
  cases o <;> rfl

theorem isNotNull_optionText (o : Option String) : (optionText o != .null) = o.isSome := by
  cases o <;> rfl

/-- The constraints of the last version are those of the typed table. -/
theorem accepts_storeRow (paymentId : PaymentId) (row : SettlementRow) :
    (ledgerTable 4 rows).accepts (storeRow paymentId row) = row.checked := by
  have hkinds : broadcastOutcomeKinds.eval (storeRow paymentId row) = some row.kindKnown := rfl
  have houtcome : settlementOutcomeColumns.eval (storeRow paymentId row) =
      some row.outcomeColumns := by
    simp only [settlementOutcomeColumns, Condition.eval, storeRow, isNull_optionText,
      isNotNull_optionText, and3_some, or3_some]
    rfl
  show (true && ((broadcastOutcomeKinds.eval _ != some false) &&
    ((settlementOutcomeColumns.eval _ != some false) && true))) = _
  rw [hkinds, houtcome]
  unfold SettlementRow.checked
  cases row.kindKnown <;> cases row.outcomeColumns <;> rfl

theorem readOptionText_optionText (name : String) (o : Option String) :
    readOptionText texts name (optionText o) = .ok o := by
  cases o <;> rfl

theorem readOptionInteger_optionInteger (name : String) (o : Option Int) :
    readOptionInteger texts name (optionInteger o) = .ok o := by
  cases o <;> rfl

/-- Reading a row is reading the typed one. -/
theorem rowToLedgerEntry_storeRow (paymentId : PaymentId) (row : SettlementRow) :
    rowToLedgerEntry texts (storeRow paymentId row) = rowToSettlementLedgerEntry row := by
  unfold rowToLedgerEntry
  simp only [storeRow, readText, readInteger, readOptionText_optionText,
    readOptionInteger_optionInteger, bind, Except.bind]
  rfl

theorem text_of_admits (htype : ColumnType.text.admits value = true) (hnull : value ≠ .null) :
    ∃ s, value = .text s := by
  cases value with
  | null => exact absurd rfl hnull
  | integer | blob => exact absurd htype (by simp [ColumnType.admits])
  | text s => exact ⟨s, rfl⟩

theorem optionText_of_admits (htype : ColumnType.text.admits value = true) :
    ∃ o, value = optionText o := by
  cases value with
  | null => exact ⟨none, rfl⟩
  | integer | blob => exact absurd htype (by simp [ColumnType.admits])
  | text s => exact ⟨some s, rfl⟩

theorem integer_of_admits (htype : ColumnType.integer.admits value = true) (hnull : value ≠ .null) :
    ∃ n, value = .integer n := by
  cases value with
  | null => exact absurd rfl hnull
  | text | blob => exact absurd htype (by simp [ColumnType.admits])
  | integer n => exact ⟨n, rfl⟩

theorem optionInteger_of_admits (htype : ColumnType.integer.admits value = true) :
    ∃ o, value = optionInteger o := by
  cases value with
  | null => exact ⟨none, rfl⟩
  | text | blob => exact absurd htype (by simp [ColumnType.admits])
  | integer n => exact ⟨some n, rfl⟩

/-- Every row of the last version's ledger is a row of the typed table. -/
theorem exists_storeRow {row : StoreRow} (h : (ledgerTable 4 rows).Valid) (hrow : row ∈ rows) :
    ∃ paymentId typed, row = storeRow paymentId typed ∧ typed.checked = true := by
  have hkey : row .paymentId ≠ .null := h.keys row hrow
  have hwithin : ∀ name, (ledgerTable 4 []).hasColumn name = false → row name = .null :=
    h.within row hrow
  have htyped : ∀ c ∈ ledgerColumns 4, c.type.admits (row c.name) = true := h.typed row hrow
  have hnotNull : ∀ c ∈ ledgerColumns 4, c.notNull = true → row c.name ≠ .null :=
    (accepts_iff.1 (h.accepted row hrow)).1
  simp only [ledgerColumns, newColumns, List.nil_append, List.cons_append, List.append_nil,
    List.forall_mem_cons, column, notNull, forall_const, List.not_mem_nil, false_implies,
    implies_true, and_true, Bool.false_eq_true, true_and] at htyped hnotNull
  obtain ⟨hidType, hkindType, htransactionType, hmessageType, hsettledType, hcountType,
    hheightType, hcheckType, hreorgsType, hreorgedType, hexpiryType, hpayeeType, hamountType⟩ :=
    htyped
  obtain ⟨hkindNull, hsettledNull, hreorgsNull, hpayeeNull, hamountNull⟩ := hnotNull
  obtain ⟨paymentId, hid⟩ := text_of_admits hidType hkey
  obtain ⟨kind, hkind⟩ := text_of_admits hkindType hkindNull
  obtain ⟨transactionId, htransaction⟩ := optionText_of_admits htransactionType
  obtain ⟨upstreamMessage, hmessage⟩ := optionText_of_admits hmessageType
  obtain ⟨settledAt, hsettled⟩ := integer_of_admits hsettledType hsettledNull
  obtain ⟨count, hcount⟩ := optionInteger_of_admits hcountType
  obtain ⟨height, hheight⟩ := optionInteger_of_admits hheightType
  obtain ⟨checkedAt, hchecked⟩ := optionInteger_of_admits hcheckType
  obtain ⟨reorgs, hreorgs⟩ := integer_of_admits hreorgsType hreorgsNull
  obtain ⟨reorgedAt, hreorged⟩ := optionInteger_of_admits hreorgedType
  obtain ⟨expiry, hexpiry⟩ := optionInteger_of_admits hexpiryType
  obtain ⟨payee, hpayee⟩ := text_of_admits hpayeeType hpayeeNull
  obtain ⟨amount, hamount⟩ := integer_of_admits hamountType hamountNull
  have hrowEq : row = storeRow ⟨paymentId⟩
      ⟨kind, transactionId, upstreamMessage, settledAt, count, height, checkedAt, reorgs,
        reorgedAt, expiry, payee, amount⟩ := by
    funext name
    cases name <;> first | assumption | exact hwithin _ (by decide)
  refine ⟨_, _, hrowEq, ?_⟩
  rw [← accepts_storeRow, ← hrowEq]
  exact h.accepted row hrow

end Typed

/-! ## Reading the ledger -/

/-- An outcome that is within the columns' contract decodes. -/
theorem decodeBroadcastOutcome_ok {kind : String} {transactionId : Option String}
    (h : (kind ∈ ["accepted", "duplicate"] ∧ transactionId.isSome = true) ∨
      kind ∈ ["invalid_encoding", "rejected", "unknown"]) (upstreamMessage : Option String) :
    ∃ outcome, decodeBroadcastOutcome kind transactionId upstreamMessage = .ok outcome := by
  simp only [List.mem_cons, List.not_mem_nil, or_false] at h
  rcases h with ⟨rfl | rfl, htransaction⟩ | rfl | rfl | rfl
  · obtain ⟨transactionId, rfl⟩ := Option.isSome_iff_exists.1 htransaction
    exact ⟨.accepted transactionId, rfl⟩
  · obtain ⟨transactionId, rfl⟩ := Option.isSome_iff_exists.1 htransaction
    exact ⟨.duplicate transactionId, rfl⟩
  · exact ⟨.invalidEncoding (upstreamMessage.getD ""), rfl⟩
  · exact ⟨.rejected (upstreamMessage.getD ""), rfl⟩
  · exact ⟨.unknown (upstreamMessage.getD ""), rfl⟩

/-- A typed row within the constraints decodes. -/
theorem rowToSettlementLedgerEntry_ok {row : SettlementRow} (h : row.checked = true) :
    ∃ entry, rowToSettlementLedgerEntry row = .ok entry := by
  have hcontract : (row.broadcastOutcomeKind ∈ ["accepted", "duplicate"] ∧
      row.transactionId.isSome = true) ∨
      row.broadcastOutcomeKind ∈ ["invalid_encoding", "rejected", "unknown"] := by
    have houtcome := (Bool.and_eq_true_iff.1 h).2
    unfold SettlementRow.outcomeColumns SettlementRow.successKind at houtcome
    simp only [Bool.or_eq_true, Bool.and_eq_true, List.contains_iff_mem] at houtcome
    rcases houtcome with ⟨⟨hsuccess, hsome⟩, -⟩ | ⟨⟨hfailure, -⟩, -⟩
    · exact .inl ⟨hsuccess, hsome⟩
    · exact .inr hfailure
  obtain ⟨outcome, hdecoded⟩ := decodeBroadcastOutcome_ok hcontract row.upstreamMessage
  unfold rowToSettlementLedgerEntry
  rw [hdecoded]
  exact ⟨row.withOutcome outcome, rfl⟩

/-- Every row of the last version's ledger decodes. -/
theorem rowToLedgerEntry_ok (texts : LibsqlTexts) {rows : List StoreRow} {row : StoreRow}
    (h : (ledgerTable 4 rows).Valid) (hrow : row ∈ rows) :
    ∃ entry, rowToLedgerEntry texts row = .ok entry := by
  obtain ⟨paymentId, typed, rfl, hchecked⟩ := exists_storeRow h hrow
  rw [rowToLedgerEntry_storeRow]
  exact rowToSettlementLedgerEntry_ok hchecked

end Zpay.Core.Migrations
