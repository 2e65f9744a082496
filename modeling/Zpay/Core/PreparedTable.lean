import Zpay.Core.LedgerTable
import Zpay.Core.PreparedBackend

/-!
# The prepared store in SQL

`LibsqlPreparedTxStore` over its `prepared_tx` table: the columns, the `CHECK`
constraints and the partial unique index of the first migration, the parameters an
insert binds and the decoding of a row.

The table of typed rows that the rest of the development keeps prepared payments in is
this one, read through the decoder: a row that an insert wrote always decodes.

## Main results

* `decode_encode` — decoding a row undoes encoding it.
* `perform_encode` — every operation of the SQL table is the one of the typed table.
-/

open Zpay.Data Zpay.Machine

namespace Zpay.Core

/-! ## Operations and answers -/

/-- The calls of the `PreparedTxStore` trait. -/
inductive PreparedOperation
  | insert (entry : PreparedTxEntry)
  | findByPaymentId (paymentId : PaymentId)
  | findByIdempotency (jkt idempotencyKey : String)
  | remove (paymentId : PaymentId)
  | sweepExpired (nowUnixSeconds : UInt64)
  | entryCount
  deriving Repr

inductive PreparedAnswer
  | inserted
  | found (entry : Option PreparedTxEntry)
  | removed (entry : Option PreparedTxEntry)
  | swept (dropped : Nat)
  | count (entries : Nat)
  deriving DecidableEq, Repr

/-- A typed store answering one call. -/
def PreparedTxBackend.perform {σ : Type} (b : PreparedTxBackend σ) (entryCount : σ → Nat)
    (s : σ) : PreparedOperation → Except StoreError PreparedAnswer × σ
  | .insert entry => (b.insert s entry).map (Except.map fun _ => .inserted) id
  | .findByPaymentId paymentId => (.ok (.found (b.findByPaymentId s paymentId)), s)
  | .findByIdempotency jkt idempotencyKey =>
      (.ok (.found (b.findByIdempotency s jkt idempotencyKey)), s)
  | .remove paymentId => (b.remove s paymentId).map (Except.map .removed) id
  | .sweepExpired nowUnixSeconds =>
      (b.sweepExpired s nowUnixSeconds.toNat).map (Except.map .swept) id
  | .entryCount => (.ok (.count (entryCount s)), s)

def PreparedTxCache.entryCount (cache : PreparedTxCache) : Nat := cache.byPaymentId.rows.length

def PreparedTxCache.perform :
    PreparedTxCache → PreparedOperation → Except StoreError PreparedAnswer × PreparedTxCache :=
  memoryPrepared.perform PreparedTxCache.entryCount

def PreparedTxStore.entryCount (store : PreparedTxStore) : Nat := store.rows.length

def PreparedTxStore.perform (texts : SqlTexts) :
    PreparedTxStore → PreparedOperation → Except StoreError PreparedAnswer × PreparedTxStore :=
  (libsqlPrepared texts).perform PreparedTxStore.entryCount

/-! ## Rows -/

/-- A value read from the `BLOB` column; of one that is no blob, what `{:?}` prints. -/
inductive SqlValue
  | blob (bytes : List UInt8)
  | other (debug : String)
  deriving DecidableEq, Repr

/-- A row of `prepared_tx`; `payment_id` is the key. -/
structure PreparedSqlRow where
  payeeId : String
  network : String
  recipientUnifiedAddress : String
  amountZat : Int
  memoBytes : SqlValue
  expiryHeight : Int
  agentDpopJkt : String
  idempotencyKey : Option String
  expiresAtUnixSeconds : Int
  deriving DecidableEq, Repr

abbrev PreparedTable := Table PaymentId PreparedSqlRow

/-- The `CHECK` constraints of `network` and `amount_zat`. -/
def PreparedSqlRow.checked (row : PreparedSqlRow) : Bool :=
  ["mainnet", "testnet", "regtest"].contains row.network && decide (0 ≤ row.amountZat)

def networkToSql : PaymentNetwork → String
  | .mainnet => "mainnet"
  | .testnet => "testnet"
  | .regtest => "regtest"

def sqlToNetwork (raw : String) : Except StoreError PaymentNetwork :=
  if raw = "mainnet" then .ok .mainnet
  else if raw = "testnet" then .ok .testnet
  else if raw = "regtest" then .ok .regtest
  else .error (.rowMalformed ("unknown network: " ++ raw))

/-- `i64::try_from`, of an unsigned 64-bit value. -/
def tryI64 (value : UInt64) (constraint : String) : Except StoreError Int :=
  if value.toNat < 2 ^ 63 then .ok value.toNat else .error (.integrityViolation constraint)

/-- `u64::try_from`, of a 64-bit integer column. -/
def tryU64 (raw : Int) (reason : String) : Except StoreError UInt64 :=
  if 0 ≤ raw then .ok (.ofNat raw.toNat) else .error (.rowMalformed reason)

/-- `u32::try_from`. -/
def tryU32 (raw : Int) (reason : String) : Except StoreError UInt32 :=
  if 0 ≤ raw ∧ raw < 2 ^ 32 then .ok (.ofNat raw.toNat) else .error (.rowMalformed reason)

/-- The parameters `insert` binds. -/
def PreparedTxEntry.columns (entry : PreparedTxEntry) : Except StoreError PreparedSqlRow := do
  let amountZat ← tryI64 entry.amountZat "amount_zat exceeds i64"
  let expiresAt ← tryI64 entry.expiresAtUnixSeconds "expires_at_unix_seconds exceeds i64"
  return {
    payeeId := entry.payeeId.value
    network := networkToSql entry.network
    recipientUnifiedAddress := entry.recipientUnifiedAddress
    amountZat
    memoBytes := .blob entry.preparation.memoBytes
    expiryHeight := entry.preparation.expiryHeight.toNat
    agentDpopJkt := entry.agentDpopJkt
    idempotencyKey := entry.idempotencyKey
    expiresAtUnixSeconds := expiresAt }

def rowToPreparedTxEntry (paymentId : PaymentId) (row : PreparedSqlRow) :
    Except StoreError PreparedTxEntry := do
  let memoBytes ← match row.memoBytes with
    | .blob bytes => .ok bytes
    | .other debug => .error (.rowMalformed ("memo_bytes wrong sql type: " ++ debug))
  let amountZat ← tryU64 row.amountZat "amount_zat does not fit u64"
  let paymentUri := composePaymentUri row.recipientUnifiedAddress amountZat memoBytes
  let expiryHeight ← tryU32 row.expiryHeight "expiry_height does not fit u32"
  let network ← sqlToNetwork row.network
  let expiresAtUnixSeconds ←
    tryU64 row.expiresAtUnixSeconds "expires_at_unix_seconds does not fit u64"
  return {
    preparation := { paymentId, paymentUri, memoBytes, expiryHeight, amountZat }
    payeeId := ⟨row.payeeId⟩
    network
    recipientUnifiedAddress := row.recipientUnifiedAddress
    amountZat
    expiresAtUnixSeconds
    idempotencyKey := row.idempotencyKey
    agentDpopJkt := row.agentDpopJkt }

/-! ## Statements -/

namespace PreparedTable

variable (texts : SqlTexts)

/-- Another row is in the way of this one in `prepared_tx_idempotency_idx`. -/
def pairTaken (table : PreparedTable) (paymentId : PaymentId) (row : PreparedSqlRow) : Bool :=
  row.idempotencyKey.isSome && (Table.rows table).any fun (other, held) =>
    other != paymentId && held.agentDpopJkt == row.agentDpopJkt &&
      held.idempotencyKey == row.idempotencyKey

/-- `INSERT … ON CONFLICT(payment_id) DO UPDATE` of every column. -/
def upsert (table : PreparedTable) (paymentId : PaymentId) (row : PreparedSqlRow) :
    Except StoreError PreparedTable :=
  if !row.checked then .error (.unavailable texts.checkFailed)
  else if table.pairTaken paymentId row then
    .error (.integrityViolation texts.uniqueFailed)
  else .ok (AList.insert paymentId row table)

def insert (table : PreparedTable) (entry : PreparedTxEntry) :
    Except StoreError Unit × PreparedTable :=
  match entry.columns >>= table.upsert texts entry.preparation.paymentId with
  | .ok table' => (.ok (), table')
  | .error err => (.error err, table)

/-- The first row of a query, decoded. -/
def nextRow (row : Option (PaymentId × PreparedSqlRow)) :
    Except StoreError (Option PreparedTxEntry) :=
  match row with
  | none => .ok none
  | some (paymentId, row) => (rowToPreparedTxEntry paymentId row).map some

def findByPaymentId (table : PreparedTable) (paymentId : PaymentId) :
    Except StoreError (Option PreparedTxEntry) :=
  nextRow ((table.lookup paymentId).map (paymentId, ·))

/-- `WHERE agent_dpop_jkt = ? AND idempotency_key = ?`. -/
def findByIdempotency (table : PreparedTable) (jkt idempotencyKey : String) :
    Except StoreError (Option PreparedTxEntry) :=
  nextRow ((Table.rows table).find? fun (_, row) =>
    row.agentDpopJkt == jkt && row.idempotencyKey == some idempotencyKey)

def remove (table : PreparedTable) (paymentId : PaymentId) :
    Except StoreError (Option PreparedTxEntry) × PreparedTable :=
  match table.findByPaymentId paymentId with
  | .error err => (.error err, table)
  | .ok none => (.ok none, table)
  | .ok (some existing) => (.ok (some existing), AList.erase paymentId table)

def sweepExpired (table : PreparedTable) (nowUnixSeconds : UInt64) :
    Except StoreError Nat × PreparedTable :=
  match tryI64 nowUnixSeconds "now_unix_seconds exceeds i64" with
  | .error err => (.error err, table)
  | .ok now =>
      let live := Table.retain table fun _ row => decide (now < row.expiresAtUnixSeconds)
      (.ok ((Table.rows table).length - (Table.rows live).length), live)

def entryCount (table : PreparedTable) : Nat := (Table.rows table).length

def perform (table : PreparedTable) :
    PreparedOperation → Except StoreError PreparedAnswer × PreparedTable
  | .insert entry => (table.insert texts entry).map (Except.map fun _ => .inserted) id
  | .findByPaymentId paymentId => ((table.findByPaymentId paymentId).map .found, table)
  | .findByIdempotency jkt idempotencyKey =>
      ((table.findByIdempotency jkt idempotencyKey).map .found, table)
  | .remove paymentId => (table.remove paymentId).map (Except.map .removed) id
  | .sweepExpired nowUnixSeconds =>
      (table.sweepExpired nowUnixSeconds).map (Except.map .swept) id
  | .entryCount => (.ok (.count table.entryCount), table)

end PreparedTable

/-! ## The typed table, encoded -/

section Encode

variable {texts : SqlTexts} {store : PreparedTxStore} {paymentId : PaymentId}

/-- A typed row as the database holds it. -/
def PreparedTxRow.encode (row : PreparedTxRow) : PreparedSqlRow where
  payeeId := row.payeeId.value
  network := networkToSql row.network
  recipientUnifiedAddress := row.recipientUnifiedAddress
  amountZat := row.amountZat.toNat
  memoBytes := .blob row.memoBytes
  expiryHeight := row.expiryHeight.toNat
  agentDpopJkt := row.agentDpopJkt
  idempotencyKey := row.idempotencyKey
  expiresAtUnixSeconds := row.expiresAtUnixSeconds.toNat

def PreparedTxStore.encode (store : PreparedTxStore) : PreparedTable :=
  Table.mapValues store PreparedTxRow.encode

theorem sqlToNetwork_networkToSql (network : PaymentNetwork) :
    sqlToNetwork (networkToSql network) = .ok network := by
  cases network <;> rfl

theorem tryU64_toNat (value : UInt64) (reason : String) :
    tryU64 value.toNat reason = .ok value := by
  unfold tryU64
  rw [if_pos (Int.natCast_nonneg _), Int.toNat_natCast, UInt64.ofNat_toNat]

theorem tryU32_toNat (value : UInt32) (reason : String) :
    tryU32 value.toNat reason = .ok value := by
  have hfits : (value.toNat : Int) < 2 ^ 32 := by
    have hlt := value.toNat_lt
    omega
  unfold tryU32
  rw [if_pos ⟨Int.natCast_nonneg _, hfits⟩, Int.toNat_natCast, UInt32.ofNat_toNat]

/-- Decoding undoes encoding. -/
theorem decode_encode (row : PreparedTxRow) :
    rowToPreparedTxEntry paymentId row.encode = .ok (row.toEntry paymentId) := by
  unfold rowToPreparedTxEntry PreparedTxRow.encode
  simp only [tryU64_toNat, tryU32_toNat, sqlToNetwork_networkToSql]
  rfl

theorem encode_checked (row : PreparedTxRow) : row.encode.checked = true := by
  have hnetwork :
      ["mainnet", "testnet", "regtest"].contains (networkToSql row.network) = true := by
    cases row.network <;> rfl
  have hamount : (0 : Int) ≤ row.amountZat.toNat := Int.natCast_nonneg _
  unfold PreparedSqlRow.checked
  rw [Bool.and_eq_true, decide_eq_true_eq]
  exact ⟨hnetwork, hamount⟩

/-- The columns of an entry are its encoded row, when both integers fit. -/
theorem columns_eq (entry : PreparedTxEntry) :
    entry.columns =
      if 2 ^ 63 ≤ entry.amountZat.toNat then
        .error (.integrityViolation "amount_zat exceeds i64")
      else if 2 ^ 63 ≤ entry.expiresAtUnixSeconds.toNat then
        .error (.integrityViolation "expires_at_unix_seconds exceeds i64")
      else .ok entry.toRow.encode := by
  unfold PreparedTxEntry.columns tryI64
  by_cases hamount : entry.amountZat.toNat < 2 ^ 63
  · rw [if_pos hamount, if_neg (Nat.not_le.2 hamount)]
    by_cases hexpires : entry.expiresAtUnixSeconds.toNat < 2 ^ 63
    · rw [if_pos hexpires, if_neg (Nat.not_le.2 hexpires)]
      rfl
    · rw [if_neg hexpires, if_pos (Nat.not_lt.1 hexpires)]
      rfl
  · rw [if_neg hamount, if_pos (Nat.not_lt.1 hamount)]
    rfl

theorem rows_encode : Table.rows store.encode =
    (Table.rows store).map fun row => (row.1, row.2.encode) :=
  Table.rows_mapValues PreparedTxRow.encode store

theorem pairTaken_encode (row : PreparedTxRow) :
    store.encode.pairTaken paymentId row.encode = store.conflicts paymentId row := by
  unfold PreparedTable.pairTaken PreparedTxStore.conflicts
  rw [rows_encode, List.any_map]
  rfl

theorem insert_encode (entry : PreparedTxEntry) :
    store.encode.insert texts entry =
      ((PreparedTxStore.insert texts store entry).1,
        (PreparedTxStore.insert texts store entry).2.encode) := by
  have hinsert : AList.insert entry.preparation.paymentId entry.toRow.encode store.encode =
      PreparedTxStore.encode (AList.insert entry.preparation.paymentId entry.toRow store) :=
    Table.insert_mapValues PreparedTxRow.encode store _ _
  unfold PreparedTable.insert PreparedTxStore.insert
  rw [columns_eq]
  by_cases hamount : 2 ^ 63 ≤ entry.amountZat.toNat
  · rw [if_pos hamount, if_pos hamount]
    rfl
  · rw [if_neg hamount, if_neg hamount]
    by_cases hexpires : 2 ^ 63 ≤ entry.expiresAtUnixSeconds.toNat
    · rw [if_pos hexpires, if_pos hexpires]
      rfl
    · rw [if_neg hexpires, if_neg hexpires]
      have hupsert : store.encode.upsert texts entry.preparation.paymentId entry.toRow.encode =
          if store.conflicts entry.preparation.paymentId entry.toRow then
            .error (.integrityViolation texts.uniqueFailed)
          else .ok (PreparedTxStore.encode
            (AList.insert entry.preparation.paymentId entry.toRow store)) := by
        unfold PreparedTable.upsert
        rw [encode_checked, pairTaken_encode, hinsert]
        rfl
      show (match store.encode.upsert texts entry.preparation.paymentId entry.toRow.encode with
        | .ok table' => (Except.ok (), table')
        | .error err => (.error err, store.encode)) = _
      rw [hupsert]
      by_cases hconflict : store.conflicts entry.preparation.paymentId entry.toRow = true
      · rw [if_pos hconflict, if_pos hconflict]
      · rw [if_neg hconflict, if_neg hconflict]

theorem nextRow_encode (row : Option (PaymentId × PreparedTxRow)) :
    PreparedTable.nextRow (row.map fun row => (row.1, row.2.encode)) =
      .ok (row.map fun row => row.2.toEntry row.1) := by
  cases row with
  | none => rfl
  | some row =>
      show (rowToPreparedTxEntry row.1 row.2.encode).map some = _
      rw [decode_encode]
      rfl

theorem findByPaymentId_encode :
    store.encode.findByPaymentId paymentId = .ok (store.findByPaymentId paymentId) := by
  have hlookup : store.encode.lookup paymentId = (store.lookup paymentId).map _ :=
    Table.lookup_mapValues PreparedTxRow.encode store paymentId
  have hrow := nextRow_encode ((store.lookup paymentId).map (paymentId, ·))
  rw [Option.map_map, Option.map_map] at hrow
  unfold PreparedTable.findByPaymentId PreparedTxStore.findByPaymentId
  rw [hlookup, Option.map_map]
  exact hrow

theorem findByIdempotency_encode (jkt key : String) :
    store.encode.findByIdempotency jkt key = .ok (store.findByIdempotency jkt key) := by
  unfold PreparedTable.findByIdempotency PreparedTxStore.findByIdempotency
  rw [rows_encode, List.find?_map]
  exact nextRow_encode _

theorem remove_encode :
    store.encode.remove paymentId =
      ((PreparedTxStore.remove store paymentId).1,
        (PreparedTxStore.remove store paymentId).2.encode) := by
  unfold PreparedTable.remove PreparedTxStore.remove
  rw [findByPaymentId_encode]
  cases hfind : store.findByPaymentId paymentId with
  | none =>
      have hrow : store.lookup paymentId = none := Option.map_eq_none_iff.1 hfind
      have habsent : paymentId ∉ store := AList.lookup_eq_none.1 hrow
      have hkept : AList.erase paymentId store = store := by
        ext1
        exact List.kerase_of_notMem_keys habsent
      rw [hkept]
  | some entry =>
      show (_, AList.erase paymentId store.encode) = _
      rw [show AList.erase paymentId store.encode = _ from
        Table.erase_mapValues PreparedTxRow.encode store paymentId]
      rfl

theorem sweepExpired_encode (texts : SqlTexts) (now : UInt64) :
    store.encode.sweepExpired now =
      (((libsqlPrepared texts).sweepExpired store now.toNat).1,
        ((libsqlPrepared texts).sweepExpired store now.toNat).2.encode) := by
  unfold PreparedTable.sweepExpired libsqlPrepared tryI64
  simp only
  by_cases hnow : now.toNat < 2 ^ 63
  · have hlive : (Table.retain store.encode fun _ row =>
        decide ((now.toNat : Int) < row.expiresAtUnixSeconds)) =
        (store.sweepExpired now.toNat).encode := by
      unfold PreparedTxStore.encode PreparedTxStore.sweepExpired
      rw [Table.retain_mapValues]
      congr 2
      funext _ row
      exact decide_eq_decide.2 Int.ofNat_lt
    have hlength : ∀ store : PreparedTxStore,
        (Table.rows store.encode).length = (Table.rows store).length := by
      intro store
      rw [rows_encode, List.length_map]
    rw [if_pos hnow, if_neg (Nat.not_le.2 hnow)]
    simp only [hlive, hlength]
  · rw [if_neg hnow, if_pos (Nat.not_lt.1 hnow)]

/-- The SQL table answers what the typed table answers, and stays its encoding. -/
theorem perform_encode (op : PreparedOperation) :
    store.encode.perform texts op =
      ((store.perform texts op).1, (store.perform texts op).2.encode) := by
  cases op with
  | insert entry =>
      show Prod.map _ id (store.encode.insert texts entry) = _
      rw [insert_encode]
      rfl
  | findByPaymentId paymentId =>
      show ((store.encode.findByPaymentId paymentId).map _, _) = _
      rw [findByPaymentId_encode]
      rfl
  | findByIdempotency jkt key =>
      show ((store.encode.findByIdempotency jkt key).map _, _) = _
      rw [findByIdempotency_encode]
      rfl
  | remove paymentId =>
      show Prod.map _ id (store.encode.remove paymentId) = _
      rw [remove_encode]
      rfl
  | sweepExpired now =>
      show Prod.map _ id (store.encode.sweepExpired now) = _
      rw [sweepExpired_encode texts]
      rfl
  | entryCount =>
      show (Except.ok (PreparedAnswer.count (Table.rows store.encode).length), _) = _
      rw [rows_encode, List.length_map]
      rfl

end Encode

end Zpay.Core
