import Zpay.Core.Types
import Zpay.Data.Encoding
import Zpay.Data.Guard
import Zpay.Data.Table

/-!
# Preparing a payment

What `propose` composes from a request, the registry and the chain tip, and the
libSQL store the result is kept in: a table keyed by payment id with a unique
index on `(agent_dpop_jkt, idempotency_key)`.  `propose` reads the store, awaits
the tip, and writes; the two store accesses are separate steps, so the handler
is given here as its two halves.

SHA-256 and the clock are parameters.

## Main results

* `insert_prepared_ok`, `insert_prepared_error`, `lookup_remove_prepared`,
  `lookup_sweep_prepared` — what every store operation does to the rows.
-/

open Zpay.Data

namespace Zpay.Core

/-! ## Requests and rows -/

/-- The only scheme of the enum. -/
inductive PaymentScheme
  | zcash
  deriving DecidableEq, Repr

structure PrepareRequest where
  payeeId : PayeeId
  network : PaymentNetwork
  scheme : PaymentScheme
  resourceUri : String
  nonce : String
  evidencePackHash : Option (List UInt8)
  idempotencyKey : Option String
  deriving DecidableEq, Repr

/-- Output of `propose`. -/
structure Preparation where
  paymentId : PaymentId
  paymentUri : String
  memoBytes : List UInt8
  expiryHeight : UInt32
  amountZat : UInt64
  deriving DecidableEq, Repr

/-- Cached prepared transaction. -/
structure PreparedTxEntry where
  preparation : Preparation
  payeeId : PayeeId
  network : PaymentNetwork
  recipientUnifiedAddress : String
  amountZat : UInt64
  expiresAtUnixSeconds : UInt64
  idempotencyKey : Option String
  agentDpopJkt : String
  deriving DecidableEq, Repr

/-- One payee's way of being paid; the verify flag is not read on this path. -/
structure AcceptsEntry where
  scheme : PaymentScheme
  network : PaymentNetwork
  payTo : String
  amountZat : UInt64
  maxValiditySeconds : UInt64
  expiryDeltaBlocks : Option UInt32
  deriving DecidableEq, Repr

abbrev PayeeRegistry := Table PayeeId (List AcceptsEntry)

/-- The errors a prepared or settlement store reports on these paths. -/
inductive StoreError
  | unavailable (reason : String)
  | integrityViolation (constraint : String)
  | rowMalformed (reason : String)
  deriving DecidableEq, Repr

inductive TipError
  | unavailable (reason : String)
  | networkUnsupported (network : PaymentNetwork)
  deriving DecidableEq, Repr

inductive PrepareError
  | payeeUnknown (payeeId : PayeeId)
  | schemeNetworkUnsupported (payeeId : PayeeId) (scheme : PaymentScheme)
      (network : PaymentNetwork)
  | expiryHeightInvalid
  | tipOracle (err : TipError)
  | storage (err : StoreError)
  deriving DecidableEq, Repr

/-! ## The protocol memo -/

def domainTagChallenge : List UInt8 := "zpay/v1/challenge".toUTF8.toList

def domainTagResource : List UInt8 := "zpay/v1/resource".toUTF8.toList

def protocolMemoTag : UInt8 := 0xff

def protocolMemoVersion : UInt8 := 0x02

def schemeByte : PaymentScheme → UInt8
  | .zcash => 0x01

def networkByte : PaymentNetwork → UInt8
  | .mainnet => 0x01
  | .testnet => 0x02
  | .regtest => 0x03

/-- The bytes `hash_challenge` feeds to SHA-256. -/
def challengePreimage (payeeId : PayeeId) (scheme : PaymentScheme) (network : PaymentNetwork)
    (resourceUri nonce : String) : List UInt8 :=
  domainTagChallenge ++ [0] ++ payeeId.value.toUTF8.toList ++ [0] ++ [schemeByte scheme] ++ [0]
    ++ [networkByte network] ++ [0] ++ resourceUri.toUTF8.toList ++ [0] ++ nonce.toUTF8.toList

/-- The bytes `hash_resource` feeds to SHA-256. -/
def resourcePreimage (resourceUri : String) : List UInt8 :=
  domainTagResource ++ [0] ++ resourceUri.toUTF8.toList

def composeBindingMemo (sha256 : List UInt8 → List UInt8) (payeeId : PayeeId)
    (scheme : PaymentScheme) (network : PaymentNetwork) (resourceUri nonce : String)
    (evidencePack : Option (List UInt8)) : List UInt8 :=
  [protocolMemoTag, protocolMemoVersion]
    ++ sha256 (challengePreimage payeeId scheme network resourceUri nonce)
    ++ sha256 (resourcePreimage resourceUri) ++ evidencePack.getD []

/-! ## The payment URI -/

/-- The eight digits of a fraction, without trailing zeros. -/
def trimmedFraction (fraction : Nat) : String :=
  let digits := (toString fraction).toList
  let padded := List.replicate (8 - digits.length) '0' ++ digits
  String.ofList ((padded.reverse.dropWhile (· == '0')).reverse)

def formatZecFromZat (amountZat : UInt64) : String :=
  let whole := amountZat.toNat / 100000000
  let fraction := amountZat.toNat % 100000000
  if fraction = 0 then toString whole
  else toString whole ++ "." ++ trimmedFraction fraction

def composePaymentUri (recipientUnifiedAddress : String) (amountZat : UInt64)
    (memo : List UInt8) : String :=
  "zcash:" ++ recipientUnifiedAddress ++ "?amount=" ++ formatZecFromZat amountZat ++ "&memo="
    ++ encodeBase64Url memo

/-! ## The prepared store -/

/-- One `prepared_tx` row; the payment id is the key and the URI is not stored. -/
structure PreparedTxRow where
  payeeId : PayeeId
  network : PaymentNetwork
  recipientUnifiedAddress : String
  amountZat : UInt64
  memoBytes : List UInt8
  expiryHeight : UInt32
  agentDpopJkt : String
  idempotencyKey : Option String
  expiresAtUnixSeconds : UInt64
  deriving DecidableEq, Repr

abbrev PreparedTxStore := Table PaymentId PreparedTxRow

/-- Texts of libSQL: of a failed `CHECK`, of a pair that `prepared_tx_idempotency_idx` holds
already, and of a null read as a string. -/
structure SqlTexts where
  checkFailed : String
  uniqueFailed : String
  nullRead : String

/-- Texts of a local database. -/
def sampleSqlTexts : SqlTexts where
  checkFailed := "SQLite failure: `CHECK constraint failed: settlement_outcome_columns_v4`"
  uniqueFailed :=
    "SQLite failure: `UNIQUE constraint failed: prepared_tx.agent_dpop_jkt, "
      ++ "prepared_tx.idempotency_key`"
  nullRead := "Null value"

/-- `row_to_prepared_tx_entry`: the URI is derived again. -/
def PreparedTxRow.toEntry (paymentId : PaymentId) (row : PreparedTxRow) : PreparedTxEntry where
  preparation :=
    { paymentId
      paymentUri :=
        composePaymentUri row.recipientUnifiedAddress row.amountZat row.memoBytes
      memoBytes := row.memoBytes
      expiryHeight := row.expiryHeight
      amountZat := row.amountZat }
  payeeId := row.payeeId
  network := row.network
  recipientUnifiedAddress := row.recipientUnifiedAddress
  amountZat := row.amountZat
  expiresAtUnixSeconds := row.expiresAtUnixSeconds
  idempotencyKey := row.idempotencyKey
  agentDpopJkt := row.agentDpopJkt

/-- The columns written for an entry. -/
def PreparedTxEntry.toRow (entry : PreparedTxEntry) : PreparedTxRow where
  payeeId := entry.payeeId
  network := entry.network
  recipientUnifiedAddress := entry.recipientUnifiedAddress
  amountZat := entry.amountZat
  memoBytes := entry.preparation.memoBytes
  expiryHeight := entry.preparation.expiryHeight
  agentDpopJkt := entry.agentDpopJkt
  idempotencyKey := entry.idempotencyKey
  expiresAtUnixSeconds := entry.expiresAtUnixSeconds

namespace PreparedTxStore

def findByPaymentId (store : PreparedTxStore) (paymentId : PaymentId) :
    Option PreparedTxEntry :=
  (store.lookup paymentId).map (PreparedTxRow.toEntry paymentId)

/-- A row under the pair; the unique index leaves at most one. -/
def findByIdempotency (store : PreparedTxStore) (jkt idempotencyKey : String) :
    Option PreparedTxEntry :=
  (store.rows.find? fun (_, row) =>
    row.agentDpopJkt == jkt && row.idempotencyKey == some idempotencyKey).map
      fun (paymentId, row) => row.toEntry paymentId

/-- Another row holds the `(agent_dpop_jkt, idempotency_key)` pair of `row`. -/
def conflicts (store : PreparedTxStore) (paymentId : PaymentId) (row : PreparedTxRow) : Bool :=
  row.idempotencyKey.isSome && store.rows.any fun (other, held) =>
    other != paymentId && held.agentDpopJkt == row.agentDpopJkt &&
      held.idempotencyKey == row.idempotencyKey

/-- Upsert under the primary key, with the bounds of the integer columns and the
unique index. -/
def insert (texts : SqlTexts) (store : PreparedTxStore) (entry : PreparedTxEntry) :
    Except StoreError Unit × PreparedTxStore :=
  if 2 ^ 63 ≤ entry.amountZat.toNat then
    (.error (.integrityViolation "amount_zat exceeds i64"), store)
  else if 2 ^ 63 ≤ entry.expiresAtUnixSeconds.toNat then
    (.error (.integrityViolation "expires_at_unix_seconds exceeds i64"), store)
  else if store.conflicts entry.preparation.paymentId entry.toRow then
    (.error (.integrityViolation texts.uniqueFailed), store)
  else (.ok (), AList.insert entry.preparation.paymentId entry.toRow store)

def remove (store : PreparedTxStore) (paymentId : PaymentId) :
    Except StoreError (Option PreparedTxEntry) × PreparedTxStore :=
  (.ok (store.findByPaymentId paymentId), store.erase paymentId)

/-- `DELETE … WHERE expires_at_unix_seconds <= ?`. -/
def sweepExpired (store : PreparedTxStore) (nowUnixSeconds : Nat) : PreparedTxStore :=
  store.retain fun _ row => decide (nowUnixSeconds < row.expiresAtUnixSeconds.toNat)

end PreparedTxStore

/-! ## Propose -/

section Propose

variable (sha256 : List UInt8 → List UInt8)

def defaultValiditySeconds : UInt64 := 300

def defaultExpiryDeltaBlocks : UInt32 := 40

/-- `u32::saturating_add`. -/
def saturatingAdd32 (a b : UInt32) : UInt32 :=
  if a.toNat + b.toNat < 2 ^ 32 then a + b else .ofNat (2 ^ 32 - 1)

theorem saturating_succ_toNat (count : UInt32) :
    (saturatingAdd32 count 1).toNat = min (count.toNat + 1) (2 ^ 32 - 1) := by
  have hbound := count.toNat_lt
  unfold saturatingAdd32
  split
  · next hsmall =>
      have hone : (1 : UInt32).toNat = 1 := rfl
      rw [hone] at hsmall
      rw [UInt32.toNat_add, hone]
      omega
  · next hlarge =>
      have hone : (1 : UInt32).toNat = 1 := rfl
      rw [hone] at hlarge
      have hceiling : (UInt32.ofNat (2 ^ 32 - 1)).toNat = 2 ^ 32 - 1 := rfl
      rw [hceiling]
      omega

/-- `u64::saturating_add`. -/
def saturatingAdd64 (a b : UInt64) : UInt64 :=
  if a.toNat + b.toNat < 2 ^ 64 then a + b else .ofNat (2 ^ 64 - 1)

/-- A key that is not blank. -/
def usableKey (request : PrepareRequest) : Option String :=
  request.idempotencyKey.filter fun raw => Text.trim raw ≠ ""

/-- The first half of `propose`: a replay of the same key returns the original
preparation. -/
def proposeReplay (store : PreparedTxStore) (request : PrepareRequest) (jkt : String) :
    Option Preparation :=
  ((usableKey request).bind fun key => store.findByIdempotency jkt key).map
    PreparedTxEntry.preparation

/-- The second half of `propose` up to the insert: the entry for a fresh id. -/
def composeEntry (registry : PayeeRegistry) (request : PrepareRequest) (jkt : String)
    (paymentId : PaymentId) (tip : Except TipError UInt32) (nowUnixSeconds : UInt64) :
    Except PrepareError PreparedTxEntry := do
  let entries ← okOr (registry.lookup request.payeeId) (.payeeUnknown request.payeeId)
  let entry ← okOr (entries.find? fun candidate =>
      candidate.scheme == request.scheme && candidate.network == request.network)
    (.schemeNetworkUnsupported request.payeeId request.scheme request.network)
  let tipHeight ← tip.mapError .tipOracle
  let delta := entry.expiryDeltaBlocks.getD defaultExpiryDeltaBlocks
  let expiryHeight := saturatingAdd32 tipHeight delta
  ensure (expiryHeight ≠ 0) .expiryHeightInvalid
  let memo := composeBindingMemo sha256 request.payeeId request.scheme request.network
    request.resourceUri request.nonce request.evidencePackHash
  let validitySeconds :=
    if 0 < entry.maxValiditySeconds then entry.maxValiditySeconds else defaultValiditySeconds
  return {
    preparation :=
      { paymentId, paymentUri := composePaymentUri entry.payTo entry.amountZat memo,
        memoBytes := memo, expiryHeight, amountZat := entry.amountZat }
    payeeId := request.payeeId
    network := request.network
    recipientUnifiedAddress := entry.payTo
    amountZat := entry.amountZat
    expiresAtUnixSeconds := saturatingAdd64 nowUnixSeconds validitySeconds
    idempotencyKey := usableKey request
    agentDpopJkt := jkt }

/-- A composed entry carries the id it was composed for. -/
theorem compose_entry_payment_id {sha256 : List UInt8 → List UInt8} {registry : PayeeRegistry}
    {request : PrepareRequest} {jkt : String} {paymentId : PaymentId}
    {tip : Except TipError UInt32} {now : UInt64} {entry : PreparedTxEntry}
    (h : composeEntry sha256 registry request jkt paymentId tip now = .ok entry) :
    entry.preparation.paymentId = paymentId ∧ entry.agentDpopJkt = jkt ∧
      entry.idempotencyKey = usableKey request := by
  simp only [composeEntry, bind_eq_ok, pure_eq_ok] at h
  obtain ⟨_, -, _, -, _, -, _, -, rfl⟩ := h
  exact ⟨rfl, rfl, rfl⟩

/-- It carries the request's payee and network, the memo that binds the request, and a
deadline some seconds ahead. -/
theorem compose_entry_request {sha256 : List UInt8 → List UInt8} {registry : PayeeRegistry}
    {request : PrepareRequest} {jkt : String} {paymentId : PaymentId}
    {tip : Except TipError UInt32} {now : UInt64} {entry : PreparedTxEntry}
    (h : composeEntry sha256 registry request jkt paymentId tip now = .ok entry) :
    entry.payeeId = request.payeeId ∧ entry.network = request.network ∧
      entry.preparation.memoBytes = composeBindingMemo sha256 request.payeeId request.scheme
        request.network request.resourceUri request.nonce request.evidencePackHash ∧
      ∃ validitySeconds, 0 < validitySeconds ∧
        entry.expiresAtUnixSeconds = saturatingAdd64 now validitySeconds := by
  simp only [composeEntry, bind_eq_ok, pure_eq_ok] at h
  obtain ⟨_, -, accepts, -, _, -, _, -, rfl⟩ := h
  refine ⟨rfl, rfl, rfl, _, ?_, rfl⟩
  split
  · next hpositive => exact hpositive
  · decide

/-- Seconds added to a time before the end of the clock lead past it. -/
theorem lt_saturatingAdd64 {now seconds : UInt64} (hseconds : 0 < seconds)
    (hnow : now.toNat < 2 ^ 64 - 1) : now.toNat < (saturatingAdd64 now seconds).toNat := by
  have hpositive : 0 < seconds.toNat := UInt64.lt_iff_toNat_lt.1 hseconds
  unfold saturatingAdd64
  split
  · next hfits =>
      rw [UInt64.toNat_add, Nat.mod_eq_of_lt hfits]
      omega
  · exact hnow

/-- What the row decoder derives again of a composed entry is what it says. -/
theorem compose_entry_toRow {sha256 : List UInt8 → List UInt8} {registry : PayeeRegistry}
    {request : PrepareRequest} {jkt : String} {paymentId : PaymentId}
    {tip : Except TipError UInt32} {now : UInt64} {entry : PreparedTxEntry}
    (h : composeEntry sha256 registry request jkt paymentId tip now = .ok entry) :
    entry.toRow.toEntry entry.preparation.paymentId = entry := by
  simp only [composeEntry, bind_eq_ok, pure_eq_ok] at h
  obtain ⟨_, -, _, -, _, -, _, -, rfl⟩ := h
  rfl

end Propose

/-! ## What the operations do to a row -/

section Rows

variable {texts : SqlTexts} {store : PreparedTxStore} {paymentId other : PaymentId}

/-- A successful insert stores the row under the entry's id. -/
theorem insert_prepared_ok {store : PreparedTxStore} {entry : PreparedTxEntry}
    (h : (PreparedTxStore.insert texts store entry).1 = .ok ()) :
    (PreparedTxStore.insert texts store entry).2 =
      AList.insert entry.preparation.paymentId entry.toRow store ∧
    store.conflicts entry.preparation.paymentId entry.toRow = false := by
  unfold PreparedTxStore.insert at h ⊢
  split at h
  · exact absurd h (by simp)
  · next hamount =>
      rw [if_neg hamount]
      split at h
      · exact absurd h (by simp)
      · next hexpires =>
          rw [if_neg hexpires]
          split at h
          · exact absurd h (by simp)
          · next hconflict =>
              rw [if_neg hconflict]
              exact ⟨rfl, Bool.not_eq_true _ ▸ hconflict⟩

/-- A failed one stores nothing. -/
theorem insert_prepared_error {store : PreparedTxStore} {entry : PreparedTxEntry}
    {err : StoreError}
    (h : (PreparedTxStore.insert texts store entry).1 = .error err) :
    (PreparedTxStore.insert texts store entry).2 = store := by
  unfold PreparedTxStore.insert at h ⊢
  split
  · rfl
  · next hamount =>
      rw [if_neg hamount] at h
      split
      · rfl
      · next hexpires =>
          rw [if_neg hexpires] at h
          split
          · rfl
          · next hconflict =>
              rw [if_neg hconflict] at h
              exact absurd h (by simp)

theorem lookup_remove_prepared :
    (PreparedTxStore.remove store paymentId).2.lookup other =
      if other = paymentId then none else store.lookup other :=
  Table.lookup_erase_eq store paymentId other

theorem lookup_sweep_prepared {now : Nat} :
    (PreparedTxStore.sweepExpired store now).lookup other =
      (store.lookup other).filter
        fun row => decide (now < row.expiresAtUnixSeconds.toNat) :=
  Table.lookup_retain store _ other

theorem find_by_idempotency_isSome {jkt key : String} :
    (store.findByIdempotency jkt key).isSome = true ↔
      ∃ paymentId row, store.lookup paymentId = some row ∧ row.agentDpopJkt = jkt ∧
        row.idempotencyKey = some key := by
  unfold PreparedTxStore.findByIdempotency
  rw [Option.isSome_map, List.find?_isSome]
  constructor
  · rintro ⟨⟨paymentId, row⟩, hrow, hpair⟩
    rw [Bool.and_eq_true, beq_iff_eq, beq_iff_eq] at hpair
    exact ⟨paymentId, row, (Table.mem_rows store _ _).1 hrow, hpair⟩
  · rintro ⟨paymentId, row, hrow, hpair⟩
    refine ⟨(paymentId, row), (Table.mem_rows store _ _).2 hrow, ?_⟩
    rw [Bool.and_eq_true, beq_iff_eq, beq_iff_eq]
    exact hpair

theorem conflicts_iff {row : PreparedTxRow} :
    store.conflicts paymentId row = true ↔
      row.idempotencyKey.isSome = true ∧ ∃ other held, store.lookup other = some held ∧
        other ≠ paymentId ∧ held.agentDpopJkt = row.agentDpopJkt ∧
        held.idempotencyKey = row.idempotencyKey := by
  unfold PreparedTxStore.conflicts
  simp only [Bool.and_eq_true, List.any_eq_true, Prod.exists, Table.mem_rows, bne_iff_ne,
    beq_iff_eq, and_assoc]

/-- The stored columns survive the round trip through an entry. -/
@[simp] theorem toRow_toEntry (row : PreparedTxRow) : (row.toEntry paymentId).toRow = row := rfl

end Rows

end Zpay.Core
