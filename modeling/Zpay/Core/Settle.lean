import Zpay.Core.Status

/-!
# Settling a prepared payment

`submit_settlement` reads the prepared row, gates the request against it,
submits the transaction, writes the ledger row and, after a success, removes the
prepared row.  The gates are one function of what the store answered; the three
effects are separate awaits, so what they write is given here and when they are
written is left to the machine that interleaves them.

Parsing a transaction's expiry height is a parameter.

## Main results

* `admit_settlement_ok` — everything a request that reaches the submitter has
  passed.
* `validate_raw_tx_hex_decodes` — after the hex gate, decoding cannot fail.
-/

open Zpay.Data

namespace Zpay.Core

structure SettleRequest where
  paymentId : PaymentId
  rawTxHex : String
  deriving DecidableEq, Repr

structure SettlementOutcome where
  paymentId : PaymentId
  broadcastOutcome : BroadcastOutcome
  watchId : Option WatchId
  deriving DecidableEq, Repr

inductive SettleError
  | preparationNotFound (paymentId : PaymentId)
  | rawTxHexInvalid
  | chainUnavailable (reason : String)
  | transactionMalformed (reason : String)
  | expiryHeightMismatch (preparedExpiryHeight signedExpiryHeight : UInt32)
  | obsoleteMemoVersion (observed : UInt8)
  | dpopMismatch
  | storage (err : StoreError)
  deriving DecidableEq, Repr

/-- What either settle route carries from the prepared row past the broadcast. -/
structure PreparedSettlement where
  paymentId : PaymentId
  expiryHeight : UInt32
  payeeId : PayeeId
  amountZat : UInt64
  deriving DecidableEq, Repr

def PreparedTxEntry.settlement (entry : PreparedTxEntry) (paymentId : PaymentId) :
    PreparedSettlement where
  paymentId := paymentId
  expiryHeight := entry.preparation.expiryHeight
  payeeId := entry.payeeId
  amountZat := entry.amountZat

/-- The ledger row both routes write for an outcome. -/
def PreparedSettlement.ledgerEntry (prepared : PreparedSettlement) (outcome : BroadcastOutcome)
    (nowUnixSeconds : Nat) : SettlementLedgerEntry where
  broadcastOutcome := outcome
  settledAtUnixSeconds := nowUnixSeconds
  confirmationCount := none
  minedBlockHeight := none
  reorgCount := 0
  lastReorgedAt := none
  expiryHeight := some prepared.expiryHeight
  payeeId := prepared.payeeId
  amountZat := prepared.amountZat

/-! ## The gates -/

section Gates

variable (parseTransactionExpiryHeight : List UInt8 → Except String UInt32)

def validateRawTxHex (rawTxHex : String) : Except SettleError Unit :=
  ensure (rawTxHex ≠ "" ∧ Text.byteLength rawTxHex % 2 = 0 ∧
    rawTxHex.toList.all isHexDigit = true) .rawTxHexInvalid

def parseSignedExpiryHeight (rawTxHex : String) : Except SettleError UInt32 := do
  let rawBytes ← okOr (decodeHexChars rawTxHex.toList) .rawTxHexInvalid
  (parseTransactionExpiryHeight rawBytes).mapError .transactionMalformed

/-- The version byte of the stored memo, when there is one, is the current one. -/
def checkMemoVersion (memoBytes : List UInt8) : Except SettleError Unit :=
  match memoBytes[1]? with
  | some observed => ensure (observed = protocolMemoVersion) (.obsoleteMemoVersion observed)
  | none => .ok ()

/-- `submit_settlement` up to the submitter: what it hands on, and the bytes. -/
def admitSettlement (request : SettleRequest) (jkt : String)
    (found : Except StoreError (Option PreparedTxEntry)) :
    Except SettleError (PreparedSettlement × List UInt8) := do
  validateRawTxHex request.rawTxHex
  let found ← found.mapError .storage
  let prepared ← okOr found (.preparationNotFound request.paymentId)
  ensure (prepared.agentDpopJkt = jkt) .dpopMismatch
  checkMemoVersion prepared.preparation.memoBytes
  let signedExpiryHeight ← parseSignedExpiryHeight parseTransactionExpiryHeight request.rawTxHex
  ensure (signedExpiryHeight = prepared.preparation.expiryHeight)
    (.expiryHeightMismatch prepared.preparation.expiryHeight signedExpiryHeight)
  let rawTxBytes ← okOr (decodeHexChars request.rawTxHex.toList)
    (.chainUnavailable "raw_tx_hex decode failed after validation")
  return (prepared.settlement request.paymentId, rawTxBytes)

/-- The answer to a call whose broadcast, record and removal all went through. -/
def settlementOutcome (paymentId : PaymentId) (outcome : BroadcastOutcome) :
    SettlementOutcome where
  paymentId := paymentId
  broadcastOutcome := outcome
  watchId := if outcome.isSuccess then some ⟨"watch_" ++ paymentId.value⟩ else none

end Gates

/-- After the hex gate, decoding cannot fail. -/
theorem validate_raw_tx_hex_decodes {rawTxHex : String}
    (h : validateRawTxHex rawTxHex = .ok ()) :
    ∃ bytes, decodeHexChars rawTxHex.toList = some bytes := by
  obtain ⟨-, hlength, hdigits⟩ := ensure_eq_ok.1 h
  have hbytes : Text.byteLength rawTxHex = rawTxHex.toList.length := by
    unfold Text.byteLength
    rw [List.map_congr_left fun c hc => utf8Size_of_isHexDigit (List.all_eq_true.1 hdigits c hc)]
    simp
  rw [hbytes] at hlength
  exact Option.isSome_iff_exists.1 (decodeHexChars_isSome _ hlength hdigits)

section Passed

variable {parseTransactionExpiryHeight : List UInt8 → Except String UInt32}
variable {request : SettleRequest} {jkt : String}
variable {found : Except StoreError (Option PreparedTxEntry)}

/-- A request that reaches the submitter named a prepared row of the same key,
whose expiry its transaction carries. -/
theorem admit_settlement_ok {settlement : PreparedSettlement} {rawTxBytes : List UInt8}
    (h : admitSettlement parseTransactionExpiryHeight request jkt found
      = .ok (settlement, rawTxBytes)) :
    ∃ prepared, found = .ok (some prepared) ∧ prepared.agentDpopJkt = jkt ∧
      settlement = prepared.settlement request.paymentId ∧
      decodeHexChars request.rawTxHex.toList = some rawTxBytes ∧
      parseTransactionExpiryHeight rawTxBytes = .ok prepared.preparation.expiryHeight := by
  simp only [admitSettlement, parseSignedExpiryHeight, bind_eq_ok, mapError_eq_ok, okOr_eq_ok,
    ensure_eq_ok, pure_eq_ok] at h
  obtain ⟨_, -, row, hfound, prepared, rfl, _, hjkt, _, -, expiry, ⟨bytes, hbytes, hparsed⟩, _,
    hexpiry, bytes', hbytes', heq⟩ := h
  obtain ⟨rfl, rfl⟩ := Prod.mk.inj heq
  have hsame : bytes = bytes' := Option.some.inj (hbytes.symm.trans hbytes')
  subst hsame
  exact ⟨prepared, hfound, hjkt, rfl, hbytes, hexpiry ▸ hparsed⟩

theorem check_memo_version_ok {memoBytes : List UInt8} {u : Unit} :
    checkMemoVersion memoBytes = .ok u ↔
      ∀ observed, memoBytes[1]? = some observed → observed = protocolMemoVersion := by
  unfold checkMemoVersion
  cases memoBytes[1]? <;> simp

/-- Nor is the memo of that row of another version. -/
theorem admit_settlement_memo_version {prepared : PreparedTxEntry}
    {admitted : PreparedSettlement × List UInt8}
    (h : admitSettlement parseTransactionExpiryHeight request jkt (.ok (some prepared))
      = .ok admitted) :
    ∀ observed, prepared.preparation.memoBytes[1]? = some observed →
      observed = protocolMemoVersion := by
  simp only [admitSettlement, bind_eq_ok, mapError_eq_ok, okOr_eq_ok, Except.ok.injEq] at h
  obtain ⟨_, -, row, rfl, prepared', hprepared, _, -, _, hversion, -⟩ := h
  rw [Option.some.injEq] at hprepared
  subst hprepared
  exact check_memo_version_ok.1 hversion

end Passed

end Zpay.Core
