import Zpay.Core.Settle
import Zpay.X402.ZcashExact

/-!
# The x402 verify and settle handlers

Both handlers run the envelope and binding checks and the PCZT verifier.
Between the two, settle also looks the named payment up; after them, it compares
the transaction's expiry with the prepared one and the request's network with
the chain plane's, and submits.

Rate limiting, metrics and the event hub change neither the answers nor the
stores and are left out.  A handler's store reads and writes are given by what
the stores answer.

## Main results

* `x402_settle_gates_ok` — everything a settle call that reaches the broadcast
  has passed.
* `verify_settle_agree_iff` — the two handlers hold the same contract exactly
  when the prepared row, the transaction's expiry and the chain network agree
  with the request, or the request is refused before any of them is read.
-/

open Zpay.Data Zpay.Core

namespace Zpay.X402

/-- What the prepared store answers under each payment id. -/
abbrev PreparedLookup := PaymentId → Except StoreError (Option PreparedTxEntry)

def x402RequestInvalidReason (request : FacilitatorRequest) : Option String :=
  if request.x402Version ≠ x402Version ∨ request.paymentPayload.x402Version ≠ x402Version then
    some "x402_version_unsupported"
  else if request.paymentPayload.accepted ≠ request.paymentRequirements then
    some "payment_requirements_mismatch"
  else if isZcashExactRequest request = false then some "scheme_network_not_supported"
  else
    match zpayPaymentId request.paymentRequirements with
    | .error reason => some reason
    | .ok _ => requestInvalidReason request

/-- Refuses with the request's invalid reason, when it has one. -/
def checkX402Request (request : FacilitatorRequest) : Except String Unit :=
  match x402RequestInvalidReason request with
  | some reason => .error reason
  | none => .ok ()

def findPreparedX402Settlement (request : FacilitatorRequest) (settlement : PcztSettlementRequest)
    (lookup : PreparedLookup) : Except String (Option PreparedSettlement) := do
  match ← zpayPaymentId request.paymentRequirements with
  | none => return none
  | some paymentId =>
      let found ← (lookup paymentId).mapError fun _ => "zpay_payment_store_unavailable"
      let prepared ← okOr found "zpay_payment_not_prepared"
      ensure (prepared.network = settlement.network ∧ prepared.amountZat = settlement.amountZat ∧
        prepared.recipientUnifiedAddress = settlement.payTo) "zpay_payment_requirements_mismatch"
      return some (prepared.settlement paymentId)

/-! ## The handlers -/

section Handlers

variable {C A V : Type} (library : PcztLibrary C A V)

/-- What verify checks. -/
def x402VerifyGates (request : FacilitatorRequest) : Except String VerifiedPcztSettlement := do
  checkX402Request request
  let settlement ← settlementRequest request
  (verifyPcztSettlement library settlement).mapError PcztSettlementError.reasonCode

/-- What settle checks before it broadcasts. -/
def x402SettleGates (lookup : PreparedLookup) (request : FacilitatorRequest) :
    Except String (PcztSettlementRequest × Option PreparedSettlement × VerifiedPcztSettlement) :=
  do
    checkX402Request request
    let settlement ← settlementRequest request
    let prepared ← findPreparedX402Settlement request settlement lookup
    let verified ← (verifyPcztSettlement library settlement).mapError
      PcztSettlementError.reasonCode
    ensure (∀ row ∈ prepared, verified.expiryHeight = row.expiryHeight)
      "zpay_payment_expiry_mismatch"
    return (settlement, prepared, verified)

def x402VerifyHandler (request : FacilitatorRequest) : VerifyResponse :=
  match x402VerifyGates library request with
  | .ok verified =>
      { isValid := true
        invalidReason := none
        payer := none
        extra := ((responseExtensions request).insert "transaction"
          (.string verified.transactionId)).insert "expiryHeight"
            (.number (.posInt verified.expiryHeight.toUInt64)) }
  | .error reason =>
      { isValid := false
        invalidReason := some reason
        payer := none
        extra := responseExtensions request }

/-- Reason of a broadcast that did not succeed. -/
def broadcastFailureReason : BroadcastOutcome → String
  | .invalidEncoding _ => "zcash_exact_transaction_invalid_encoding"
  | .rejected _ => "zcash_exact_transaction_rejected"
  | .accepted _ | .duplicate _ => "zcash_exact_settlement_succeeded"
  | .unknown _ => "zcash_exact_settlement_unknown"

def x402SettleFailureResponse (request : FacilitatorRequest) (errorReason : String) :
    SettleResponse where
  success := false
  errorReason := some errorReason
  payer := none
  transaction := none
  network := request.paymentRequirements.network
  amount := request.paymentRequirements.amount
  extensions := responseExtensions request

/-- `record_prepared_x402_settlement`: what the two stores answered to the write
and, after a success, to the removal. -/
def recordPreparedX402Settlement (outcome : PcztSettlementOutcome)
    (recorded removed : Except StoreError Unit) : Except String Unit := do
  recorded.mapError fun _ => "zpay_payment_ledger_unavailable"
  if outcome.broadcastOutcome.isSuccess then
    removed.mapError fun _ => "zpay_payment_store_unavailable"

def x402SettleResponseExtensions (request : FacilitatorRequest)
    (prepared : Option PreparedSettlement) (outcome : PcztSettlementOutcome)
    (recorded removed : Except StoreError Unit) : Fields :=
  let extensions := (responseExtensions request).insert "expiryHeight"
    (.number (.posInt outcome.expiryHeight.toUInt64))
  match prepared with
  | none => extensions
  | some row =>
      let extensions := extensions.insert zpayPaymentIdExtension (.string row.paymentId.value)
      match recordPreparedX402Settlement outcome recorded removed with
      | .ok _ => extensions
      | .error reason =>
          extensions.insert "zpayLifecycleRecord"
            (.object (.ofList [("status", .string "failed"), ("reason", .string reason)]))

/-- Also what a broadcast that was refused answers. -/
def x402SettleSuccessResponse (request : FacilitatorRequest) (outcome : PcztSettlementOutcome)
    (extensions : Fields) : SettleResponse where
  success := outcome.broadcastOutcome.isSuccess
  errorReason :=
    if outcome.broadcastOutcome.isSuccess then none
    else some (broadcastFailureReason outcome.broadcastOutcome)
  payer := none
  transaction := some outcome.transactionId
  network := request.paymentRequirements.network
  amount := request.paymentRequirements.amount
  extensions := extensions

/-- The collaborators a settle call meets. -/
structure SettlePlane where
  chainNetwork : Network
  submit : List UInt8 → Except String SubmitOutcome
  lookup : PreparedLookup
  recorded : Except StoreError Unit
  removed : Except StoreError Unit

/-- The answer, and the transactions handed to the submitter. -/
structure SettleRun where
  response : SettleResponse
  submitted : List (List UInt8)

def x402SettleHandler (plane : SettlePlane) (request : FacilitatorRequest) : SettleRun :=
  match x402SettleGates library plane.lookup request with
  | .error reason =>
      { response := x402SettleFailureResponse request reason, submitted := [] }
  | .ok (settlement, prepared, verified) =>
      match broadcastVerifiedPcztSettlement plane.chainNetwork plane.submit settlement
        verified with
      | (.error err, submitted) =>
          { response := x402SettleFailureResponse request err.reasonCode, submitted }
      | (.ok outcome, submitted) =>
          { response := x402SettleSuccessResponse request outcome
              (x402SettleResponseExtensions request prepared outcome plane.recorded
                plane.removed)
            submitted }

end Handlers

/-! ## What the gates establish -/

section Gates

variable {C A V : Type} {library : PcztLibrary C A V}
variable {request : FacilitatorRequest} {settlement : PcztSettlementRequest}
variable {lookup : PreparedLookup}

@[simp] theorem check_x402_request_ok {u : Unit} :
    checkX402Request request = .ok u ↔ x402RequestInvalidReason request = none := by
  unfold checkX402Request
  cases x402RequestInvalidReason request <;> simp

@[simp] theorem check_x402_request_error {reason : String} :
    checkX402Request request = .error reason ↔
      x402RequestInvalidReason request = some reason := by
  unfold checkX402Request
  cases x402RequestInvalidReason request <;> simp

/-- A request without a reason is a valid Zcash exact one and names a payment
properly, if at all. -/
theorem x402_request_invalid_reason_eq_none
    (h : x402RequestInvalidReason request = none) :
    isZcashExactRequest request = true ∧ requestInvalidReason request = none ∧
      ∃ named, zpayPaymentId request.paymentRequirements = .ok named := by
  unfold x402RequestInvalidReason at h
  obtain ⟨-, h⟩ := ite_some_eq_none.1 h
  obtain ⟨-, h⟩ := ite_some_eq_none.1 h
  obtain ⟨hexact, h⟩ := ite_some_eq_none.1 h
  split at h
  · exact absurd h (by simp)
  · next named hnamed => exact ⟨Bool.not_eq_false _ ▸ hexact, h, named, hnamed⟩

/-- The row the request names is there and agrees with it. -/
def PreparedAgrees (lookup : PreparedLookup) (request : FacilitatorRequest)
    (settlement : PcztSettlementRequest) : Prop :=
  ∀ paymentId, zpayPaymentId request.paymentRequirements = .ok (some paymentId) →
    ∃ prepared, lookup paymentId = .ok (some prepared) ∧
      prepared.network = settlement.network ∧ prepared.amountZat = settlement.amountZat ∧
      prepared.recipientUnifiedAddress = settlement.payTo

/-- The transaction expires when the row the request names says. -/
def ExpiryAgrees (lookup : PreparedLookup) (request : FacilitatorRequest)
    (verified : VerifiedPcztSettlement) : Prop :=
  ∀ paymentId prepared, zpayPaymentId request.paymentRequirements = .ok (some paymentId) →
    lookup paymentId = .ok (some prepared) →
    verified.expiryHeight = prepared.preparation.expiryHeight

theorem find_prepared_of_unnamed (hnamed : zpayPaymentId request.paymentRequirements = .ok none) :
    findPreparedX402Settlement request settlement lookup = .ok none := by
  unfold findPreparedX402Settlement
  rw [hnamed]
  rfl

theorem find_prepared_of_named {paymentId : PaymentId} {prepared : Option PreparedSettlement}
    (hnamed : zpayPaymentId request.paymentRequirements = .ok (some paymentId)) :
    findPreparedX402Settlement request settlement lookup = .ok prepared ↔
      ∃ entry, lookup paymentId = .ok (some entry) ∧
        (entry.network = settlement.network ∧ entry.amountZat = settlement.amountZat ∧
          entry.recipientUnifiedAddress = settlement.payTo) ∧
        prepared = some (entry.settlement paymentId) := by
  simp only [findPreparedX402Settlement, hnamed, bind_eq_ok, mapError_eq_ok, okOr_eq_ok,
    ensure_eq_ok, pure_eq_ok, Except.ok.injEq, exists_eq_left']
  constructor
  · rintro ⟨found, hfound, entry, rfl, _, hmatches, rfl⟩
    exact ⟨entry, hfound, hmatches, rfl⟩
  · rintro ⟨entry, hfound, hmatches, rfl⟩
    exact ⟨some entry, hfound, entry, rfl, (), hmatches, rfl⟩

/-- The lookup succeeds exactly when the row the request names is there and
agrees with it. -/
theorem find_prepared_ok_iff {named : Option PaymentId}
    (hnamed : zpayPaymentId request.paymentRequirements = .ok named) :
    (∃ prepared, findPreparedX402Settlement request settlement lookup = .ok prepared) ↔
      PreparedAgrees lookup request settlement := by
  cases named with
  | none =>
      rw [find_prepared_of_unnamed hnamed]
      refine iff_of_true ⟨none, rfl⟩ ?_
      intro paymentId hid
      rw [hnamed] at hid
      exact absurd hid (by simp)
  | some paymentId =>
      simp only [find_prepared_of_named hnamed]
      constructor
      · rintro ⟨_, entry, hfound, hmatches, -⟩ other hother
        rw [hnamed, Except.ok.injEq, Option.some.injEq] at hother
        exact ⟨entry, hother ▸ hfound, hmatches⟩
      · intro hagrees
        obtain ⟨entry, hfound, hmatches⟩ := hagrees paymentId hnamed
        exact ⟨_, entry, hfound, hmatches, rfl⟩

/-- What the lookup returned carries the expiry the transaction is compared
with. -/
theorem expiry_matches_iff {prepared : Option PreparedSettlement}
    {verified : VerifiedPcztSettlement} {named : Option PaymentId}
    (hnamed : zpayPaymentId request.paymentRequirements = .ok named)
    (hfound : findPreparedX402Settlement request settlement lookup = .ok prepared) :
    (∀ row ∈ prepared, verified.expiryHeight = row.expiryHeight) ↔
      ExpiryAgrees lookup request verified := by
  cases named with
  | none =>
      rw [find_prepared_of_unnamed hnamed, Except.ok.injEq] at hfound
      subst hfound
      refine iff_of_true (by simp) ?_
      intro paymentId entry hid
      rw [hnamed] at hid
      exact absurd hid (by simp)
  | some paymentId =>
      obtain ⟨entry, hentry, -, rfl⟩ := (find_prepared_of_named hnamed).1 hfound
      constructor
      · intro hexpiry other entry' hother hentry'
        rw [hnamed, Except.ok.injEq, Option.some.injEq] at hother
        subst hother
        rw [hentry, Except.ok.injEq, Option.some.injEq] at hentry'
        exact hentry' ▸ hexpiry _ rfl
      · intro hagrees row hrow
        have hexpiry := hagrees paymentId entry hnamed hentry
        rw [Option.mem_some_iff] at hrow
        exact hrow ▸ hexpiry

/-- The reasons the lookup refuses with. -/
def lookupReasons : List String :=
  ["zpay_payment_store_unavailable", "zpay_payment_not_prepared",
    "zpay_payment_requirements_mismatch"]

theorem find_prepared_error {named : Option PaymentId} {reason : String}
    (hnamed : zpayPaymentId request.paymentRequirements = .ok named)
    (h : findPreparedX402Settlement request settlement lookup = .error reason) :
    reason ∈ lookupReasons := by
  cases named with
  | none =>
      rw [find_prepared_of_unnamed hnamed] at h
      exact absurd h (by simp)
  | some paymentId =>
      simp only [findPreparedX402Settlement, hnamed, bind_eq_error, mapError_eq_error,
        okOr_eq_error, ensure_eq_error, pure_ne_error, and_false, exists_false, or_false,
        Except.ok.injEq, exists_eq_left', reduceCtorEq, false_or] at h
      rcases h with ⟨_, -, rfl⟩ | ⟨_, -, ⟨-, rfl⟩ | ⟨_, -, -, rfl⟩⟩
      · simp [lookupReasons]
      · simp [lookupReasons]
      · simp [lookupReasons]

/-- The verifier's reasons are not the lookup's. -/
theorem reason_code_not_mem_lookupReasons (err : PcztSettlementError) :
    err.reasonCode ∉ lookupReasons := by
  cases err <;> simp [PcztSettlementError.reasonCode, lookupReasons]

/-- Everything a settle call that reaches the broadcast has passed. -/
theorem x402_settle_gates_ok {prepared : Option PreparedSettlement}
    {verified : VerifiedPcztSettlement} :
    x402SettleGates library lookup request = .ok (settlement, prepared, verified) ↔
      x402RequestInvalidReason request = none ∧ settlementRequest request = .ok settlement ∧
      findPreparedX402Settlement request settlement lookup = .ok prepared ∧
      verifyPcztSettlement library settlement = .ok verified ∧
      ∀ row ∈ prepared, verified.expiryHeight = row.expiryHeight := by
  simp only [x402SettleGates, bind_eq_ok, check_x402_request_ok, mapError_eq_ok, ensure_eq_ok,
    pure_eq_ok, Prod.mk.injEq]
  constructor
  · rintro ⟨_, hvalid, _, hsettlement, _, hfound, _, hverified, _, hexpiry, rfl, rfl, rfl⟩
    exact ⟨hvalid, hsettlement, hfound, hverified, hexpiry⟩
  · rintro ⟨hvalid, hsettlement, hfound, hverified, hexpiry⟩
    exact ⟨(), hvalid, _, hsettlement, _, hfound, _, hverified, (), hexpiry, rfl, rfl, rfl⟩

/-- The gates read no row but the named one. -/
theorem x402_settle_gates_congr {lookup lookup' : PreparedLookup} {paymentId : PaymentId}
    (hnamed : zpayPaymentId request.paymentRequirements = .ok (some paymentId))
    (h : lookup paymentId = lookup' paymentId) :
    x402SettleGates library lookup request = x402SettleGates library lookup' request := by
  have hfound : ∀ settlement, findPreparedX402Settlement request settlement lookup =
      findPreparedX402Settlement request settlement lookup' := by
    intro settlement
    unfold findPreparedX402Settlement
    rw [hnamed]
    show (do
      let found ← (lookup paymentId).mapError fun _ => "zpay_payment_store_unavailable"
      _) = _
    rw [h]
    rfl
  unfold x402SettleGates
  simp only [hfound]

theorem x402_settle_of_refused {plane : SettlePlane} {reason : String}
    (h : x402SettleGates library plane.lookup request = .error reason) :
    x402SettleHandler library plane request =
      { response := x402SettleFailureResponse request reason, submitted := [] } := by
  unfold x402SettleHandler
  rw [h]

theorem x402_settle_of_admitted {plane : SettlePlane} {prepared : Option PreparedSettlement}
    {verified : VerifiedPcztSettlement}
    (h : x402SettleGates library plane.lookup request = .ok (settlement, prepared, verified)) :
    (x402SettleHandler library plane request).submitted =
      if plane.chainNetwork = zallyNetworkFor settlement.network then [verified.rawTxBytes]
      else [] := by
  unfold x402SettleHandler broadcastVerifiedPcztSettlement
  rw [h]
  by_cases hnetwork : plane.chainNetwork = zallyNetworkFor settlement.network
  · simp only [hnetwork, ne_eq, not_true_eq_false, if_false, if_true]
    cases plane.submit verified.rawTxBytes with
    | error reason => rfl
    | ok outcome => rfl
  · simp only [hnetwork, ne_eq, not_false_eq_true, if_true, if_false]

/-- Settle hands a transaction to the submitter when the gates pass and the
chain plane serves the requested network, and otherwise none. -/
theorem x402_settle_submitted_ne_nil {plane : SettlePlane} :
    (x402SettleHandler library plane request).submitted ≠ [] ↔
      ∃ settlement prepared verified,
        x402SettleGates library plane.lookup request = .ok (settlement, prepared, verified) ∧
        plane.chainNetwork = zallyNetworkFor settlement.network := by
  cases hgates : x402SettleGates library plane.lookup request with
  | error reason =>
      rw [x402_settle_of_refused hgates]
      simp
  | ok passed =>
      obtain ⟨settlement, prepared, verified⟩ := passed
      rw [x402_settle_of_admitted hgates]
      constructor
      · intro hsubmitted
        by_cases hnetwork : plane.chainNetwork = zallyNetworkFor settlement.network
        · exact ⟨settlement, prepared, verified, rfl, hnetwork⟩
        · rw [if_neg hnetwork] at hsubmitted
          exact absurd rfl hsubmitted
      · rintro ⟨settlement', prepared', verified', heq, hnetwork⟩
        rw [Except.ok.injEq, Prod.mk.injEq, Prod.mk.injEq] at heq
        rw [heq.1, if_pos hnetwork]
        simp

end Gates

/-! ## One contract for both handlers -/

section Contract

variable {C A V : Type} (library : PcztLibrary C A V) (plane : SettlePlane)
variable (request : FacilitatorRequest)

/-- A request verify calls valid reaches the submitter, and one it refuses is
refused by settle for the same reason, before the broadcast. -/
structure SameContract : Prop where
  valid : (x402VerifyHandler library request).isValid = true →
    (x402SettleHandler library plane request).submitted ≠ []
  invalid : ∀ reason, (x402VerifyHandler library request).isValid = false →
    (x402VerifyHandler library request).invalidReason = some reason →
    (x402SettleHandler library plane request).submitted = [] ∧
      (x402SettleHandler library plane request).response.success = false ∧
      (x402SettleHandler library plane request).response.errorReason = some reason

/-- What settle compares and verify does not: the row the request names, the
expiry it was prepared with, and the network of the chain plane. -/
structure SettleAgrees (settlement : PcztSettlementRequest) : Prop where
  prepared : PreparedAgrees plane.lookup request settlement
  expiry : ∀ verified, verifyPcztSettlement library settlement = .ok verified →
    ExpiryAgrees plane.lookup request verified
  network : ∀ verified, verifyPcztSettlement library settlement = .ok verified →
    plane.chainNetwork = zallyNetworkFor settlement.network

variable {library plane request}

theorem x402_verify_valid_iff :
    (x402VerifyHandler library request).isValid = true ↔
      ∃ verified, x402VerifyGates library request = .ok verified := by
  unfold x402VerifyHandler
  cases x402VerifyGates library request <;> simp

theorem x402_verify_invalid_iff {reason : String} :
    (x402VerifyHandler library request).isValid = false ∧
      (x402VerifyHandler library request).invalidReason = some reason ↔
      x402VerifyGates library request = .error reason := by
  unfold x402VerifyHandler
  cases x402VerifyGates library request <;> simp

theorem x402_verify_gates_ok {verified : VerifiedPcztSettlement} :
    x402VerifyGates library request = .ok verified ↔
      x402RequestInvalidReason request = none ∧ ∃ settlement,
        settlementRequest request = .ok settlement ∧
        verifyPcztSettlement library settlement = .ok verified := by
  simp only [x402VerifyGates, bind_eq_ok, check_x402_request_ok, mapError_eq_ok]
  constructor
  · rintro ⟨_, hvalid, settlement, hsettlement, hverified⟩
    exact ⟨hvalid, settlement, hsettlement, hverified⟩
  · rintro ⟨hvalid, settlement, hsettlement, hverified⟩
    exact ⟨(), hvalid, settlement, hsettlement, hverified⟩

/-- Settle passes nothing that verify refuses. -/
theorem verify_gates_of_settle_gates {lookup : PreparedLookup} {settlement : PcztSettlementRequest}
    {prepared : Option PreparedSettlement} {verified : VerifiedPcztSettlement}
    (h : x402SettleGates library lookup request = .ok (settlement, prepared, verified)) :
    x402VerifyGates library request = .ok verified := by
  obtain ⟨hvalid, hsettlement, -, hverified, -⟩ := x402_settle_gates_ok.1 h
  exact x402_verify_gates_ok.2 ⟨hvalid, settlement, hsettlement, hverified⟩

/-- The contract in terms of the gates of the two handlers. -/
theorem same_contract_iff_gates :
    SameContract library plane request ↔
      (∀ verified, x402VerifyGates library request = .ok verified →
        (x402SettleHandler library plane request).submitted ≠ []) ∧
      ∀ reason, x402VerifyGates library request = .error reason →
        x402SettleGates library plane.lookup request = .error reason := by
  constructor
  · intro hsame
    refine ⟨fun verified hverified => hsame.valid (x402_verify_valid_iff.2 ⟨_, hverified⟩), ?_⟩
    intro reason hreason
    obtain ⟨hinvalid, hsome⟩ := x402_verify_invalid_iff.2 hreason
    obtain ⟨-, -, herror⟩ := hsame.invalid reason hinvalid hsome
    cases hgates : x402SettleGates library plane.lookup request with
    | error reason' =>
        rw [x402_settle_of_refused hgates] at herror
        exact congrArg _ (Option.some.inj herror)
    | ok passed =>
        obtain ⟨settlement, prepared, verified⟩ := passed
        have hverify := verify_gates_of_settle_gates hgates
        rw [hreason] at hverify
        exact absurd hverify (by simp)
  · rintro ⟨hvalid, hinvalid⟩
    constructor
    · intro htrue
      obtain ⟨verified, hverified⟩ := x402_verify_valid_iff.1 htrue
      exact hvalid verified hverified
    · intro reason hfalse hsome
      have hgates := hinvalid reason (x402_verify_invalid_iff.1 ⟨hfalse, hsome⟩)
      rw [x402_settle_of_refused hgates]
      exact ⟨rfl, rfl, rfl⟩

section Valid

variable {settlement : PcztSettlementRequest} {named : Option PaymentId}
variable (hvalid : x402RequestInvalidReason request = none)
variable (hsettlement : settlementRequest request = .ok settlement)
variable (hnamed : zpayPaymentId request.paymentRequirements = .ok named)

include hvalid hsettlement hnamed

/-- Where the verifier refuses, settle gives the verifier's reason when its
lookup succeeded. -/
theorem settle_gates_of_verifier_refusal {err : PcztSettlementError}
    (hverified : verifyPcztSettlement library settlement = .error err) :
    x402SettleGates library plane.lookup request = .error err.reasonCode ↔
      PreparedAgrees plane.lookup request settlement := by
  rw [← find_prepared_ok_iff hnamed]
  unfold x402SettleGates checkX402Request
  rw [hvalid, hsettlement]
  cases hfound : findPreparedX402Settlement request settlement plane.lookup with
  | ok prepared =>
      refine iff_of_true ?_ ⟨prepared, rfl⟩
      simp only [bind, Except.bind, hfound, hverified, Except.mapError]
  | error reason =>
      simp only [bind, Except.bind, hfound, Except.error.injEq, reduceCtorEq, exists_false,
        iff_false]
      intro heq
      have hmem := find_prepared_error hnamed hfound
      rw [heq] at hmem
      exact reason_code_not_mem_lookupReasons err hmem

/-- Where the verifier accepts, settle broadcasts when the row, the expiry and
the network agree. -/
theorem settle_submits_of_verified {verified : VerifiedPcztSettlement}
    (hverified : verifyPcztSettlement library settlement = .ok verified) :
    (x402SettleHandler library plane request).submitted ≠ [] ↔
      PreparedAgrees plane.lookup request settlement ∧
      ExpiryAgrees plane.lookup request verified ∧
      plane.chainNetwork = zallyNetworkFor settlement.network := by
  rw [x402_settle_submitted_ne_nil, ← find_prepared_ok_iff hnamed]
  constructor
  · rintro ⟨settlement', prepared, verified', hgates, hnetwork⟩
    obtain ⟨-, hsettlement', hfound, hverified', hexpiry⟩ := x402_settle_gates_ok.1 hgates
    have hsame : settlement' = settlement :=
      Except.ok.inj (hsettlement'.symm.trans hsettlement)
    subst hsame
    have hsame : verified' = verified := Except.ok.inj (hverified'.symm.trans hverified)
    subst hsame
    exact ⟨⟨prepared, hfound⟩, (expiry_matches_iff hnamed hfound).1 hexpiry, hnetwork⟩
  · rintro ⟨⟨prepared, hfound⟩, hexpiry, hnetwork⟩
    refine ⟨settlement, prepared, verified, ?_, hnetwork⟩
    exact x402_settle_gates_ok.2
      ⟨hvalid, hsettlement, hfound, hverified, (expiry_matches_iff hnamed hfound).2 hexpiry⟩

end Valid

/-- The two handlers hold the same contract exactly when settle's further
comparisons agree, or the request is refused before any of them is made. -/
theorem verify_settle_agree_iff :
    SameContract library plane request ↔
      (x402RequestInvalidReason request = none →
        ∀ settlement, settlementRequest request = .ok settlement →
          SettleAgrees library plane request settlement) := by
  rw [same_contract_iff_gates]
  cases hreason : x402RequestInvalidReason request with
  | some reason =>
      have hverify : x402VerifyGates library request = .error reason := by
        simp [x402VerifyGates, hreason]
      have hsettle : x402SettleGates library plane.lookup request = .error reason := by
        simp [x402SettleGates, hreason]
      refine iff_of_true ⟨?_, ?_⟩ (fun hnone => absurd hnone (by simp))
      · intro verified hverified
        rw [hverify] at hverified
        exact absurd hverified (by simp)
      · intro reason' hreason'
        rw [hverify, Except.error.injEq] at hreason'
        exact hreason' ▸ hsettle
  | none =>
      obtain ⟨hexact, hnone, named, hnamed⟩ := x402_request_invalid_reason_eq_none hreason
      obtain ⟨settlement, hsettlement⟩ := settlement_request_of_valid hexact hnone
      simp only [hsettlement, forall_const, Except.ok.injEq, forall_eq']
      cases hverified : verifyPcztSettlement library settlement with
      | error err =>
          have hverify : x402VerifyGates library request = .error err.reasonCode := by
            simp [x402VerifyGates, hreason, hsettlement, hverified]
          simp only [hverify, reduceCtorEq, false_implies, implies_true, true_and,
            Except.error.injEq, forall_eq']
          rw [settle_gates_of_verifier_refusal hreason hsettlement hnamed hverified]
          constructor
          · intro hprepared
            refine ⟨hprepared, ?_, ?_⟩
            · intro verified hok
              rw [hverified] at hok
              exact absurd hok (by simp)
            · intro verified hok
              rw [hverified] at hok
              exact absurd hok (by simp)
          · exact fun hagrees => hagrees.prepared
      | ok verified =>
          have hverify : x402VerifyGates library request = .ok verified :=
            x402_verify_gates_ok.2 ⟨hreason, settlement, hsettlement, hverified⟩
          simp only [hverify, reduceCtorEq, false_implies, implies_true, and_true,
            Except.ok.injEq, forall_eq']
          rw [settle_submits_of_verified hreason hsettlement hnamed hverified]
          constructor
          · rintro ⟨hprepared, hexpiry, hnetwork⟩
            refine ⟨hprepared, ?_, fun _ _ => hnetwork⟩
            intro verified' hok
            rw [hverified, Except.ok.injEq] at hok
            exact hok ▸ hexpiry
          · intro hagrees
            exact ⟨hagrees.prepared, hagrees.expiry verified hverified,
              hagrees.network verified hverified⟩

end Contract

/-! ### A payment that was never prepared -/

/-- A well-formed request for 5 zat that names the payment `pay_1`. -/
def sampleRequirements : PaymentRequirements where
  scheme := "exact"
  network := "zcash:testnet"
  amount := "5"
  asset := "ZEC"
  payTo := "utest1q"
  maxTimeoutSeconds := 60
  extra := .ofList [("zpayPaymentId", .string "pay_1")]

def sampleFacilitatorRequest : FacilitatorRequest where
  x402Version := 2
  paymentPayload :=
    { x402Version := 2
      resource :=
        { url := "https://merchant.example/resource"
          description := none
          mimeType := none
          serviceName := none
          tags := []
          iconUrl := none }
      accepted := sampleRequirements
      payload := .object (.ofList
        [("format", .string "pczt-v2-extractable"), ("pczt", .string "AQ")])
      extensions := .nil }
  paymentRequirements := sampleRequirements

/-- A testnet chain plane that accepts everything, over an empty prepared
store. -/
def emptyStorePlane : SettlePlane where
  chainNetwork := .testnet
  submit _ := .ok (.accepted "00")
  lookup paymentId := .ok (PreparedTxStore.findByPaymentId ∅ paymentId)
  recorded := .ok ()
  removed := .ok ()

/-- Verify calls the request valid; settle refuses it without a broadcast. -/
theorem verified_request_not_prepared :
    (x402VerifyHandler samplePcztLibrary sampleFacilitatorRequest).isValid = true ∧
    (x402SettleHandler samplePcztLibrary emptyStorePlane
      sampleFacilitatorRequest).response.errorReason = some "zpay_payment_not_prepared" ∧
    ¬ SameContract samplePcztLibrary emptyStorePlane sampleFacilitatorRequest := by
  refine ⟨by decide, by decide, fun hsame => ?_⟩
  exact hsame.valid (by decide) (by decide)

end Zpay.X402
