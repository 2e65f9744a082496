import Zpay.X402.Handlers

/-!
# What the exact binding admits

The validator and the builder read the same fields with helpers of their own.  A request
that the validator admits is built, and names what is settled: the network, the recipient
as it is written, the bytes that `pczt` encodes, and an amount of at least one zatoshi and
at most the supply.

The builder checks less: the protocol versions, the accepted requirements and the payment
id are the validator's alone, and come first, so a request may fail there for one reason and
in the builder for another.

## Main results

* `exact_binding_admits` — what is admitted is built, and what is not built is refused.
-/

open Zpay.Data Zpay.Core

namespace Zpay.X402

variable {request : FacilitatorRequest} {settlement : PcztSettlementRequest}

/-- What is built from an admitted request. -/
structure BuiltFrom (request : FacilitatorRequest) (settlement : PcztSettlementRequest) :
    Prop where
  network : paymentNetwork request.paymentRequirements.network = some settlement.network
  payTo : settlement.payTo = request.paymentRequirements.payTo
  pczt : ∃ authorization, request.paymentPayload.payload.asObject = some authorization ∧
    ∃ pczt, authorization.getStr "pczt" = some pczt ∧
      decodeBase64Url pczt = some settlement.pcztBytes ∧
      encodeBase64Url settlement.pcztBytes = pczt
  positive : 1 ≤ settlement.amountZat.toNat
  bounded : settlement.amountZat.toNat ≤ 21000000 * 10 ^ 8
  amount : ∃ digits, (request.paymentRequirements.amount.toList = digits ∨
      request.paymentRequirements.amount.toList = '+' :: digits) ∧
    Denotes digits settlement.amountZat.toNat

/-- The checks that the validator makes before those of the binding. -/
structure PassesX402 (request : FacilitatorRequest) : Prop where
  version : request.x402Version = x402Version
  payloadVersion : request.paymentPayload.x402Version = x402Version
  accepted : request.paymentPayload.accepted = request.paymentRequirements
  paymentId : ∃ named, zpayPaymentId request.paymentRequirements = .ok named

theorem is_valid_zat_amount_iff {amountZat : String} {parsedZat : UInt64}
    (hparsed : parseU64 amountZat = some parsedZat) :
    isValidZatAmount amountZat = true ↔
      1 ≤ parsedZat.toNat ∧ parsedZat.toNat ≤ 21000000 * 10 ^ 8 := by
  unfold isValidZatAmount
  rw [hparsed, Option.any_some, Bool.and_eq_true, decide_eq_true_iff, decide_eq_true_iff,
    UInt64.lt_iff_toNat_lt, UInt64.le_iff_toNat_le]
  rfl

theorem built_from_of_settlement_request (h : settlementRequest request = .ok settlement) :
    BuiltFrom request settlement := by
  obtain ⟨hexact, hvalid, hnetwork, hamount, hpayTo, authorization, hobject, pczt, hpczt,
    hbytes⟩ := settlement_request_ok h
  unfold requestInvalidReason at hvalid
  rw [if_neg (by simp [hexact]), Option.or_eq_none_iff] at hvalid
  obtain ⟨-, -, -, hvalidAmount, -⟩ := requirements_invalid_reason_eq_none.1 hvalid.1
  have hbounds := (is_valid_zat_amount_iff hamount).1 hvalidAmount
  exact
    { network := hnetwork
      payTo := hpayTo
      pczt := ⟨authorization, hobject, pczt, hpczt, hbytes, encode_decodeBase64Url hbytes⟩
      positive := hbounds.1
      bounded := hbounds.2
      amount := parseU64_eq_some.1 hamount }

/-- The builder fails on another network, or for the reason the binding's checks give. -/
theorem settlement_request_error {reason : String}
    (h : settlementRequest request = .error reason) :
    isZcashExactRequest request = false ∧ reason = "scheme_network_not_supported" ∨
      isZcashExactRequest request = true ∧ requestInvalidReason request = some reason := by
  by_cases hexact : isZcashExactRequest request = true
  · refine Or.inr ⟨hexact, ?_⟩
    cases hreason : requestInvalidReason request with
    | none =>
        obtain ⟨settlement, hok⟩ := settlement_request_of_valid hexact hreason
        rw [hok] at h
        exact absurd h (by simp)
    | some given =>
        simp [settlementRequest, hexact, hreason] at h
        exact h ▸ rfl
  · refine Or.inl ⟨Bool.not_eq_true _ ▸ hexact, ?_⟩
    simp [settlementRequest, ensure, hexact] at h
    exact h.symm

/-- Past the checks of its own, the validator gives the binding's reason. -/
theorem x402_request_invalid_reason_of_passes (h : PassesX402 request) :
    x402RequestInvalidReason request =
      if isZcashExactRequest request = false then some "scheme_network_not_supported"
      else requestInvalidReason request := by
  obtain ⟨named, hnamed⟩ := h.paymentId
  unfold x402RequestInvalidReason
  rw [if_neg (by simp [h.version, h.payloadVersion]), if_neg (by simp [h.accepted]), hnamed]

theorem x402_request_invalid_reason_isSome {reason : String}
    (h : settlementRequest request = .error reason) :
    ∃ given, x402RequestInvalidReason request = some given := by
  cases hreason : x402RequestInvalidReason request with
  | some given => exact ⟨given, rfl⟩
  | none =>
      obtain ⟨hexact, hvalid, -⟩ := x402_request_invalid_reason_eq_none hreason
      obtain ⟨settlement, hok⟩ := settlement_request_of_valid hexact hvalid
      rw [hok] at h
      exact absurd h (by simp)

/-- A request that the validator admits is built, from what it says; one that is not built
is refused, and for the builder's reason where it passes the validator's own checks. -/
theorem exact_binding_admits (request : FacilitatorRequest) :
    (x402RequestInvalidReason request = none →
      ∃ settlement, settlementRequest request = .ok settlement ∧
        BuiltFrom request settlement) ∧
    ∀ reason, settlementRequest request = .error reason →
      (∃ given, x402RequestInvalidReason request = some given) ∧
      (PassesX402 request → x402RequestInvalidReason request = some reason) := by
  constructor
  · intro hadmitted
    obtain ⟨hexact, hvalid, -⟩ := x402_request_invalid_reason_eq_none hadmitted
    obtain ⟨settlement, hok⟩ := settlement_request_of_valid hexact hvalid
    exact ⟨settlement, hok, built_from_of_settlement_request hok⟩
  · intro reason herror
    refine ⟨x402_request_invalid_reason_isSome herror, ?_⟩
    intro hpasses
    rw [x402_request_invalid_reason_of_passes hpasses]
    rcases settlement_request_error herror with ⟨hexact, rfl⟩ | ⟨hexact, hreason⟩
    · rw [if_pos hexact]
    · rw [if_neg (by simp [hexact]), hreason]

/-! ### A signed amount, and an old version -/

/-- The sample request with another amount, in a version of the protocol. -/
def sampleRequestOf (version : UInt32) (amount : String) : FacilitatorRequest :=
  { sampleFacilitatorRequest with
    x402Version := version
    paymentPayload :=
      { sampleFacilitatorRequest.paymentPayload with
        accepted := { sampleRequirements with amount } }
    paymentRequirements := { sampleRequirements with amount } }

/-- An amount with a sign is admitted, and the validator refuses a request of version 1 for
its version where the builder refuses it for its amount. -/
theorem sign_admitted_and_reasons_differ :
    x402RequestInvalidReason (sampleRequestOf 2 "+5") = none ∧
    ¬ (∀ c ∈ (sampleRequestOf 2 "+5").paymentRequirements.amount.toList, c.isDigit = true) ∧
    settlementRequest (sampleRequestOf 1 "0") = .error "zcash_exact_amount_invalid" ∧
    x402RequestInvalidReason (sampleRequestOf 1 "0") ≠ some "zcash_exact_amount_invalid" := by
  refine ⟨by decide, ?_, by decide, by decide⟩
  have hsign : '+' ∈ (sampleRequestOf 2 "+5").paymentRequirements.amount.toList := by decide
  exact fun hdigits => absurd (hdigits '+' hsign) (by decide)

end Zpay.X402
