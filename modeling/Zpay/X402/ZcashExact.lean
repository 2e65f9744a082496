import Zpay.Core.Pczt
import Zpay.Data.Encoding
import Zpay.X402.Wire

/-!
# The Zcash exact binding

The checks that turn an x402 request into a PCZT settlement request.  The
binding first names a reason a request is invalid, and then reads the same
fields again to build the settlement request; the second pass repeats the
checks of the first.

## Main results

* `settlement_request_of_valid` — a request the first pass accepts is accepted
  by the second.
* `settlement_request_ok` — what an accepted request asks to settle.
-/

open Zpay.Data Zpay.Core

namespace Zpay.X402

def zcashExactBindingVersion : String := "x402-zcash-exact-v1"

def zcashExactScheme : String := "exact"

def zcashExactAsset : String := "ZEC"

def zcashExactAmountUnit : String := "zat"

def zcashExactAuthorizationFormat : String := "pczt-v2-extractable"

def zpayPaymentIdExtension : String := "zpayPaymentId"

/-- `ZCASH_EXACT_MAX_ZAT`. -/
def zcashExactMaxZat : UInt64 := 21000000 * 100000000

def zcashMainnetNetwork : String := "zcash:mainnet"

def zcashTestnetNetwork : String := "zcash:testnet"

def zcashRegtestNetwork : String := "zcash:regtest"

/-! ## The checks -/

def isZcashNetwork (network : String) : Bool :=
  network = zcashMainnetNetwork || network = zcashTestnetNetwork ||
    network = zcashRegtestNetwork

def paymentNetwork (network : String) : Option PaymentNetwork :=
  if network = zcashMainnetNetwork then some .mainnet
  else if network = zcashTestnetNetwork then some .testnet
  else if network = zcashRegtestNetwork then some .regtest
  else none

def isValidZatAmount (amountZat : String) : Bool :=
  (parseU64 amountZat).any fun parsedZat =>
    decide (0 < parsedZat) && decide (parsedZat ≤ zcashExactMaxZat)

/-- The prefixes an address of the network may have. -/
def recipientPrefixes (network : String) : List String :=
  if network = zcashMainnetNetwork then ["u1", "zu1", "zs1"]
  else if network = zcashTestnetNetwork then ["utest1", "zutest1", "ztestsapling1"]
  else if network = zcashRegtestNetwork then ["uregtest1", "zuregtest1", "zregtestsapling1"]
  else []

def hasValidRecipientPrefix (network payTo : String) : Bool :=
  (recipientPrefixes network).any fun pre => Text.startsWith payTo pre

def requirementsInvalidReason (requirements : PaymentRequirements) : Option String :=
  if requirements.scheme ≠ zcashExactScheme then some "zcash_exact_scheme_invalid"
  else if isZcashNetwork requirements.network = false then some "zcash_exact_network_invalid"
  else if requirements.asset ≠ zcashExactAsset then some "zcash_exact_asset_unsupported"
  else if isValidZatAmount requirements.amount = false then some "zcash_exact_amount_invalid"
  else if hasValidRecipientPrefix requirements.network requirements.payTo = false then
    some "zcash_exact_pay_to_invalid"
  else none

/-- `fields.get(key).and_then(as_str)`. -/
def Fields.getStr (fields : Fields) (key : String) : Option String :=
  (fields.get key).bind Value.asStr

def authorizationInvalidReason (authorization : Value) : Option String :=
  match authorization.asObject with
  | none => some "zcash_exact_authorization_malformed"
  | some authorizationFields =>
      match authorizationFields.getStr "format" with
      | none => some "zcash_exact_authorization_malformed"
      | some format =>
          if format ≠ zcashExactAuthorizationFormat then
            some "zcash_exact_authorization_format_unsupported"
          else
            match authorizationFields.getStr "pczt" with
            | none => some "zcash_exact_authorization_malformed"
            | some pczt =>
                if pczt = "" then some "zcash_exact_authorization_malformed"
                else if (decodeBase64Url pczt).isNone then
                  some "zcash_exact_authorization_malformed"
                else none

def hasZcashExactNetwork (requirements : PaymentRequirements) : Bool :=
  requirements.scheme = zcashExactScheme && isZcashNetwork requirements.network

def isZcashExactRequest (request : FacilitatorRequest) : Bool :=
  hasZcashExactNetwork request.paymentRequirements

def requestInvalidReason (request : FacilitatorRequest) : Option String :=
  if isZcashExactRequest request = false then none
  else
    (requirementsInvalidReason request.paymentRequirements).or
      (authorizationInvalidReason request.paymentPayload.payload)

/-- The second pass. -/
def settlementRequest (request : FacilitatorRequest) : Except String PcztSettlementRequest := do
  ensure (isZcashExactRequest request = true) "scheme_network_not_supported"
  match requestInvalidReason request with
  | some reason => .error reason
  | none => .ok ()
  let network ← okOr (paymentNetwork request.paymentRequirements.network)
    "zcash_exact_network_invalid"
  let amountZat ← okOr (parseU64 request.paymentRequirements.amount) "zcash_exact_amount_invalid"
  let authorization ← okOr request.paymentPayload.payload.asObject
    "zcash_exact_authorization_malformed"
  let pczt ← okOr (authorization.getStr "pczt") "zcash_exact_authorization_malformed"
  let pcztBytes ← okOr (decodeBase64Url pczt) "zcash_exact_authorization_malformed"
  return { network, amountZat, payTo := request.paymentRequirements.payTo, pcztBytes }

/-- The lifecycle id the requirements name; one that is not a string counts as
none. -/
def zpayPaymentId (requirements : PaymentRequirements) : Except String (Option PaymentId) :=
  match requirements.extra.getStr zpayPaymentIdExtension with
  | none => .ok none
  | some rawPaymentId =>
      ((PaymentId.fromStr rawPaymentId).map some).mapError fun _ => "zpay_payment_id_invalid"

def bindingExtensions : Fields :=
  .ofList [("binding", .string zcashExactBindingVersion), ("bindingStatus", .string "implemented"),
    ("amountUnit", .string zcashExactAmountUnit), ("asset", .string zcashExactAsset),
    ("authorizationFormat", .string zcashExactAuthorizationFormat),
    ("settlementPosture", .string "extracts_and_broadcasts_pczt")]

def responseExtensions (request : FacilitatorRequest) : Fields :=
  if hasZcashExactNetwork request.paymentRequirements then bindingExtensions else .nil

/-! ## The two passes agree -/

theorem payment_network_of_zcash {network : String} (h : isZcashNetwork network = true) :
    ∃ paymentNet, paymentNetwork network = some paymentNet := by
  unfold isZcashNetwork at h
  rw [Bool.or_eq_true, Bool.or_eq_true, decide_eq_true_eq, decide_eq_true_eq,
    decide_eq_true_eq] at h
  rcases h with (rfl | rfl) | rfl
  · exact ⟨.mainnet, by decide⟩
  · exact ⟨.testnet, by decide⟩
  · exact ⟨.regtest, by decide⟩

/-- Requirements without a reason pass every check. -/
theorem requirements_invalid_reason_eq_none {requirements : PaymentRequirements} :
    requirementsInvalidReason requirements = none ↔
      requirements.scheme = zcashExactScheme ∧ isZcashNetwork requirements.network = true ∧
      requirements.asset = zcashExactAsset ∧ isValidZatAmount requirements.amount = true ∧
      hasValidRecipientPrefix requirements.network requirements.payTo = true := by
  unfold requirementsInvalidReason
  simp only [ite_some_eq_none, ne_eq, not_not, Bool.not_eq_false, and_true]

/-- An authorization without a reason is an object with a PCZT that decodes. -/
theorem authorization_invalid_reason_eq_none {authorization : Value}
    (h : authorizationInvalidReason authorization = none) :
    ∃ fields pczt bytes, authorization.asObject = some fields ∧
      fields.getStr "pczt" = some pczt ∧ decodeBase64Url pczt = some bytes := by
  unfold authorizationInvalidReason at h
  split at h
  · exact absurd h (by simp)
  · next fields hobject =>
      split at h
      · exact absurd h (by simp)
      · next format hformat =>
          obtain ⟨-, h⟩ := ite_some_eq_none.1 h
          split at h
          · exact absurd h (by simp)
          · next pczt hpczt =>
              obtain ⟨-, h⟩ := ite_some_eq_none.1 h
              obtain ⟨hdecodes, -⟩ := ite_some_eq_none.1 h
              rw [Bool.not_eq_true, Option.isNone_eq_false_iff,
                Option.isSome_iff_exists] at hdecodes
              obtain ⟨bytes, hbytes⟩ := hdecodes
              exact ⟨fields, pczt, bytes, hobject, hpczt, hbytes⟩

/-- What an accepted request asks to settle. -/
theorem settlement_request_ok {request : FacilitatorRequest}
    {settlement : PcztSettlementRequest} (h : settlementRequest request = .ok settlement) :
    isZcashExactRequest request = true ∧ requestInvalidReason request = none ∧
      paymentNetwork request.paymentRequirements.network = some settlement.network ∧
      parseU64 request.paymentRequirements.amount = some settlement.amountZat ∧
      settlement.payTo = request.paymentRequirements.payTo ∧
      ∃ authorization, request.paymentPayload.payload.asObject = some authorization ∧
        ∃ pczt, authorization.getStr "pczt" = some pczt ∧
          decodeBase64Url pczt = some settlement.pcztBytes := by
  unfold settlementRequest at h
  cases hreason : requestInvalidReason request with
  | some reason => simp [hreason] at h
  | none =>
      simp only [hreason, bind_eq_ok, ensure_eq_ok, okOr_eq_ok, pure_eq_ok] at h
      obtain ⟨_, hexact, _, -, network, hnetwork, amount, hamount, fields, hobject, pczt, hpczt,
        bytes, hbytes, rfl⟩ := h
      exact ⟨hexact, rfl, hnetwork, hamount, rfl, fields, hobject, pczt, hpczt, hbytes⟩

/-- A request the first pass accepts is accepted by the second. -/
theorem settlement_request_of_valid {request : FacilitatorRequest}
    (hexact : isZcashExactRequest request = true)
    (hvalid : requestInvalidReason request = none) :
    ∃ settlement, settlementRequest request = .ok settlement := by
  have hchecks := hvalid
  unfold requestInvalidReason at hchecks
  rw [if_neg (by simp [hexact]), Option.or_eq_none_iff] at hchecks
  obtain ⟨hrequirements, hauthorization⟩ := hchecks
  obtain ⟨-, hnetwork, -, hamount, -⟩ := requirements_invalid_reason_eq_none.1 hrequirements
  obtain ⟨fields, pczt, bytes, hobject, hpczt, hbytes⟩ :=
    authorization_invalid_reason_eq_none hauthorization
  obtain ⟨network, hnetwork⟩ := payment_network_of_zcash hnetwork
  obtain ⟨amount, hamount, -⟩ := (Option.any_eq_true _ _).1 hamount
  refine ⟨⟨network, amount, request.paymentRequirements.payTo, bytes⟩, ?_⟩
  simp only [settlementRequest, hvalid, bind_eq_ok, ensure_eq_ok, okOr_eq_ok, pure_eq_ok]
  exact ⟨(), hexact, (), trivial, network, hnetwork, amount, hamount, fields, hobject, pczt, hpczt,
    bytes, hbytes, rfl⟩

end Zpay.X402
