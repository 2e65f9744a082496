import Zpay.Data.Guard

/-!
# The payment authorization an access token carries

The wallet signs only what the issuer put into the token: one
`payment_authorization` entry with a chain, a recipient, an amount, a payment
id, an expiry and a hash over that tuple.  This module is the wallet's reading
of it: the claims, the recomputed intent hash, the cross-check of the request
body, and the problem envelope every refusal is reported in.

`zally_core`'s hasher is not part of the repository; it is the structure
`IntentHasher`, and what is assumed of it is named there.

## Main results

* `cross_check_request_ok` — what the cross-check establishes about a body.
* `intent_matches_ok` — what the intent gate establishes about a parsed tuple.
* `IntentHasher.Binding.recompute_inj` — under an injective hasher, one
  authorization determines the recipient and amount its hash covers.
-/

open Zpay.Data

namespace Zpay.Wallet

/-! ## Problem details -/

/-- Wire-stable discriminator for the kind of problem the runtime hit. -/
inductive ProblemKind
  | paymentRequestInvalid
  | intentMismatch
  | audienceMismatch
  | tokenAlreadyConsumed
  | insufficientFunds
  | seedUnavailable
  | chainUnreachable
  | notReady
  | walletUnavailable
  | dpopProofInvalid
  | accessTokenInvalid
  | targetExpiryStale
  | targetExpiryMismatchInternal
  | tokenRevoked
  | recipientMismatch
  | amountExceeded
  | authorizationExpired
  | rarTooManyEntries
  | revocationCacheStale
  deriving DecidableEq, Repr

/-- Problem-detail envelope; no path of the sign handler attaches a
remediation hint. -/
structure ProblemDetail where
  kind : ProblemKind
  title : String
  detail : String
  retryable : Bool
  deriving DecidableEq, Repr

namespace ProblemDetail

def notRetryable (kind : ProblemKind) (title detail : String) : ProblemDetail :=
  { kind, title, detail, retryable := false }

def retryableDetail (kind : ProblemKind) (title detail : String) : ProblemDetail :=
  { kind, title, detail, retryable := true }

end ProblemDetail

/-- The HTTP status a kind is answered with. -/
def statusForKind : ProblemKind → Nat
  | .paymentRequestInvalid => 400
  | .dpopProofInvalid | .accessTokenInvalid | .tokenRevoked => 401
  | .intentMismatch | .recipientMismatch | .amountExceeded | .audienceMismatch => 403
  | .tokenAlreadyConsumed | .targetExpiryStale => 409
  | .authorizationExpired => 410
  | .insufficientFunds | .rarTooManyEntries => 422
  | .seedUnavailable | .chainUnreachable | .walletUnavailable
  | .revocationCacheStale | .notReady => 503
  | .targetExpiryMismatchInternal => 500

/-- A problem detail with the status it is sent under. -/
structure ProblemResponse where
  status : Nat
  body : ProblemDetail
  deriving DecidableEq, Repr

def ProblemResponse.badRequest (body : ProblemDetail) : ProblemResponse :=
  { status := 400, body }

def ProblemResponse.serverError (body : ProblemDetail) : ProblemResponse :=
  { status := 500, body }

def problemResponse (body : ProblemDetail) : ProblemResponse :=
  { status := statusForKind body.kind, body }

/-! ## The authorization entry -/

/-- CAIP-2 chain identifier. -/
structure ChainId where
  nameSpace : String
  reference : String
  deriving DecidableEq, Repr

/-- Unit an amount is counted in. -/
inductive AmountUnit
  | base
  deriving DecidableEq, Repr

/-- Bounded spend amount; `value` is a decimal string. -/
structure Amount where
  currency : String
  value : String
  unit : AmountUnit
  deriving DecidableEq, Repr

/-- Chain-tagged expiry; `unknown` stands for the hidden tail of the
non-exhaustive enum. -/
inductive ExpiresAt
  | blockHeight (height : UInt32)
  | slot (scalar : UInt64)
  | blockNumber (scalar : UInt64)
  | timestampSeconds (scalar : UInt64)
  | unknown
  deriving DecidableEq, Repr

/-- The `payment_authorization` entry of an access token.  Its `type` field
has a single value and is left out. -/
structure PaymentAuthorization where
  chain : ChainId
  recipient : String
  amount : Amount
  paymentId : String
  intentHash : String
  expiresAt : ExpiresAt
  deriving DecidableEq, Repr

/-- Verified claims of an access token. -/
structure AccessTokenClaims where
  aud : String
  jti : String
  exp : Int
  cnfJkt : String
  authorizationDetails : List PaymentAuthorization
  deriving DecidableEq, Repr

/-- The single authorization entry; any other count is refused. -/
def AccessTokenClaims.paymentAuthorization (claims : AccessTokenClaims) :
    Except ProblemDetail PaymentAuthorization :=
  match claims.authorizationDetails with
  | [single] => .ok single
  | entries => .error (.notRetryable .rarTooManyEntries "rar_too_many_entries"
      ("v1 accepts exactly one authorization_details entry; got "
        ++ toString entries.length))

/-! ## The intent hash -/

/-- The tuple the intent hash covers.  The memo of the payment request is not
part of it. -/
structure IntentInput where
  chainNamespace : String
  chainReference : String
  recipientCaip10 : String
  amountValue : UInt64
  amountUnit : AmountUnit
  paymentId : String
  expiryHeight : UInt64
  deriving DecidableEq, Repr

/-- `zally_core::IntentHash`: `compute` fails with a text when a hashed field
exceeds the wire length cap. -/
structure IntentHasher (H : Type) where
  compute : IntentInput → Except String H
  toWireString : H → String

/-- The hasher binds its input: no two inputs share a hash, no two hashes share
a wire string. -/
structure IntentHasher.Binding {H : Type} (hasher : IntentHasher H) : Prop where
  compute_inj : ∀ {a b : IntentInput} {h : H},
    hasher.compute a = .ok h → hasher.compute b = .ok h → a = b
  toWireString_inj : Function.Injective hasher.toWireString

/-- Project a chain-tagged expiry onto the scalar height the hasher binds. -/
def expiryHeight : ExpiresAt → UInt64
  | .blockHeight height => height.toUInt64
  | .slot scalar | .blockNumber scalar | .timestampSeconds scalar => scalar
  | .unknown => 0

section Intent

variable {H : Type} (hasher : IntentHasher H)

/-- The tuple hashed for `auth` against a parsed recipient and amount. -/
def intentInput (auth : PaymentAuthorization) (recipientCaip10 : String)
    (amountValue : UInt64) : IntentInput where
  chainNamespace := auth.chain.nameSpace
  chainReference := auth.chain.reference
  recipientCaip10 := recipientCaip10
  amountValue := amountValue
  amountUnit := auth.amount.unit
  paymentId := auth.paymentId
  expiryHeight := expiryHeight auth.expiresAt

/-- Recompute the wire-form intent hash for `auth` against the recipient and
amount the wallet parsed from the payment request. -/
def recomputeIntentHash (auth : PaymentAuthorization) (recipientCaip10 : String)
    (amountValue : UInt64) : Except String String := do
  let hash ← hasher.compute (intentInput auth recipientCaip10 amountValue)
  return hasher.toWireString hash

/-- Whether the parsed tuple reproduces the signed intent hash. -/
def intentMatches (auth : PaymentAuthorization) (recipientCaip10 : String)
    (amountValue : UInt64) : Except String Bool := do
  let recomputed ← recomputeIntentHash hasher auth recipientCaip10 amountValue
  return recomputed == auth.intentHash

/-- Classify a failed recompute as a recipient swap or a generic mismatch. -/
def classifyIntentDivergence (auth : PaymentAuthorization) (parsedAmount : UInt64) :
    ProblemResponse :=
  let recipientAloneDiverged :=
    match recomputeIntentHash hasher auth auth.recipient parsedAmount with
    | .ok recomputed => recomputed == auth.intentHash
    | .error _ => false
  if recipientAloneDiverged then
    problemResponse (.notRetryable .recipientMismatch "recipient_mismatch"
      "parsed recipient does not match the recipient the issuer signed into the authorization")
  else
    problemResponse (.notRetryable .intentMismatch "intent_mismatch"
      "recomputed intent_hash does not match the signed authorization")

variable {hasher}

theorem recomputeIntentHash_eq_ok {auth : PaymentAuthorization} {recipient wire : String}
    {amount : UInt64} :
    recomputeIntentHash hasher auth recipient amount = .ok wire ↔
      ∃ h, hasher.compute (intentInput auth recipient amount) = .ok h ∧
        hasher.toWireString h = wire := by
  simp only [recomputeIntentHash, bind_eq_ok, pure_eq_ok]

/-- The intent gate passes exactly when the recomputed wire string is the
signed one. -/
theorem intent_matches_ok {auth : PaymentAuthorization} {recipient : String}
    {amount : UInt64} :
    intentMatches hasher auth recipient amount = .ok true ↔
      recomputeIntentHash hasher auth recipient amount = .ok auth.intentHash := by
  simp only [intentMatches, bind_eq_ok, pure_eq_ok, beq_iff_eq, exists_eq_right]

/-- One wire string covers one recipient and one amount of an authorization. -/
theorem IntentHasher.Binding.recompute_inj (hb : hasher.Binding)
    {auth : PaymentAuthorization} {r r' wire : String} {v v' : UInt64}
    (h : recomputeIntentHash hasher auth r v = .ok wire)
    (h' : recomputeIntentHash hasher auth r' v' = .ok wire) : r = r' ∧ v = v' := by
  obtain ⟨hash, hcompute, hwire⟩ := recomputeIntentHash_eq_ok.1 h
  obtain ⟨hash', hcompute', hwire'⟩ := recomputeIntentHash_eq_ok.1 h'
  have hhash : hash = hash' := hb.toWireString_inj (hwire.trans hwire'.symm)
  subst hhash
  have hinput := hb.compute_inj hcompute hcompute'
  simp only [intentInput, IntentInput.mk.injEq] at hinput
  exact ⟨hinput.2.2.1, hinput.2.2.2.1⟩

end Intent

/-! ## The request body -/

/-- Scheme-tagged payment request body. -/
structure WirePaymentRequest where
  scheme : String
  value : String
  deriving DecidableEq, Repr

/-- Network discriminator on the inbound wire. -/
inductive WireNetwork
  | mainnet
  | testnet
  | regtest
  deriving DecidableEq, Repr

/-- CAIP-2 reference of a wire network. -/
def WireNetwork.reference : WireNetwork → String
  | .mainnet => "main"
  | .testnet => "test"
  | .regtest => "regtest"

theorem WireNetwork.reference_injective : Function.Injective WireNetwork.reference := by
  intro a b hab
  cases a <;> cases b <;> first | rfl | exact absurd hab (by decide)

/-- Inputs to `POST /v1/payments/sign`. -/
structure SignPaymentRequest where
  paymentRequest : WirePaymentRequest
  network : WireNetwork
  paymentId : String
  targetExpiryHeight : UInt32
  deriving DecidableEq, Repr

def rejectIntent (detail : String) : ProblemResponse :=
  problemResponse (.notRetryable .intentMismatch "intent_mismatch" detail)

/-- Project the expiry onto the block height the wallet commits to; other kinds
are refused. -/
def authExpiryHeight : ExpiresAt → Except ProblemDetail UInt32
  | .blockHeight height => .ok height
  | .slot _ | .blockNumber _ | .timestampSeconds _ =>
      .error (.notRetryable .paymentRequestInvalid "unsupported expiry kind"
        "zcash authorizations must carry a block_height expires_at")
  | .unknown =>
      .error (.notRetryable .paymentRequestInvalid "unsupported expiry kind"
        "unknown expires_at kind")

/-- Cross-check the plaintext body against the signed entry. -/
def crossCheckRequest (auth : PaymentAuthorization) (body : SignPaymentRequest) :
    Except ProblemResponse Unit := do
  ensure (body.paymentId = auth.paymentId)
    (rejectIntent "payment_id does not match the signed authorization")
  let expiry ← (authExpiryHeight auth.expiresAt).mapError problemResponse
  ensure (body.targetExpiryHeight = expiry)
    (rejectIntent "target_expiry_height does not match the signed authorization expires_at")
  ensure (auth.chain.nameSpace = "zcash" ∧ auth.chain.reference = body.network.reference)
    (rejectIntent "network does not match the signed authorization chain")

theorem auth_expiry_height_ok {expiresAt : ExpiresAt} {height : UInt32} :
    authExpiryHeight expiresAt = .ok height ↔ expiresAt = .blockHeight height := by
  cases expiresAt <;> simp [authExpiryHeight]

/-- A body that passes the cross-check repeats the entry's payment id, block
height and chain. -/
theorem cross_check_request_ok {auth : PaymentAuthorization} {body : SignPaymentRequest}
    {u : Unit} :
    crossCheckRequest auth body = .ok u ↔
      body.paymentId = auth.paymentId ∧
      auth.expiresAt = .blockHeight body.targetExpiryHeight ∧
      auth.chain = { nameSpace := "zcash", reference := body.network.reference } := by
  simp only [crossCheckRequest, bind_eq_ok, mapError_eq_ok, ensure_eq_ok,
    auth_expiry_height_ok]
  constructor
  · rintro ⟨_, hpayment, height, hexpiry, _, hheight, hchain⟩
    refine ⟨hpayment, hheight ▸ hexpiry, ?_⟩
    rw [← hchain.1, ← hchain.2]
  · rintro ⟨hpayment, hexpiry, hchain⟩
    exact ⟨(), hpayment, body.targetExpiryHeight, hexpiry, (), rfl, by simp [hchain]⟩

end Zpay.Wallet
