import Zpay.Core.Types
import Zpay.Wallet.Authorization
import Zpay.Wallet.UsageLedger

/-!
# The gates of a sign request

`sign_payment_inner` up to the wallet's propose step: verify the DPoP-bound
access token, cross-check the body against the signed entry, parse the payment
request, recompute the intent hash over what was parsed, apply the local cap,
consult the revocation cache and the sync state, and reserve the token.  What
survives is a `SignGrant`: the plan the wallet is asked to propose, and the
token it is charged to.

The wallet library, the JWT library and the DPoP proof check are parameters.

## Main results

* `Admitted`, `sign_gate_ok` — everything a granted request has passed.
* `one_token_one_payment` — two requests on one access token that reach the
  propose step propose the same payment, up to the memo.
-/

open Zpay.Core Zpay.Data Zpay.Machine

namespace Zpay.Wallet

/-! ## The wallet library -/

def WireNetwork.toZally : WireNetwork → Network
  | .mainnet => .mainnet
  | .testnet => .testnet
  | .regtest => .regtest

/-- One payment of a parsed ZIP-321 request. -/
structure Payment (R M : Type) where
  recipient : R
  amount : UInt64
  memo : Option M
  deriving DecidableEq, Repr

/-- What the handler uses of the wallet library: the intent hasher, the ZIP-321
parser, the string encoding of a recipient, and the `Debug` texts that appear in
refusals. -/
structure WalletLibrary (R M H : Type) extends IntentHasher H where
  fromUri : String → Network → Except String (List (Payment R M))
  encoded : R → String
  debugStr : String → String
  debugNetwork : Network → String

/-- On one network the encoding of a parsed recipient determines it. -/
def WalletLibrary.EncodingBinds {R M H : Type} (library : WalletLibrary R M H) : Prop :=
  ∀ {network : Network} {uri uri' : String} {ps ps' : List (Payment R M)}
    {p p' : Payment R M}, library.fromUri uri network = .ok ps →
    library.fromUri uri' network = .ok ps' → p ∈ ps → p' ∈ ps' →
    library.encoded p.recipient = library.encoded p'.recipient → p.recipient = p'.recipient

/-- What the wallet is asked to build. -/
structure ProposalPlan (R M : Type) where
  accountId : Nat
  recipient : R
  amount : UInt64
  memo : Option M
  deriving DecidableEq, Repr

/-! ## Access-token verification -/

inductive Algorithm
  | edDSA
  | es256
  | other (name : String)
  deriving DecidableEq, Repr

inductive AlgorithmParameters
  | octetKeyPair
  | ellipticCurveP256
  | ellipticCurve
  | rsa
  | octetKey
  deriving DecidableEq, Repr

structure Jwk where
  kid : String
  algorithm : AlgorithmParameters
  material : String
  deriving DecidableEq, Repr

structure TokenHeader where
  kid : Option String
  alg : Algorithm
  deriving DecidableEq, Repr

inductive JwtErrorKind
  | expiredSignature
  | invalidAudience
  | other
  deriving DecidableEq, Repr

structure JwtError where
  kind : JwtErrorKind
  text : String
  deriving DecidableEq, Repr

structure Validation where
  alg : Algorithm
  leewaySeconds : Nat
  audience : String
  deriving DecidableEq, Repr

/-- The `jsonwebtoken` calls of the access-token verifier; `decode` reads the
wall clock in epoch seconds. -/
structure JwtLibrary where
  decodeHeader : String → Except JwtError TokenHeader
  decodingKey : Jwk → Except JwtError Unit
  decode : String → Jwk → Validation → Int → Except JwtError AccessTokenClaims

/-- The claims of a token are the JSON of its payload segment: whatever key,
options and time it verifies under, they are the same. -/
def JwtLibrary.PayloadDetermined (jwt : JwtLibrary) : Prop :=
  ∀ {token : String} {key key' : Jwk} {v v' : Validation} {now now' : Int}
    {c c' : AccessTokenClaims},
    jwt.decode token key v now = .ok c → jwt.decode token key' v' now' = .ok c' → c = c'

def accessInvalidMsg (detail : String) : ProblemDetail :=
  .notRetryable .accessTokenInvalid "access_token_invalid" detail

def accessInvalid (context : String) (err : JwtError) : ProblemDetail :=
  .notRetryable .accessTokenInvalid "access_token_invalid" (context ++ ": " ++ err.text)

/-- Resolve the verification algorithm from the key material, not the token. -/
def jwkAlgorithm (jwk : Jwk) : Except ProblemDetail Algorithm :=
  match jwk.algorithm with
  | .octetKeyPair => .ok .edDSA
  | .ellipticCurveP256 => .ok .es256
  | .ellipticCurve | .rsa | .octetKey => .error (accessInvalidMsg
      "JWKS key type not supported for at+jwt verification (expected OKP/Ed25519 or EC/P-256)")

def mapDecodeError (err : JwtError) : ProblemDetail :=
  match err.kind with
  | .expiredSignature => .notRetryable .authorizationExpired "authorization_expired"
      "the access token has expired; request a new authorization"
  | .invalidAudience => .notRetryable .audienceMismatch "audience_mismatch"
      "the access token aud does not match this wallet's audience"
  | .other => accessInvalid "access token failed verification" err

/-- Verify a DPoP-bound `at+jwt` against the issuer's key set. -/
def verifyAccessToken (jwt : JwtLibrary) (token : String) (jwks : List Jwk)
    (expectedAudience : String) (leewaySeconds : Nat) (now : Int) :
    Except ProblemDetail AccessTokenClaims := do
  let header ← (jwt.decodeHeader token).mapError (accessInvalid "malformed token header")
  let kid ← okOr header.kid (accessInvalidMsg "access token header carries no kid")
  let jwk ← okOr (jwks.find? fun jwk => jwk.kid == kid)
    (accessInvalidMsg "no JWKS key matches the token kid")
  let keyAlg ← jwkAlgorithm jwk
  ensure (header.alg = keyAlg) (accessInvalidMsg
    "token header alg does not match the JWKS key type (alg-confusion guard)")
  (jwt.decodingKey jwk).mapError (accessInvalid "unusable JWKS key")
  (jwt.decode token jwk
    { alg := keyAlg, leewaySeconds, audience := expectedAudience } now).mapError mapDecodeError

/-- One token verifies to one set of claims. -/
theorem verify_access_token_unique {jwt : JwtLibrary} (hjwt : jwt.PayloadDetermined)
    {token : String} {jwks jwks' : List Jwk} {aud aud' : String} {leeway leeway' : Nat}
    {now now' : Int} {c c' : AccessTokenClaims}
    (h : verifyAccessToken jwt token jwks aud leeway now = .ok c)
    (h' : verifyAccessToken jwt token jwks' aud' leeway' now' = .ok c') : c = c' := by
  simp only [verifyAccessToken, bind_eq_ok, mapError_eq_ok] at h h'
  obtain ⟨_, -, _, -, key, -, _, -, _, -, _, -, hdecode⟩ := h
  obtain ⟨_, -, _, -, key', -, _, -, _, -, _, -, hdecode'⟩ := h'
  exact hjwt hdecode hdecode'

/-! ## The state a request reads -/

/-- Operator-pinned invariants of the wallet.  The recipient allowlist is not
consulted on this path and is left out. -/
structure SigningPolicy where
  network : Network
  maxAmountZat : UInt64
  audience : String
  deriving DecidableEq, Repr

inductive RevocationOutcome
  | live
  | revoked
  | cacheStale
  deriving DecidableEq, Repr

inductive WalletSyncPhase
  | starting
  | syncing
  | waiting
  | recovering
  | parked
  | closing
  | closed
  | unknown
  deriving DecidableEq, Repr

def WalletSyncPhase.label : WalletSyncPhase → String
  | .starting => "starting"
  | .syncing => "syncing"
  | .waiting => "waiting"
  | .recovering => "recovering"
  | .parked => "parked"
  | .closing => "closing"
  | .closed => "closed"
  | .unknown => "unknown"

/-- The fields of the sync driver's snapshot the freshness gate reads. -/
structure WalletSyncSnapshot where
  network : Network
  phase : WalletSyncPhase
  scannedHeight : Option UInt32
  visibleTipHeight : Option UInt32
  settledTipHeight : Option UInt32
  lagBlocks : Option UInt32
  publishedAtMs : Nat
  deriving DecidableEq, Repr

/-- A request's DPoP proof is pinned against these. -/
structure DpopBinding where
  method : String
  requestUrl : String
  accessToken : String
  boundJkt : String
  deriving DecidableEq, Repr

/-- The fields of `AppState` the handler reads, with the answers the shared
components give it at the time of the request. -/
structure AppState where
  policy : SigningPolicy
  accountId : Nat
  jwks : List Jwk
  publicSignUrl : String
  leewaySeconds : Nat
  dpopProofJtiSeen : Table String Nat
  walletSync : WalletSyncSnapshot
  walletSyncMaxLagBlocks : UInt32
  walletSyncStaleAfterSeconds : Nat
  /-- `revocation.check`'s answer for a token. -/
  revocation : String → RevocationOutcome
  /-- Wall clock, in milliseconds since the epoch. -/
  unixNowMs : Nat
  /-- Monotonic clock, in milliseconds. -/
  instantMs : Nat

/-- The two headers the handler reads, where they are valid text. -/
structure SignHeaders where
  authorization : Option String
  dpop : Option String
  deriving DecidableEq, Repr

/-! ## Gates -/

/-- Pull the access token and the DPoP proof off the request headers. -/
def extractDpopBearer (headers : SignHeaders) : Except ProblemResponse (String × String) := do
  let accessToken ← okOr
    (((headers.authorization.bind (Text.stripPrefix "DPoP ")).map Text.trim).filter (· ≠ ""))
    (problemResponse (.notRetryable .accessTokenInvalid "access_token_invalid"
      "missing or malformed Authorization: DPoP <at+jwt> header"))
  let proof ← okOr ((headers.dpop.map Text.trim).filter (· ≠ ""))
    (problemResponse (.notRetryable .dpopProofInvalid "dpop_proof_invalid"
      "missing DPoP proof header"))
  return (accessToken, proof)

/-- `DPOP_REPLAY_WINDOW_SECONDS`, in milliseconds. -/
def dpopReplayWindowMs : Nat := 300000

/-- Record a verified proof `jti` in the short-window anti-replay set, refusing
one already seen in the window. -/
def recordDpopJti (seen : Table String Nat) (instantMs : Nat) (jti : String) :
    Except ProblemResponse Unit × Table String Nat :=
  let kept := seen.retain fun _ recorded => decide (instantMs - recorded < dpopReplayWindowMs)
  match kept.lookup jti with
  | some _ => (.error (problemResponse (.notRetryable .dpopProofInvalid "dpop_proof_invalid"
      "DPoP proof jti was already presented in the replay window")), kept)
  | none => (.ok (), kept.insert jti instantMs)

/-- The check of a DPoP proof against its binding at a time in epoch seconds;
it answers with the proof's own `jti`. -/
abbrev VerifyDpopProof := String → DpopBinding → Int → Except ProblemDetail String

section Gate

variable {R M H : Type} (library : WalletLibrary R M H) (jwt : JwtLibrary)
variable (verifyDpopProof : VerifyDpopProof) (state : AppState)

def unixNow : Int := min (state.unixNowMs / 1000 : Nat) (2 ^ 63 - 1)

/-- Verify the DPoP-bound access token of a request. -/
def verifySpendAuthorization (headers : SignHeaders) :
    Except ProblemResponse AccessTokenClaims := do
  let (accessToken, proof) ← extractDpopBearer headers
  let claims ← (verifyAccessToken jwt accessToken state.jwks state.policy.audience
    state.leewaySeconds (unixNow state)).mapError problemResponse
  let binding : DpopBinding :=
    { method := "POST", requestUrl := state.publicSignUrl, accessToken,
      boundJkt := claims.cnfJkt }
  let proofJti ← (verifyDpopProof proof binding (unixNow state)).mapError problemResponse
  (recordDpopJti state.dpopProofJtiSeen state.instantMs proofJti).1
  return claims

def isWalletSyncFresh (snapshot : WalletSyncSnapshot) (expectedNetwork : Network)
    (maxLagBlocks : UInt32) (staleAfterSeconds snapshotAgeSeconds : Nat) : Bool :=
  if snapshot.network ≠ expectedNetwork ∨ staleAfterSeconds < snapshotAgeSeconds then false
  else if snapshot.phase ≠ .syncing ∧ snapshot.phase ≠ .waiting then false
  else
    match snapshot.lagBlocks with
    | none => false
    | some lagBlocks =>
        snapshot.scannedHeight.isSome && snapshot.visibleTipHeight.isSome &&
          snapshot.settledTipHeight.isSome && decide (lagBlocks ≤ maxLagBlocks)

def debugLag : Option UInt32 → String
  | none => "None"
  | some lag => "Some(" ++ toString lag ++ ")"

def requireWalletSyncFresh : Except ProblemResponse Unit :=
  let snapshot := state.walletSync
  let snapshotAgeSeconds := (state.unixNowMs - snapshot.publishedAtMs) / 1000
  ensure (isWalletSyncFresh snapshot state.policy.network state.walletSyncMaxLagBlocks
      state.walletSyncStaleAfterSeconds snapshotAgeSeconds = true)
    (problemResponse (.retryableDetail .walletUnavailable "wallet_unavailable"
      ("wallet sync phase=" ++ snapshot.phase.label ++ " lag_blocks="
        ++ debugLag snapshot.lagBlocks ++ " snapshot_age_seconds="
        ++ toString snapshotAgeSeconds ++ "; retry after sync freshness recovers")))

/-- The revocation gate, ahead of any cached payload. -/
def requireLive (jti : String) : Except ProblemResponse Unit :=
  match state.revocation jti with
  | .live => .ok ()
  | .revoked => .error (problemResponse (.notRetryable .tokenRevoked "token_revoked"
      "this access-token jti was revoked at the issuer after mint"))
  | .cacheStale => .error (problemResponse (.retryableDetail .revocationCacheStale
      "revocation_cache_stale"
      "the revocation cache is older than the staleness bound and the issuer is unreachable; retry shortly"))

/-- A request that passed every gate before the single-use reserve: the token
and intent it is charged to, and what the wallet will be asked to propose. -/
structure SignGrant (R M : Type) where
  jti : String
  intentHash : String
  network : Network
  plan : ProposalPlan R M
  targetExpiryHeight : UInt32
  deriving DecidableEq, Repr

/-- The gates between a verified token and the single-use reserve. -/
def signGate (claims : AccessTokenClaims) (body : SignPaymentRequest) :
    Except ProblemResponse (SignGrant R M) := do
  let auth ← claims.paymentAuthorization.mapError problemResponse
  crossCheckRequest auth body
  ensure (body.paymentRequest.scheme = "zip321")
    (.badRequest (.notRetryable .paymentRequestInvalid
      "payment_request scheme not supported"
      ("scheme=" ++ library.debugStr body.paymentRequest.scheme
        ++ "; only zip321 is supported in Phase 4")))
  let requestedNetwork := body.network.toZally
  ensure (requestedNetwork = state.policy.network)
    (.badRequest (.notRetryable .paymentRequestInvalid "network mismatch"
      ("request network=" ++ library.debugNetwork requestedNetwork
        ++ " does not match policy network=" ++ library.debugNetwork state.policy.network)))
  let parsed ← (library.fromUri body.paymentRequest.value requestedNetwork).mapError
    fun err => .badRequest (.notRetryable .paymentRequestInvalid "ZIP-321 parse failed" err)
  let payment ← okOr parsed.head?
    (.badRequest (.notRetryable .paymentRequestInvalid "payment_request carried no payments"
      "ZIP-321 URI parsed but the payment list was empty"))
  let recipientCaip10 :=
    "zcash:" ++ auth.chain.reference ++ ":" ++ library.encoded payment.recipient
  let intentOk ← (intentMatches library.toIntentHasher auth recipientCaip10
    payment.amount).mapError fun err =>
      problemResponse (.notRetryable .intentMismatch "intent_mismatch" err)
  ensure (intentOk = true)
    (classifyIntentDivergence library.toIntentHasher auth payment.amount)
  ensure (payment.amount ≤ state.policy.maxAmountZat)
    (problemResponse (.notRetryable .amountExceeded "amount exceeds wallet backstop cap"
      ("requested " ++ toString payment.amount ++ " > max "
        ++ toString state.policy.maxAmountZat)))
  requireLive state claims.jti
  requireWalletSyncFresh state
  return {
    jti := claims.jti
    intentHash := auth.intentHash
    network := requestedNetwork
    plan := { accountId := state.accountId, recipient := payment.recipient,
              amount := payment.amount, memo := payment.memo }
    targetExpiryHeight := body.targetExpiryHeight }

def ledgerUnavailable (err : LedgerError) : ProblemResponse :=
  problemResponse (.retryableDetail .notReady "not_ready"
    ("single-use ledger is unavailable: " ++ err.display))

/-- How the handler goes on from the answer of the reserve: `none` is the
permission to ask the wallet for a proposal. -/
def afterReserve : Except LedgerError Reservation →
    Except ProblemResponse (Option SignPaymentResponse)
  | .ok .fresh => .ok none
  | .ok (.completed cached) => .ok (some cached)
  | .ok .intentConflict => .error (problemResponse (.notRetryable .tokenAlreadyConsumed
      "token_already_consumed"
      "this access-token jti was already used to sign a different intent"))
  | .ok .pending => .error (problemResponse (.retryableDetail .notReady "not_ready"
      "this access-token jti is being signed by an in-flight request; retry shortly"))
  | .error err => .error (ledgerUnavailable err)

/-- `now_ms` of the ledger. -/
def nowMs (unixMs : Nat) : Int := min unixMs (2 ^ 63 - 1)

/-- What a request asks the wallet to propose, when it gets that far: the
grant it passes to `propose_pczt` after a fresh reserve on `ledger`. -/
def reachesPropose (codec : PayloadCodec) (ledger : UsageLedger) (headers : SignHeaders)
    (body : SignPaymentRequest) : Except ProblemResponse (Option (SignGrant R M)) := do
  let claims ← verifySpendAuthorization jwt verifyDpopProof state headers
  let grant ← signGate library state claims body
  let answer := (reserveAt codec ledger grant.jti grant.intentHash (nowMs state.unixNowMs)).1
  match ← afterReserve answer with
  | none => return some grant
  | some _ => return none

end Gate

/-! ## What a grant has passed -/

section Admission

variable {R M H : Type} {library : WalletLibrary R M H} {jwt : JwtLibrary}
variable {verifyDpopProof : VerifyDpopProof} {state : AppState}

/-- CAIP-10 account id of a parsed recipient on the chain of `auth`. -/
def caip10 (library : WalletLibrary R M H) (auth : PaymentAuthorization) (recipient : R) :
    String :=
  "zcash:" ++ auth.chain.reference ++ ":" ++ library.encoded recipient

/-- Everything a granted request has passed, with the entry it was checked
against. -/
structure Admitted (library : WalletLibrary R M H) (state : AppState)
    (claims : AccessTokenClaims) (body : SignPaymentRequest) (auth : PaymentAuthorization)
    (grant : SignGrant R M) : Prop where
  entry : claims.authorizationDetails = [auth]
  jti : grant.jti = claims.jti
  intentHash : grant.intentHash = auth.intentHash
  paymentId : body.paymentId = auth.paymentId
  expiry : auth.expiresAt = .blockHeight grant.targetExpiryHeight
  chain : auth.chain = { nameSpace := "zcash", reference := body.network.reference }
  scheme : body.paymentRequest.scheme = "zip321"
  network : grant.network = body.network.toZally
  policyNetwork : grant.network = state.policy.network
  parsed : ∃ payments payment,
    library.fromUri body.paymentRequest.value grant.network = .ok payments ∧
    payments.head? = some payment ∧
    grant.plan = { accountId := state.accountId, recipient := payment.recipient,
                   amount := payment.amount, memo := payment.memo }
  /-- The signed hash covers exactly what is going to be proposed. -/
  intent : recomputeIntentHash library.toIntentHasher auth
    (caip10 library auth grant.plan.recipient) grant.plan.amount = .ok auth.intentHash
  cap : grant.plan.amount ≤ state.policy.maxAmountZat
  revocation : state.revocation grant.jti = .live

theorem payment_authorization_ok {claims : AccessTokenClaims} {auth : PaymentAuthorization} :
    claims.paymentAuthorization = .ok auth ↔ claims.authorizationDetails = [auth] := by
  unfold AccessTokenClaims.paymentAuthorization
  split
  · next single hdetails => simp [hdetails]
  · next entries hmany =>
      constructor
      · intro h
        cases h
      · intro hone
        exact absurd hone (hmany auth)

theorem require_live_ok {jti : String} {u : Unit} :
    requireLive state jti = .ok u ↔ state.revocation jti = .live := by
  unfold requireLive
  cases state.revocation jti <;> simp

/-- A grant has passed every gate. -/
theorem sign_gate_ok {claims : AccessTokenClaims} {body : SignPaymentRequest}
    {grant : SignGrant R M} (h : signGate library state claims body = .ok grant) :
    ∃ auth, Admitted library state claims body auth grant := by
  simp only [signGate, bind_eq_ok, mapError_eq_ok, ensure_eq_ok, okOr_eq_ok, pure_eq_ok,
    payment_authorization_ok, cross_check_request_ok] at h
  obtain ⟨auth, hentry, _, ⟨hpayment, hexpiry, hchain⟩, _, hscheme, _, hnetwork, payments,
    hparsed, payment, hhead, matched, hmatches, _, hmatched, _, hcap, _, hlive, _, -,
    hgrant⟩ := h
  subst hgrant
  subst hmatched
  have hintent := intent_matches_ok.1 hmatches
  exact ⟨auth, {
    entry := hentry, jti := rfl, intentHash := rfl, paymentId := hpayment,
    expiry := hexpiry, chain := hchain, scheme := hscheme, network := rfl,
    policyNetwork := hnetwork, parsed := ⟨payments, payment, hparsed, hhead, rfl⟩,
    intent := hintent, cap := hcap, revocation := require_live_ok.1 hlive }⟩

/-- A request asks the wallet for a proposal only with a verified token, a
grant, and a fresh reserve. -/
theorem reaches_propose_some {codec : PayloadCodec} {ledger : UsageLedger}
    {headers : SignHeaders} {body : SignPaymentRequest} {grant : SignGrant R M}
    (h : reachesPropose library jwt verifyDpopProof state codec ledger headers body
      = .ok (some grant)) :
    ∃ claims, verifySpendAuthorization jwt verifyDpopProof state headers = .ok claims ∧
      signGate library state claims body = .ok grant := by
  simp only [reachesPropose, bind_eq_ok] at h
  obtain ⟨claims, hclaims, grant', hgrant, next, -, hnext⟩ := h
  cases next with
  | none =>
      have heq : grant' = grant := by simpa using hnext
      exact ⟨claims, hclaims, heq ▸ hgrant⟩
  | some cached => simp at hnext

/-- The claims a request is granted on are those of the token it presents. -/
theorem verify_spend_authorization_ok {headers : SignHeaders} {claims : AccessTokenClaims}
    {token proof : String} (htoken : extractDpopBearer headers = .ok (token, proof))
    (h : verifySpendAuthorization jwt verifyDpopProof state headers = .ok claims) :
    verifyAccessToken jwt token state.jwks state.policy.audience state.leewaySeconds
      (unixNow state) = .ok claims := by
  simp only [verifySpendAuthorization, htoken, bind_eq_ok, Except.ok.injEq, mapError_eq_ok,
    exists_eq_left', pure_eq_ok] at h
  obtain ⟨claims', hverify, _, -, _, -, heq⟩ := h
  exact heq ▸ hverify

/-! ## One token, one payment -/

/-- `auth` is the single payment authorization of `token`. -/
def TokenEntry (jwt : JwtLibrary) (token : String) (auth : PaymentAuthorization) : Prop :=
  ∃ key validation now claims,
    jwt.decode token key validation now = .ok claims ∧ claims.authorizationDetails = [auth]

theorem verify_access_token_decodes {token : String} {jwks : List Jwk} {aud : String}
    {leeway : Nat} {now : Int} {claims : AccessTokenClaims}
    (h : verifyAccessToken jwt token jwks aud leeway now = .ok claims) :
    ∃ key validation, jwt.decode token key validation now = .ok claims := by
  simp only [verifyAccessToken, bind_eq_ok, mapError_eq_ok] at h
  obtain ⟨_, -, _, -, key, -, _, -, _, -, _, -, hdecode⟩ := h
  exact ⟨key, _, hdecode⟩

/-- A proposal against the entry of a token: chain, expiry, recipient and amount
are what the signed hash covers. -/
structure BoundBy (library : WalletLibrary R M H) (auth : PaymentAuthorization)
    (grant : SignGrant R M) : Prop where
  expiry : auth.expiresAt = .blockHeight grant.targetExpiryHeight
  covered : recomputeIntentHash library.toIntentHasher auth
    (caip10 library auth grant.plan.recipient) grant.plan.amount = .ok auth.intentHash
  /-- Where the entry's hash covers its own recipient and some amount, these are
  the recipient and the amount of the proposal. -/
  selfConsistent : ∀ amount, recomputeIntentHash library.toIntentHasher auth auth.recipient
      amount = .ok auth.intentHash →
    caip10 library auth grant.plan.recipient = auth.recipient ∧ grant.plan.amount = amount

theorem Admitted.boundBy {claims : AccessTokenClaims} {body : SignPaymentRequest}
    {auth : PaymentAuthorization} {grant : SignGrant R M}
    (hadmitted : Admitted library state claims body auth grant)
    (hbinding : library.Binding) : BoundBy library auth grant where
  expiry := hadmitted.expiry
  covered := hadmitted.intent
  selfConsistent := fun _ hown => hbinding.recompute_inj hadmitted.intent hown

/-- Two admissions on one entry agree on everything the plan carries but the
account and the memo. -/
theorem Admitted.agree {state' : AppState} {claims claims' : AccessTokenClaims}
    {body body' : SignPaymentRequest} {auth : PaymentAuthorization}
    {grant grant' : SignGrant R M} (hbinding : library.Binding)
    (hencoding : library.EncodingBinds)
    (h : Admitted library state claims body auth grant)
    (h' : Admitted library state' claims' body' auth grant') :
    grant.network = grant'.network ∧ grant.plan.recipient = grant'.plan.recipient ∧
      grant.plan.amount = grant'.plan.amount ∧
      grant.targetExpiryHeight = grant'.targetExpiryHeight := by
  have hreference : body.network = body'.network := by
    have hchains := h.chain.symm.trans h'.chain
    exact WireNetwork.reference_injective (ChainId.mk.inj hchains).2
  have hnetwork : grant.network = grant'.network := by
    rw [h.network, h'.network, hreference]
  have hexpiry : grant.targetExpiryHeight = grant'.targetExpiryHeight :=
    ExpiresAt.blockHeight.inj (h.expiry.symm.trans h'.expiry)
  obtain ⟨hcaip, hamount⟩ := hbinding.recompute_inj h.intent h'.intent
  have hencoded : library.encoded grant.plan.recipient
      = library.encoded grant'.plan.recipient := (String.append_right_inj _).1 hcaip
  obtain ⟨ps, p, hps, hp, hplan⟩ := h.parsed
  obtain ⟨ps', p', hps', hp', hplan'⟩ := h'.parsed
  rw [hplan, hplan'] at hencoded ⊢
  rw [← hnetwork] at hps'
  have hrecipient := hencoding hps hps' (List.mem_of_mem_head? hp)
    (List.mem_of_mem_head? hp') hencoded
  refine ⟨hnetwork, hrecipient, ?_, hexpiry⟩
  rw [hplan, hplan'] at hamount
  exact hamount

/-- Two requests that present one access token and both reach the wallet's
propose step propose the same payment: same network, recipient, amount and
target expiry height, each bound by the token's entry.  The memo of the parsed
URI is outside the signed tuple. -/
theorem one_token_one_payment {state' : AppState} {codec : PayloadCodec}
    {ledger ledger' : UsageLedger} {headers headers' : SignHeaders}
    {body body' : SignPaymentRequest} {token proof proof' : String}
    {grant grant' : SignGrant R M}
    (hbinding : library.Binding) (hencoding : library.EncodingBinds)
    (hjwt : jwt.PayloadDetermined)
    (htoken : extractDpopBearer headers = .ok (token, proof))
    (htoken' : extractDpopBearer headers' = .ok (token, proof'))
    (h : reachesPropose library jwt verifyDpopProof state codec ledger headers body
      = .ok (some grant))
    (h' : reachesPropose library jwt verifyDpopProof state' codec ledger' headers' body'
      = .ok (some grant')) :
    (grant.network = grant'.network ∧ grant.plan.recipient = grant'.plan.recipient ∧
      grant.plan.amount = grant'.plan.amount ∧
      grant.targetExpiryHeight = grant'.targetExpiryHeight) ∧
    ∃ auth, TokenEntry jwt token auth ∧ BoundBy library auth grant ∧
      BoundBy library auth grant' := by
  obtain ⟨claims, hverified, hgranted⟩ := reaches_propose_some h
  obtain ⟨claims', hverified', hgranted'⟩ := reaches_propose_some h'
  obtain ⟨auth, hadmitted⟩ := sign_gate_ok hgranted
  obtain ⟨auth', hadmitted'⟩ := sign_gate_ok hgranted'
  have hclaims := verify_spend_authorization_ok htoken hverified
  have hclaims' := verify_spend_authorization_ok htoken' hverified'
  have hsame : claims = claims' := verify_access_token_unique hjwt hclaims hclaims'
  have hauth : auth = auth' := by
    have hentries := hadmitted.entry.symm.trans (hsame ▸ hadmitted'.entry)
    exact (List.cons.inj hentries).1
  subst hauth
  obtain ⟨key, validation, hdecode⟩ := verify_access_token_decodes hclaims
  exact ⟨hadmitted.agree hbinding hencoding hadmitted',
    auth, ⟨key, validation, _, claims, hdecode, hadmitted.entry⟩,
    hadmitted.boundBy hbinding, hadmitted'.boundBy hbinding⟩

end Admission

/-! ### Two memos under one token -/

def sampleAuth : PaymentAuthorization where
  chain := { nameSpace := "zcash", reference := "test" }
  recipient := "zcash:test:utest1q"
  amount := { currency := "ZEC", value := "50000000", unit := .base }
  paymentId := "01HQ6N9YK4ZN5Z3M8WJX5T1F7Q"
  intentHash := "v1:sha256:AAAAAAAAAAAAAAAAAAAAAAAAAAAAAAAAAAAAAAAAAAA"
  expiresAt := .blockHeight 4047100

def sampleClaims : AccessTokenClaims where
  aud := "urn:zentity:wallet:test"
  jti := "jti-1"
  exp := 4102444800
  cnfJkt := "jkt"
  authorizationDetails := [sampleAuth]

/-- A hasher with one known tuple, and a parser for one recipient and amount
under any memo. -/
def sampleLibrary : WalletLibrary String String Unit where
  compute input :=
    if input = intentInput sampleAuth "zcash:test:utest1q" 50000000 then .ok ()
    else .error "hashed field exceeds the wire length cap"
  toWireString _ := "v1:sha256:AAAAAAAAAAAAAAAAAAAAAAAAAAAAAAAAAAAAAAAAAAA"
  fromUri uri _ :=
    match Text.stripPrefix "zcash:utest1q?amount=0.5&memo=" uri with
    | some memo => .ok [{ recipient := "utest1q", amount := 50000000, memo := some memo }]
    | none => .error "not a zcash URI"
  encoded recipient := recipient
  debugStr text := text
  debugNetwork _ := "Testnet"

theorem sampleLibrary_binding : sampleLibrary.Binding where
  compute_inj := by
    intro a b _ ha hb
    have known : ∀ input, sampleLibrary.compute input = .ok () →
        input = intentInput sampleAuth "zcash:test:utest1q" 50000000 := by
      intro input hinput
      by_contra hne
      simp [sampleLibrary, hne] at hinput
    exact (known a ha).trans (known b hb).symm
  toWireString_inj := fun _ _ _ => rfl

theorem sampleLibrary_encodingBinds : sampleLibrary.EncodingBinds :=
  fun _ _ _ _ hencoded => hencoded

def sampleJwt : JwtLibrary where
  decodeHeader _ := .ok { kid := some "issuer", alg := .edDSA }
  decodingKey _ := .ok ()
  decode token _ _ _ :=
    if token = "at" then .ok sampleClaims
    else .error { kind := .other, text := "InvalidToken" }

theorem sampleJwt_payloadDetermined : sampleJwt.PayloadDetermined := by
  intro token _ _ _ _ _ _ c c' h h'
  exact Except.ok.inj (h.symm.trans h')

def sampleState : AppState where
  policy := { network := .testnet, maxAmountZat := 100000000,
              audience := "urn:zentity:wallet:test" }
  accountId := 0
  jwks := [{ kid := "issuer", algorithm := .octetKeyPair, material := "x" }]
  publicSignUrl := "https://wallet.test/v1/payments/sign"
  leewaySeconds := 60
  dpopProofJtiSeen := ∅
  walletSync :=
    { network := .testnet, phase := .waiting, scannedHeight := some 4047000,
      visibleTipHeight := some 4047000, settledTipHeight := some 4046900,
      lagBlocks := some 0, publishedAtMs := 1700000000000 }
  walletSyncMaxLagBlocks := 10
  walletSyncStaleAfterSeconds := 60
  revocation _ := .live
  unixNowMs := 1700000001000
  instantMs := 1000

def sampleCodec : PayloadCodec where
  toJson response := .ok response.signedPayload.txId
  fromJson _ := .error "not stored"

def sampleHeaders (proof : String) : SignHeaders where
  authorization := some "DPoP at"
  dpop := some proof

def sampleBody (memo : String) : SignPaymentRequest where
  paymentRequest := { scheme := "zip321", value := "zcash:utest1q?amount=0.5&memo=" ++ memo }
  network := .testnet
  paymentId := "01HQ6N9YK4ZN5Z3M8WJX5T1F7Q"
  targetExpiryHeight := 4047100

def sampleGrant (memo : String) : SignGrant String String where
  jti := "jti-1"
  intentHash := "v1:sha256:AAAAAAAAAAAAAAAAAAAAAAAAAAAAAAAAAAAAAAAAAAA"
  network := .testnet
  plan := { accountId := 0, recipient := "utest1q", amount := 50000000, memo := some memo }
  targetExpiryHeight := 4047100

theorem sample_reaches_a :
    reachesPropose sampleLibrary sampleJwt (fun proof _ _ => .ok proof) sampleState
      sampleCodec ∅ (sampleHeaders "proof-1") (sampleBody "a")
      = .ok (some (sampleGrant "a")) := by
  rfl

theorem sample_reaches_b :
    reachesPropose sampleLibrary sampleJwt (fun proof _ _ => .ok proof) sampleState
      sampleCodec ∅ (sampleHeaders "proof-2") (sampleBody "b")
      = .ok (some (sampleGrant "b")) := by
  rfl

/-- The two sample requests propose one payment, bound by the sample entry. -/
theorem one_token_one_payment_sample :
    ((sampleGrant "a").network = (sampleGrant "b").network ∧
      (sampleGrant "a").plan.recipient = (sampleGrant "b").plan.recipient ∧
      (sampleGrant "a").plan.amount = (sampleGrant "b").plan.amount ∧
      (sampleGrant "a").targetExpiryHeight = (sampleGrant "b").targetExpiryHeight) ∧
    ∃ auth, TokenEntry sampleJwt "at" auth ∧
      BoundBy sampleLibrary auth (sampleGrant "a") ∧
      BoundBy sampleLibrary auth (sampleGrant "b") :=
  have htoken : extractDpopBearer (sampleHeaders "proof-1") = .ok ("at", "proof-1") := rfl
  have htoken' : extractDpopBearer (sampleHeaders "proof-2") = .ok ("at", "proof-2") := rfl
  one_token_one_payment sampleLibrary_binding sampleLibrary_encodingBinds
    sampleJwt_payloadDetermined htoken htoken' sample_reaches_a sample_reaches_b

/-- The memo is outside the signed tuple: one token, two requests that differ in
the memo alone, and two different proposals. -/
theorem one_token_two_memos :
    sampleLibrary.Binding ∧ sampleLibrary.EncodingBinds ∧ sampleJwt.PayloadDetermined ∧
    ∃ headers headers' body body' grant grant',
      extractDpopBearer headers = .ok ("at", "proof-1") ∧
      extractDpopBearer headers' = .ok ("at", "proof-2") ∧
      reachesPropose sampleLibrary sampleJwt (fun proof _ _ => .ok proof) sampleState
        sampleCodec ∅ headers body = .ok (some grant) ∧
      reachesPropose sampleLibrary sampleJwt (fun proof _ _ => .ok proof) sampleState
        sampleCodec ∅ headers' body' = .ok (some grant') ∧
      grant.plan.memo ≠ grant'.plan.memo :=
  ⟨sampleLibrary_binding, sampleLibrary_encodingBinds, sampleJwt_payloadDetermined,
    sampleHeaders "proof-1", sampleHeaders "proof-2", sampleBody "a", sampleBody "b",
    sampleGrant "a", sampleGrant "b", rfl, rfl, sample_reaches_a, sample_reaches_b,
    by decide⟩

end Zpay.Wallet
