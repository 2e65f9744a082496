import Zpay.Wallet.SignRequest

/-!
# What the intent gate decides

The handler recomputes the signed intent hash over the recipient and the amount it parsed.
A request that does not reproduce it is classified by a second recompute, with the signed
recipient in place of the parsed one: when that one reproduces the hash the payee alone was
swapped, otherwise the amount drifted.

`signGate` is cut here into what comes up to the gate and what comes after it.  No stage but
the gate answers with a mismatch once the body is cross-checked, so the kind the handler
answers with tells what the gate decided.

## Main results

* `sign_gate_eq` — the gates up to the intent gate, and the ones after it.
* `intent_gate_eq` — the gate, for an entry whose hash covers its own fields.
* `answers_mismatch_iff` — the mismatches the handler answers with are the gate's.
* `intent_gate_decides` — which request passes, and which mismatch the others are told.
-/

open Zpay.Core Zpay.Data

namespace Zpay.Wallet.SignRequest

variable {R M H : Type}

/-! ## The handler around the gate -/

section Stages

variable (library : WalletLibrary R M H) (state : AppState)

/-- The payment the handler reads of a body: the first of the parsed request. -/
def firstPayment (body : SignPaymentRequest) : Except ProblemResponse (Payment R M) := do
  ensure (body.paymentRequest.scheme = "zip321")
    (.badRequest (.notRetryable .paymentRequestInvalid
      "payment_request scheme not supported"
      ("scheme=" ++ library.debugStr body.paymentRequest.scheme
        ++ "; only zip321 is supported in Phase 4")))
  let requestedNetwork := body.network.toZally
  ensure (requestedNetwork = state.policy.network)
    (.badRequest (.notRetryable .paymentRequestInvalid "network mismatch"
      ("request network=" ++ library.debugNetwork requestedNetwork
        ++ " does not match policy network=" ++ library.debugNetwork state.policy.network)))
  let parsed ← (library.fromUri body.paymentRequest.value requestedNetwork).mapError
    fun err => .badRequest (.notRetryable .paymentRequestInvalid "ZIP-321 parse failed" err)
  okOr parsed.head?
    (.badRequest (.notRetryable .paymentRequestInvalid "payment_request carried no payments"
      "ZIP-321 URI parsed but the payment list was empty"))

/-- The intent gate itself. -/
def intentGate (auth : PaymentAuthorization) (payment : Payment R M) :
    Except ProblemResponse Unit := do
  let intentOk ← (intentMatches library.toIntentHasher auth
    (caip10 library auth payment.recipient) payment.amount).mapError fun err =>
      problemResponse (.notRetryable .intentMismatch "intent_mismatch" err)
  ensure (intentOk = true)
    (classifyIntentDivergence library.toIntentHasher auth payment.amount)

/-- The gates up to the intent gate, with the entry and the payment that pass it. -/
def throughIntentGate (claims : AccessTokenClaims) (body : SignPaymentRequest) :
    Except ProblemResponse (PaymentAuthorization × Payment R M) := do
  let auth ← claims.paymentAuthorization.mapError problemResponse
  crossCheckRequest auth body
  let payment ← firstPayment library state body
  intentGate library auth payment
  return (auth, payment)

/-- The gates between the intent gate and the reserve. -/
def afterIntentGate (claims : AccessTokenClaims) (body : SignPaymentRequest)
    (passed : PaymentAuthorization × Payment R M) : Except ProblemResponse (SignGrant R M) := do
  let (auth, payment) := passed
  ensure (payment.amount ≤ state.policy.maxAmountZat)
    (problemResponse (.notRetryable .amountExceeded "amount exceeds wallet backstop cap"
      ("requested " ++ toString payment.amount ++ " > max "
        ++ toString state.policy.maxAmountZat)))
  requireLive state claims.jti
  requireWalletSyncFresh state
  return {
    jti := claims.jti
    intentHash := auth.intentHash
    network := body.network.toZally
    plan := { accountId := state.accountId, recipient := payment.recipient,
              amount := payment.amount, memo := payment.memo }
    targetExpiryHeight := body.targetExpiryHeight }

theorem sign_gate_eq (claims : AccessTokenClaims) (body : SignPaymentRequest) :
    signGate library state claims body =
      throughIntentGate library state claims body >>= afterIntentGate state claims body := by
  simp only [signGate, throughIntentGate, firstPayment, intentGate, afterIntentGate, caip10,
    bind_assoc, pure_bind]

/-- A verified request gets beyond the intent gate. -/
def PassesIntentGate (claims : AccessTokenClaims) (body : SignPaymentRequest) : Prop :=
  ∃ passed, throughIntentGate library state claims body = .ok passed

end Stages

/-- A problem of one kind is answered. -/
def AnswersKind {α : Type} (answer : Except ProblemResponse α) (kind : ProblemKind) : Prop :=
  ∃ err, answer = .error err ∧ err.body.kind = kind

/-! ## Which stages answer with a mismatch -/

/-- The two kinds the intent gate tells a diverging request. -/
def namesMismatch : ProblemKind → Bool
  | .recipientMismatch | .intentMismatch => true
  | _ => false

section Quiet

variable {library : WalletLibrary R M H} {state : AppState} {err : ProblemResponse}

theorem first_payment_error {body : SignPaymentRequest}
    (h : firstPayment library state body = .error err) :
    namesMismatch err.body.kind = false := by
  simp only [firstPayment, bind_eq_error, ensure_eq_error, mapError_eq_error, okOr_eq_error] at h
  rcases h with ⟨-, rfl⟩ | ⟨_, -, ⟨-, rfl⟩ | ⟨_, -, ⟨_, -, rfl⟩ | ⟨_, -, -, rfl⟩⟩⟩
  all_goals rfl

theorem require_live_error {jti : String} (h : requireLive state jti = .error err) :
    namesMismatch err.body.kind = false := by
  unfold requireLive at h
  cases hanswer : state.revocation jti with
  | live => simp [hanswer] at h
  | revoked =>
      simp only [hanswer, Except.error.injEq] at h
      rw [← h]
      rfl
  | cacheStale =>
      simp only [hanswer, Except.error.injEq] at h
      rw [← h]
      rfl

theorem after_intent_gate_error {claims : AccessTokenClaims} {body : SignPaymentRequest}
    {passed : PaymentAuthorization × Payment R M}
    (h : afterIntentGate state claims body passed = .error err) :
    namesMismatch err.body.kind = false := by
  simp only [afterIntentGate, requireWalletSyncFresh, bind_eq_error, ensure_eq_error,
    pure_ne_error, and_false, exists_false, or_false] at h
  rcases h with ⟨-, rfl⟩ | ⟨_, -, hlive | ⟨_, -, -, rfl⟩⟩
  · rfl
  · exact require_live_error hlive
  · rfl

theorem after_reserve_error {answer : Except LedgerError Reservation}
    (h : afterReserve answer = .error err) : namesMismatch err.body.kind = false := by
  cases answer with
  | error cause =>
      rw [← Except.error.inj h]
      rfl
  | ok reservation =>
      cases reservation with
      | fresh => exact absurd h (by simp [afterReserve])
      | completed cached => exact absurd h (by simp [afterReserve])
      | intentConflict =>
          rw [← Except.error.inj h]
          rfl
      | pending =>
          rw [← Except.error.inj h]
          rfl

theorem map_wallet_err_kind (cause : WalletError) :
    namesMismatch (mapWalletErr cause).body.kind = false := by
  cases cause <;> rfl

theorem wallet_steps_error {wallet : WalletRun} (h : wallet.steps = .error err) :
    namesMismatch err.body.kind = false := by
  simp only [WalletRun.steps, bind_eq_error, mapError_eq_error, ensure_eq_error, pure_ne_error,
    and_false, exists_false, or_false] at h
  rcases h with ⟨cause, -, rfl⟩ | ⟨_, -, ⟨cause, -, rfl⟩ | ⟨_, -, ⟨cause, -, rfl⟩ |
    ⟨_, -, ⟨cause, -, rfl⟩ | ⟨_, -, -, rfl⟩⟩⟩⟩
  · exact map_wallet_err_kind cause
  · exact map_wallet_err_kind cause
  · exact map_wallet_err_kind cause
  · exact map_wallet_err_kind cause
  · rfl

variable {codec : PayloadCodec} {jwt : JwtLibrary} {verifyDpopProof : VerifyDpopProof}
variable {ledger : UsageLedger} {request : Request} {wallet : WalletRun}
variable {claims : AccessTokenClaims} {auth : PaymentAuthorization}

/-- A request that got its grant is not told of a mismatch any more. -/
theorem granted_error {grant : SignGrant R M}
    (hverified : verifySpendAuthorization jwt verifyDpopProof state request.headers = .ok claims)
    (hgranted : signGate library state claims request.body = .ok grant)
    (h : (signPaymentInner codec library jwt verifyDpopProof state ledger request wallet).1 =
      .error err) : namesMismatch err.body.kind = false := by
  unfold signPaymentInner at h
  simp only [hverified, hgranted] at h
  cases hreserve : afterReserve
      (reserveAt codec ledger grant.jti grant.intentHash (nowMs state.unixNowMs)).1 with
  | error cause =>
      simp only [hreserve, Except.error.injEq] at h
      rw [← h]
      exact after_reserve_error hreserve
  | ok reserved =>
      cases reserved with
      | some cached => simp [hreserve] at h
      | none =>
          simp only [hreserve, settle_answer] at h
          exact wallet_steps_error h

/-- The handler answers with the refusal of a gate as it is. -/
theorem refused_answer
    (hverified : verifySpendAuthorization jwt verifyDpopProof state request.headers = .ok claims)
    (hrefused : signGate library state claims request.body = .error err) :
    (signPaymentInner codec library jwt verifyDpopProof state ledger request wallet).1 =
      .error err := by
  unfold signPaymentInner
  simp only [hverified, hrefused]

theorem not_answersKind {α : Type} {answer : Except ProblemResponse α} {kind : ProblemKind}
    (hkind : namesMismatch kind = true)
    (hquiet : ∀ err, answer = .error err → namesMismatch err.body.kind = false) :
    ¬ AnswersKind answer kind := by
  rintro ⟨err, hanswer, rfl⟩
  rw [hquiet err hanswer] at hkind
  exact absurd hkind (by decide)

/-- Up to the intent gate, a cross-checked request is the payment that is read of it, or the
refusal to read one. -/
theorem through_intent_gate_eq {body : SignPaymentRequest}
    (hentry : claims.paymentAuthorization = .ok auth)
    (hcross : crossCheckRequest auth body = .ok ()) :
    throughIntentGate library state claims body =
      firstPayment library state body >>= fun payment =>
        intentGate library auth payment >>= fun _ => pure (auth, payment) := by
  unfold throughIntentGate
  rw [hentry, Except.mapError]
  simp only [hcross, bind, Except.bind]

theorem passes_intent_gate_iff {body : SignPaymentRequest}
    (hentry : claims.paymentAuthorization = .ok auth)
    (hcross : crossCheckRequest auth body = .ok ()) :
    PassesIntentGate library state claims body ↔
      ∃ payment, firstPayment library state body = .ok payment ∧
        intentGate library auth payment = .ok () := by
  unfold PassesIntentGate
  simp only [through_intent_gate_eq hentry hcross, bind_eq_ok, pure_eq_ok]
  constructor
  · rintro ⟨_, payment, hpayment, _, hgate, -⟩
    exact ⟨payment, hpayment, hgate⟩
  · rintro ⟨payment, hpayment, hgate⟩
    exact ⟨_, payment, hpayment, (), hgate, rfl⟩

variable (library state) in
/-- What all gates say of a cross-checked request: that no payment can be read of it, that the
payment diverges, or what the later gates say. -/
theorem sign_gate_cases {body : SignPaymentRequest}
    (hentry : claims.paymentAuthorization = .ok auth)
    (hcross : crossCheckRequest auth body = .ok ()) :
    (∀ err, firstPayment library state body = .error err →
      signGate library state claims body = .error err) ∧
    ∀ payment, firstPayment library state body = .ok payment →
      (∀ err, intentGate library auth payment = .error err →
        signGate library state claims body = .error err) ∧
      (intentGate library auth payment = .ok () →
        signGate library state claims body =
          afterIntentGate state claims body (auth, payment)) := by
  rw [sign_gate_eq, through_intent_gate_eq hentry hcross]
  refine ⟨fun err herror => ?_, fun payment hpayment => ⟨fun err herror => ?_, fun hgate => ?_⟩⟩
  · rw [herror]
    rfl
  · rw [hpayment]
    simp only [bind, Except.bind, herror]
  · rw [hpayment]
    simp only [bind, Except.bind, hgate]
    rfl

/-- The mismatches the handler answers a cross-checked request with are the intent gate's. -/
theorem answers_mismatch_iff
    (hverified : verifySpendAuthorization jwt verifyDpopProof state request.headers = .ok claims)
    (hentry : claims.paymentAuthorization = .ok auth)
    (hcross : crossCheckRequest auth request.body = .ok ()) {kind : ProblemKind}
    (hkind : namesMismatch kind = true) :
    AnswersKind (signPaymentInner codec library jwt verifyDpopProof state ledger request wallet).1
        kind ↔
      ∃ payment, firstPayment library state request.body = .ok payment ∧
        AnswersKind (intentGate library auth payment) kind := by
  obtain ⟨hunread, hread⟩ := sign_gate_cases library state hentry hcross
  cases hpayment : firstPayment library state request.body with
  | error cause =>
      refine iff_of_false (not_answersKind hkind fun err h => ?_) (by simp)
      rw [refused_answer hverified (hunread cause hpayment), Except.error.injEq] at h
      exact h ▸ first_payment_error hpayment
  | ok payment =>
      obtain ⟨hdiverges, hpasses⟩ := hread payment hpayment
      simp only [Except.ok.injEq, exists_eq_left']
      cases hgate : intentGate library auth payment with
      | error cause =>
          unfold AnswersKind
          rw [refused_answer hverified (hdiverges cause hgate)]
          simp only [Except.error.injEq]
      | ok u =>
          have hafter := hpasses hgate
          refine iff_of_false (not_answersKind hkind fun err h => ?_)
            (not_answersKind hkind fun err h => by cases h)
          cases hgrant : signGate library state claims request.body with
          | error cause =>
              rw [refused_answer hverified hgrant, Except.error.injEq] at h
              rw [hafter] at hgrant
              exact h ▸ after_intent_gate_error hgrant
          | ok grant => exact granted_error hverified hgrant h

end Quiet

/-! ## What the hash decides -/

section Decision

variable {library : WalletLibrary R M H} {hasher : IntentHasher H} {auth : PaymentAuthorization}
variable {amountZat : UInt64}

/-- The entry's intent hash is the hash of its own chain, recipient, amount, payment id and
expiry; `amountZat` is the number its amount value denotes. -/
structure SelfConsistent (hasher : IntentHasher H) (auth : PaymentAuthorization)
    (amountZat : UInt64) : Prop where
  amount : parseU64 auth.amount.value = some amountZat
  hash : recomputeIntentHash hasher auth auth.recipient amountZat = .ok auth.intentHash

/-- The hash is that of one recipient and one amount. -/
theorem SelfConsistent.recompute_iff (h : SelfConsistent hasher auth amountZat)
    (hbinding : hasher.Binding) {recipient : String} {amount : UInt64} :
    recomputeIntentHash hasher auth recipient amount = .ok auth.intentHash ↔
      recipient = auth.recipient ∧ amount = amountZat := by
  constructor
  · exact fun hsame => hbinding.recompute_inj hsame h.hash
  · rintro ⟨rfl, rfl⟩
    exact h.hash

/-- The culprit of a divergence: the payee, where the amount is the signed one. -/
theorem SelfConsistent.classify_kind (h : SelfConsistent hasher auth amountZat)
    (hbinding : hasher.Binding) (amount : UInt64) :
    (classifyIntentDivergence hasher auth amount).body.kind =
      if amount = amountZat then .recipientMismatch else .intentMismatch := by
  unfold classifyIntentDivergence
  by_cases hamount : amount = amountZat
  · rw [if_pos hamount, hamount, h.hash]
    simp only [beq_self_eq_true, if_true]
    rfl
  · rw [if_neg hamount]
    cases hrecompute : recomputeIntentHash hasher auth auth.recipient amount with
    | error cause => rfl
    | ok recomputed =>
        have hdiffers : (recomputed == auth.intentHash) = false := by
          rw [beq_eq_false_iff_ne]
          rintro rfl
          exact hamount ((h.recompute_iff hbinding).1 hrecompute).2
        simp only [hdiffers]
        rfl

/-- The recipient and the amount of a payment are the signed ones. -/
def Matches (library : WalletLibrary R M H) (auth : PaymentAuthorization) (amountZat : UInt64)
    (payment : Payment R M) : Prop :=
  caip10 library auth payment.recipient = auth.recipient ∧ payment.amount = amountZat

instance (payment : Payment R M) : Decidable (Matches library auth amountZat payment) :=
  inferInstanceAs (Decidable (_ ∧ _))

/-- The gate, where the hash of what was parsed can be computed. -/
theorem intent_gate_eq (h : SelfConsistent library.toIntentHasher auth amountZat)
    (hbinding : library.Binding) {payment : Payment R M} {hash : H}
    (hcompute : library.compute
      (intentInput auth (caip10 library auth payment.recipient) payment.amount) = .ok hash) :
    intentGate library auth payment =
      if Matches library auth amountZat payment then .ok ()
      else .error (classifyIntentDivergence library.toIntentHasher auth payment.amount) := by
  have hrecompute : recomputeIntentHash library.toIntentHasher auth
      (caip10 library auth payment.recipient) payment.amount =
        .ok (library.toWireString hash) :=
    recomputeIntentHash_eq_ok.2 ⟨hash, hcompute, rfl⟩
  have hsame : library.toWireString hash = auth.intentHash ↔
      Matches library auth amountZat payment := by
    unfold Matches
    rw [← h.recompute_iff hbinding, hrecompute, Except.ok.injEq]
  unfold intentGate intentMatches ensure
  rw [hrecompute]
  simp only [bind, Except.bind, pure, Except.pure, Except.mapError, beq_iff_eq, hsame]

theorem intent_gate_ok_iff (h : SelfConsistent library.toIntentHasher auth amountZat)
    (hbinding : library.Binding) {payment : Payment R M} {hash : H}
    (hcompute : library.compute
      (intentInput auth (caip10 library auth payment.recipient) payment.amount) = .ok hash) :
    intentGate library auth payment = .ok () ↔ Matches library auth amountZat payment := by
  rw [intent_gate_eq h hbinding hcompute]
  split <;> simp_all

/-- A payment that does not match is told the kind of its divergence. -/
theorem intent_gate_kind_iff (h : SelfConsistent library.toIntentHasher auth amountZat)
    (hbinding : library.Binding) {payment : Payment R M} {hash : H}
    (hcompute : library.compute
      (intentInput auth (caip10 library auth payment.recipient) payment.amount) = .ok hash)
    {kind : ProblemKind} :
    AnswersKind (intentGate library auth payment) kind ↔
      ¬ Matches library auth amountZat payment ∧
        (if payment.amount = amountZat then ProblemKind.recipientMismatch
          else .intentMismatch) = kind := by
  unfold AnswersKind
  rw [intent_gate_eq h hbinding hcompute, ← h.classify_kind hbinding payment.amount]
  by_cases hmatches : Matches library auth amountZat payment
  · simp [hmatches]
  · simp [hmatches]

theorem intent_gate_recipient_iff (h : SelfConsistent library.toIntentHasher auth amountZat)
    (hbinding : library.Binding) {payment : Payment R M} {hash : H}
    (hcompute : library.compute
      (intentInput auth (caip10 library auth payment.recipient) payment.amount) = .ok hash) :
    AnswersKind (intentGate library auth payment) .recipientMismatch ↔
      caip10 library auth payment.recipient ≠ auth.recipient ∧ payment.amount = amountZat := by
  rw [intent_gate_kind_iff h hbinding hcompute, Matches]
  by_cases hamount : payment.amount = amountZat
  · simp [hamount]
  · simp [hamount]

theorem intent_gate_intent_iff (h : SelfConsistent library.toIntentHasher auth amountZat)
    (hbinding : library.Binding) {payment : Payment R M} {hash : H}
    (hcompute : library.compute
      (intentInput auth (caip10 library auth payment.recipient) payment.amount) = .ok hash) :
    AnswersKind (intentGate library auth payment) .intentMismatch ↔
      payment.amount ≠ amountZat := by
  rw [intent_gate_kind_iff h hbinding hcompute, Matches]
  by_cases hamount : payment.amount = amountZat
  · simp [hamount]
  · simp [hamount]

end Decision

/-- With a hash that binds, a cross-checked request under a self-consistent entry passes the
intent gate exactly when the first payment it asks for has the signed recipient and amount.
Told of a mismatch, it is told of the recipient exactly when that alone differs, and of the
intent exactly when the amount does. -/
theorem intent_gate_decides (codec : PayloadCodec) {library : WalletLibrary R M H}
    {jwt : JwtLibrary} {verifyDpopProof : VerifyDpopProof} {state : AppState}
    (ledger : UsageLedger) {request : Request} (wallet : WalletRun) {claims : AccessTokenClaims}
    {auth : PaymentAuthorization} {amountZat : UInt64} (hbinding : library.Binding)
    (hverified : verifySpendAuthorization jwt verifyDpopProof state request.headers = .ok claims)
    (hentry : claims.paymentAuthorization = .ok auth)
    (hcross : crossCheckRequest auth request.body = .ok ())
    (hsigned : SelfConsistent library.toIntentHasher auth amountZat)
    (hcomputes : ∀ payment, firstPayment library state request.body = .ok payment →
      ∃ hash, library.compute
        (intentInput auth (caip10 library auth payment.recipient) payment.amount) = .ok hash) :
    (PassesIntentGate library state claims request.body ↔
      ∃ payment, firstPayment library state request.body = .ok payment ∧
        caip10 library auth payment.recipient = auth.recipient ∧ payment.amount = amountZat) ∧
    (AnswersKind (signPaymentInner codec library jwt verifyDpopProof state ledger request wallet).1
        .recipientMismatch ↔
      ∃ payment, firstPayment library state request.body = .ok payment ∧
        caip10 library auth payment.recipient ≠ auth.recipient ∧ payment.amount = amountZat) ∧
    (AnswersKind (signPaymentInner codec library jwt verifyDpopProof state ledger request wallet).1
        .intentMismatch ↔
      ∃ payment, firstPayment library state request.body = .ok payment ∧
        payment.amount ≠ amountZat) := by
  refine ⟨?_, ?_, ?_⟩
  · rw [passes_intent_gate_iff hentry hcross]
    refine exists_congr fun payment => and_congr_right fun hpayment => ?_
    obtain ⟨hash, hcompute⟩ := hcomputes payment hpayment
    exact intent_gate_ok_iff hsigned hbinding hcompute
  · rw [answers_mismatch_iff hverified hentry hcross rfl]
    refine exists_congr fun payment => and_congr_right fun hpayment => ?_
    obtain ⟨hash, hcompute⟩ := hcomputes payment hpayment
    exact intent_gate_recipient_iff hsigned hbinding hcompute
  · rw [answers_mismatch_iff hverified hentry hcross rfl]
    refine exists_congr fun payment => and_congr_right fun hpayment => ?_
    obtain ⟨hash, hcompute⟩ := hcomputes payment hpayment
    exact intent_gate_intent_iff hsigned hbinding hcompute

/-! ### A swapped payee -/

/-- A testnet address. -/
def payeeAddress : String :=
  "utest10t56q4744d9ygg4l7uku7wzgp4kqhxpdajuf8vrgqn7pj6rpecpj"
    ++ "fg3f56z95vkvc79tm3kqem0mx27dwp9arkkft56v9duyluqdw5az"

/-- The entry of the conformance vector. -/
def vectorAuth : PaymentAuthorization where
  chain := { nameSpace := "zcash", reference := "test" }
  recipient := "zcash:test:utest1qq..."
  amount := { currency := "ZEC", value := "50000000", unit := .base }
  paymentId := "01KT9A0V431VGD5YH7R7G635HC"
  intentHash := "v1:sha256:tH5IGJbnV6NxSl9nmwbFc8EWDF6rfYcXgOfHFmmIjUQ"
  expiresAt := .blockHeight 4047100

/-- The digest of the vector. -/
def vectorDigest : List UInt8 :=
  [180, 126, 72, 24, 150, 231, 87, 163, 113, 74, 95, 103, 155, 6, 197, 115,
    193, 22, 12, 94, 171, 125, 135, 23, 128, 231, 199, 22, 105, 136, 141, 68]

/-- The digest of the same tuple with another payee. -/
def swappedDigest : List UInt8 :=
  [39, 147, 217, 223, 81, 123, 71, 166, 83, 154, 193, 73, 119, 68, 120, 113,
    214, 57, 62, 235, 141, 237, 108, 170, 55, 99, 251, 231, 6, 133, 107, 142]

def vectorClaims : AccessTokenClaims := { sampleClaims with authorizationDetails := [vectorAuth] }

/-- The digests of two tuples, and the parser on one URI. -/
def vectorLibrary : WalletLibrary String String (List UInt8) where
  compute input :=
    if input = intentInput vectorAuth vectorAuth.recipient 50000000 then .ok vectorDigest
    else if input = intentInput vectorAuth ("zcash:test:" ++ payeeAddress) 50000000 then
      .ok swappedDigest
    else .error "hashed field exceeds the wire length cap"
  toWireString digest := "v1:sha256:" ++ encodeBase64Url digest
  fromUri uri _ :=
    if uri = "zcash:" ++ payeeAddress ++ "?amount=0.5" then
      .ok [{ recipient := payeeAddress, amount := 50000000, memo := none }]
    else .error "not a zcash URI"
  encoded recipient := recipient
  debugStr text := text
  debugNetwork _ := "Testnet"

theorem vectorLibrary_compute {input : IntentInput} {digest : List UInt8}
    (h : vectorLibrary.compute input = .ok digest) :
    (digest = vectorDigest ∧ input = intentInput vectorAuth vectorAuth.recipient 50000000) ∨
      digest = swappedDigest ∧
        input = intentInput vectorAuth ("zcash:test:" ++ payeeAddress) 50000000 := by
  unfold vectorLibrary at h
  simp only at h
  split at h
  · next hvector => exact Or.inl ⟨(Except.ok.inj h).symm, hvector⟩
  · split at h
    · next hswapped => exact Or.inr ⟨(Except.ok.inj h).symm, hswapped⟩
    · exact absurd h (by simp)

theorem vectorLibrary_binding : vectorLibrary.Binding where
  compute_inj := by
    intro a b digest ha hb
    have hdiffer : vectorDigest ≠ swappedDigest := by decide
    rcases vectorLibrary_compute ha with ⟨hdigest, hinput⟩ | ⟨hdigest, hinput⟩
    · rcases vectorLibrary_compute hb with ⟨-, hinput'⟩ | ⟨hdigest', -⟩
      · rw [hinput, hinput']
      · exact absurd (hdigest.symm.trans hdigest') hdiffer
    · rcases vectorLibrary_compute hb with ⟨hdigest', -⟩ | ⟨-, hinput'⟩
      · exact absurd (hdigest'.symm.trans hdigest) hdiffer
      · rw [hinput, hinput']
  toWireString_inj := by
    intro digest digest' hsame
    have hencoded : encodeBase64Url digest = encodeBase64Url digest' := by
      have hchars := congrArg String.toList hsame
      simp only [vectorLibrary, String.toList_append] at hchars
      exact String.toList_inj.1 (List.append_cancel_left hchars)
    have hdecoded := congrArg decodeBase64Url hencoded
    rw [decode_encodeBase64Url, decode_encodeBase64Url] at hdecoded
    exact Option.some.inj hdecoded

def vectorJwt : JwtLibrary :=
  { sampleJwt with
    decode := fun token _ _ _ =>
      if token = "at" then .ok vectorClaims
      else .error { kind := .other, text := "InvalidToken" } }

/-- A request for the entry's amount, to somebody else. -/
def swappedRequest : Request where
  headers := sampleHeaders "proof-1"
  body :=
    { paymentRequest :=
        { scheme := "zip321", value := "zcash:" ++ payeeAddress ++ "?amount=0.5" }
      network := .testnet
      paymentId := "01KT9A0V431VGD5YH7R7G635HC"
      targetExpiryHeight := 4047100 }

theorem swapped_first_payment :
    firstPayment vectorLibrary sampleState swappedRequest.body =
      .ok { recipient := payeeAddress, amount := 50000000, memo := none } := by
  rfl

theorem vectorAuth_selfConsistent :
    SelfConsistent vectorLibrary.toIntentHasher vectorAuth 50000000 where
  amount := by decide +kernel
  hash := by decide +kernel

/-- The request is told that its recipient is not the signed one. -/
theorem intent_gate_decides_swapped :
    AnswersKind (signPaymentInner sampleCodec vectorLibrary vectorJwt
      (fun proof _ _ => .ok proof) sampleState ∅ swappedRequest sampleWallet).1
      .recipientMismatch := by
  have hpayee : caip10 vectorLibrary vectorAuth payeeAddress ≠ vectorAuth.recipient := by
    decide +kernel
  have hverified : verifySpendAuthorization vectorJwt (fun proof _ _ => .ok proof) sampleState
      swappedRequest.headers = .ok vectorClaims := rfl
  have hcross : crossCheckRequest vectorAuth swappedRequest.body = .ok () := rfl
  refine (intent_gate_decides sampleCodec ∅ sampleWallet vectorLibrary_binding hverified rfl hcross
    vectorAuth_selfConsistent fun payment hpayment => ?_).2.1.2
      ⟨_, swapped_first_payment, hpayee, rfl⟩
  rw [swapped_first_payment, Except.ok.injEq] at hpayment
  rw [← hpayment]
  exact ⟨swappedDigest, by decide +kernel⟩

end Zpay.Wallet.SignRequest
