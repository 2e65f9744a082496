import Zpay.Data.Encoding
import Zpay.Wallet.SignGate

/-!
# A sign request and the ledger it leaves

`sign_payment_inner` from end to end: the gates, the single-use reserve, the wallet's
propose, prove, sign and extract, and the commit or release that every exit after the
reserve owes the ledger.  Any number of requests run over one ledger; a request that is
dropped leaves its reservation behind.

The clocks, the caches and the key set a gate reads are whatever they are at the time.

## Main results

* `reserve_quiet`, `reserve_pending`, `reserve_completed`, `settle_failed`, `settle_signed` —
  what the reserve, and the end of a request that it answered `fresh`, do to the token's row.
* `step_cases` — what a step can do.
* `Inv.step` — the inductive invariant of one token.
* `sign_request_clean` — what every step of every request leaves in the ledger.
* `request_undisturbed` — the machine runs the handler.
-/

open Zpay.Core Zpay.Data Zpay.Machine

namespace Zpay.Wallet.SignRequest

/-! ## The wallet's steps -/

/-- The wallet errors the handler tells apart; the others by their text. -/
inductive WalletError
  | targetExpiryStale (target visibleTip : UInt32)
  | targetExpiryMismatch (target signed : UInt32)
  | insufficientBalance (requestedZat spendableZat : UInt64)
  | other (text : String)
  deriving DecidableEq, Repr

def mapWalletErr : WalletError → ProblemResponse
  | .targetExpiryStale target visibleTip =>
      { status := 409
        body := .notRetryable .targetExpiryStale "target_expiry_height is past the chain tip"
          ("caller-supplied target_expiry_height=" ++ toString target
            ++ " is at or below the wallet's observed tip=" ++ toString visibleTip
            ++ "; request a fresh /prepare and retry") }
  | .targetExpiryMismatch target signed =>
      .serverError (.notRetryable .targetExpiryMismatchInternal
        "signed expiry_height did not match target_expiry_height"
        ("wallet signed bytes with expiry_height=" ++ toString signed
          ++ " but caller asked to commit to " ++ toString target
          ++ "; indicates a bug in the wallet's PCZT proposal path"))
  | .insufficientBalance requestedZat spendableZat =>
      .serverError (.notRetryable .insufficientFunds "insufficient spendable balance"
        ("requested " ++ toString requestedZat ++ " zat, spendable " ++ toString spendableZat
          ++ " zat"))
  | .other text =>
      .serverError (.notRetryable .notReady "wallet signing failed" text)

/-- What the handler reads of a `SendOutcome`. -/
structure SendOutcome where
  txId : String
  feeZat : UInt64
  txExpiryHeight : UInt32
  deriving DecidableEq, Repr

def signedPayloadResponse (outcome : SendOutcome) (signedPczt : List UInt8) :
    SignPaymentResponse where
  signedPayload :=
    { format := "pczt-v2-extractable"
      bytes := encodeBase64Url signedPczt
      txId := outcome.txId
      fee := { currency := "ZEC", value := toString outcome.feeZat, unit := "base" }
      expiresAt := outcome.txExpiryHeight }

/-- How each wallet step comes out, and whether the submitter captured anything. -/
structure WalletRun where
  proposePczt : Except WalletError Unit
  provePczt : Except WalletError Unit
  signPczt : Except WalletError (List UInt8)
  extractAndSubmitPczt : Except WalletError SendOutcome
  captured : Bool
  deriving DecidableEq

/-- The wallet steps in order, up to the response. -/
def WalletRun.steps (wallet : WalletRun) : Except ProblemResponse SignPaymentResponse := do
  wallet.proposePczt.mapError mapWalletErr
  wallet.provePczt.mapError mapWalletErr
  let signedPczt ← wallet.signPczt.mapError mapWalletErr
  let sendOutcome ← wallet.extractAndSubmitPczt.mapError mapWalletErr
  ensure (wallet.captured = true)
    (.serverError (.notRetryable .notReady "submitter captured no bytes"
      "internal: CaptureSubmitter::submit was not invoked by PCZT extraction"))
  return signedPayloadResponse sendOutcome signedPczt

/-! ## The handler -/

structure Request where
  headers : SignHeaders
  body : SignPaymentRequest
  deriving DecidableEq, Repr

/-- The access token a request presents. -/
def Request.token (request : Request) : Option String :=
  (extractDpopBearer request.headers).toOption.map Prod.fst

section Handler

variable {R M H : Type} (codec : PayloadCodec)

/-- The end of a request that was told `fresh`: a failure gives the reservation back, a
signature commits it, and the answer does not wait for the ledger's. -/
def settle (ledger : UsageLedger) (grant : SignGrant R M) (wallet : WalletRun) (nowMs : Int) :
    Except ProblemResponse SignPaymentResponse × UsageLedger :=
  match wallet.steps with
  | .error err => (.error err, (release ledger grant.jti).2)
  | .ok response => (.ok response, (commit codec ledger grant.jti grant.intentHash response nowMs).2)

variable (library : WalletLibrary R M H) (jwt : JwtLibrary) (verifyDpopProof : VerifyDpopProof)

/-- `sign_payment_inner`, with nothing else going on. -/
def signPaymentInner (state : AppState) (ledger : UsageLedger) (request : Request)
    (wallet : WalletRun) : Except ProblemResponse SignPaymentResponse × UsageLedger :=
  match verifySpendAuthorization jwt verifyDpopProof state request.headers with
  | .error err => (.error err, ledger)
  | .ok claims =>
      match signGate library state claims request.body with
      | .error err => (.error err, ledger)
      | .ok grant =>
          let (answer, reserved) :=
            reserveAt codec ledger grant.jti grant.intentHash (nowMs state.unixNowMs)
          match afterReserve answer with
          | .error err => (.error err, reserved)
          | .ok (some cached) => (.ok cached, reserved)
          | .ok none => settle codec reserved grant wallet (nowMs state.unixNowMs)

end Handler

/-! ## The machine -/

/-- Where a request is.  It ends rejected by a gate, refused by the ledger, replayed from
it, failed after its reserve, signed, or dropped. -/
inductive Phase (R M : Type)
  | verified (request : Request) (claims : AccessTokenClaims)
  | admitted (request : Request) (grant : SignGrant R M)
  | reserved (request : Request) (grant : SignGrant R M)
  | rejected (request : Request) (err : ProblemResponse)
  | refused (request : Request) (grant : SignGrant R M) (err : ProblemResponse)
  | replayed (request : Request) (grant : SignGrant R M) (response : SignPaymentResponse)
  | failed (request : Request) (grant : SignGrant R M) (err : ProblemResponse)
  | signed (request : Request) (grant : SignGrant R M) (response : SignPaymentResponse)
  | dropped

variable {R M H : Type}

/-- What the request answers; a dropped one does not. -/
def Phase.answer : Phase R M → Option (Except ProblemResponse SignPaymentResponse)
  | .verified .. | .admitted .. | .reserved .. | .dropped => none
  | .rejected _ err | .refused _ _ err | .failed _ _ err => some (.error err)
  | .replayed _ _ response | .signed _ _ response => some (.ok response)

def Phase.ended : Phase R M → Bool
  | .verified .. | .admitted .. | .reserved .. => false
  | .rejected .. | .refused .. | .replayed .. | .failed .. | .signed .. | .dropped => true

/-- How a request goes on from the answer of the reserve. -/
def Phase.onReserve (request : Request) (grant : SignGrant R M) :
    Except ProblemResponse (Option SignPaymentResponse) → Phase R M
  | .ok none => .reserved request grant
  | .ok (some cached) => .replayed request grant cached
  | .error err => .refused request grant err

def Phase.onSettle (request : Request) (grant : SignGrant R M) :
    Except ProblemResponse SignPaymentResponse → Phase R M
  | .ok response => .signed request grant response
  | .error err => .failed request grant err

structure State (R M : Type) where
  ledger : UsageLedger
  requests : Table Nat (Phase R M)

def State.initial (ledger : UsageLedger) : State R M where
  ledger := ledger
  requests := ∅

def State.setPhase (s : State R M) (c : Nat) (phase : Phase R M) : State R M :=
  { s with requests := AList.insert c phase s.requests }

/-- Each step of a request, at the state of the process or the time it reads. -/
inductive Action
  | verify (c : Nat) (request : Request) (state : AppState)
  | gate (c : Nat) (state : AppState)
  | reserve (c : Nat) (nowMs : Int)
  | settle (c : Nat) (wallet : WalletRun) (nowMs : Int)
  | drop (c : Nat)

/-- The request that takes the step. -/
def Action.request : Action → Nat
  | .verify c _ _ | .gate c _ | .reserve c _ | .settle c _ _ | .drop c => c

section Step

variable (codec : PayloadCodec) (library : WalletLibrary R M H) (jwt : JwtLibrary)
  (verifyDpopProof : VerifyDpopProof)

def State.verify (s : State R M) (c : Nat) (request : Request) (state : AppState) : State R M :=
  match s.requests.lookup c with
  | some _ => s
  | none =>
      s.setPhase c
        (match verifySpendAuthorization jwt verifyDpopProof state request.headers with
        | .ok claims => .verified request claims
        | .error err => .rejected request err)

def State.gate (s : State R M) (c : Nat) (state : AppState) : State R M :=
  match s.requests.lookup c with
  | some (.verified request claims) =>
      s.setPhase c (match signGate library state claims request.body with
        | .ok grant => .admitted request grant
        | .error err => .rejected request err)
  | _ => s

def State.reserve (s : State R M) (c : Nat) (nowMs : Int) : State R M :=
  match s.requests.lookup c with
  | some (.admitted request grant) =>
      let (answer, ledger) := reserveAt codec s.ledger grant.jti grant.intentHash nowMs
      State.setPhase { s with ledger } c (.onReserve request grant (afterReserve answer))
  | _ => s

def State.settle (s : State R M) (c : Nat) (wallet : WalletRun) (nowMs : Int) : State R M :=
  match s.requests.lookup c with
  | some (.reserved request grant) =>
      let (answer, ledger) := SignRequest.settle codec s.ledger grant wallet nowMs
      State.setPhase { s with ledger } c (.onSettle request grant answer)
  | _ => s

/-- The client goes away, or the process with all its requests. -/
def State.drop (s : State R M) (c : Nat) : State R M :=
  match s.requests.lookup c with
  | some phase => if phase.ended then s else s.setPhase c .dropped
  | none => s

def step (s : State R M) : Action → State R M
  | .verify c request state => s.verify jwt verifyDpopProof c request state
  | .gate c state => s.gate library c state
  | .reserve c nowMs => s.reserve codec c nowMs
  | .settle c wallet nowMs => s.settle codec c wallet nowMs
  | .drop c => s.drop c

end Step

/-! ## What the ledger operations do -/

section Ledger

variable {codec : PayloadCodec} {ledger : UsageLedger} {jti intentHash : String} {now : Int}

/-- The row of a token that is being signed for. -/
def PendingRow (ledger : UsageLedger) (jti intentHash : String) : Prop :=
  ∃ row, ledger.lookup jti = some row ∧ row.state = .pending ∧ row.intentHash = intentHash

/-- The row of a token that was signed for. -/
def CompletedRow (codec : PayloadCodec) (ledger : UsageLedger) (jti intentHash : String)
    (response : SignPaymentResponse) : Prop :=
  ∃ row json, ledger.lookup jti = some row ∧ row.state = .completed ∧
    row.intentHash = intentHash ∧ row.responseJson = some json ∧
    codec.fromJson json = .ok response

theorem PendingRow.not_completed {intentHash' : String} {response : SignPaymentResponse}
    (h : PendingRow ledger jti intentHash) :
    ¬ CompletedRow codec ledger jti intentHash' response := by
  intro hcompleted
  obtain ⟨row, hrow, hpending, -⟩ := h
  obtain ⟨row', _, hrow', hstate, -⟩ := hcompleted
  rw [hrow, Option.some.injEq] at hrow'
  rw [hrow', hstate] at hpending
  exact absurd hpending (by decide)

/-- A reserve that is not answered `fresh` writes nothing. -/
theorem reserve_quiet (h : (reserveAt codec ledger jti intentHash now).1 ≠ .ok .fresh) :
    (reserveAt codec ledger jti intentHash now).2 = ledger := by
  unfold reserveAt classifyExisting at h ⊢
  split
  · next hrow =>
      rw [hrow] at h
      exact absurd rfl h
  · next row hrow =>
      rw [hrow] at h
      simp only at h
      cases hstate : row.state with
      | completed =>
          by_cases hintent : row.intentHash = intentHash
          · simp only [ne_eq, hintent, not_true_eq_false, if_false]
            cases row.responseJson with
            | none => rfl
            | some json => cases hjson : codec.fromJson json <;> simp only [hjson]
          · simp only [ne_eq, hintent, not_false_eq_true, if_true]
      | pending =>
          simp only [hstate] at h
          by_cases hintent : row.intentHash = intentHash
          · simp only [ne_eq, hintent, not_true_eq_false, if_false] at h ⊢
            by_cases hexpired : pendingReservationTtlMs ≤ saturatingSub now row.reservedAtMs
            · rw [if_pos hexpired] at h
              exact absurd rfl h
            · rw [if_neg hexpired]
          · simp only [ne_eq, hintent, not_false_eq_true, if_true]

/-- One that is answered `fresh` leaves a pending row where nothing was completed. -/
theorem reserve_pending (h : (reserveAt codec ledger jti intentHash now).1 = .ok .fresh) :
    PendingRow (reserveAt codec ledger jti intentHash now).2 jti intentHash ∧
      ∀ intentHash' response, ¬ CompletedRow codec ledger jti intentHash' response := by
  obtain ⟨row, hrow, hnew, hold⟩ := reserve_keeps codec ledger jti intentHash now
  rcases reserve_fresh.1 h with hnone | ⟨old, hlookup, hreclaimable⟩
  · refine ⟨⟨row, hrow, (hnew hnone).1, (hnew hnone).2⟩, ?_⟩
    rintro intentHash' response ⟨row', _, hrow', -⟩
    rw [hnone] at hrow'
    exact absurd hrow' (by simp)
  · obtain ⟨hstate, hintent, -⟩ := hold old hlookup
    unfold LedgerRow.reclaimable at hreclaimable
    rw [Bool.and_eq_true, Bool.and_eq_true, beq_iff_eq, beq_iff_eq] at hreclaimable
    obtain ⟨⟨hpending, hsame⟩, -⟩ := hreclaimable
    have hbefore : PendingRow ledger jti intentHash := ⟨old, hlookup, hpending, hsame⟩
    exact ⟨⟨row, hrow, hstate.trans hpending, hintent.trans hsame⟩,
      fun _ _ => hbefore.not_completed⟩

/-- A token that was signed for is answered with what was signed. -/
theorem reserve_completed {response : SignPaymentResponse}
    (h : CompletedRow codec ledger jti intentHash response) :
    (reserveAt codec ledger jti intentHash now).1 = .ok (.completed response) := by
  obtain ⟨row, json, hrow, hstate, hintent, hjson, hparsed⟩ := h
  unfold reserveAt classifyExisting
  rw [hrow]
  simp only [hstate, hintent, ne_eq, not_true_eq_false, if_false, hjson, hparsed]

variable {R M : Type} {grant : SignGrant R M} {wallet : WalletRun}

/-- A failure after the reserve leaves no row. -/
theorem settle_failed {err : ProblemResponse} (hwallet : wallet.steps = .error err)
    (h : PendingRow ledger grant.jti intentHash) :
    (settle codec ledger grant wallet now).2.lookup grant.jti = none := by
  obtain ⟨row, hrow, hpending, -⟩ := h
  obtain ⟨intentHash', state, responseJson, reservedAtMs⟩ := row
  cases hpending
  unfold settle release
  rw [hwallet]
  simp only [hrow]
  exact AList.lookup_erase grant.jti ledger

/-- A signature is committed under its intent. -/
theorem settle_signed {response : SignPaymentResponse} {json : String}
    (hwallet : wallet.steps = .ok response) (hjson : codec.toJson response = .ok json)
    (hcodec : codec.fromJson json = .ok response) :
    CompletedRow codec (settle codec ledger grant wallet now).2 grant.jti grant.intentHash
      response := by
  unfold settle commit
  rw [hwallet]
  simp only [hjson]
  exact ⟨_, json, AList.lookup_insert _, rfl, rfl, rfl, hcodec⟩

/-- The answer is the wallet's, whatever the ledger says. -/
theorem settle_answer : (settle codec ledger grant wallet now).1 = wallet.steps := by
  unfold settle
  cases wallet.steps <;> rfl

theorem settle_frame {other : String} (hother : other ≠ grant.jti) :
    (settle codec ledger grant wallet now).2.lookup other = ledger.lookup other := by
  unfold settle
  cases wallet.steps with
  | error err => exact release_frame hother
  | ok response => exact commit_frame hother

end Ledger

/-! ## What is assumed and what is promised -/

def Phase.holds (jti : String) : Phase R M → Bool
  | .reserved _ grant => grant.jti == jti
  | _ => false

/-- Some request was told `fresh` for the token and has not ended. -/
def State.heldBy (s : State R M) (jti : String) : Bool :=
  s.requests.rows.any fun entry => entry.2.holds jti

/-- The token is reserved only while no other request works under it, and its commits
succeed. -/
def regular (codec : PayloadCodec) (jti : String) (s : State R M) : Action → Bool
  | .reserve c _ =>
      match s.requests.lookup c with
      | some (.admitted _ grant) => grant.jti != jti || !s.heldBy jti
      | _ => true
  | .settle c wallet _ =>
      match s.requests.lookup c, wallet.steps with
      | some (.reserved _ grant), .ok response =>
          grant.jti != jti || (codec.toJson response).isOk
      | _, _ => true
  | .verify _ _ _ | .gate _ _ | .drop _ => true

/-- What was stored parses to what was signed. -/
def RoundTrips (codec : PayloadCodec) : Prop :=
  ∀ {response : SignPaymentResponse} {json : String}, codec.toJson response = .ok json →
    codec.fromJson json = .ok response

/-- The request has not been told `fresh`. -/
def Phase.unreserved : Phase R M → Bool
  | .verified .. | .admitted .. | .rejected .. | .refused .. | .replayed .. => true
  | .reserved .. | .failed .. | .signed .. | .dropped => false

section Promise

variable (codec : PayloadCodec) (library : WalletLibrary R M H) (jwt : JwtLibrary)
  (verifyDpopProof : VerifyDpopProof) (jti : String)

/-- What one step leaves behind, as far as one token is concerned. -/
structure CleanStep (s : State R M) (a : Action) : Prop where
  /-- Nothing is written for a request that a gate rejects, or that the reserve does not
  answer with `fresh`. -/
  quiet : ∀ phase,
    (step codec library jwt verifyDpopProof s a).requests.lookup a.request = some phase →
    phase.unreserved = true → (step codec library jwt verifyDpopProof s a).ledger = s.ledger
  /-- A failure after the reserve leaves no row. -/
  failed : ∀ c wallet now request grant err, a = .settle c wallet now →
    s.requests.lookup c = some (.reserved request grant) → grant.jti = jti →
    wallet.steps = .error err →
    (step codec library jwt verifyDpopProof s a).requests.lookup c =
      some (.failed request grant err) ∧
    (step codec library jwt verifyDpopProof s a).ledger.lookup jti = none
  /-- A new signature is completed under its intent. -/
  signed : ∀ c wallet now request grant response, a = .settle c wallet now →
    s.requests.lookup c = some (.reserved request grant) → grant.jti = jti →
    wallet.steps = .ok response →
    (step codec library jwt verifyDpopProof s a).requests.lookup c =
      some (.signed request grant response) ∧
    CompletedRow codec (step codec library jwt verifyDpopProof s a).ledger jti grant.intentHash
      response
  /-- Whoever comes to the reserve with the token of a signature gets that signature. -/
  remembered : ∀ c now request grant c' request' grant' response, a = .reserve c now →
    s.requests.lookup c = some (.admitted request grant) →
    s.requests.lookup c' = some (.signed request' grant' response) → grant'.jti = jti →
    request.token = request'.token →
    (step codec library jwt verifyDpopProof s a).requests.lookup c =
      some (.replayed request grant response)
  /-- A token that is not live is rejected, whatever its row says. -/
  notLive : ∀ c state request claims, a = .gate c state →
    s.requests.lookup c = some (.verified request claims) →
    state.revocation claims.jti ≠ .live →
    ∃ err, (step codec library jwt verifyDpopProof s a).requests.lookup c =
      some (.rejected request err)
  /-- A request that has ended stays as it ended. -/
  final : ∀ c phase, s.requests.lookup c = some phase → phase.ended = true →
    (step codec library jwt verifyDpopProof s a).requests.lookup c = some phase
  /-- Rows of other tokens than the request's own. -/
  others : ∀ other, (∀ request grant,
      s.requests.lookup a.request = some (.admitted request grant) ∨
        s.requests.lookup a.request = some (.reserved request grant) → grant.jti ≠ other) →
    (step codec library jwt verifyDpopProof s a).ledger.lookup other = s.ledger.lookup other

/-! ## The invariant -/

/-- A grant that the gates gave to a request. -/
def GrantOf (request : Request) (grant : SignGrant R M) : Prop :=
  ∃ state state' claims auth,
    verifySpendAuthorization jwt verifyDpopProof state request.headers = .ok claims ∧
    Admitted library state' claims request.body auth grant

/-- What a request has passed. -/
def Phase.Sound : Phase R M → Prop
  | .verified request claims =>
      ∃ state, verifySpendAuthorization jwt verifyDpopProof state request.headers = .ok claims
  | .admitted request grant | .reserved request grant | .refused request grant _
  | .replayed request grant _ | .failed request grant _ | .signed request grant _ =>
      GrantOf library jwt verifyDpopProof request grant
  | .rejected .. | .dropped => True

/-- What the ledger has to say for a request of the token. -/
def Phase.Owed (ledger : UsageLedger) : Phase R M → Prop
  | .reserved _ grant => grant.jti = jti → PendingRow ledger jti grant.intentHash
  | .signed _ grant response =>
      grant.jti = jti → CompletedRow codec ledger jti grant.intentHash response
  | _ => True

structure Inv (s : State R M) : Prop where
  sound : ∀ c phase, s.requests.lookup c = some phase →
    phase.Sound library jwt verifyDpopProof
  owed : ∀ c phase, s.requests.lookup c = some phase → phase.Owed codec jti s.ledger
  alone : ∀ c c' phase phase', s.requests.lookup c = some phase →
    s.requests.lookup c' = some phase' → phase.holds jti = true → phase'.holds jti = true → c = c'

end Promise

section Invariant

variable {codec : PayloadCodec} {library : WalletLibrary R M H} {jwt : JwtLibrary}
  {verifyDpopProof : VerifyDpopProof} {jti : String} {s : State R M}

theorem lookup_setPhase (c c' : Nat) (phase : Phase R M) :
    (s.setPhase c phase).requests.lookup c' =
      if c' = c then some phase else s.requests.lookup c' :=
  Table.lookup_insert_eq s.requests c c' phase

@[simp] theorem lookup_setPhase_self (s : State R M) (c : Nat) (phase : Phase R M) :
    (s.setPhase c phase).requests.lookup c = some phase :=
  AList.lookup_insert s.requests

@[simp] theorem setPhase_ledger (s : State R M) (c : Nat) (phase : Phase R M) :
    (s.setPhase c phase).ledger = s.ledger := rfl

theorem heldBy_iff : s.heldBy jti = true ↔
    ∃ c phase, s.requests.lookup c = some phase ∧ phase.holds jti = true := by
  unfold State.heldBy
  rw [List.any_eq_true]
  constructor
  · rintro ⟨⟨c, phase⟩, hmem, hholds⟩
    exact ⟨c, phase, (Table.mem_rows _ _ _).1 hmem, hholds⟩
  · rintro ⟨c, phase, hphase, hholds⟩
    exact ⟨(c, phase), (Table.mem_rows _ _ _).2 hphase, hholds⟩

theorem free_of_not_heldBy (hfree : s.heldBy jti = false) {c : Nat} {phase : Phase R M}
    (hphase : s.requests.lookup c = some phase) : phase.holds jti = false := by
  by_contra hholds
  rw [Bool.not_eq_false] at hholds
  rw [heldBy_iff.2 ⟨c, phase, hphase, hholds⟩] at hfree
  exact absurd hfree (by decide)

/-- One token stands for one `jti` and one intent. -/
theorem GrantOf.same (hjwt : jwt.PayloadDetermined) {request request' : Request}
    {grant grant' : SignGrant R M} (h : GrantOf library jwt verifyDpopProof request grant)
    (h' : GrantOf library jwt verifyDpopProof request' grant')
    (htoken : request.token = request'.token) :
    grant.jti = grant'.jti ∧ grant.intentHash = grant'.intentHash := by
  obtain ⟨state, _, claims, auth, hverified, hadmitted⟩ := h
  obtain ⟨state', _, claims', auth', hverified', hadmitted'⟩ := h'
  have hpresented : ∀ {state : AppState} {request : Request} {claims : AccessTokenClaims},
      verifySpendAuthorization jwt verifyDpopProof state request.headers = .ok claims →
      ∃ token proof, extractDpopBearer request.headers = .ok (token, proof) := by
    intro state request claims hverified
    unfold verifySpendAuthorization at hverified
    rw [bind_eq_ok] at hverified
    obtain ⟨⟨token, proof⟩, hbearer, -⟩ := hverified
    exact ⟨token, proof, hbearer⟩
  obtain ⟨token, proof, hbearer⟩ := hpresented hverified
  obtain ⟨token', proof', hbearer'⟩ := hpresented hverified'
  have hsame : token = token' := by
    unfold Request.token at htoken
    rw [hbearer, hbearer'] at htoken
    exact Option.some.inj htoken
  subst hsame
  have hclaims : claims = claims' := verify_access_token_unique hjwt
    (verify_spend_authorization_ok hbearer hverified)
    (verify_spend_authorization_ok hbearer' hverified')
  subst hclaims
  have hauth : auth = auth' := by
    have hentries := hadmitted.entry.symm.trans hadmitted'.entry
    exact (List.cons.inj hentries).1
  subst hauth
  exact ⟨hadmitted.jti.trans hadmitted'.jti.symm,
    hadmitted.intentHash.trans hadmitted'.intentHash.symm⟩

theorem inv_initial (ledger : UsageLedger) :
    Inv codec library jwt verifyDpopProof jti (.initial ledger) where
  sound c phase h := absurd h (by simp [State.initial])
  owed c phase h := absurd h (by simp [State.initial])
  alone c c' phase phase' h := absurd h (by simp [State.initial])

/-- A request moves on and the ledger with it, as long as the ledger still says what the
other requests need. -/
theorem Inv.move (hs : Inv codec library jwt verifyDpopProof jti s) {ledger : UsageLedger} {c : Nat}
    {phase : Phase R M} (hsound : phase.Sound library jwt verifyDpopProof)
    (howed : phase.Owed codec jti ledger)
    (hothers : ∀ c' phase', c' ≠ c → s.requests.lookup c' = some phase' →
      phase'.Owed codec jti ledger)
    (halone : phase.holds jti = true → ∀ c' phase', c' ≠ c →
      s.requests.lookup c' = some phase' → phase'.holds jti = false) :
    Inv codec library jwt verifyDpopProof jti (State.setPhase { s with ledger } c phase) where
  sound := Table.forall_insert hsound fun c' phase' _ => hs.sound c' phase'
  owed := Table.forall_insert howed hothers
  alone c₁ c₂ phase₁ phase₂ h₁ h₂ hholds₁ hholds₂ := by
    rw [lookup_setPhase] at h₁ h₂
    split at h₁
    · next heq₁ =>
        split at h₂
        · next heq₂ => exact heq₁.trans heq₂.symm
        · next hne₂ =>
            have hfree := halone (Option.some.inj h₁ ▸ hholds₁) c₂ phase₂ hne₂ h₂
            rw [hfree] at hholds₂
            exact absurd hholds₂ (by decide)
    · next hne₁ =>
        split at h₂
        · have hfree := halone (Option.some.inj h₂ ▸ hholds₂) c₁ phase₁ hne₁ h₁
          rw [hfree] at hholds₁
          exact absurd hholds₁ (by decide)
        · exact hs.alone c₁ c₂ phase₁ phase₂ h₁ h₂ hholds₁ hholds₂

/-- A request moves on without holding anything, and the ledger stays. -/
theorem Inv.setPhase (hs : Inv codec library jwt verifyDpopProof jti s) {c : Nat}
    {phase : Phase R M} (hsound : phase.Sound library jwt verifyDpopProof)
    (howed : phase.Owed codec jti s.ledger) (hfree : phase.holds jti = false) :
    Inv codec library jwt verifyDpopProof jti (s.setPhase c phase) := by
  apply hs.move hsound howed
  · exact fun c' phase' _ h => hs.owed c' phase' h
  · intro hholds
    rw [hfree] at hholds
    exact absurd hholds (by decide)

theorem owed_congr {ledger ledger' : UsageLedger} (h : ledger'.lookup jti = ledger.lookup jti)
    {phase : Phase R M} (howed : phase.Owed codec jti ledger) : phase.Owed codec jti ledger' := by
  unfold Phase.Owed PendingRow CompletedRow at *
  rw [h]
  exact howed

/-- While a request holds the token, no other one needs anything of its row. -/
theorem Inv.others_owe_nothing (hs : Inv codec library jwt verifyDpopProof jti s) {c : Nat}
    {request : Request} {grant : SignGrant R M}
    (hphase : s.requests.lookup c = some (.reserved request grant)) (hjti : grant.jti = jti)
    {c' : Nat} {phase' : Phase R M} (hne : c' ≠ c) (h : s.requests.lookup c' = some phase')
    (ledger : UsageLedger) : phase'.Owed codec jti ledger := by
  have hholds : (Phase.reserved request grant).holds jti = true := beq_iff_eq.2 hjti
  have hpending : PendingRow s.ledger jti grant.intentHash := hs.owed c _ hphase hjti
  cases phase' with
  | reserved request' grant' =>
      intro hjti'
      exact absurd (hs.alone c' c _ _ h hphase (beq_iff_eq.2 hjti') hholds) hne
  | signed request' grant' response' =>
      intro hjti'
      exact absurd (hs.owed c' _ h hjti') hpending.not_completed
  | verified | admitted | rejected | refused | replayed | failed | dropped => trivial

/-- Where no request holds the token and nothing was signed, no one needs anything of it. -/
theorem Inv.owes_nothing (hs : Inv codec library jwt verifyDpopProof jti s)
    (hfree : s.heldBy jti = false)
    (hunsigned : ∀ intentHash response, ¬ CompletedRow codec s.ledger jti intentHash response)
    {c : Nat} {phase : Phase R M} (hphase : s.requests.lookup c = some phase)
    (ledger : UsageLedger) : phase.Owed codec jti ledger := by
  cases phase with
  | reserved request grant =>
      intro hjti
      have hholds : (Phase.reserved request grant).holds jti = true := beq_iff_eq.2 hjti
      rw [free_of_not_heldBy hfree hphase] at hholds
      exact absurd hholds (by decide)
  | signed request grant response =>
      intro hjti
      exact absurd (hs.owed c _ hphase hjti) (hunsigned _ _)
  | verified | admitted | rejected | refused | replayed | failed | dropped => trivial

theorem after_reserve_fresh {answer : Except LedgerError Reservation} :
    afterReserve answer = .ok none ↔ answer = .ok .fresh := by
  cases answer with
  | error err => simp [afterReserve]
  | ok reservation => cases reservation <;> simp [afterReserve]

/-- A request that is not told `fresh` ends, and needs nothing of the ledger. -/
theorem on_reserve_other {request : Request} {grant : SignGrant R M}
    {answer : Except LedgerError Reservation}
    (hgrant : GrantOf library jwt verifyDpopProof request grant) (hother : answer ≠ .ok .fresh) :
    (Phase.onReserve request grant (afterReserve answer)).Sound library jwt verifyDpopProof ∧
      (∀ ledger, (Phase.onReserve request grant (afterReserve answer)).Owed codec jti ledger) ∧
      (Phase.onReserve request grant (afterReserve answer)).holds jti = false ∧
      (Phase.onReserve request grant (afterReserve answer)).unreserved = true := by
  cases hafter : afterReserve answer with
  | error err => exact ⟨hgrant, fun _ => trivial, rfl, rfl⟩
  | ok next =>
      cases next with
      | none => exact absurd (after_reserve_fresh.1 hafter) hother
      | some cached => exact ⟨hgrant, fun _ => trivial, rfl, rfl⟩

/-! ### Where each step starts -/

theorem verify_step {c : Nat} {request : Request} {state : AppState}
    (hnew : s.requests.lookup c = none) :
    s.verify jwt verifyDpopProof c request state =
      s.setPhase c (match verifySpendAuthorization jwt verifyDpopProof state request.headers with
        | .ok claims => .verified request claims
        | .error err => .rejected request err) := by
  unfold State.verify
  rw [hnew]

theorem gate_step {c : Nat} {state : AppState} {request : Request} {claims : AccessTokenClaims}
    (hphase : s.requests.lookup c = some (.verified request claims)) :
    s.gate library c state =
      s.setPhase c (match signGate library state claims request.body with
        | .ok grant => .admitted request grant
        | .error err => .rejected request err) := by
  unfold State.gate
  rw [hphase]

theorem reserve_step {c : Nat} {now : Int} {request : Request} {grant : SignGrant R M}
    (hphase : s.requests.lookup c = some (.admitted request grant)) :
    s.reserve codec c now =
      State.setPhase
        { s with ledger := (reserveAt codec s.ledger grant.jti grant.intentHash now).2 } c
        (.onReserve request grant
          (afterReserve (reserveAt codec s.ledger grant.jti grant.intentHash now).1)) := by
  unfold State.reserve
  rw [hphase]

theorem settle_step {c : Nat} {wallet : WalletRun} {now : Int} {request : Request}
    {grant : SignGrant R M} (hphase : s.requests.lookup c = some (.reserved request grant)) :
    s.settle codec c wallet now =
      State.setPhase { s with ledger := (settle codec s.ledger grant wallet now).2 } c
        (.onSettle request grant wallet.steps) := by
  unfold State.settle
  rw [hphase]
  simp only [settle_answer]

theorem verify_cases (c : Nat) (request : Request) (state : AppState) :
    s.verify jwt verifyDpopProof c request state = s ∨
      s.requests.lookup c = none ∧ s.verify jwt verifyDpopProof c request state =
        s.setPhase c (match verifySpendAuthorization jwt verifyDpopProof state request.headers with
          | .ok claims => .verified request claims
          | .error err => .rejected request err) := by
  cases hphase : s.requests.lookup c with
  | none => exact .inr ⟨rfl, verify_step hphase⟩
  | some phase =>
      left
      unfold State.verify
      rw [hphase]

theorem gate_cases (c : Nat) (state : AppState) :
    s.gate library c state = s ∨
      ∃ request claims, s.requests.lookup c = some (.verified request claims) ∧
        s.gate library c state = s.setPhase c (match signGate library state claims request.body with
          | .ok grant => .admitted request grant
          | .error err => .rejected request err) := by
  by_cases hverified : ∃ request claims, s.requests.lookup c = some (.verified request claims)
  · obtain ⟨request, claims, hphase⟩ := hverified
    exact .inr ⟨request, claims, hphase, gate_step hphase⟩
  · left
    unfold State.gate
    split
    · next request claims hphase => exact absurd ⟨request, claims, hphase⟩ hverified
    · rfl

theorem reserve_cases (c : Nat) (now : Int) :
    s.reserve codec c now = s ∨
      ∃ request grant, s.requests.lookup c = some (.admitted request grant) ∧
        s.reserve codec c now =
          State.setPhase
            { s with ledger := (reserveAt codec s.ledger grant.jti grant.intentHash now).2 } c
            (.onReserve request grant
              (afterReserve (reserveAt codec s.ledger grant.jti grant.intentHash now).1)) := by
  by_cases hadmitted : ∃ request grant, s.requests.lookup c = some (.admitted request grant)
  · obtain ⟨request, grant, hphase⟩ := hadmitted
    exact .inr ⟨request, grant, hphase, reserve_step hphase⟩
  · left
    unfold State.reserve
    split
    · next request grant hphase => exact absurd ⟨request, grant, hphase⟩ hadmitted
    · rfl

theorem settle_cases (c : Nat) (wallet : WalletRun) (now : Int) :
    s.settle codec c wallet now = s ∨
      ∃ request grant, s.requests.lookup c = some (.reserved request grant) ∧
        s.settle codec c wallet now =
          State.setPhase { s with ledger := (settle codec s.ledger grant wallet now).2 } c
            (.onSettle request grant wallet.steps) := by
  by_cases hreserved : ∃ request grant, s.requests.lookup c = some (.reserved request grant)
  · obtain ⟨request, grant, hphase⟩ := hreserved
    exact .inr ⟨request, grant, hphase, settle_step hphase⟩
  · left
    unfold State.settle
    split
    · next request grant hphase => exact absurd ⟨request, grant, hphase⟩ hreserved
    · rfl

theorem drop_cases (c : Nat) :
    s.drop c = s ∨ ∃ phase, s.requests.lookup c = some phase ∧ phase.ended = false ∧
      s.drop c = s.setPhase c .dropped := by
  unfold State.drop
  cases hphase : s.requests.lookup c with
  | none => exact .inl rfl
  | some phase =>
      cases hended : phase.ended with
      | true => exact .inl (if_pos hended)
      | false => exact .inr ⟨phase, rfl, hended, if_neg (by simp [hended])⟩

/-! ### One lemma a step -/

theorem inv_verify (c : Nat) (request : Request) (state : AppState)
    (hs : Inv codec library jwt verifyDpopProof jti s) :
    Inv codec library jwt verifyDpopProof jti (s.verify jwt verifyDpopProof c request state) := by
  rcases verify_cases c request state with hsame | ⟨-, hmoved⟩
  · rw [hsame]
    exact hs
  · rw [hmoved]
    split
    · next claims hverified => exact hs.setPhase ⟨state, hverified⟩ trivial rfl
    · exact hs.setPhase trivial trivial rfl

theorem inv_gate (c : Nat) (state : AppState)
    (hs : Inv codec library jwt verifyDpopProof jti s) :
    Inv codec library jwt verifyDpopProof jti (s.gate library c state) := by
  rcases gate_cases c state with hsame | ⟨request, claims, hphase, hmoved⟩
  · rw [hsame]
    exact hs
  · rw [hmoved]
    split
    · next grant hgrant =>
        obtain ⟨verifiedIn, hverified⟩ := hs.sound c _ hphase
        obtain ⟨auth, hadmitted⟩ := sign_gate_ok hgrant
        exact hs.setPhase ⟨verifiedIn, state, claims, auth, hverified, hadmitted⟩ trivial rfl
    · exact hs.setPhase trivial trivial rfl

theorem inv_reserve (c : Nat) (now : Int) (hs : Inv codec library jwt verifyDpopProof jti s)
    (hregular : regular codec jti s (.reserve c now) = true) :
    Inv codec library jwt verifyDpopProof jti (s.reserve codec c now) := by
  rcases reserve_cases c now with hsame | ⟨request, grant, hphase, hmoved⟩
  · rw [hsame]
    exact hs
  · rw [hmoved]
    have hgrant : GrantOf library jwt verifyDpopProof request grant := hs.sound c _ hphase
    by_cases hfresh : (reserveAt codec s.ledger grant.jti grant.intentHash now).1 = .ok .fresh
    · obtain ⟨hpending, hunsigned⟩ := reserve_pending hfresh
      have hsound : (Phase.reserved request grant).Sound library jwt verifyDpopProof := hgrant
      simp only [hfresh]
      by_cases hjti : grant.jti = jti
      · subst hjti
        have hfree : s.heldBy grant.jti = false := by
          simpa [regular, hphase] using hregular
        apply hs.move hsound (fun _ => hpending)
        · exact fun c' phase' _ h => hs.owes_nothing hfree hunsigned h _
        · exact fun _ c' phase' _ h => free_of_not_heldBy hfree h
      · apply hs.move hsound (fun heq => absurd heq hjti)
        · intro c' phase' _ h
          exact owed_congr (reserve_frame (Ne.symm hjti)) (hs.owed c' phase' h)
        · intro hholds
          exact absurd (beq_iff_eq.1 hholds) hjti
    · obtain ⟨hsound, howed, hholds, -⟩ := on_reserve_other hgrant hfresh
      simp only [reserve_quiet hfresh]
      exact hs.setPhase hsound (howed s.ledger) hholds

theorem commit_ok_of_regular {c : Nat} {wallet : WalletRun} {now : Int} {request : Request}
    {grant : SignGrant R M} {response : SignPaymentResponse}
    (hregular : regular codec jti s (.settle c wallet now) = true)
    (hphase : s.requests.lookup c = some (.reserved request grant)) (hjti : grant.jti = jti)
    (hwallet : wallet.steps = .ok response) : ∃ json, codec.toJson response = .ok json := by
  simp only [regular, hphase, hwallet, hjti, bne_self_eq_false, Bool.false_or] at hregular
  cases hjson : codec.toJson response with
  | error err =>
      rw [hjson] at hregular
      exact absurd hregular (by simp [Except.isOk, Except.toBool])
  | ok json => exact ⟨json, rfl⟩

theorem inv_settle (hcodec : RoundTrips codec) (c : Nat) (wallet : WalletRun) (now : Int)
    (hs : Inv codec library jwt verifyDpopProof jti s)
    (hregular : regular codec jti s (.settle c wallet now) = true) :
    Inv codec library jwt verifyDpopProof jti (s.settle codec c wallet now) := by
  rcases settle_cases c wallet now with hsame | ⟨request, grant, hphase, hmoved⟩
  · rw [hsame]
    exact hs
  · rw [hmoved]
    have hgrant : GrantOf library jwt verifyDpopProof request grant := hs.sound c _ hphase
    have hothers : ∀ c' phase', c' ≠ c → s.requests.lookup c' = some phase' →
        phase'.Owed codec jti (settle codec s.ledger grant wallet now).2 := by
      intro c' phase' hne h
      by_cases hjti : grant.jti = jti
      · exact hs.others_owe_nothing hphase hjti hne h _
      · exact owed_congr (settle_frame (Ne.symm hjti)) (hs.owed c' phase' h)
    cases hwallet : wallet.steps with
    | error err =>
        have hsound : (Phase.failed request grant err).Sound library jwt verifyDpopProof := hgrant
        apply hs.move hsound trivial hothers
        exact fun hholds => absurd hholds (by simp [Phase.holds])
    | ok response =>
        have hsound : (Phase.signed request grant response).Sound library jwt verifyDpopProof :=
          hgrant
        apply hs.move hsound ?_ hothers
        · exact fun hholds => absurd hholds (by simp [Phase.holds])
        · intro hjti
          obtain ⟨json, hjson⟩ := commit_ok_of_regular hregular hphase hjti hwallet
          subst hjti
          exact settle_signed hwallet hjson (hcodec hjson)

theorem inv_drop (c : Nat) (hs : Inv codec library jwt verifyDpopProof jti s) :
    Inv codec library jwt verifyDpopProof jti (s.drop c) := by
  rcases drop_cases c with hsame | ⟨_, -, -, hmoved⟩
  · rw [hsame]
    exact hs
  · rw [hmoved]
    exact hs.setPhase trivial trivial rfl

theorem Inv.step (hcodec : RoundTrips codec) (a : Action)
    (hs : Inv codec library jwt verifyDpopProof jti s) (hregular : regular codec jti s a = true) :
    Inv codec library jwt verifyDpopProof jti (step codec library jwt verifyDpopProof s a) := by
  cases a with
  | verify c request state => exact inv_verify c request state hs
  | gate c state => exact inv_gate c state hs
  | reserve c now => exact inv_reserve c now hs hregular
  | settle c wallet now => exact inv_settle hcodec c wallet now hs hregular
  | drop c => exact inv_drop c hs

/-! ## Clean steps -/

/-! ### What a step can do -/

/-- A request moves, and the ledger with it.  It had not ended; a request that is not told
`fresh` moves nothing but itself; and the rows of other tokens stay. -/
structure Moves (s : State R M) (c : Nat) (phase : Phase R M) (ledger : UsageLedger) : Prop where
  running : ∀ old, s.requests.lookup c = some old → old.ended = false
  quiet : phase.unreserved = true → ledger = s.ledger
  frame : ∀ other, (∀ request grant,
      s.requests.lookup c = some (.admitted request grant) ∨
        s.requests.lookup c = some (.reserved request grant) → grant.jti ≠ other) →
    ledger.lookup other = s.ledger.lookup other

theorem moves_alone {c : Nat} (phase : Phase R M)
    (hrunning : ∀ old, s.requests.lookup c = some old → old.ended = false) :
    Moves s c phase s.ledger where
  running := hrunning
  quiet _ := rfl
  frame _ _ := rfl

theorem running_of_lookup {c : Nat} {phase : Phase R M} (hphase : s.requests.lookup c = some phase)
    (hended : phase.ended = false) : ∀ old, s.requests.lookup c = some old → old.ended = false := by
  intro old hold
  rw [hphase, Option.some.injEq] at hold
  exact hold ▸ hended

theorem moves_reserve {c : Nat} {request : Request} {grant : SignGrant R M} {now : Int}
    (hphase : s.requests.lookup c = some (.admitted request grant)) :
    Moves s c (.onReserve request grant
        (afterReserve (reserveAt codec s.ledger grant.jti grant.intentHash now).1))
      (reserveAt codec s.ledger grant.jti grant.intentHash now).2 where
  running := running_of_lookup hphase rfl
  quiet hunreserved := by
    by_cases hfresh : (reserveAt codec s.ledger grant.jti grant.intentHash now).1 = .ok .fresh
    · rw [hfresh] at hunreserved
      exact absurd hunreserved (by simp [afterReserve, Phase.onReserve, Phase.unreserved])
    · exact reserve_quiet hfresh
  frame other hother := reserve_frame (Ne.symm (hother request grant (.inl hphase)))

theorem moves_settle {c : Nat} {request : Request} {grant : SignGrant R M} {wallet : WalletRun}
    {now : Int} (hphase : s.requests.lookup c = some (.reserved request grant)) :
    Moves s c (.onSettle request grant wallet.steps)
      (settle codec s.ledger grant wallet now).2 where
  running := running_of_lookup hphase rfl
  quiet hunreserved := by
    cases hwallet : wallet.steps with
    | error err | ok response =>
        rw [hwallet] at hunreserved
        exact absurd hunreserved (by simp [Phase.onSettle, Phase.unreserved])
  frame other hother := settle_frame (Ne.symm (hother request grant (.inr hphase)))

/-- A step does nothing or moves the request that takes it. -/
theorem step_cases (a : Action) :
    SignRequest.step codec library jwt verifyDpopProof s a = s ∨
      ∃ phase ledger, SignRequest.step codec library jwt verifyDpopProof s a =
        State.setPhase { s with ledger } a.request phase ∧ Moves s a.request phase ledger := by
  cases a with
  | verify c request state =>
      rcases verify_cases c request state with hsame | ⟨hnew, hmoved⟩
      · exact .inl hsame
      · refine .inr ⟨_, s.ledger, hmoved, moves_alone _ fun old hold => ?_⟩
        exact absurd (hnew.symm.trans hold) (by simp)
  | gate c state =>
      rcases gate_cases c state with hsame | ⟨request, claims, hphase, hmoved⟩
      · exact .inl hsame
      · exact .inr ⟨_, s.ledger, hmoved, moves_alone _ (running_of_lookup hphase rfl)⟩
  | reserve c now =>
      rcases reserve_cases c now with hsame | ⟨request, grant, hphase, hmoved⟩
      · exact .inl hsame
      · exact .inr ⟨_, _, hmoved, moves_reserve hphase⟩
  | settle c wallet now =>
      rcases settle_cases c wallet now with hsame | ⟨request, grant, hphase, hmoved⟩
      · exact .inl hsame
      · exact .inr ⟨_, _, hmoved, moves_settle hphase⟩
  | drop c =>
      rcases drop_cases c with hsame | ⟨phase, hphase, hended, hmoved⟩
      · exact .inl hsame
      · exact .inr ⟨_, s.ledger, hmoved, moves_alone _ (running_of_lookup hphase hended)⟩

theorem step_lookup_other {a : Action} {c : Nat} (hne : c ≠ a.request) :
    (SignRequest.step codec library jwt verifyDpopProof s a).requests.lookup c =
      s.requests.lookup c := by
  rcases step_cases a with hsame | ⟨phase, ledger, hmoved, -⟩
  · rw [hsame]
  · rw [hmoved, lookup_setPhase, if_neg hne]

theorem step_of_ended {a : Action} {phase : Phase R M}
    (hphase : s.requests.lookup a.request = some phase) (hended : phase.ended = true) :
    SignRequest.step codec library jwt verifyDpopProof s a = s := by
  rcases step_cases a with hsame | ⟨_, _, -, hmoves⟩
  · exact hsame
  · rw [hmoves.running phase hphase] at hended
    exact absurd hended (by decide)

/-- Steps of a request that has ended change nothing. -/
theorem run_of_ended {c : Nat} {phase : Phase R M} {as : List Action}
    (hphase : s.requests.lookup c = some phase) (hended : phase.ended = true)
    (has : ∀ a ∈ as, a.request = c) :
    run (SignRequest.step codec library jwt verifyDpopProof) s as = s := by
  induction as with
  | nil => rfl
  | cons a as ih =>
      have hown : s.requests.lookup a.request = some phase := by
        rw [has a List.mem_cons_self]
        exact hphase
      rw [run_cons, step_of_ended hown hended]
      exact ih fun b hb => has b (List.mem_cons_of_mem a hb)

theorem step_final {a : Action} {c : Nat} {phase : Phase R M}
    (hphase : s.requests.lookup c = some phase) (hended : phase.ended = true) :
    (SignRequest.step codec library jwt verifyDpopProof s a).requests.lookup c = some phase := by
  by_cases hown : c = a.request
  · subst hown
    rw [step_of_ended hphase hended]
    exact hphase
  · rw [step_lookup_other hown]
    exact hphase

theorem step_quiet {a : Action} {phase : Phase R M}
    (hafter : (SignRequest.step codec library jwt verifyDpopProof s a).requests.lookup a.request =
      some phase) (hunreserved : phase.unreserved = true) :
    (SignRequest.step codec library jwt verifyDpopProof s a).ledger = s.ledger := by
  rcases step_cases a with hsame | ⟨phase', ledger, hmoved, hmoves⟩
  · rw [hsame]
  · rw [hmoved, lookup_setPhase_self, Option.some.injEq] at hafter
    rw [hmoved, setPhase_ledger]
    exact hmoves.quiet (hafter ▸ hunreserved)

theorem step_others {a : Action} {other : String}
    (hother : ∀ request grant,
      s.requests.lookup a.request = some (.admitted request grant) ∨
        s.requests.lookup a.request = some (.reserved request grant) → grant.jti ≠ other) :
    (SignRequest.step codec library jwt verifyDpopProof s a).ledger.lookup other =
      s.ledger.lookup other := by
  rcases step_cases a with hsame | ⟨phase, ledger, hmoved, hmoves⟩
  · rw [hsame]
  · rw [hmoved, setPhase_ledger]
    exact hmoves.frame other hother

/-- A request that comes to the reserve with the token of a signature. -/
theorem reserve_remembered (hjwt : jwt.PayloadDetermined)
    (hs : Inv codec library jwt verifyDpopProof jti s) {c c' : Nat} {now : Int}
    {request request' : Request} {grant grant' : SignGrant R M} {response : SignPaymentResponse}
    (hphase : s.requests.lookup c = some (.admitted request grant))
    (hsigned : s.requests.lookup c' = some (.signed request' grant' response))
    (hjti : grant'.jti = jti) (htoken : request.token = request'.token) :
    (s.reserve codec c now).requests.lookup c = some (.replayed request grant response) := by
  have hgrant : GrantOf library jwt verifyDpopProof request grant := hs.sound c _ hphase
  have hgrant' : GrantOf library jwt verifyDpopProof request' grant' := hs.sound c' _ hsigned
  obtain ⟨hsame, hintent⟩ := hgrant.same hjwt hgrant' htoken
  have hcompleted : CompletedRow codec s.ledger jti grant'.intentHash response :=
    hs.owed c' _ hsigned hjti
  have hanswer : (reserveAt codec s.ledger grant.jti grant.intentHash now).1 =
      .ok (.completed response) := by
    rw [hsame, hjti, hintent]
    exact reserve_completed hcompleted
  unfold State.reserve
  rw [hphase]
  simp only [hanswer, lookup_setPhase_self]
  rfl

theorem gate_not_live {c : Nat} {state : AppState} {request : Request} {claims : AccessTokenClaims}
    (hphase : s.requests.lookup c = some (.verified request claims))
    (hrevocation : state.revocation claims.jti ≠ .live) :
    ∃ err, (s.gate library c state).requests.lookup c = some (.rejected request err) := by
  unfold State.gate
  rw [hphase]
  cases hgate : signGate library state claims request.body with
  | error err => exact ⟨err, by simp only [lookup_setPhase_self, hgate]⟩
  | ok grant =>
      obtain ⟨auth, hadmitted⟩ := sign_gate_ok hgate
      have hlive := hadmitted.revocation
      rw [hadmitted.jti] at hlive
      exact absurd hlive hrevocation

theorem clean_step (hjwt : jwt.PayloadDetermined) (hcodec : RoundTrips codec) (a : Action)
    (hs : Inv codec library jwt verifyDpopProof jti s) (hregular : regular codec jti s a = true) :
    CleanStep codec library jwt verifyDpopProof jti s a where
  quiet _ hafter hunreserved := step_quiet hafter hunreserved
  failed c wallet now request grant err ha hphase hjti hwallet := by
    subst ha hjti
    have hmoved : SignRequest.step codec library jwt verifyDpopProof s (.settle c wallet now) = _ :=
      settle_step hphase
    rw [hmoved, hwallet]
    exact ⟨lookup_setPhase_self _ _ _, settle_failed hwallet (hs.owed c _ hphase rfl)⟩
  signed c wallet now request grant response ha hphase hjti hwallet := by
    subst ha
    obtain ⟨json, hjson⟩ := commit_ok_of_regular hregular hphase hjti hwallet
    subst hjti
    have hmoved : SignRequest.step codec library jwt verifyDpopProof s (.settle c wallet now) = _ :=
      settle_step hphase
    rw [hmoved, hwallet]
    exact ⟨lookup_setPhase_self _ _ _, settle_signed hwallet hjson (hcodec hjson)⟩
  remembered c now request grant c' request' grant' response ha hphase hsigned hjti htoken := by
    subst ha
    exact reserve_remembered hjwt hs hphase hsigned hjti htoken
  notLive c state request claims ha hphase hrevocation := by
    subst ha
    exact gate_not_live hphase hrevocation
  final _ _ hphase hended := step_final hphase hended
  others _ hother := step_others hother

end Invariant

/-- Over any ledger, with no other request working under the token and its commits
succeeding, every step of every request is clean as far as the token is concerned. -/
theorem sign_request_clean {codec : PayloadCodec} (library : WalletLibrary R M H)
    {jwt : JwtLibrary} (verifyDpopProof : VerifyDpopProof) (hjwt : jwt.PayloadDetermined)
    (hcodec : RoundTrips codec) (jti : String) (ledger : UsageLedger) (as : List Action)
    (hregular : Along (step codec library jwt verifyDpopProof)
      (fun s a => regular codec jti s a = true) (.initial ledger) as) :
    Along (step codec library jwt verifyDpopProof)
      (CleanStep codec library jwt verifyDpopProof jti) (.initial ledger) as := by
  have hstep : ∀ s a, Inv codec library jwt verifyDpopProof jti s →
      regular codec jti s a = true →
      Inv codec library jwt verifyDpopProof jti (step codec library jwt verifyDpopProof s a) :=
    fun s a hs ha => hs.step hcodec a ha
  exact along_of_invariant hstep (fun s a hs ha => clean_step hjwt hcodec a hs ha)
    (inv_initial ledger) hregular

/-! ### One token, signed for and asked again -/

def sampleWallet : WalletRun where
  proposePczt := .ok ()
  provePczt := .ok ()
  signPczt := .ok [0, 0, 0]
  extractAndSubmitPczt := .ok { txId := "aa", feeZat := 10000, txExpiryHeight := 4047100 }
  captured := true

def sampleResponse : SignPaymentResponse where
  signedPayload :=
    { format := "pczt-v2-extractable", bytes := "AAAA", txId := "aa"
      fee := { currency := "ZEC", value := "10000", unit := "base" }
      expiresAt := 4047100 }

/-- The response in the ledger's column. -/
def sampleJson : String :=
  "\x7b\"signed_payload\":\x7b\"format\":\"pczt-v2-extractable\",\"bytes\":\"AAAA\","
    ++ "\"tx_id\":\"aa\",\"fee\":\x7b\"currency\":\"ZEC\",\"value\":\"10000\",\"unit\":\"base\"\x7d,"
    ++ "\"expires_at\":\x7b\"kind\":\"block_height\",\"value\":4047100\x7d\x7d\x7d"

/-- The JSON of one known response. -/
def storedCodec : PayloadCodec where
  toJson response := if response = sampleResponse then .ok sampleJson else .error "another response"
  fromJson text := if text = sampleJson then .ok sampleResponse else .error "another text"

theorem storedCodec_roundTrips : RoundTrips storedCodec := by
  intro response json hjson
  unfold storedCodec at hjson ⊢
  by_cases hresponse : response = sampleResponse
  · simp only [hresponse, if_true, Except.ok.injEq] at hjson
    simp only [hjson, hresponse, if_true]
  · simp only [hresponse, if_false] at hjson
    exact absurd hjson (by simp)

def sampleRequest (proof : String) : Request where
  headers := sampleHeaders proof
  body := sampleBody "a"

/-- The first request is signed, the second comes with the same token. -/
def sampleRun : List Action :=
  [.verify 0 (sampleRequest "proof-1") sampleState, .gate 0 sampleState,
    .reserve 0 1700000001000, .settle 0 sampleWallet 1700000002000,
    .verify 1 (sampleRequest "proof-2") sampleState, .gate 1 sampleState,
    .reserve 1 1700000003000]

theorem sampleRun_regular :
    Along (step storedCodec sampleLibrary sampleJwt (fun proof _ _ => .ok proof))
      (fun s a => regular storedCodec "jti-1" s a = true) (.initial ∅) sampleRun := by
  decide +kernel

theorem sampleRun_replayed :
    ((run (step storedCodec sampleLibrary sampleJwt (fun proof _ _ => .ok proof))
        (.initial ∅) sampleRun).requests.lookup 1).bind Phase.answer =
      some (.ok sampleResponse) := by
  decide +kernel

theorem sign_request_clean_sample :
    Along (step storedCodec sampleLibrary sampleJwt (fun proof _ _ => .ok proof))
      (CleanStep storedCodec sampleLibrary sampleJwt (fun proof _ _ => .ok proof) "jti-1")
      (.initial ∅) sampleRun ∧
    ((run (step storedCodec sampleLibrary sampleJwt (fun proof _ _ => .ok proof))
        (.initial ∅) sampleRun).requests.lookup 1).bind Phase.answer =
      some (.ok sampleResponse) :=
  ⟨sign_request_clean sampleLibrary (fun proof _ _ => .ok proof) sampleJwt_payloadDetermined
    storedCodec_roundTrips "jti-1" ∅ sampleRun sampleRun_regular, sampleRun_replayed⟩

/-! ## A request on its own -/

/-- A request has ended as the handler would, over the ledger it would leave. -/
def Answers (s : State R M) (c : Nat)
    (result : Except ProblemResponse SignPaymentResponse × UsageLedger) : Prop :=
  (s.requests.lookup c).bind Phase.answer = some result.1 ∧ s.ledger = result.2

theorem answers_setPhase {s : State R M} {c : Nat} {phase : Phase R M}
    {result : Except ProblemResponse SignPaymentResponse × UsageLedger}
    (hanswer : phase.answer = some result.1) (hledger : s.ledger = result.2) :
    Answers (s.setPhase c phase) c result := by
  refine ⟨?_, hledger⟩
  rw [lookup_setPhase_self]
  exact hanswer

/-- The machine runs the handler, when nothing else goes on. -/
theorem request_undisturbed {codec : PayloadCodec} {library : WalletLibrary R M H}
    {jwt : JwtLibrary} {verifyDpopProof : VerifyDpopProof} (state : AppState) (s : State R M)
    (c : Nat) (request : Request) (wallet : WalletRun) (hnew : s.requests.lookup c = none) :
    Answers
      (run (step codec library jwt verifyDpopProof) s
        [.verify c request state, .gate c state, .reserve c (nowMs state.unixNowMs),
          .settle c wallet (nowMs state.unixNowMs)]) c
      (signPaymentInner codec library jwt verifyDpopProof state s.ledger request wallet) := by
  have hself : ∀ (t : State R M) phase, (t.setPhase c phase).requests.lookup c = some phase :=
    fun t phase => lookup_setPhase_self t c phase
  unfold signPaymentInner
  rw [run_cons, show step codec library jwt verifyDpopProof s (.verify c request state) = _ from
    verify_step hnew]
  cases verifySpendAuthorization jwt verifyDpopProof state request.headers with
  | error err =>
      rw [run_of_ended (hself _ _) rfl (by simp [Action.request])]
      exact answers_setPhase rfl rfl
  | ok claims =>
      simp only
      rw [run_cons, show step codec library jwt verifyDpopProof _ (.gate c state) = _ from
        gate_step (hself _ _)]
      cases signGate library state claims request.body with
      | error err =>
          rw [run_of_ended (hself _ _) rfl (by simp [Action.request])]
          exact answers_setPhase rfl rfl
      | ok grant =>
          simp only
          rw [run_cons, show step codec library jwt verifyDpopProof _ (.reserve c _) = _ from
            reserve_step (hself _ _)]
          simp only [setPhase_ledger]
          cases afterReserve
              (reserveAt codec s.ledger grant.jti grant.intentHash (nowMs state.unixNowMs)).1 with
          | error err =>
              rw [run_of_ended (hself _ _) rfl (by simp [Action.request])]
              exact answers_setPhase rfl rfl
          | ok next =>
              cases next with
              | some cached =>
                  rw [run_of_ended (hself _ _) rfl (by simp [Action.request])]
                  exact answers_setPhase rfl rfl
              | none =>
                  simp only [Phase.onReserve]
                  rw [run_cons, run_nil,
                    show step codec library jwt verifyDpopProof _ (.settle c wallet _) = _ from
                      settle_step (hself _ (.reserved request grant))]
                  refine answers_setPhase ?_ rfl
                  simp only [settle_answer]
                  cases wallet.steps <;> rfl

end Zpay.Wallet.SignRequest
