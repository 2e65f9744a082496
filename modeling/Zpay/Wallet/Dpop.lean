import Zpay.Data.Encoding
import Zpay.Wallet.SignGate
import Zpay.X402.Dpop

/-!
# Proofs of possession at the wallet

`verify_dpop_proof` of the wallet, which binds a proof to the access token it comes with,
and `verify_spend_authorization` for any number of calls at once.  A call verifies the
token, verifies the proof against the wall clock, reads the monotonic clock, and records
the proof's `jti` under the lock of the seen set; anything may happen in between.  Both
clocks advance together, from any instants.

Signatures, thumbprints, digests and URL forms are library functions.

## Main results

* `verify_dpop_proof_ok` — what an accepted proof is bound to.
* `record_jti_kept`, `record_jti_ok` — what recording does to the seen set.
* `verify_spend_authorization_eq`, `call_undisturbed` — the sign gate and the machine run
  the same call.
* `spend_proofs_accepted_once` — no proof is accepted twice, unless a call was held up.
-/

open Zpay.Data Zpay.Machine

open Zpay.X402.Dpop (saturatingSubI64 absDriftSeconds nanosPerSecond wallNanos
  currentUnixSeconds natAbs_le_of_absDrift)

namespace Zpay.Wallet.Dpop

/-! ## The proof -/

def dpopClockSkewSeconds : Nat := 60

def dpopReplayWindowSeconds : Nat := 300

/-- `EllipticCurve`. -/
inductive Curve
  | p256
  | other
  deriving DecidableEq, Repr

/-- The key a proof header carries. -/
inductive ProofKey
  | ellipticCurve (curve : Curve) (x y : String)
  | other
  deriving DecidableEq, Repr

structure ProofHeader where
  typ : Option String
  alg : Algorithm
  jwk : Option ProofKey
  deriving DecidableEq, Repr

/-- The claims the wallet checks. -/
structure DpopClaims where
  htm : String
  htu : String
  jti : String
  iat : Int
  ath : String
  deriving DecidableEq, Repr

/-- The libraries the verifier rests on; failures carry their texts. -/
structure DpopLibrary (K : Type) where
  decodeHeader : String → Except String ProofHeader
  ecJwkThumbprint : String → String → String → String → String
  fromEcComponents : String → String → Except String K
  decode : String → K → Except String DpopClaims
  canonicalizeHttpUrl : String → Except String String
  sha256 : List UInt8 → List UInt8

/-- `{:?}` of an algorithm. -/
def debugAlg : Algorithm → String
  | .edDSA => "EdDSA"
  | .es256 => "ES256"
  | .other name => name

def dpopInvalid (detail : String) : ProblemDetail :=
  .notRetryable .dpopProofInvalid "dpop_proof_invalid" detail

/-- The wallet's own copy of the facilitator's drift. -/
def absDrift (iatClaim nowSecs : Int) : Nat := absDriftSeconds iatClaim nowSecs

section Verify

variable {K : Type} (lib : DpopLibrary K)

def canonicalizeUrl (raw : String) : Except ProblemDetail String :=
  (lib.canonicalizeHttpUrl raw).mapError dpopInvalid

/-- The `ath` that goes with an access token. -/
def expectedAth (accessToken : String) : String :=
  encodeBase64Url (lib.sha256 accessToken.toUTF8.toList)

/-- The key of a proof header, when it is one the wallet takes. -/
def proofKey (header : ProofHeader) : Except ProblemDetail (String × String) := do
  match ← okOr header.jwk (dpopInvalid "proof header carries no jwk") with
  | .ellipticCurve .p256 x y => return (x, y)
  | .ellipticCurve .other _ _ => throw (dpopInvalid "proof jwk curve must be P-256")
  | .other => throw (dpopInvalid "proof jwk must be an EC key")

/-- Verify a DPoP proof bound to an access token; the answer is the proof's `jti`. -/
def verifyDpopProof : VerifyDpopProof := fun proofJwt binding nowUnix => do
  let header ← (lib.decodeHeader proofJwt).mapError fun err =>
    dpopInvalid ("header decode failed: " ++ err)
  ensure (header.typ = some "dpop+jwt") (dpopInvalid "typ must be dpop+jwt")
  ensure (header.alg = .es256) (dpopInvalid ("alg must be ES256, got " ++ debugAlg header.alg))
  let (x, y) ← proofKey header
  ensure (lib.ecJwkThumbprint "P-256" "EC" x y = binding.boundJkt)
    (dpopInvalid "proof key thumbprint does not match the access token cnf.jkt")
  let decodingKey ← (lib.fromEcComponents x y).mapError fun err =>
    dpopInvalid ("jwk components rejected: " ++ err)
  let claims ← (lib.decode proofJwt decodingKey).mapError fun err =>
    dpopInvalid ("signature verification failed: " ++ err)
  ensure (claims.htm = binding.method)
    (dpopInvalid ("htm mismatch: expected " ++ binding.method ++ ", got " ++ claims.htm))
  let htu ← canonicalizeUrl lib claims.htu
  let requestUrl ← canonicalizeUrl lib binding.requestUrl
  ensure (htu = requestUrl) (dpopInvalid "htu mismatch")
  let drift := absDrift claims.iat nowUnix
  ensure (drift ≤ dpopClockSkewSeconds)
    (dpopInvalid ("iat skew " ++ toString drift ++ "s exceeds "
      ++ toString dpopClockSkewSeconds ++ "s tolerance"))
  ensure (claims.ath = expectedAth lib binding.accessToken)
    (dpopInvalid "ath does not match the presented access token")
  return claims.jti

end Verify

section Bound

variable {K : Type} {lib : DpopLibrary K} {proof : String} {binding : DpopBinding} {now : Int}

/-- What a proof says, under the key it carries. -/
structure Opens (lib : DpopLibrary K) (proof x y : String) (claims : DpopClaims) : Prop where
  header : ∃ header, lib.decodeHeader proof = .ok header ∧ header.typ = some "dpop+jwt" ∧
    header.alg = .es256 ∧ header.jwk = some (.ellipticCurve .p256 x y)
  signature : ∃ key, lib.fromEcComponents x y = .ok key ∧ lib.decode proof key = .ok claims

/-- A proof opens in one way. -/
theorem Opens.unique {x y x' y' : String} {claims claims' : DpopClaims}
    (h : Opens lib proof x y claims) (h' : Opens lib proof x' y' claims') : claims = claims' := by
  obtain ⟨header, hheader, -, -, hjwk⟩ := h.header
  obtain ⟨header', hheader', -, -, hjwk'⟩ := h'.header
  rw [hheader, Except.ok.injEq] at hheader'
  rw [← hheader', hjwk, Option.some.injEq, ProofKey.ellipticCurve.injEq] at hjwk'
  obtain ⟨-, rfl, rfl⟩ := hjwk'
  obtain ⟨key, hkey, hdecode⟩ := h.signature
  obtain ⟨key', hkey', hdecode'⟩ := h'.signature
  rw [hkey, Except.ok.injEq] at hkey'
  rw [← hkey', hdecode, Except.ok.injEq] at hdecode'
  exact hdecode'

/-- What an accepted proof is pinned against. -/
structure Binds (lib : DpopLibrary K) (binding : DpopBinding) (now : Int) (x y : String)
    (claims : DpopClaims) : Prop where
  thumbprint : lib.ecJwkThumbprint "P-256" "EC" x y = binding.boundJkt
  method : claims.htm = binding.method
  url : ∃ url, lib.canonicalizeHttpUrl claims.htu = .ok url ∧
    lib.canonicalizeHttpUrl binding.requestUrl = .ok url
  drift : absDrift claims.iat now ≤ dpopClockSkewSeconds
  token : claims.ath = expectedAth lib binding.accessToken

theorem proof_key_ok {header : ProofHeader} {x y : String} :
    proofKey header = .ok (x, y) ↔ header.jwk = some (.ellipticCurve .p256 x y) := by
  unfold proofKey
  cases header.jwk with
  | none => simp [okOr]
  | some key =>
      cases key with
      | other => simp [okOr]
      | ellipticCurve curve x' y' =>
          cases curve with
          | p256 => simp [okOr]
          | other => simp [okOr]

/-- An accepted proof opens, and is bound to the request, the token and its key. -/
theorem verify_dpop_proof_ok {jti : String}
    (h : verifyDpopProof lib proof binding now = .ok jti) :
    ∃ x y claims, Opens lib proof x y claims ∧ Binds lib binding now x y claims ∧
      claims.jti = jti := by
  simp only [verifyDpopProof, canonicalizeUrl, bind_eq_ok, mapError_eq_ok, ensure_eq_ok,
    pure_eq_ok] at h
  obtain ⟨header, hheader, _, htyp, _, halg, ⟨x, y⟩, hkey, _, hthumbprint, key, hcomponents,
    claims, hdecode, _, hmethod, url, hurl, url', hurl', _, hsame, _, hdrift, _, htoken, hjti⟩ := h
  subst hsame
  exact ⟨x, y, claims, ⟨⟨header, hheader, htyp, halg, proof_key_ok.1 hkey⟩, key, hcomponents,
    hdecode⟩, ⟨hthumbprint, hmethod, ⟨url, hurl, hurl'⟩, hdrift, htoken⟩, hjti⟩

end Bound

/-! ## The seen set -/

/-- Proof `jti` to the instant it was recorded at. -/
abbrev SeenSet := Table String Nat

/-- `record_dpop_jti`, under the lock, at an instant read before; in any unit of time. -/
def recordJti (window : Nat) (seen : SeenSet) (instant : Nat) (jti : String) :
    Except ProblemResponse Unit × SeenSet :=
  let kept := Table.retain seen fun _ recorded => decide (instant - recorded < window)
  match kept.lookup jti with
  | some _ => (.error (problemResponse (.notRetryable .dpopProofInvalid "dpop_proof_invalid"
      "DPoP proof jti was already presented in the replay window")), kept)
  | none => (.ok (), AList.insert jti instant kept)

/-- The sign gate's is this one in milliseconds. -/
theorem recordDpopJti_eq : recordDpopJti = recordJti dpopReplayWindowMs := rfl

section Seen

variable {window instant recorded : Nat} {seen : SeenSet} {jti other : String}

theorem lookup_retained (h : seen.lookup other = some recorded)
    (hlive : instant < recorded + window) (hwindow : 0 < window) :
    (Table.retain seen fun _ recorded => decide (instant - recorded < window)).lookup other =
      some recorded := by
  have hkept : decide (instant - recorded < window) = true := by
    rw [decide_eq_true_eq]
    omega
  rw [Table.lookup_retain, h, Option.filter_some, hkept]
  rfl

/-- Recording drops what is out of the window, and nothing else. -/
theorem record_jti_kept (h : seen.lookup other = some recorded) (hwindow : 0 < window) :
    (recordJti window seen instant jti).2.lookup other = some recorded ∨
      recorded + window ≤ instant := by
  by_cases hlive : instant < recorded + window
  · left
    have hretained := lookup_retained h hlive hwindow
    unfold recordJti
    simp only
    split
    · exact hretained
    · next habsent =>
        have hother : other ≠ jti := by
          intro heq
          rw [heq] at hretained
          rw [hretained] at habsent
          exact absurd habsent (by simp)
        rw [Table.lookup_insert_eq, if_neg hother]
        exact hretained
  · exact .inr (Nat.not_lt.1 hlive)

/-- A `jti` that is in the set is recorded again only once it is out of the window. -/
theorem record_jti_again (h : seen.lookup jti = some recorded) (hwindow : 0 < window)
    (hok : (recordJti window seen instant jti).1 = .ok ()) : recorded + window ≤ instant := by
  by_cases hlive : instant < recorded + window
  · have hretained := lookup_retained h hlive hwindow
    unfold recordJti at hok
    simp only [hretained] at hok
    exact absurd hok (by simp)
  · exact Nat.not_lt.1 hlive

/-- A `jti` that was recorded is in the set, at the instant the call read. -/
theorem record_jti_ok (hok : (recordJti window seen instant jti).1 = .ok ()) :
    (recordJti window seen instant jti).2.lookup jti = some instant := by
  unfold recordJti at hok ⊢
  simp only at hok ⊢
  split at hok
  · exact absurd hok (by simp)
  · exact AList.lookup_insert _

end Seen

/-! ## The machine -/

/-- The fields of the application state that do not change. -/
structure SignEndpoint where
  jwks : List Jwk
  audience : String
  publicSignUrl : String
  leewaySeconds : Nat

/-- A call whose access token was verified. -/
structure SpendCall where
  headers : SignHeaders
  accessToken : String
  proof : String
  claims : AccessTokenClaims
  deriving DecidableEq, Repr

def SpendCall.binding (endpoint : SignEndpoint) (call : SpendCall) : DpopBinding where
  method := "POST"
  requestUrl := endpoint.publicSignUrl
  accessToken := call.accessToken
  boundJkt := call.claims.cnfJkt

/-- When a call read the wall clock for its proof, read the monotonic clock, and held the
lock. -/
structure Recording where
  jti : String
  verifiedAt : Nat
  readAt : Nat
  lockedAt : Nat
  deriving DecidableEq, Repr

/-- Where a call is; an accepted one returned its claims, a refused one an error. -/
inductive Phase
  | authorized (call : SpendCall)
  | verified (call : SpendCall) (jti : String) (verifiedAt : Nat)
  | recording (call : SpendCall) (jti : String) (verifiedAt readAt : Nat)
  | accepted (call : SpendCall) (recording : Recording)
  | refused (err : ProblemResponse)
  deriving DecidableEq

structure State where
  mono : Nat
  seen : SeenSet
  calls : Table Nat Phase

def State.initial (mono : Nat) : State where
  mono := mono
  seen := ∅
  calls := ∅

def State.setPhase (s : State) (c : Nat) (phase : Phase) : State :=
  { s with calls := AList.insert c phase s.calls }

@[simp] theorem setPhase_mono (s : State) (c : Nat) (phase : Phase) :
    (s.setPhase c phase).mono = s.mono := rfl

@[simp] theorem setPhase_seen (s : State) (c : Nat) (phase : Phase) :
    (s.setPhase c phase).seen = s.seen := rfl

theorem lookup_setPhase (s : State) (c c' : Nat) (phase : Phase) :
    (s.setPhase c phase).calls.lookup c' = if c' = c then some phase else s.calls.lookup c' :=
  Table.lookup_insert_eq s.calls c c' phase

@[simp] theorem lookup_setPhase_self (s : State) (c : Nat) (phase : Phase) :
    (s.setPhase c phase).calls.lookup c = some phase :=
  AList.lookup_insert s.calls

/-- `DPOP_REPLAY_WINDOW_SECONDS` on the monotonic clock. -/
def replayWindow : Nat := dpopReplayWindowSeconds * nanosPerSecond

inductive Action
  | tick (nanos : Nat)
  | start (c : Nat) (headers : SignHeaders)
  | verifyProof (c : Nat)
  | readInstant (c : Nat)
  | record (c : Nat)
  deriving DecidableEq

section Step

variable {K : Type} (lib : DpopLibrary K) (jwt : JwtLibrary) (endpoint : SignEndpoint)
  (offset : Int)

/-- Up to the verified access token. -/
def authorize (headers : SignHeaders) (now : Int) : Except ProblemResponse SpendCall := do
  let (accessToken, proof) ← extractDpopBearer headers
  let claims ← (verifyAccessToken jwt accessToken endpoint.jwks endpoint.audience
    endpoint.leewaySeconds now).mapError problemResponse
  return { headers, accessToken, proof, claims }

def State.startCall (s : State) (c : Nat) (headers : SignHeaders) : State :=
  match s.calls.lookup c with
  | some _ => s
  | none =>
      s.setPhase c (match authorize jwt endpoint headers (currentUnixSeconds offset s.mono) with
        | .ok call => .authorized call
        | .error err => .refused err)

def State.verifyCall (s : State) (c : Nat) : State :=
  match s.calls.lookup c with
  | some (.authorized call) =>
      s.setPhase c
        (match verifyDpopProof lib call.proof (call.binding endpoint)
            (currentUnixSeconds offset s.mono) with
        | .ok jti => .verified call jti s.mono
        | .error err => .refused (problemResponse err))
  | _ => s

def State.readInstantCall (s : State) (c : Nat) : State :=
  match s.calls.lookup c with
  | some (.verified call jti verifiedAt) =>
      s.setPhase c (.recording call jti verifiedAt s.mono)
  | _ => s

def State.recordCall (s : State) (c : Nat) : State :=
  match s.calls.lookup c with
  | some (.recording call jti verifiedAt readAt) =>
      let (result, seen) := recordJti replayWindow s.seen readAt jti
      State.setPhase { s with seen } c
        (match result with
          | .ok _ => .accepted call { jti, verifiedAt, readAt, lockedAt := s.mono }
          | .error err => .refused err)
  | _ => s

def step (s : State) : Action → State
  | .tick nanos => { s with mono := s.mono + nanos }
  | .start c headers => s.startCall jwt endpoint offset c headers
  | .verifyProof c => s.verifyCall lib endpoint offset c
  | .readInstant c => s.readInstantCall c
  | .record c => s.recordCall c

end Step

/-! ### A call on its own -/

section Alone

variable {K : Type} (lib : DpopLibrary K) (jwt : JwtLibrary)

/-- `verify_spend_authorization` at one time, in any unit of the monotonic clock. -/
def spendAuthorization (endpoint : SignEndpoint) (window : Nat) (seen : SeenSet) (now : Int)
    (instant : Nat) (headers : SignHeaders) : Except ProblemResponse (SpendCall × String) := do
  let call ← authorize jwt endpoint headers now
  let jti ← (verifyDpopProof lib call.proof (call.binding endpoint) now).mapError problemResponse
  (recordJti window seen instant jti).1
  return (call, jti)

variable {lib jwt}

def endpointOf (state : AppState) : SignEndpoint where
  jwks := state.jwks
  audience := state.policy.audience
  publicSignUrl := state.publicSignUrl
  leewaySeconds := state.leewaySeconds

/-- The sign gate runs a call at one time. -/
theorem verify_spend_authorization_eq (state : AppState) (headers : SignHeaders) :
    verifySpendAuthorization jwt (verifyDpopProof lib) state headers =
      (spendAuthorization lib jwt (endpointOf state) dpopReplayWindowMs state.dpopProofJtiSeen
        (unixNow state) state.instantMs headers).map fun granted => granted.1.claims := by
  unfold verifySpendAuthorization spendAuthorization authorize
  rw [recordDpopJti_eq]
  cases extractDpopBearer headers with
  | error err => rfl
  | ok bearer =>
      obtain ⟨accessToken, proof⟩ := bearer
      simp only [bind, Except.bind, pure, Except.pure]
      unfold endpointOf
      cases verifyAccessToken jwt accessToken state.jwks state.policy.audience
          state.leewaySeconds (unixNow state) with
      | error err => rfl
      | ok claims =>
          simp only [Except.mapError, SpendCall.binding]
          cases verifyDpopProof lib proof _ (unixNow state) with
          | error err => rfl
          | ok jti =>
              simp only
              cases (recordJti dpopReplayWindowMs state.dpopProofJtiSeen state.instantMs jti).1 with
              | error err => rfl
              | ok _ => rfl

/-- So does the machine, when nothing happens between the steps of a call. -/
theorem call_undisturbed (endpoint : SignEndpoint) (offset : Int) (s : State) (c : Nat)
    (headers : SignHeaders) (hnew : s.calls.lookup c = none) :
    (run (step lib jwt endpoint offset) s
        [.start c headers, .verifyProof c, .readInstant c, .record c]).calls.lookup c =
      some (match spendAuthorization lib jwt endpoint replayWindow s.seen
          (currentUnixSeconds offset s.mono) s.mono headers with
        | .ok (call, jti) => .accepted call
            { jti, verifiedAt := s.mono, readAt := s.mono, lockedAt := s.mono }
        | .error err => .refused err) := by
  simp only [run_cons, run_nil, step]
  unfold spendAuthorization State.startCall
  rw [hnew]
  cases authorize jwt endpoint headers (currentUnixSeconds offset s.mono) with
  | error err =>
      simp only [State.verifyCall, State.readInstantCall, State.recordCall, lookup_setPhase_self]
      rfl
  | ok call =>
      simp only [State.verifyCall, lookup_setPhase_self, setPhase_mono, bind, Except.bind]
      cases verifyDpopProof lib call.proof (call.binding endpoint)
          (currentUnixSeconds offset s.mono) with
      | error err =>
          simp only [State.readInstantCall, State.recordCall, lookup_setPhase_self]
          rfl
      | ok jti =>
          simp only [State.readInstantCall, State.recordCall, lookup_setPhase_self, setPhase_mono,
            setPhase_seen, Except.mapError]
          cases (recordJti replayWindow s.seen s.mono jti).1 with
          | error err => rfl
          | ok _ => rfl

end Alone

/-! ## What is promised -/

/-- The call that returned `Ok`, and how it was recorded. -/
def Phase.outcome : Phase → Option (SpendCall × Recording)
  | .accepted call kept => some (call, kept)
  | .authorized _ | .verified .. | .recording .. | .refused _ => none

def State.accepted (s : State) (c : Nat) : Option (SpendCall × Recording) :=
  (s.calls.lookup c).bind Phase.outcome

/-- What is left of the window once the skew is allowed for on both sides, less the
second lost in truncation. -/
def patience : Nat :=
  (dpopReplayWindowSeconds - 2 * dpopClockSkewSeconds - 1) * nanosPerSecond

/-- More than `patience` passed between the reading of the wall clock and the lock. -/
def Recording.HeldUp (recording : Recording) : Prop :=
  recording.verifiedAt + patience < recording.lockedAt

def AcceptedOnce (s : State) : Prop :=
  ∀ c c' call call' recording recording', s.accepted c = some (call, recording) →
    s.accepted c' = some (call', recording') → call.proof = call'.proof → c = c'

def AcceptedOnceUnlessHeldUp (s : State) : Prop :=
  ∀ c c' call call' recording recording', s.accepted c = some (call, recording) →
    s.accepted c' = some (call', recording') → call.proof = call'.proof →
    c = c' ∨ recording.HeldUp ∨ recording'.HeldUp

/-- The token of a call was verified, at some time. -/
structure Authorized (jwt : JwtLibrary) (endpoint : SignEndpoint) (call : SpendCall) : Prop where
  headers : extractDpopBearer call.headers = .ok (call.accessToken, call.proof)
  token : ∃ now, verifyAccessToken jwt call.accessToken endpoint.jwks endpoint.audience
    endpoint.leewaySeconds now = .ok call.claims

/-- An accepted call verified its token, and its proof binds that token, its key and this
request, at a reading of the wall clock before it was recorded. -/
def AcceptedBound {K : Type} (lib : DpopLibrary K) (jwt : JwtLibrary) (endpoint : SignEndpoint)
    (offset : Int) (s : State) : Prop :=
  ∀ c call recording, s.accepted c = some (call, recording) →
    Authorized jwt endpoint call ∧ recording.verifiedAt ≤ recording.lockedAt ∧
    ∃ x y claims, Opens lib call.proof x y claims ∧ claims.jti = recording.jti ∧
      Binds lib (call.binding endpoint) (currentUnixSeconds offset recording.verifiedAt) x y claims

/-! ## The invariant -/

section Invariant

variable {K : Type} {lib : DpopLibrary K} {jwt : JwtLibrary} {endpoint : SignEndpoint}
  {offset : Int} {since : Nat} {s : State}

/-- The proof of a call was verified at an instant of the run. -/
structure Verified (lib : DpopLibrary K) (jwt : JwtLibrary) (endpoint : SignEndpoint)
    (offset : Int) (since : Nat) (call : SpendCall) (jti : String) (verifiedAt : Nat) : Prop where
  authorized : Authorized jwt endpoint call
  proof : verifyDpopProof lib call.proof (call.binding endpoint)
    (currentUnixSeconds offset verifiedAt) = .ok jti
  within : since ≤ verifiedAt

/-- What a call has established, and in which order it read the clocks. -/
def Phase.Sound (lib : DpopLibrary K) (jwt : JwtLibrary) (endpoint : SignEndpoint)
    (offset : Int) (since mono : Nat) : Phase → Prop
  | .authorized call => Authorized jwt endpoint call
  | .verified call jti verifiedAt =>
      Verified lib jwt endpoint offset since call jti verifiedAt ∧ verifiedAt ≤ mono
  | .recording call jti verifiedAt readAt =>
      Verified lib jwt endpoint offset since call jti verifiedAt ∧ verifiedAt ≤ readAt ∧
        readAt ≤ mono
  | .accepted call kept =>
      Verified lib jwt endpoint offset since call kept.jti kept.verifiedAt ∧
        kept.verifiedAt ≤ kept.readAt ∧ kept.readAt ≤ kept.lockedAt ∧ kept.lockedAt ≤ mono
  | .refused _ => True

structure Inv (lib : DpopLibrary K) (jwt : JwtLibrary) (endpoint : SignEndpoint) (offset : Int)
    (since : Nat) (s : State) : Prop where
  started : since ≤ s.mono
  sound : ∀ c phase, s.calls.lookup c = some phase →
    phase.Sound lib jwt endpoint offset since s.mono
  /-- What an accepted call recorded is in the set for the window. -/
  held : ∀ c call recording, s.accepted c = some (call, recording) →
    s.seen.lookup recording.jti = some recording.readAt ∨
      recording.readAt + replayWindow ≤ s.mono
  /-- Two recordings of one `jti` are the window apart. -/
  apart : ∀ c c' call call' recording recording', c ≠ c' →
    s.accepted c = some (call, recording) → s.accepted c' = some (call', recording') →
    recording.jti = recording'.jti →
    recording.readAt + replayWindow ≤ recording'.lockedAt ∨
      recording'.readAt + replayWindow ≤ recording.lockedAt

theorem Phase.Sound.later {mono mono' : Nat} {phase : Phase}
    (h : phase.Sound lib jwt endpoint offset since mono) (hmono : mono ≤ mono') :
    phase.Sound lib jwt endpoint offset since mono' := by
  cases phase with
  | authorized call => exact h
  | verified call jti verifiedAt => exact ⟨h.1, Nat.le_trans h.2 hmono⟩
  | recording call jti verifiedAt readAt => exact ⟨h.1, h.2.1, Nat.le_trans h.2.2 hmono⟩
  | accepted call kept => exact ⟨h.1, h.2.1, h.2.2.1, Nat.le_trans h.2.2.2 hmono⟩
  | refused err => trivial

theorem accepted_setPhase (c c' : Nat) (phase : Phase) :
    (s.setPhase c phase).accepted c' = if c' = c then phase.outcome else s.accepted c' := by
  unfold State.accepted
  rw [lookup_setPhase]
  split <;> rfl

theorem inv_initial (mono : Nat) : Inv lib jwt endpoint offset mono (.initial mono) where
  started := Nat.le_refl mono
  sound c phase h := absurd h (by simp [State.initial])
  held c call recording h := absurd h (by simp [State.initial, State.accepted])
  apart c c' call call' recording recording' _ h := absurd h
    (by simp [State.initial, State.accepted])

theorem inv_tick (nanos : Nat) (hs : Inv lib jwt endpoint offset since s) :
    Inv lib jwt endpoint offset since { s with mono := s.mono + nanos } where
  started := Nat.le_trans hs.started (Nat.le_add_right _ _)
  sound c phase h := (hs.sound c phase h).later (Nat.le_add_right _ _)
  held c call recording h := by
    rcases hs.held c call recording h with hseen | hover
    · exact .inl hseen
    · exact .inr (Nat.le_trans hover (Nat.le_add_right _ _))
  apart := hs.apart

theorem Inv.withSeen {seen : SeenSet} (hs : Inv lib jwt endpoint offset since s)
    (hheld : ∀ c call recording, s.accepted c = some (call, recording) →
      seen.lookup recording.jti = some recording.readAt ∨
        recording.readAt + replayWindow ≤ s.mono) :
    Inv lib jwt endpoint offset since { s with seen } where
  started := hs.started
  sound := hs.sound
  held := hheld
  apart := hs.apart

/-- A call that moves on without returning `Ok`. -/
theorem Inv.setPhase {c : Nat} {phase : Phase} (hs : Inv lib jwt endpoint offset since s)
    (hsound : phase.Sound lib jwt endpoint offset since s.mono) (hopen : phase.outcome = none) :
    Inv lib jwt endpoint offset since (s.setPhase c phase) where
  started := hs.started
  sound := Table.forall_insert hsound fun c' phase' _ => hs.sound c' phase'
  held c' call recording h := by
    rw [accepted_setPhase, hopen] at h
    split at h
    · exact absurd h (by simp)
    · exact hs.held c' call recording h
  apart c₁ c₂ call₁ call₂ recording₁ recording₂ hne h₁ h₂ := by
    rw [accepted_setPhase, hopen] at h₁ h₂
    split at h₁
    · exact absurd h₁ (by simp)
    · split at h₂
      · exact absurd h₂ (by simp)
      · exact hs.apart c₁ c₂ call₁ call₂ recording₁ recording₂ hne h₁ h₂

/-- A call that returns `Ok`, having recorded a `jti` that no other one holds. -/
theorem Inv.accept {c : Nat} {call : SpendCall} {recording : Recording}
    (hs : Inv lib jwt endpoint offset since s)
    (hsound : (Phase.accepted call recording).Sound lib jwt endpoint offset since s.mono)
    (hlocked : recording.lockedAt = s.mono)
    (hseen : s.seen.lookup recording.jti = some recording.readAt)
    (hover : ∀ c' call' recording', s.accepted c' = some (call', recording') →
      recording'.jti = recording.jti → recording'.readAt + replayWindow ≤ s.mono) :
    Inv lib jwt endpoint offset since (s.setPhase c (.accepted call recording)) where
  started := hs.started
  sound := Table.forall_insert hsound fun c' phase' _ => hs.sound c' phase'
  held c' call' recording' h := by
    rw [accepted_setPhase] at h
    split at h
    · cases h
      exact .inl hseen
    · exact hs.held c' call' recording' h
  apart c₁ c₂ call₁ call₂ recording₁ recording₂ hne h₁ h₂ hjti := by
    rw [accepted_setPhase] at h₁ h₂
    split at h₁
    · next heq₁ =>
        cases h₁
        rw [if_neg fun heq₂ => hne (heq₁.trans heq₂.symm)] at h₂
        right
        rw [hlocked]
        exact hover c₂ call₂ recording₂ h₂ hjti.symm
    · split at h₂
      · cases h₂
        left
        rw [hlocked]
        exact hover c₁ call₁ recording₁ h₁ hjti
      · exact hs.apart c₁ c₂ call₁ call₂ recording₁ recording₂ hne h₁ h₂ hjti

theorem authorize_ok {headers : SignHeaders} {now : Int} {call : SpendCall}
    (h : authorize jwt endpoint headers now = .ok call) : Authorized jwt endpoint call := by
  simp only [authorize, bind_eq_ok, mapError_eq_ok, pure_eq_ok] at h
  obtain ⟨⟨accessToken, proof⟩, hheaders, claims, htoken, rfl⟩ := h
  exact ⟨hheaders, now, htoken⟩

theorem inv_start (c : Nat) (headers : SignHeaders) (hs : Inv lib jwt endpoint offset since s) :
    Inv lib jwt endpoint offset since (s.startCall jwt endpoint offset c headers) := by
  unfold State.startCall
  split
  · exact hs
  · split
    · next call hcall => exact hs.setPhase (authorize_ok hcall) rfl
    · exact hs.setPhase trivial rfl

theorem inv_verify (c : Nat) (hs : Inv lib jwt endpoint offset since s) :
    Inv lib jwt endpoint offset since (s.verifyCall lib endpoint offset c) := by
  unfold State.verifyCall
  split
  · next call hphase =>
      have hcall : Authorized jwt endpoint call := hs.sound c _ hphase
      split
      · next jti hproof =>
          exact hs.setPhase ⟨⟨hcall, hproof, hs.started⟩, Nat.le_refl s.mono⟩ rfl
      · exact hs.setPhase trivial rfl
  · exact hs

theorem inv_readInstant (c : Nat) (hs : Inv lib jwt endpoint offset since s) :
    Inv lib jwt endpoint offset since (s.readInstantCall c) := by
  unfold State.readInstantCall
  split
  · next call jti verifiedAt hphase =>
      obtain ⟨hverified, htime⟩ := hs.sound c _ hphase
      exact hs.setPhase ⟨hverified, htime, Nat.le_refl s.mono⟩ rfl
  · exact hs

theorem inv_record (c : Nat) (hs : Inv lib jwt endpoint offset since s) :
    Inv lib jwt endpoint offset since (s.recordCall c) := by
  unfold State.recordCall
  split
  · next call jti verifiedAt readAt hphase =>
      obtain ⟨hverified, hread, hmono⟩ := hs.sound c _ hphase
      have hwindow : 0 < replayWindow := by decide
      have hseen : Inv lib jwt endpoint offset since
          { s with seen := (recordJti replayWindow s.seen readAt jti).2 } := by
        apply hs.withSeen
        intro c' call' recording' h
        rcases hs.held c' call' recording' h with hlookup | hover
        · rcases record_jti_kept hlookup hwindow with hkept | hdropped
          · exact .inl hkept
          · exact .inr (Nat.le_trans hdropped hmono)
        · exact .inr hover
      cases hresult : (recordJti replayWindow s.seen readAt jti).1 with
      | error err =>
          simp only [hresult]
          exact hseen.setPhase trivial rfl
      | ok _ =>
          simp only [hresult]
          apply hseen.accept ⟨hverified, hread, hmono, Nat.le_refl s.mono⟩ rfl
            (record_jti_ok hresult)
          -- A recording of this `jti` that was still in the set would have refused the call.
          intro c' call' recording' h hjti
          rcases hs.held c' call' recording' h with hlookup | hover
          · have hsame : recording'.jti = jti := hjti
            rw [hsame] at hlookup
            exact Nat.le_trans (record_jti_again hlookup hwindow hresult) hmono
          · exact hover
  · exact hs

theorem inv_step (s : State) (a : Action) (hs : Inv lib jwt endpoint offset since s) :
    Inv lib jwt endpoint offset since (step lib jwt endpoint offset s a) := by
  cases a with
  | tick nanos => exact inv_tick nanos hs
  | start c headers => exact inv_start c headers hs
  | verifyProof c => exact inv_verify c hs
  | readInstant c => exact inv_readInstant c hs
  | record c => exact inv_record c hs

/-! ## Accepted at most once -/

theorem Inv.accepted_sound {c : Nat} {call : SpendCall} {recording : Recording}
    (hs : Inv lib jwt endpoint offset since s) (h : s.accepted c = some (call, recording)) :
    (Phase.accepted call recording).Sound lib jwt endpoint offset since s.mono := by
  obtain ⟨phase, hphase, houtcome⟩ := Option.bind_eq_some_iff.1 h
  cases phase with
  | accepted call' kept =>
      cases houtcome
      exact hs.sound c _ hphase
  | authorized | verified | recording | refused => exact absurd houtcome (by simp [Phase.outcome])

theorem accepted_bound_of_inv (hs : Inv lib jwt endpoint offset since s) :
    AcceptedBound lib jwt endpoint offset s := by
  intro c call recording h
  obtain ⟨hverified, hread, hlocked, -⟩ := hs.accepted_sound h
  obtain ⟨x, y, claims, hopens, hbinds, hjti⟩ := verify_dpop_proof_ok hverified.proof
  exact ⟨hverified.authorized, Nat.le_trans hread hlocked, x, y, claims, hopens, hjti, hbinds⟩

/-- After the epoch and within 64 bits the wall clock reads in whole seconds. -/
theorem current_unix_seconds_eq {mono : Nat} (hepoch : 0 ≤ wallNanos offset mono)
    (hfits : wallNanos offset mono / nanosPerSecond < 2 ^ 63) :
    currentUnixSeconds offset mono = wallNanos offset mono / nanosPerSecond := by
  unfold currentUnixSeconds
  rw [if_neg (Int.not_lt.2 hepoch)]
  omega

/-- The wall clock is past the Unix epoch from the first instant on, and within the range
of its reading up to the last. -/
def ClockInRange (offset : Int) (since : Nat) (s : State) : Prop :=
  0 ≤ wallNanos offset since ∧ wallNanos offset s.mono / nanosPerSecond < 2 ^ 63

/-- An accepted proof was near its `iat` when it was verified. -/
theorem near_iat_of_binds {verifiedAt : Nat} {binding : DpopBinding} {x y : String}
    {claims : DpopClaims} (hclock : ClockInRange offset since s) (hsince : since ≤ verifiedAt)
    (hnow : verifiedAt ≤ s.mono)
    (hbinds : Binds lib binding (currentUnixSeconds offset verifiedAt) x y claims) :
    (claims.iat - wallNanos offset verifiedAt / nanosPerSecond).natAbs ≤ dpopClockSkewSeconds := by
  obtain ⟨hepoch, hfits⟩ := hclock
  have hepoch' : 0 ≤ wallNanos offset verifiedAt := by
    unfold wallNanos at hepoch ⊢
    omega
  have hfits' : wallNanos offset verifiedAt / nanosPerSecond < 2 ^ 63 := by
    unfold wallNanos nanosPerSecond at hfits ⊢
    omega
  have hdrift := natAbs_le_of_absDrift hbinds.drift
  rw [current_unix_seconds_eq hepoch' hfits'] at hdrift
  exact hdrift

/-- Two calls cannot both have verified their proof near one `iat`, and the second have
recorded it after the window, unless one of them was held up. -/
theorem accepted_once_of_inv (hs : Inv lib jwt endpoint offset since s)
    (hclock : ClockInRange offset since s) : AcceptedOnceUnlessHeldUp s := by
  intro c c' call call' recording recording' h h' hproof
  by_cases hsame : c = c'
  · exact .inl hsame
  · right
    obtain ⟨hverified, hread, hlocked, hpast⟩ := hs.accepted_sound h
    obtain ⟨hverified', hread', hlocked', hpast'⟩ := hs.accepted_sound h'
    obtain ⟨x, y, claims, hopens, hbinds, hjti⟩ := verify_dpop_proof_ok hverified.proof
    obtain ⟨x', y', claims', hopens', hbinds', hjti'⟩ := verify_dpop_proof_ok hverified'.proof
    rw [← hproof] at hopens'
    have hclaims : claims = claims' := hopens.unique hopens'
    subst hclaims
    have hapart := hs.apart c c' call call' recording recording' hsame h h'
      (hjti.symm.trans hjti')
    have hnear := near_iat_of_binds hclock hverified.within (by omega) hbinds
    have hnear' := near_iat_of_binds hclock hverified'.within (by omega) hbinds'
    unfold wallNanos nanosPerSecond dpopClockSkewSeconds at hnear hnear'
    unfold replayWindow dpopReplayWindowSeconds nanosPerSecond at hapart
    unfold Recording.HeldUp patience dpopReplayWindowSeconds dpopClockSkewSeconds nanosPerSecond
    omega

end Invariant

/-- In every run of calls, those that return `Ok` hold a proof bound to their token, key
and request, and no two of them present one proof unless one was held up between its
reading of the wall clock and the lock. -/
theorem spend_proofs_accepted_once {K : Type} (lib : DpopLibrary K) (jwt : JwtLibrary)
    (endpoint : SignEndpoint) (offset : Int) (mono : Nat) (as : List Action) :
    (ClockInRange offset mono (run (step lib jwt endpoint offset) (.initial mono) as) →
      AcceptedOnceUnlessHeldUp (run (step lib jwt endpoint offset) (.initial mono) as)) ∧
    AcceptedBound lib jwt endpoint offset
      (run (step lib jwt endpoint offset) (.initial mono) as) := by
  have hinv : Inv lib jwt endpoint offset mono
      (run (step lib jwt endpoint offset) (.initial mono) as) :=
    run_invariant inv_step (inv_initial mono) as
  exact ⟨accepted_once_of_inv hinv, accepted_bound_of_inv hinv⟩

/-! ### A proof that is presented twice -/

def sampleDpopLibrary : DpopLibrary Unit where
  decodeHeader _ :=
    .ok { typ := some "dpop+jwt", alg := .es256, jwk := some (.ellipticCurve .p256 "x" "y") }
  ecJwkThumbprint _ _ x _ := x
  fromEcComponents _ _ := .ok ()
  decode _ _ :=
    .ok { htm := "POST", htu := "https://w/sign", jti := "j", iat := 1060, ath := "AQ" }
  canonicalizeHttpUrl url := .ok url
  sha256 _ := [1]

def sampleSpendJwt : JwtLibrary where
  decodeHeader _ := .ok { kid := some "k", alg := .edDSA }
  decodingKey _ := .ok ()
  decode _ _ _ _ :=
    .ok { aud := "wallet", jti := "t", exp := 9999, cnfJkt := "x", authorizationDetails := [] }

def sampleEndpoint : SignEndpoint where
  jwks := [{ kid := "k", algorithm := .octetKeyPair, material := "" }]
  audience := "wallet"
  publicSignUrl := "https://w/sign"
  leewaySeconds := 60

def presented : SignHeaders where
  authorization := some "DPoP at"
  dpop := some "proof"

/-- One proof is presented again a minute after it was accepted. -/
def presentedTwice : List Action :=
  [.start 0 presented, .verifyProof 0, .readInstant 0, .record 0, .tick (60 * nanosPerSecond),
    .start 1 presented, .verifyProof 1, .readInstant 1, .record 1]

/-- The first call is accepted, and the second is refused under the lock. -/
theorem spend_proofs_accepted_once_sample :
    let s := run (step sampleDpopLibrary sampleSpendJwt sampleEndpoint 0)
      (.initial (1000 * nanosPerSecond)) presentedTwice
    ClockInRange 0 (1000 * nanosPerSecond) s ∧ (s.accepted 0).isSome = true ∧
      s.calls.lookup 1 = some (.refused (problemResponse (.notRetryable .dpopProofInvalid
        "dpop_proof_invalid" "DPoP proof jti was already presented in the replay window"))) ∧
      AcceptedOnceUnlessHeldUp s := by
  intro s
  have hclock : ClockInRange 0 (1000 * nanosPerSecond) s := by
    unfold ClockInRange
    decide
  refine ⟨hclock, rfl, rfl, ?_⟩
  exact (spend_proofs_accepted_once sampleDpopLibrary sampleSpendJwt sampleEndpoint 0
    (1000 * nanosPerSecond) presentedTwice).1 hclock

/-- One proof is presented at either end of its skew; the second call is held up for three
minutes. -/
def heldUpCall : List Action :=
  [.start 0 presented, .verifyProof 0, .readInstant 0, .record 0,
    .tick (120 * nanosPerSecond), .start 1 presented, .verifyProof 1,
    .tick (180 * nanosPerSecond), .readInstant 1, .record 1]

theorem held_up_proof_accepted_again :
    ¬ ∀ (endpoint : SignEndpoint) (offset : Int) (mono : Nat) (as : List Action),
      ClockInRange offset mono
          (run (step sampleDpopLibrary sampleSpendJwt endpoint offset) (.initial mono) as) →
        AcceptedOnce
          (run (step sampleDpopLibrary sampleSpendJwt endpoint offset) (.initial mono) as) := by
  intro honce
  have hclock : ClockInRange 0 (1000 * nanosPerSecond)
      (run (step sampleDpopLibrary sampleSpendJwt sampleEndpoint 0)
        (.initial (1000 * nanosPerSecond)) heldUpCall) := by
    unfold ClockInRange
    decide
  have hrun := honce sampleEndpoint 0 (1000 * nanosPerSecond) heldUpCall hclock
  have hfirst : (run (step sampleDpopLibrary sampleSpendJwt sampleEndpoint 0)
      (.initial (1000 * nanosPerSecond)) heldUpCall).accepted 0 = some _ := rfl
  have hagain : (run (step sampleDpopLibrary sampleSpendJwt sampleEndpoint 0)
      (.initial (1000 * nanosPerSecond)) heldUpCall).accepted 1 = some _ := rfl
  exact absurd (hrun 0 1 _ _ _ _ hfirst hagain rfl) (by decide)

end Zpay.Wallet.Dpop
