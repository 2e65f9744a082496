import Zpay.Data.Guard
import Zpay.Data.Table
import Zpay.Data.Text
import Zpay.Machine.Run

/-!
# Proofs of possession, accepted once

`verify_dpop_proof` over the in-memory replay store, for any number of calls at once.
A call reads the monotonic clock, observes its pair under the store's lock, and later
reads the wall clock and goes through the remaining gates; anything may happen in
between.  Both clocks advance together, from any instants.

Signatures, thumbprints, URL forms and the parsing of the proof are library functions.

## Main results

* `observe_lookup`, `observe_fresh` — what one observe does to the sighting of a pair.
* `proofs_accepted_once` — no proof is accepted twice, and sightings of one pair are the
  window apart.
* `pair_accepted_again` — what the window lets through.
-/

open Zpay.Data Zpay.Machine

namespace Zpay.X402.Dpop

/-! ## The proof -/

def clockSkewSeconds : Nat := 60

def replayWindowSeconds : Nat := 300

def maxJtiLen : Nat := 128

inductive DpopError
  | missing
  | invalidProof (reason : String)
  | clockSkew (driftSeconds : Nat)
  | replay
  deriving DecidableEq, Repr

structure VerifiedDpopProof where
  jkt : String
  deriving DecidableEq, Repr

/-- `jsonwebtoken::Algorithm`, with the `Debug` text of the others. -/
inductive Algorithm
  | es256
  | other (debug : String)
  deriving DecidableEq, Repr

structure ProofHeader (J : Type) where
  typ : Option String
  alg : String
  jwk : J

structure EcJwk where
  kty : String
  crv : String
  x : String
  y : String
  deriving DecidableEq, Repr

structure ProofClaims where
  htm : String
  htu : String
  jti : String
  iat : Int
  deriving DecidableEq, Repr

/-- The libraries the verifier rests on; failures carry their texts. -/
structure DpopLibrary (J K : Type) where
  decodeHeader : String → Except String Algorithm
  decodeUnverifiedHeader : String → Except String (ProofHeader J)
  ecJwkFromValue : J → Except String EcJwk
  decodeUnverifiedClaims : String → Except String ProofClaims
  computeEcJwkThumbprint : String → String → String → String → String
  canonicalizeHttpUrl : String → Except String String
  fromEcComponents : String → String → Except String K
  decode : String → K → Except String Unit

structure ProofRequest where
  method : String
  url : String
  proof : String
  deriving DecidableEq, Repr

/-- What a call knows of its proof when it comes to the replay store. -/
structure Gated where
  jwk : EcJwk
  claims : ProofClaims
  jti : String
  jkt : String
  deriving DecidableEq, Repr

def Gated.pair (gated : Gated) : String × String := (gated.jkt, gated.jti)

section Gates

variable {J K : Type} (lib : DpopLibrary J K)

/-- Up to the shape gate of the `jti`. -/
def proofGates (proof : String) : Except DpopError Gated := do
  ensure (Text.trim proof ≠ "") .missing
  let alg ← (lib.decodeHeader proof).mapError fun err =>
    .invalidProof ("header decode failed: " ++ err)
  match alg with
  | .es256 => pure ()
  | .other debug => throw (.invalidProof ("alg must be ES256, got " ++ debug))
  let header ← (lib.decodeUnverifiedHeader proof).mapError fun err =>
    .invalidProof ("custom header decode failed: " ++ err)
  ensure (header.typ = some "dpop+jwt") (.invalidProof "typ must be dpop+jwt")
  ensure (header.alg = "ES256") (.invalidProof ("alg must be ES256, got " ++ header.alg))
  let jwk ← (lib.ecJwkFromValue header.jwk).mapError fun err =>
    .invalidProof ("jwk parse failed: " ++ err)
  ensure (jwk.kty = "EC") (.invalidProof ("jwk.kty must be EC, got " ++ jwk.kty))
  ensure (jwk.crv = "P-256") (.invalidProof ("jwk.crv must be P-256, got " ++ jwk.crv))
  let claims ← (lib.decodeUnverifiedClaims proof).mapError fun err =>
    .invalidProof ("claims decode failed: " ++ err)
  let jti := Text.trim claims.jti
  ensure (jti ≠ "") (.invalidProof "jti must be non-empty")
  ensure (Text.byteLength jti ≤ maxJtiLen) (.invalidProof "jti exceeds 128-byte cap")
  pure { jwk, claims, jti, jkt := lib.computeEcJwkThumbprint jwk.crv jwk.kty jwk.x jwk.y }

/-- `i64::saturating_sub`. -/
def saturatingSubI64 (a b : Int) : Int := max (-2 ^ 63) (min (2 ^ 63 - 1) (a - b))

def absDriftSeconds (iatClaim nowSecs : Int) : Nat :=
  max (saturatingSubI64 iatClaim nowSecs).natAbs (saturatingSubI64 nowSecs iatClaim).natAbs

/-- From the `htm` comparison on. -/
def laterGates (request : ProofRequest) (gated : Gated) (nowSecs : Int) :
    Except DpopError VerifiedDpopProof := do
  ensure (request.method = gated.claims.htm)
    (.invalidProof ("htm mismatch: expected " ++ request.method ++ ", got " ++ gated.claims.htm))
  let want ← (lib.canonicalizeHttpUrl request.url).mapError .invalidProof
  let got ← (lib.canonicalizeHttpUrl gated.claims.htu).mapError .invalidProof
  ensure (want = got) (.invalidProof ("htu mismatch: expected " ++ want ++ ", got " ++ got))
  let drift := absDriftSeconds gated.claims.iat nowSecs
  ensure (drift ≤ clockSkewSeconds) (.clockSkew drift)
  let key ← (lib.fromEcComponents gated.jwk.x gated.jwk.y).mapError fun err =>
    .invalidProof ("jwk components rejected: " ++ err)
  (lib.decode request.proof key).mapError fun err =>
    .invalidProof ("signature verification failed: " ++ err)
  pure { jkt := gated.jkt }

end Gates

/-! ## The replay store -/

def nanosPerSecond : Nat := 1000000000

/-- The window on the monotonic clock. -/
def replayWindow : Nat := replayWindowSeconds * nanosPerSecond

inductive ReplayOutcome
  | fresh
  | already
  deriving DecidableEq, Repr

/-- `(jkt, jti)` to the instant of its sighting. -/
abbrev ReplayStore := Table (String × String) Nat

/-- `InMemoryReplayStore::observe`, under the lock, at an instant read before. -/
def observe (store : ReplayStore) (key : String × String) (now : Nat) :
    ReplayOutcome × ReplayStore :=
  -- `now.checked_sub(ttl).unwrap_or(now)`
  let cutoff := if replayWindow ≤ now then now - replayWindow else now
  let kept := Table.retain store fun _ seenAt => decide (cutoff < seenAt)
  match kept.lookup key with
  | some _ => (.already, kept)
  | none => (.fresh, AList.insert key now kept)

/-! ## The machine -/

/-- A pair found fresh: when the call read the clock, and when it held the lock. -/
structure Sighting where
  gated : Gated
  readAt : Nat
  lockedAt : Nat
  deriving DecidableEq, Repr

/-- Where a call is; what it saw, and when it ended, is history. -/
inductive Phase
  | observing (request : ProofRequest) (gated : Gated) (readAt : Nat)
  | burned (request : ProofRequest) (sighting : Sighting)
  | finished (request : ProofRequest) (sighting : Option Sighting) (endedAt : Nat)
      (result : Except DpopError VerifiedDpopProof)
  deriving DecidableEq

def Phase.sighting : Phase → Option Sighting
  | .observing .. => none
  | .burned _ sighting => some sighting
  | .finished _ sighting _ _ => sighting

structure State where
  mono : Nat
  store : ReplayStore
  calls : Table Nat Phase

def State.initial (mono : Nat) : State where
  mono := mono
  store := ∅
  calls := ∅

def State.setPhase (s : State) (c : Nat) (phase : Phase) : State :=
  { s with calls := AList.insert c phase s.calls }

inductive Action
  | tick (nanos : Nat)
  | start (c : Nat) (request : ProofRequest)
  | observe (c : Nat)
  | finish (c : Nat)
  deriving DecidableEq

/-- The wall clock, before or after the Unix epoch. -/
def wallNanos (offset : Int) (mono : Nat) : Int := offset + mono

/-- `current_unix_seconds`. -/
def currentUnixSeconds (offset : Int) (mono : Nat) : Int :=
  if wallNanos offset mono < 0 then 0
  else min (wallNanos offset mono / nanosPerSecond) (2 ^ 63 - 1)

section Step

variable {J K : Type} (lib : DpopLibrary J K) (offset : Int)

def State.startCall (s : State) (c : Nat) (request : ProofRequest) : State :=
  match s.calls.lookup c with
  | some _ => s
  | none =>
      s.setPhase c
        (match proofGates lib request.proof with
          | .ok gated => .observing request gated s.mono
          | .error err => .finished request none s.mono (.error err))

def State.observeCall (s : State) (c : Nat) : State :=
  match s.calls.lookup c with
  | some (.observing request gated readAt) =>
      let (outcome, store) := observe s.store gated.pair readAt
      State.setPhase { s with store } c
        (match outcome with
          | .fresh => .burned request { gated, readAt, lockedAt := s.mono }
          | .already => .finished request none s.mono (.error .replay))
  | _ => s

def State.finishCall (s : State) (c : Nat) : State :=
  match s.calls.lookup c with
  | some (.burned request sighting) =>
      s.setPhase c (.finished request (some sighting) s.mono
        (laterGates lib request sighting.gated (currentUnixSeconds offset s.mono)))
  | _ => s

def step (s : State) : Action → State
  | .tick nanos => { s with mono := s.mono + nanos }
  | .start c request => s.startCall lib c request
  | .observe c => s.observeCall c
  | .finish c => s.finishCall lib offset c

end Step

/-! ## One observe -/

section Store

variable {store : ReplayStore} {key other : String × String} {now seenAt : Nat}

/-- An observe at an instant past the window deletes what is out of the window, and
nothing else. -/
theorem observe_lookup (hnow : replayWindow ≤ now) (h : store.lookup other = some seenAt) :
    (observe store key now).2.lookup other = some seenAt ∨ seenAt + replayWindow ≤ now := by
  by_cases hkept : now - replayWindow < seenAt
  · left
    have hretained : (Table.retain store fun _ seenAt =>
        decide (now - replayWindow < seenAt)).lookup other = some seenAt := by
      rw [Table.lookup_retain, h, Option.filter_some, decide_eq_true hkept]
      rfl
    unfold observe
    simp only [if_pos hnow]
    split
    · exact hretained
    · next habsent =>
        have hother : other ≠ key := by
          intro heq
          rw [heq] at hretained
          rw [hretained] at habsent
          exact absurd habsent (by simp)
        rw [Table.lookup_insert_eq, if_neg hother]
        exact hretained
  · right
    omega

/-- A pair that was seen is found fresh once it is out of the window. -/
theorem observe_fresh (hnow : replayWindow ≤ now) (h : store.lookup key = some seenAt)
    (hfresh : (observe store key now).1 = .fresh) : seenAt + replayWindow ≤ now := by
  by_cases hkept : now - replayWindow < seenAt
  · have hretained : (Table.retain store fun _ seenAt =>
        decide (now - replayWindow < seenAt)).lookup key = some seenAt := by
      rw [Table.lookup_retain, h, Option.filter_some, decide_eq_true hkept]
      rfl
    unfold observe at hfresh
    simp only [if_pos hnow, hretained] at hfresh
    exact absurd hfresh (by simp)
  · omega

/-- Whatever the answer, the pair is in the store afterwards. -/
theorem observe_burns (store : ReplayStore) (key : String × String) (now : Nat) :
    ∃ seenAt, (observe store key now).2.lookup key = some seenAt := by
  unfold observe
  simp only
  split
  · next seenAt hseen => exact ⟨seenAt, hseen⟩
  · exact ⟨now, AList.lookup_insert _⟩

/-- A pair found fresh is entered at the instant the call read. -/
theorem observe_enters (hfresh : (observe store key now).1 = .fresh) :
    (observe store key now).2.lookup key = some now := by
  unfold observe at hfresh ⊢
  simp only at hfresh ⊢
  split at hfresh
  · exact absurd hfresh (by simp)
  · exact AList.lookup_insert _

end Store

/-! ## Regular runs -/

/-- What is left of the window once the skew is allowed for on both sides, less the
second lost in truncation. -/
def patience : Nat :=
  (replayWindowSeconds - 2 * clockSkewSeconds - 1) * nanosPerSecond

/-- No observe at an instant short of the window finds anything in the store; a call
reads the wall clock within `patience` of its first instant, after the Unix epoch. -/
def regular (offset : Int) (s : State) : Action → Bool
  | .observe c =>
      match s.calls.lookup c with
      | some (.observing _ _ readAt) =>
          decide (replayWindow ≤ readAt) || s.store.entries.isEmpty
      | _ => true
  | .finish c =>
      match s.calls.lookup c with
      | some (.burned _ sighting) =>
          decide (s.mono ≤ sighting.readAt + patience) &&
            decide (0 ≤ wallNanos offset s.mono) &&
            decide (wallNanos offset s.mono / nanosPerSecond < 2 ^ 63)
      | _ => true
  | _ => true

/-- The proof of a call that returned `Ok`. -/
def State.acceptedProof (s : State) (c : Nat) : Option String :=
  match s.calls.lookup c with
  | some (.finished request _ _ (.ok _)) => some request.proof
  | _ => none

def State.sighting (s : State) (c : Nat) : Option Sighting :=
  (s.calls.lookup c).bind Phase.sighting

def AcceptedOnce (s : State) : Prop :=
  ∀ c c' proof, s.acceptedProof c = some proof → s.acceptedProof c' = some proof → c = c'

/-- Of two calls that found one pair fresh, one held the lock no sooner than the window
after the other had read the clock. -/
def SightingsApart (s : State) : Prop :=
  ∀ c c' sighting sighting', c ≠ c' → s.sighting c = some sighting →
    s.sighting c' = some sighting' → sighting.gated.pair = sighting'.gated.pair →
    sighting.readAt + replayWindow ≤ sighting'.lockedAt ∨
      sighting'.readAt + replayWindow ≤ sighting.lockedAt

/-- A call that has passed the shape gate leaves its pair in the store. -/
def Burns (s : State) (a : Action) : Prop :=
  ∀ c request gated readAt, a = .observe c →
    s.calls.lookup c = some (.observing request gated readAt) →
    ∃ seenAt, (s.observeCall c).store.lookup gated.pair = some seenAt

theorem burns (s : State) (a : Action) : Burns s a := by
  intro c request gated readAt _ hphase
  unfold State.observeCall
  rw [hphase]
  exact observe_burns s.store gated.pair readAt

/-! ## The invariant -/

variable {J K : Type} {lib : DpopLibrary J K} {offset : Int} {s : State}

theorem lookup_setPhase (c c' : Nat) (phase : Phase) :
    (s.setPhase c phase).calls.lookup c' = if c' = c then some phase else s.calls.lookup c' :=
  Table.lookup_insert_eq s.calls c c' phase

theorem sighting_setPhase (c c' : Nat) (phase : Phase) :
    (s.setPhase c phase).sighting c' = if c' = c then phase.sighting else s.sighting c' := by
  unfold State.sighting
  rw [lookup_setPhase]
  split
  · rfl
  · rfl

structure Inv (lib : DpopLibrary J K) (offset : Int) (s : State) : Prop where
  /-- A call under way read the clock in the past, and its proof passed the gates. -/
  observing : ∀ c request gated readAt,
    s.calls.lookup c = some (.observing request gated readAt) →
    readAt ≤ s.mono ∧ proofGates lib request.proof = .ok gated
  burned : ∀ c request sighting, s.calls.lookup c = some (.burned request sighting) →
    proofGates lib request.proof = .ok sighting.gated
  /-- An accepted call checked the wall clock soon, and near the proof's `iat`. -/
  accepted : ∀ c request sighting endedAt verified,
    s.calls.lookup c = some (.finished request sighting endedAt (.ok verified)) →
    ∃ seen, sighting = some seen ∧ proofGates lib request.proof = .ok seen.gated ∧
      seen.lockedAt ≤ endedAt ∧ endedAt ≤ seen.readAt + patience ∧
      (seen.gated.claims.iat - wallNanos offset endedAt / nanosPerSecond).natAbs ≤
        clockSkewSeconds
  times : ∀ c sighting, s.sighting c = some sighting →
    sighting.readAt ≤ sighting.lockedAt ∧ sighting.lockedAt ≤ s.mono
  /-- A sighting is in the store until the window is over. -/
  held : ∀ c sighting, s.sighting c = some sighting →
    s.store.lookup sighting.gated.pair = some sighting.readAt ∨
      sighting.readAt + replayWindow ≤ s.mono
  apart : SightingsApart s

theorem inv_initial (mono : Nat) : Inv lib offset (.initial mono) := by
  have hnone : ∀ c, (State.initial mono).calls.lookup c = none := fun _ => rfl
  have hunseen : ∀ c, (State.initial mono).sighting c = none := fun _ => rfl
  constructor
  · intro c _ _ _ h
    exact absurd h (by rw [hnone]; simp)
  · intro c _ _ h
    exact absurd h (by rw [hnone]; simp)
  · intro c _ _ _ _ h
    exact absurd h (by rw [hnone]; simp)
  · intro c _ h
    exact absurd h (by rw [hunseen]; simp)
  · intro c _ h
    exact absurd h (by rw [hunseen]; simp)
  · intro c _ _ _ _ h
    exact absurd h (by rw [hunseen]; simp)

theorem inv_tick (nanos : Nat) (hs : Inv lib offset s) :
    Inv lib offset { s with mono := s.mono + nanos } where
  observing c request gated readAt h := by
    obtain ⟨hread, hgates⟩ := hs.observing c request gated readAt h
    exact ⟨Nat.le_add_right_of_le hread, hgates⟩
  burned := hs.burned
  accepted := hs.accepted
  times c sighting h := by
    obtain ⟨hread, hlocked⟩ := hs.times c sighting h
    exact ⟨hread, Nat.le_add_right_of_le hlocked⟩
  held c sighting h := by
    rcases hs.held c sighting h with hstored | hover
    · exact .inl hstored
    · exact .inr (Nat.le_add_right_of_le hover)
  apart := hs.apart

/-- What a phase must meet for a call to enter it. -/
structure Enters (lib : DpopLibrary J K) (offset : Int) (s : State) (c : Nat) (phase : Phase) :
    Prop where
  observing : ∀ request gated readAt, phase = .observing request gated readAt →
    readAt ≤ s.mono ∧ proofGates lib request.proof = .ok gated
  burned : ∀ request sighting, phase = .burned request sighting →
    proofGates lib request.proof = .ok sighting.gated
  accepted : ∀ request sighting endedAt verified,
    phase = .finished request sighting endedAt (.ok verified) →
    ∃ seen, sighting = some seen ∧ proofGates lib request.proof = .ok seen.gated ∧
      seen.lockedAt ≤ endedAt ∧ endedAt ≤ seen.readAt + patience ∧
      (seen.gated.claims.iat - wallNanos offset endedAt / nanosPerSecond).natAbs ≤
        clockSkewSeconds
  times : ∀ sighting, phase.sighting = some sighting →
    sighting.readAt ≤ sighting.lockedAt ∧ sighting.lockedAt ≤ s.mono
  held : ∀ sighting, phase.sighting = some sighting →
    s.store.lookup sighting.gated.pair = some sighting.readAt ∨
      sighting.readAt + replayWindow ≤ s.mono
  apart : ∀ c' sighting sighting', c' ≠ c → phase.sighting = some sighting →
    s.sighting c' = some sighting' → sighting.gated.pair = sighting'.gated.pair →
    sighting.readAt + replayWindow ≤ sighting'.lockedAt ∨
      sighting'.readAt + replayWindow ≤ sighting.lockedAt

theorem Inv.setPhase {c : Nat} {phase : Phase} (hs : Inv lib offset s)
    (henters : Enters lib offset s c phase) : Inv lib offset (s.setPhase c phase) where
  observing c' request gated readAt h := by
    rw [lookup_setPhase] at h
    split at h
    · exact henters.observing request gated readAt (Option.some.inj h)
    · exact hs.observing c' request gated readAt h
  burned c' request sighting h := by
    rw [lookup_setPhase] at h
    split at h
    · exact henters.burned request sighting (Option.some.inj h)
    · exact hs.burned c' request sighting h
  accepted c' request sighting endedAt verified h := by
    rw [lookup_setPhase] at h
    split at h
    · exact henters.accepted request sighting endedAt verified (Option.some.inj h)
    · exact hs.accepted c' request sighting endedAt verified h
  times c' sighting h := by
    rw [sighting_setPhase] at h
    split at h
    · exact henters.times sighting h
    · exact hs.times c' sighting h
  held c' sighting h := by
    rw [sighting_setPhase] at h
    split at h
    · exact henters.held sighting h
    · exact hs.held c' sighting h
  apart c₁ c₂ sighting₁ sighting₂ hne h₁ h₂ hpair := by
    rw [sighting_setPhase] at h₁ h₂
    split at h₁
    · next heq₁ =>
        subst heq₁
        rw [if_neg (Ne.symm hne)] at h₂
        exact henters.apart c₂ sighting₁ sighting₂ (Ne.symm hne) h₁ h₂ hpair
    · next hne₁ =>
        split at h₂
        · exact (henters.apart c₁ sighting₂ sighting₁ hne₁ h₂ h₁ hpair.symm).symm
        · exact hs.apart c₁ c₂ sighting₁ sighting₂ hne h₁ h₂ hpair

theorem Inv.withStore {store : ReplayStore} (hs : Inv lib offset s)
    (hheld : ∀ c sighting, s.sighting c = some sighting →
      store.lookup sighting.gated.pair = some sighting.readAt ∨
        sighting.readAt + replayWindow ≤ s.mono) :
    Inv lib offset { s with store } where
  observing := hs.observing
  burned := hs.burned
  accepted := hs.accepted
  times := hs.times
  held := hheld
  apart := hs.apart

/-- A phase without a sighting, in which nothing is accepted. -/
theorem enters_refused {c : Nat} {request : ProofRequest} {endedAt : Nat} {err : DpopError} :
    Enters lib offset s c (.finished request none endedAt (.error err)) := by
  constructor
  all_goals simp [Phase.sighting]

theorem inv_start (c : Nat) (request : ProofRequest) (hs : Inv lib offset s) :
    Inv lib offset (s.startCall lib c request) := by
  unfold State.startCall
  split
  · exact hs
  · apply hs.setPhase
    split
    · next gated hgates =>
        constructor
        case observing =>
          intro request' gated' readAt heq
          cases heq
          exact ⟨Nat.le_refl s.mono, hgates⟩
        all_goals simp [Phase.sighting]
    · exact enters_refused

/-- A regular observe that could find something is past the window. -/
theorem past_window_of_regular {c : Nat} {request : ProofRequest} {gated : Gated} {readAt : Nat}
    {key : String × String} {seenAt : Nat}
    (hphase : s.calls.lookup c = some (.observing request gated readAt))
    (hregular : regular offset s (.observe c) = true) (hstored : s.store.lookup key = some seenAt) :
    replayWindow ≤ readAt := by
  simp only [regular, hphase, Bool.or_eq_true, decide_eq_true_eq] at hregular
  rcases hregular with hnow | hempty
  · exact hnow
  · have hnone : s.store.lookup key = none := by
      rw [List.isEmpty_iff] at hempty
      show List.dlookup key s.store.entries = none
      rw [hempty]
      rfl
    rw [hnone] at hstored
    exact absurd hstored (by simp)

/-- The sightings that a regular observe leaves are the ones still in the window. -/
theorem held_observe {c : Nat} {request : ProofRequest} {gated : Gated} {readAt : Nat}
    (hs : Inv lib offset s) (hphase : s.calls.lookup c = some (.observing request gated readAt))
    (hregular : regular offset s (.observe c) = true) :
    ∀ c' sighting, s.sighting c' = some sighting →
      (observe s.store gated.pair readAt).2.lookup sighting.gated.pair = some sighting.readAt ∨
        sighting.readAt + replayWindow ≤ s.mono := by
  intro c' sighting hsighting
  have hread := (hs.observing c request gated readAt hphase).1
  rcases hs.held c' sighting hsighting with hstored | hover
  · have hnow : replayWindow ≤ readAt := past_window_of_regular hphase hregular hstored
    have hafter : (observe s.store gated.pair readAt).2.lookup sighting.gated.pair =
        some sighting.readAt ∨ sighting.readAt + replayWindow ≤ readAt :=
      observe_lookup hnow hstored
    rcases hafter with hkept | hevicted
    · exact .inl hkept
    · exact .inr (Nat.le_trans hevicted hread)
  · exact .inr hover

theorem inv_observe (c : Nat) (hs : Inv lib offset s)
    (hregular : regular offset s (.observe c) = true) : Inv lib offset (s.observeCall c) := by
  unfold State.observeCall
  split
  · next request gated readAt hphase =>
      obtain ⟨hread, hgates⟩ := hs.observing c request gated readAt hphase
      have hstore := hs.withStore (held_observe hs hphase hregular)
      cases houtcome : (observe s.store gated.pair readAt).1 with
      | already =>
          simp only [houtcome]
          exact hstore.setPhase enters_refused
      | fresh =>
          simp only [houtcome]
          apply hstore.setPhase
          refine ⟨by simp, ?_, by simp, ?_, ?_, ?_⟩
          · intro request' sighting heq
            cases heq
            exact hgates
          · intro sighting heq
            cases heq
            exact ⟨hread, Nat.le_refl s.mono⟩
          · intro sighting heq
            cases heq
            exact .inl (observe_enters houtcome)
          · intro c' sighting sighting' _ heq hseen hpair
            cases heq
            right
            -- The other sighting was out of the window for this one to be fresh.
            have hbefore : s.sighting c' = some sighting' := hseen
            rcases hs.held c' sighting' hbefore with hstored | hover
            · have hsame : gated.pair = sighting'.gated.pair := hpair
              rw [← hsame] at hstored
              have hnow := past_window_of_regular hphase hregular hstored
              exact Nat.le_trans (observe_fresh hnow hstored houtcome) hread
            · exact hover
  · exact hs

/-- A drift within the skew is not a clamped one. -/
theorem natAbs_le_of_absDrift {iat now : Int} (h : absDriftSeconds iat now ≤ clockSkewSeconds) :
    (iat - now).natAbs ≤ clockSkewSeconds := by
  unfold absDriftSeconds saturatingSubI64 clockSkewSeconds at *
  omega

theorem later_gates_ok {request : ProofRequest} {gated : Gated} {nowSecs : Int}
    {verified : VerifiedDpopProof}
    (h : laterGates lib request gated nowSecs = .ok verified) :
    absDriftSeconds gated.claims.iat nowSecs ≤ clockSkewSeconds := by
  unfold laterGates at h
  simp only [bind_eq_ok, ensure_eq_ok, mapError_eq_ok] at h
  obtain ⟨-, -, -, -, -, -, -, -, -, hdrift, -⟩ := h
  exact hdrift

theorem inv_finish (c : Nat) (hs : Inv lib offset s)
    (hregular : regular offset s (.finish c) = true) :
    Inv lib offset (s.finishCall lib offset c) := by
  unfold State.finishCall
  split
  · next request sighting hphase =>
      have hseen : s.sighting c = some sighting := by
        unfold State.sighting
        rw [hphase]
        rfl
      simp only [regular, hphase, Bool.and_eq_true, decide_eq_true_eq] at hregular
      obtain ⟨⟨hpatient, hepoch⟩, hfits⟩ := hregular
      have hclock : currentUnixSeconds offset s.mono =
          wallNanos offset s.mono / nanosPerSecond := by
        unfold currentUnixSeconds
        rw [if_neg (by omega)]
        omega
      apply hs.setPhase
      refine ⟨by simp, by simp, ?_, ?_, ?_, ?_⟩
      · intro request' sighting' endedAt verified heq
        cases hresult : laterGates lib request sighting.gated
            (currentUnixSeconds offset s.mono) with
        | error err =>
            rw [hresult] at heq
            exact absurd heq (by simp)
        | ok verified' =>
            rw [hresult] at heq
            cases heq
            have hdrift := natAbs_le_of_absDrift (later_gates_ok hresult)
            rw [hclock] at hdrift
            exact ⟨sighting, rfl, hs.burned c request sighting hphase,
              (hs.times c sighting hseen).2, hpatient, hdrift⟩
      · intro sighting' heq
        cases heq
        exact hs.times c sighting hseen
      · intro sighting' heq
        cases heq
        exact hs.held c sighting hseen
      · intro c' sighting' sighting'' hne heq hother hpair
        cases heq
        exact hs.apart c c' sighting sighting'' (Ne.symm hne) hseen hother hpair
  · exact hs

theorem inv_step (a : Action) (hs : Inv lib offset s) (hregular : regular offset s a = true) :
    Inv lib offset (step lib offset s a) := by
  cases a with
  | tick nanos => exact inv_tick nanos hs
  | start c request => exact inv_start c request hs
  | observe c => exact inv_observe c hs hregular
  | finish c => exact inv_finish c hs hregular

/-! ## Accepted at most once -/

/-- Two calls cannot both have checked the wall clock near one `iat`, the second not
before the window was over. -/
theorem accepted_once_of_inv (hs : Inv lib offset s) : AcceptedOnce s := by
  intro c c' proof hc hc'
  by_contra hne
  have hcall : ∀ {c : Nat}, s.acceptedProof c = some proof →
      ∃ seen endedAt, s.sighting c = some seen ∧ proofGates lib proof = .ok seen.gated ∧
        seen.lockedAt ≤ endedAt ∧ endedAt ≤ seen.readAt + patience ∧
        (seen.gated.claims.iat - wallNanos offset endedAt / nanosPerSecond).natAbs ≤
          clockSkewSeconds := by
    intro c hc
    unfold State.acceptedProof at hc
    split at hc
    · next request sighting endedAt verified hphase =>
        obtain ⟨seen, hseen, hgates, hlocked, hpatient, hdrift⟩ :=
          hs.accepted c request sighting endedAt verified hphase
        rw [Option.some.inj hc] at hgates
        refine ⟨seen, endedAt, ?_, hgates, hlocked, hpatient, hdrift⟩
        unfold State.sighting
        rw [hphase]
        exact hseen
    · exact absurd hc (by simp)
  obtain ⟨seen, endedAt, hseen, hgates, hlocked, hpatient, hdrift⟩ := hcall hc
  obtain ⟨seen', endedAt', hseen', hgates', hlocked', hpatient', hdrift'⟩ := hcall hc'
  have hgated : seen.gated = seen'.gated := by
    rw [hgates, Except.ok.injEq] at hgates'
    exact hgates'
  have hpair : seen.gated.pair = seen'.gated.pair := by rw [hgated]
  rw [hgated] at hdrift
  have hapart := hs.apart c c' seen seen' hne hseen hseen' hpair
  unfold wallNanos nanosPerSecond clockSkewSeconds at hdrift hdrift'
  unfold patience replayWindowSeconds clockSkewSeconds nanosPerSecond at hpatient hpatient'
  unfold replayWindow replayWindowSeconds nanosPerSecond at hapart
  omega

/-- In a regular run no proof is accepted twice, two calls that find one pair fresh are
the window apart, and every call that passes the shape gate burns its pair. -/
theorem proofs_accepted_once (lib : DpopLibrary J K) (offset : Int) (mono : Nat)
    (as : List Action)
    (hregular : Along (step lib offset) (fun s a => regular offset s a = true) (.initial mono) as) :
    AcceptedOnce (run (step lib offset) (.initial mono) as) ∧
      SightingsApart (run (step lib offset) (.initial mono) as) ∧
      Along (step lib offset) Burns (.initial mono) as := by
  have hstep : ∀ s a, Inv lib offset s → regular offset s a = true →
      Inv lib offset (step lib offset s a) := fun s a hs ha => inv_step a hs ha
  have hinv : Inv lib offset (run (step lib offset) (.initial mono) as) :=
    run_invariant_along hstep (inv_initial mono) hregular
  refine ⟨accepted_once_of_inv hinv, hinv.apart, ?_⟩
  exact hregular.mono fun s a _ => burns s a

/-! ### One pair, two proofs -/

/-- Every proof is of one key and one `jti`; they differ in `iat`. -/
def sampleDpopLibrary : DpopLibrary Unit Unit where
  decodeHeader _ := .ok .es256
  decodeUnverifiedHeader _ := .ok { typ := some "dpop+jwt", alg := "ES256", jwk := () }
  ecJwkFromValue _ := .ok { kty := "EC", crv := "P-256", x := "x", y := "y" }
  decodeUnverifiedClaims proof :=
    .ok { htm := "POST", htu := "https://z/prepare", jti := "j",
          iat := if proof = "first" then 1000 else if proof = "second" then 1300 else 1240 }
  computeEcJwkThumbprint _ _ x _ := x
  canonicalizeHttpUrl url := .ok url
  fromEcComponents _ _ := .ok ()
  decode _ _ := .ok ()

def post (proof : String) : ProofRequest where
  method := "POST"
  url := "https://z/prepare"
  proof := proof

/-- The key signs a second proof with the same `jti` when the window is over. -/
def secondProof : List Action :=
  [.start 0 (post "first"), .observe 0, .finish 0, .tick replayWindow,
    .start 1 (post "second"), .observe 1, .finish 1]

theorem proofs_accepted_once_second :
    AcceptedOnce (run (step sampleDpopLibrary 0) (.initial (1000 * nanosPerSecond)) secondProof) ∧
      SightingsApart
        (run (step sampleDpopLibrary 0) (.initial (1000 * nanosPerSecond)) secondProof) ∧
      Along (step sampleDpopLibrary 0) Burns (.initial (1000 * nanosPerSecond)) secondProof :=
  proofs_accepted_once sampleDpopLibrary 0 (1000 * nanosPerSecond) secondProof (by decide)

/-- A call that is held up for as long as the window allows, less the skew. -/
def pausedCall : List Action :=
  [.start 0 (post "paused"), .observe 0, .tick (180 * nanosPerSecond), .finish 0,
    .tick (120 * nanosPerSecond), .start 1 (post "paused"), .observe 1, .finish 1]

/-- A pair is accepted again once the window is over; so is a proof, by a call that was
held up for three minutes between its two clocks. -/
theorem pair_accepted_again :
    ((run (step sampleDpopLibrary 0) (.initial (1000 * nanosPerSecond)) secondProof).acceptedProof
        0 = some "first" ∧
      (run (step sampleDpopLibrary 0) (.initial (1000 * nanosPerSecond)) secondProof).acceptedProof
        1 = some "second" ∧
      ((run (step sampleDpopLibrary 0) (.initial (1000 * nanosPerSecond)) secondProof).sighting
        0).map (·.gated.pair) =
      ((run (step sampleDpopLibrary 0) (.initial (1000 * nanosPerSecond)) secondProof).sighting
        1).map (·.gated.pair)) ∧
    ¬ AcceptedOnce
      (run (step sampleDpopLibrary 0) (.initial (1000 * nanosPerSecond)) pausedCall) := by
  refine ⟨⟨by decide, by decide, by decide⟩, ?_⟩
  intro honce
  have hfirst : (run (step sampleDpopLibrary 0) (.initial (1000 * nanosPerSecond))
      pausedCall).acceptedProof 0 = some "paused" := by decide
  have hagain : (run (step sampleDpopLibrary 0) (.initial (1000 * nanosPerSecond))
      pausedCall).acceptedProof 1 = some "paused" := by decide
  exact absurd (honce 0 1 "paused" hfirst hagain) (by decide)

end Zpay.X402.Dpop
