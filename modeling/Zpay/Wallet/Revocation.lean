import Mathlib.Data.List.Sort
import Zpay.Data.Table
import Zpay.Machine.Run
import Zpay.Wallet.SignGate

/-!
# The revocation cache

`RevocationStore`, with any number of `check` and `refresh` calls in flight.  A refresh
copies the cursor, fetches page after page, and writes what it found in one go; a check
is a refresh, where the cache is not fresh, and a look at the cache.  Everything between
two awaits or two locks is one step.

A fetch has two ends: the issuer responds, and the response is received.  What lies
between them is up to the network, and so is what a page says; `honest` is the issuer
that means what it says.

The text of the request, its bearer and the log lines are left out.

## Main results

* `take_response_more`, `take_response_drained` — what a drain goes on and ends with.
* `honest_page_covers`, `honest_page_lists` — what an honest page leaves out.
-/

open Zpay.Data Zpay.Machine

namespace Zpay.Wallet.Revocation

/-! ## The cache -/

def maxDeltaPages : Nat := 10000

inductive RevocationRefreshError
  | request (err : String)
  | status (code : Nat)
  | decode (err : String)
  | nonAdvancing (reason : String)
  deriving DecidableEq, Repr

structure RevocationRow where
  jti : String
  deriving DecidableEq, Repr

structure RevocationPage where
  nextSince : Int
  revocations : List RevocationRow
  truncated : Bool
  deriving DecidableEq, Repr

structure CacheState where
  revoked : List String
  cursor : Int
  lastRefresh : Option Nat
  deriving DecidableEq, Repr

def CacheState.new : CacheState where
  revoked := []
  cursor := 0
  lastRefresh := none

structure Config where
  /-- `none` disables enforcement. -/
  issuerUrl : Option String
  maxStaleness : Nat
  deriving DecidableEq, Repr

/-- `at.elapsed() < max_staleness`. -/
def CacheState.isFresh (cache : CacheState) (maxStaleness now : Nat) : Bool :=
  cache.lastRefresh.any fun refreshedAt => decide (now - refreshedAt < maxStaleness)

/-- The end of `check`, under the lock. -/
def CacheState.outcome (cache : CacheState) (maxStaleness now : Nat) (jti : String) :
    RevocationOutcome :=
  if jti ∈ cache.revoked then .revoked
  else if cache.isFresh maxStaleness now then .live
  else .cacheStale

/-! ## One drain -/

/-- The locals of `refresh`. -/
structure Drain where
  cursor : Int
  discovered : List String
  pages : Nat
  deriving DecidableEq, Repr

def CacheState.start (cache : CacheState) : Drain where
  cursor := cache.cursor
  discovered := []
  pages := 0

def Drain.extend (drain : Drain) (page : RevocationPage) : Drain where
  cursor := page.nextSince
  discovered := drain.discovered ++ page.revocations.map (·.jti)
  pages := drain.pages + 1

inductive Progress
  | more (drain : Drain)
  | drained (drain : Drain)
  deriving DecidableEq, Repr

/-- The body of the loop, once it has its page.  The count of pages includes the last
one here, which nothing reads any more. -/
def Drain.takePage (drain : Drain) (page : RevocationPage) :
    Except RevocationRefreshError Progress :=
  if page.truncated = false then .ok (.drained (drain.extend page))
  else if page.nextSince ≤ drain.cursor then
    .error (.nonAdvancing "issuer returned truncated:true with a non-advancing next_since cursor")
  else if maxDeltaPages ≤ drain.pages + 1 then
    .error (.nonAdvancing "issuer exceeded the maximum truncated delta page count in one refresh")
  else .ok (.more (drain.extend page))

inductive Response
  | failed (err : String)
  | answered (status : Nat) (body : Except String RevocationPage)

def isSuccess (status : Nat) : Bool := decide (200 ≤ status) && decide (status < 300)

/-- `fetch_page`, from the response on. -/
def fetchPage : Response → Except RevocationRefreshError RevocationPage
  | .failed err => .error (.request err)
  | .answered status body =>
      if isSuccess status then body.mapError .decode else .error (.status status)

def Drain.takeResponse (drain : Drain) (response : Response) :
    Except RevocationRefreshError Progress := do
  drain.takePage (← fetchPage response)

/-- The one write of a refresh. -/
def CacheState.commit (cache : CacheState) (drain : Drain) (now : Nat) : CacheState where
  revoked := cache.revoked ++ drain.discovered
  cursor := drain.cursor
  lastRefresh := some now

/-! ## Calls -/

inductive Caller
  | check (jti : String)
  | refresh
  deriving DecidableEq, Repr

inductive Phase
  | starting (caller : Caller)
  | fetching (caller : Caller) (drain : Drain)
  /-- Answered by the issuer when its log held `recorded` entries. -/
  | receiving (caller : Caller) (drain : Drain) (response : Response) (recorded : Nat)
  | deciding (jti : String)
  | answered (jti : String) (outcome : RevocationOutcome) (answeredAt : Nat)
  | refreshed (result : Except RevocationRefreshError Unit)

/-- `check` goes on whatever its refresh returned. -/
def Caller.resume (caller : Caller) (result : Except RevocationRefreshError Unit) : Phase :=
  match caller with
  | .check jti => .deciding jti
  | .refresh => .refreshed result

/-- A revocation as the issuer records it: `stamp` is what its cursors count in. -/
structure Recorded where
  jti : String
  stamp : Int
  revokedAt : Nat
  deriving DecidableEq, Repr

structure Issuer where
  log : List Recorded
  /-- The furthest `next_since` handed out. -/
  handedOut : Int
  deriving DecidableEq, Repr

structure State where
  now : Nat
  cache : CacheState
  calls : Table Nat Phase
  issuer : Issuer

def State.init : State where
  now := 0
  cache := .new
  calls := ∅
  issuer := { log := [], handedOut := 0 }

inductive Action
  | tick (elapsed : Nat)
  | revoke (jti : String) (stamp : Int)
  | check (c : Nat) (jti : String)
  | refresh (c : Nat)
  | begin (c : Nat)
  | respond (c : Nat) (response : Response)
  | receive (c : Nat)
  | decide (c : Nat)

def State.setPhase (s : State) (c : Nat) (phase : Phase) : State :=
  { s with calls := s.calls.insert c phase }

def Issuer.revoke (issuer : Issuer) (entry : Recorded) : Issuer :=
  { issuer with log := issuer.log ++ [entry] }

def Issuer.respond (issuer : Issuer) (response : Response) : Issuer :=
  match fetchPage response with
  | .ok page => { issuer with handedOut := max issuer.handedOut page.nextSince }
  | .error _ => issuer

/-- Answering records nothing. -/
theorem respond_log (issuer : Issuer) (response : Response) :
    (issuer.respond response).log = issuer.log := by
  unfold Issuer.respond
  split
  · rfl
  · rfl

section Step

variable (config : Config)

/-- A check, up to its own refresh. -/
def State.checkCall (s : State) (c : Nat) (jti : String) : State :=
  match s.calls.lookup c with
  | some _ => s
  | none =>
      s.setPhase c
        (if config.issuerUrl.isNone then .answered jti .live s.now
        else if s.cache.isFresh config.maxStaleness s.now then .deciding jti
        else .starting (.check jti))

def State.refreshCall (s : State) (c : Nat) : State :=
  match s.calls.lookup c with
  | some _ => s
  | none =>
      s.setPhase c (if config.issuerUrl.isNone then .refreshed (.ok ()) else .starting .refresh)

def State.beginCall (s : State) (c : Nat) : State :=
  match s.calls.lookup c with
  | some (.starting caller) => s.setPhase c (.fetching caller s.cache.start)
  | _ => s

def State.respondCall (s : State) (c : Nat) (response : Response) : State :=
  match s.calls.lookup c with
  | some (.fetching caller drain) =>
      State.setPhase { s with issuer := s.issuer.respond response } c
        (.receiving caller drain response s.issuer.log.length)
  | _ => s

def State.receiveCall (s : State) (c : Nat) : State :=
  match s.calls.lookup c with
  | some (.receiving caller drain response _) =>
      match drain.takeResponse response with
      | .error err => s.setPhase c (caller.resume (.error err))
      | .ok (.more drain) => s.setPhase c (.fetching caller drain)
      | .ok (.drained drain) =>
          State.setPhase { s with cache := s.cache.commit drain s.now } c
            (caller.resume (.ok ()))
  | _ => s

def State.decideCall (s : State) (c : Nat) : State :=
  match s.calls.lookup c with
  | some (.deciding jti) =>
      s.setPhase c (.answered jti (s.cache.outcome config.maxStaleness s.now jti) s.now)
  | _ => s

def step (s : State) : Action → State
  | .tick elapsed => { s with now := s.now + elapsed }
  | .revoke jti stamp => { s with issuer := s.issuer.revoke { jti, stamp, revokedAt := s.now } }
  | .check c jti => s.checkCall config c jti
  | .refresh c => s.refreshCall config c
  | .begin c => s.beginCall c
  | .respond c response => s.respondCall c response
  | .receive c => s.receiveCall c
  | .decide c => s.decideCall config c

end Step

/-! ## What a response leads to -/

section Responses

variable {drain next : Drain} {response : Response}

theorem take_response_more (h : drain.takeResponse response = .ok (.more next)) :
    ∃ page, fetchPage response = .ok page ∧ next = drain.extend page ∧
      drain.cursor < next.cursor ∧ next.pages < maxDeltaPages := by
  unfold Drain.takeResponse at h
  cases hpage : fetchPage response with
  | error err => rw [hpage] at h; exact absurd h nofun
  | ok page =>
      have htake : drain.takePage page = .ok (.more next) := by
        rw [hpage] at h
        exact h
      unfold Drain.takePage at htake
      split at htake
      · exact absurd htake (by simp)
      split at htake
      · exact absurd htake (by simp)
      split at htake
      · exact absurd htake (by simp)
      next hadvances hcap =>
        have hnext : next = drain.extend page := by
          injection htake with hprogress
          injection hprogress with hdrain
          exact hdrain.symm
        refine ⟨page, rfl, hnext, ?_, ?_⟩
        · rw [hnext]
          exact Int.not_le.1 hadvances
        · rw [hnext]
          exact Nat.not_le.1 hcap

theorem take_response_drained (h : drain.takeResponse response = .ok (.drained next)) :
    ∃ page, fetchPage response = .ok page ∧ page.truncated = false ∧
      next = drain.extend page := by
  unfold Drain.takeResponse at h
  cases hpage : fetchPage response with
  | error err => rw [hpage] at h; exact absurd h nofun
  | ok page =>
      have htake : drain.takePage page = .ok (.drained next) := by
        rw [hpage] at h
        exact h
      unfold Drain.takePage at htake
      split at htake
      · next hlast =>
          injection htake with hprogress
          injection hprogress with hdrain
          exact ⟨page, rfl, hlast, hdrain.symm⟩
      split at htake
      · exact absurd htake (by simp)
      split at htake
      · exact absurd htake (by simp)
      · exact absurd htake (by simp)

end Responses

/-! ## The honest issuer -/

/-- What the issuer has past a cursor, in order. -/
def remaining (log : List Recorded) (since : Int) : List Recorded :=
  (log.filter fun entry => decide (since < entry.stamp)).insertionSort (·.stamp ≤ ·.stamp)

/-- The page lists what comes after `since`, up to the limit; it is truncated exactly when
more remains, and `next_since` covers exactly what was listed. -/
def HonestPage (limit : Nat) (log : List Recorded) (since : Int) (page : RevocationPage) :
    Prop :=
  page.revocations = ((remaining log since).take limit).map (fun entry => ⟨entry.jti⟩) ∧
    (page.truncated = true ↔ limit < (remaining log since).length) ∧
    ∀ entry ∈ log, entry.stamp ≤ page.nextSince ↔
      entry.stamp ≤ since ∨ entry ∈ (remaining log since).take limit

instance (limit : Nat) (log : List Recorded) (since : Int) (page : RevocationPage) :
    Decidable (HonestPage limit log since page) :=
  inferInstanceAs (Decidable (_ ∧ _ ∧ _))

section HonestPages

variable {limit : Nat} {log : List Recorded} {since : Int} {page : RevocationPage}
  {entry : Recorded}

theorem mem_remaining : entry ∈ remaining log since ↔ entry ∈ log ∧ since < entry.stamp := by
  unfold remaining
  rw [List.mem_insertionSort, List.mem_filter, decide_eq_true_iff]

theorem mem_page (h : HonestPage limit log since page)
    (hlisted : entry ∈ (remaining log since).take limit) :
    entry.jti ∈ page.revocations.map (·.jti) := by
  rw [h.1, List.map_map]
  exact List.mem_map_of_mem (f := (·.jti)) hlisted

/-- What a page's `next_since` covers was covered before or is on the page. -/
theorem honest_page_covers (h : HonestPage limit log since page) (hentry : entry ∈ log)
    (hcovered : entry.stamp ≤ page.nextSince) :
    entry.stamp ≤ since ∨ entry.jti ∈ page.revocations.map (·.jti) :=
  ((h.2.2 entry hentry).1 hcovered).imp_right (mem_page h)

/-- A last page leaves nothing out. -/
theorem honest_page_lists (h : HonestPage limit log since page) (hlast : page.truncated = false)
    (hentry : entry ∈ log) :
    entry.stamp ≤ since ∨ entry.jti ∈ page.revocations.map (·.jti) := by
  have hall : (remaining log since).length ≤ limit := by
    apply Nat.not_lt.1
    intro hmore
    rw [h.2.1.2 hmore] at hlast
    exact absurd hlast (by decide)
  by_cases hpast : since < entry.stamp
  · right
    apply mem_page h
    rw [List.take_of_length_le hall]
    exact mem_remaining.2 ⟨hentry, hpast⟩
  · left
    exact Int.not_lt.1 hpast

end HonestPages

/-- Pages are honest, and nothing is recorded behind a `next_since` handed out, the
initial cursor included. -/
def honest (limit : Nat) (s : State) : Action → Bool
  | .revoke _ stamp => decide (s.issuer.handedOut < stamp)
  | .respond c response =>
      match s.calls.lookup c, fetchPage response with
      | some (.fetching _ drain), .ok page =>
          decide (HonestPage limit s.issuer.log drain.cursor page)
      | _, _ => true
  | _ => true

end Zpay.Wallet.Revocation
