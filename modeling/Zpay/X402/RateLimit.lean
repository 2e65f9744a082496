import Zpay.Data.FixedWindow
import Zpay.Data.Table

/-!
# The rate limiter

`RateLimiter`: a fixed window for every verified thumbprint and every client address, with
expired windows dropped by a sweep that any key's request may run.  The clock is in
nanoseconds, and every call carries the instant it reads.

A window that a sweep dropped is one that the next request of its key would have reset, so
nobody can tell whether a sweep ran.  The number of requests in a window is not what the
limiter counts: it stops at the budget.

## Main results

* `represents_check` — one call, against one fixed window for each key and no sweeps.
* `rate_limiter_equals_reference` — every sequence of calls, and what follows from it.
-/

open Zpay.Data Zpay.Machine

namespace Zpay.X402.RateLimit

/-! ## The limiter -/

def second : Nat := 1000000000

/-- `WINDOW`. -/
def windowLength : Nat := 60 * second

inductive RateLimitDecision
  | allowed
  | limited (retryAfterSeconds : Nat)
  deriving DecidableEq, Repr

def RateLimitDecision.isAllowed : RateLimitDecision → Bool
  | .allowed => true
  | .limited _ => false

inductive IpAddr
  | v4 (bits : UInt32)
  | v6 (bits : BitVec 128)
  deriving DecidableEq, Repr

inductive RateLimitKey
  | jkt (jkt : String)
  | ip (ip : IpAddr)
  deriving DecidableEq, Repr

structure Window where
  count : UInt32
  startedAt : Nat
  deriving DecidableEq, Repr

structure RateLimiter where
  perJktPerMinute : UInt32
  perIpPerMinute : UInt32
  windows : Table RateLimitKey Window
  lastSweep : Nat
  limitedTotal : UInt64

namespace RateLimiter

def new (perJktPerMinute perIpPerMinute : UInt32) (now : Nat) : RateLimiter where
  perJktPerMinute := perJktPerMinute
  perIpPerMinute := perIpPerMinute
  windows := ∅
  lastSweep := now
  limitedTotal := 0

/-- `duration_since` is zero for an instant that is still ahead. -/
def sweepIfDue (limiter : RateLimiter) (now : Nat) : RateLimiter :=
  if now - limiter.lastSweep < windowLength then limiter
  else
    { limiter with
      lastSweep := now
      windows := limiter.windows.retain fun _ window =>
        decide (now - window.startedAt < windowLength) }

/-- The window of a key, as a request at `now` finds it. -/
def windowAt (limiter : RateLimiter) (key : RateLimitKey) (now : Nat) : Window :=
  let window := (limiter.windows.lookup key).getD { count := 0, startedAt := now }
  if windowLength ≤ now - window.startedAt then { count := 0, startedAt := now } else window

def check (limiter : RateLimiter) (key : RateLimitKey) (perMinute : UInt32) (now : Nat) :
    RateLimitDecision × RateLimiter :=
  if perMinute = 0 then (.allowed, limiter)
  else
    let limiter := limiter.sweepIfDue now
    let window := limiter.windowAt key now
    if perMinute ≤ window.count then
      let retryAfterSeconds := max ((windowLength - (now - window.startedAt)) / second) 1
      (.limited retryAfterSeconds,
        { limiter with
          windows := limiter.windows.insert key window
          limitedTotal := limiter.limitedTotal + 1 })
    else
      (.allowed,
        { limiter with
          windows := limiter.windows.insert key { window with count := window.count + 1 } })

def checkJkt (limiter : RateLimiter) (jkt : String) (now : Nat) : RateLimitDecision × RateLimiter :=
  limiter.check (.jkt jkt) limiter.perJktPerMinute now

def checkIp (limiter : RateLimiter) (ip : IpAddr) (now : Nat) : RateLimitDecision × RateLimiter :=
  limiter.check (.ip ip) limiter.perIpPerMinute now

end RateLimiter

/-! ## Calls -/

inductive Call
  | checkJkt (jkt : String) (now : Nat)
  | checkIp (ip : IpAddr) (now : Nat)
  deriving DecidableEq, Repr

def Call.key : Call → RateLimitKey
  | .checkJkt jkt _ => .jkt jkt
  | .checkIp ip _ => .ip ip

def Call.now : Call → Nat
  | .checkJkt _ now => now
  | .checkIp _ now => now

def RateLimiter.perform (limiter : RateLimiter) : Call → RateLimitDecision × RateLimiter
  | .checkJkt jkt now => limiter.checkJkt jkt now
  | .checkIp ip now => limiter.checkIp ip now

/-- The budget of a key's dimension. -/
def RateLimiter.perMinute (limiter : RateLimiter) : RateLimitKey → UInt32
  | .jkt _ => limiter.perJktPerMinute
  | .ip _ => limiter.perIpPerMinute

theorem perform_eq (limiter : RateLimiter) (call : Call) :
    limiter.perform call = limiter.check call.key (limiter.perMinute call.key) call.now := by
  cases call with
  | checkJkt jkt now => rfl
  | checkIp ip now => rfl

/-! ## The reference -/

/-- The limits of the two dimensions; a budget of zero is none. -/
def limits (perJktPerMinute perIpPerMinute : UInt32) : RateLimitKey → Option Nat
  | .jkt _ => if perJktPerMinute = 0 then none else some perJktPerMinute.toNat
  | .ip _ => if perIpPerMinute = 0 then none else some perIpPerMinute.toNat

def Call.request (call : Call) : RateLimitKey × Nat := (call.key, call.now)

/-- A fixed window for each key, and no sweeps. -/
def reference (perJktPerMinute perIpPerMinute : UInt32)
    (windows : RateLimitKey → Option FixedWindow.Opened) (call : Call) :
    Bool × (RateLimitKey → Option FixedWindow.Opened) :=
  FixedWindow.answer windowLength (limits perJktPerMinute perIpPerMinute) windows call.request

/-- The check runs a sweep. -/
def Sweeps (limiter : RateLimiter) (call : Call) : Prop :=
  limiter.perMinute call.key ≠ 0 ∧ windowLength ≤ call.now - limiter.lastSweep

/-! ## One call -/

section Steps

variable {limiter : RateLimiter} {key : RateLimitKey} {now : Nat}

theorem lookup_sweepIfDue :
    (limiter.sweepIfDue now).windows.lookup key =
      if now - limiter.lastSweep < windowLength then limiter.windows.lookup key
      else (limiter.windows.lookup key).filter fun window =>
        decide (now - window.startedAt < windowLength) := by
  unfold RateLimiter.sweepIfDue
  split
  · rfl
  · exact Table.lookup_retain limiter.windows _ key

theorem lookup_check (limiter : RateLimiter) (key : RateLimitKey) (now : Nat) {perMinute : UInt32}
    (hpositive : perMinute ≠ 0) (other : RateLimitKey) :
    (limiter.check key perMinute now).2.windows.lookup other =
      if other = key then
        let window := (limiter.sweepIfDue now).windowAt key now
        some
          (if perMinute ≤ window.count then window else { window with count := window.count + 1 })
      else (limiter.sweepIfDue now).windows.lookup other := by
  unfold RateLimiter.check
  rw [if_neg hpositive]
  simp only
  split
  · exact Table.lookup_insert_eq _ key other _
  · exact Table.lookup_insert_eq _ key other _

theorem check_isAllowed {perMinute : UInt32} (hpositive : perMinute ≠ 0) :
    (limiter.check key perMinute now).1.isAllowed =
      decide (¬ perMinute ≤ ((limiter.sweepIfDue now).windowAt key now).count) := by
  unfold RateLimiter.check
  rw [if_neg hpositive]
  simp only
  split
  · next hfull => rw [decide_eq_false (not_not.2 hfull)]; rfl
  · next hroom => rw [decide_eq_true hroom]; rfl

theorem check_zero : limiter.check key 0 now = (.allowed, limiter) := if_pos rfl

/-- A check leaves the budgets as they are. -/
theorem check_perMinute {perMinute : UInt32} (other : RateLimitKey) :
    (limiter.check key perMinute now).2.perMinute other = limiter.perMinute other := by
  have hsweep : ∀ other, (limiter.sweepIfDue now).perMinute other = limiter.perMinute other := by
    intro other
    unfold RateLimiter.sweepIfDue
    split
    · rfl
    · cases other <;> rfl
  rw [← hsweep other]
  unfold RateLimiter.check
  by_cases hzero : perMinute = 0
  · rw [if_pos hzero, hsweep]
  · rw [if_neg hzero]
    simp only
    split
    · cases other <;> rfl
    · cases other <;> rfl

end Steps

/-! ## The limiter against the reference -/

/-- The window of a key at `t`, against the one of the reference: the same window, with the
requests counted up to the budget, or one that is over and has been dropped. -/
def Represents (t most : Nat) : Option Window → Option FixedWindow.Opened → Prop
  | none, none => True
  | none, some opened => opened.openedAt + windowLength ≤ t
  | some window, some opened =>
      window.startedAt = opened.openedAt ∧ window.count.toNat = min opened.seen most
  | some _, none => False

structure Mirrors (perJktPerMinute perIpPerMinute : UInt32) (t : Nat) (limiter : RateLimiter)
    (windows : RateLimitKey → Option FixedWindow.Opened) : Prop where
  perJkt : limiter.perJktPerMinute = perJktPerMinute
  perIp : limiter.perIpPerMinute = perIpPerMinute
  represents : ∀ key most, limits perJktPerMinute perIpPerMinute key = some most →
    Represents t most (limiter.windows.lookup key) (windows key)

section Mirrors

variable {perJkt perIp : UInt32} {t now most : Nat} {limiter : RateLimiter} {key : RateLimitKey}
  {opened : Option FixedWindow.Opened} {windows : RateLimitKey → Option FixedWindow.Opened}

theorem represents_mono {t' : Nat} {window : Option Window} (h : Represents t most window opened)
    (hle : t ≤ t') : Represents t' most window opened := by
  cases window with
  | none =>
      cases opened with
      | none => trivial
      | some opened =>
          have hover : opened.openedAt + windowLength ≤ t := h
          show opened.openedAt + windowLength ≤ t'
          omega
  | some window =>
      cases opened with
      | none => exact h
      | some opened => exact h

/-- A sweep drops windows that are over. -/
theorem represents_sweep (h : Represents t most (limiter.windows.lookup key) opened)
    (hle : t ≤ now) :
    Represents now most ((limiter.sweepIfDue now).windows.lookup key) opened := by
  rw [lookup_sweepIfDue]
  split
  · exact represents_mono h hle
  · cases hwindow : limiter.windows.lookup key with
    | none =>
        rw [hwindow] at h
        exact represents_mono h hle
    | some window =>
        rw [hwindow] at h
        cases opened with
        | none => exact absurd h id
        | some opened =>
            rw [Option.filter_some]
            by_cases hlive : now - window.startedAt < windowLength
            · rw [if_pos (decide_eq_true hlive)]
              exact h
            · rw [if_neg (by rw [decide_eq_false hlive]; decide)]
              obtain ⟨hstarted, -⟩ := h
              show opened.openedAt + windowLength ≤ now
              unfold windowLength second at *
              omega

/-- The window a request finds is the one that is current in the reference. -/
theorem represents_windowAt (h : Represents now most (limiter.windows.lookup key) opened) :
    (limiter.windowAt key now).startedAt =
        (FixedWindow.current windowLength opened now).openedAt ∧
      (limiter.windowAt key now).count.toNat =
        min (FixedWindow.current windowLength opened now).seen most := by
  have hfresh : ¬ windowLength ≤ now - now := by
    rw [Nat.sub_self]
    decide
  unfold RateLimiter.windowAt FixedWindow.current
  cases hwindow : limiter.windows.lookup key with
  | none =>
      rw [hwindow] at h
      simp only [Option.getD_none, if_neg hfresh]
      cases opened with
      | none => exact ⟨rfl, (Nat.zero_min most).symm⟩
      | some opened =>
          have hover : opened.openedAt + windowLength ≤ now := h
          simp only [if_pos hover]
          exact ⟨trivial, (Nat.zero_min most).symm⟩
  | some window =>
      rw [hwindow] at h
      cases opened with
      | none => exact absurd h id
      | some opened =>
          obtain ⟨hstarted, hcount⟩ := h
          simp only [Option.getD_some]
          have hsame : windowLength ≤ now - window.startedAt ↔
              opened.openedAt + windowLength ≤ now := by
            unfold windowLength second
            omega
          by_cases hover : opened.openedAt + windowLength ≤ now
          · rw [if_pos hover, if_pos (hsame.2 hover)]
            exact ⟨rfl, (Nat.zero_min most).symm⟩
          · rw [if_neg hover, if_neg (mt hsame.1 hover)]
            exact ⟨hstarted, hcount⟩

theorem limits_eq (key : RateLimitKey) (hperJkt : limiter.perJktPerMinute = perJkt)
    (hperIp : limiter.perIpPerMinute = perIp) :
    limits perJkt perIp key =
      if limiter.perMinute key = 0 then none else some (limiter.perMinute key).toNat := by
  subst hperJkt hperIp
  cases key with
  | jkt jkt => rfl
  | ip ip => rfl

/-- A window is full in the limiter when it has admitted its budget in the reference. -/
theorem full_iff {perMinute : UInt32}
    (h : Represents now perMinute.toNat (limiter.windows.lookup key) opened) :
    perMinute ≤ (limiter.windowAt key now).count ↔
      ¬ (FixedWindow.current windowLength opened now).seen < perMinute.toNat := by
  rw [UInt32.le_iff_toNat_le, (represents_windowAt h).2]
  omega

/-- The window that a request leaves is the next one of the reference. -/
theorem represents_next {perMinute : UInt32}
    (h : Represents now perMinute.toNat (limiter.windows.lookup key) opened) :
    let window := limiter.windowAt key now
    Represents now perMinute.toNat
      (some
        (if perMinute ≤ window.count then window else { window with count := window.count + 1 }))
      (some (FixedWindow.next windowLength opened now)) := by
  obtain ⟨hstarted, hcount⟩ := represents_windowAt h
  have hfull := full_iff h
  by_cases hroom : perMinute ≤ (limiter.windowAt key now).count
  · simp only [if_pos hroom]
    refine ⟨hstarted, ?_⟩
    have hseen := hfull.1 hroom
    rw [hcount]
    show _ = min (_ + 1) _
    omega
  · simp only [if_neg hroom]
    refine ⟨hstarted, ?_⟩
    have hseen := mt hfull.2 hroom
    have hbound := perMinute.toNat_lt
    show (_ + 1 : UInt32).toNat = min (_ + 1) _
    have hone : (1 : UInt32).toNat = 1 := rfl
    rw [UInt32.toNat_add, hone, hcount]
    omega

/-- One call is answered alike, and leaves the two alike. -/
theorem represents_check (h : Mirrors perJkt perIp t limiter windows) (call : Call)
    (hle : t ≤ call.now) :
    (limiter.perform call).1.isAllowed = (reference perJkt perIp windows call).1 ∧
      Mirrors perJkt perIp call.now (limiter.perform call).2
        (reference perJkt perIp windows call).2 := by
  rw [perform_eq]
  have hperJkt : (limiter.check call.key (limiter.perMinute call.key) call.now).2.perJktPerMinute =
      perJkt := (check_perMinute (.jkt "")).trans h.perJkt
  have hperIp : (limiter.check call.key (limiter.perMinute call.key) call.now).2.perIpPerMinute =
      perIp := (check_perMinute (.ip (.v4 0))).trans h.perIp
  have hlimits := limits_eq call.key h.perJkt h.perIp
  by_cases hzero : limiter.perMinute call.key = 0
  · rw [if_pos hzero] at hlimits
    have hanswer : reference perJkt perIp windows call = (true, windows) :=
      FixedWindow.answer_unlimited hlimits
    rw [hzero, check_zero, hanswer]
    refine ⟨rfl, h.perJkt, h.perIp, ?_⟩
    intro key most hmost
    exact represents_mono (h.represents key most hmost) hle
  · rw [if_neg hzero] at hlimits
    have hanswer : reference perJkt perIp windows call =
        (FixedWindow.admits windowLength (limiter.perMinute call.key).toNat (windows call.key)
            call.now,
          Function.update windows call.key
            (some (FixedWindow.next windowLength (windows call.key) call.now))) :=
      FixedWindow.answer_limited hlimits
    have hswept := represents_sweep (h.represents call.key _ hlimits) hle
    rw [hanswer]
    refine ⟨?_, hperJkt, hperIp, ?_⟩
    · rw [check_isAllowed hzero]
      unfold FixedWindow.admits
      rw [decide_eq_decide, full_iff hswept, not_not]
    · intro key most hmost
      rw [lookup_check _ _ _ hzero]
      show Represents call.now most _ (Function.update windows call.key _ key)
      by_cases hkey : key = call.key
      · subst hkey
        rw [hlimits] at hmost
        obtain rfl := Option.some.inj hmost
        rw [if_pos rfl, Function.update_self]
        exact represents_next hswept
      · rw [if_neg hkey, Function.update_of_ne hkey]
        exact represents_sweep (h.represents key most hmost) hle

end Mirrors

/-! ## Sequences of calls -/

theorem mirrors_new (perJkt perIp : UInt32) (createdAt : Nat) :
    Mirrors perJkt perIp 0 (.new perJkt perIp createdAt) fun _ => none where
  perJkt := rfl
  perIp := rfl
  represents := fun _ _ _ => trivial

/-- After a check that sweeps every window there is is still open. -/
theorem check_sweeps {limiter : RateLimiter} {call : Call} (hsweeps : Sweeps limiter call)
    (key : RateLimitKey) (window : Window)
    (hwindow : (limiter.perform call).2.windows.lookup key = some window) :
    call.now - window.startedAt < windowLength := by
  obtain ⟨hpositive, hdue⟩ := hsweeps
  rw [perform_eq, lookup_check _ _ _ hpositive] at hwindow
  split at hwindow
  · have hopen : call.now -
        ((limiter.sweepIfDue call.now).windowAt call.key call.now).startedAt < windowLength := by
      unfold RateLimiter.windowAt
      simp only
      split
      · rw [Nat.sub_self]
        decide
      · next hlive => exact Nat.not_le.1 hlive
    rw [← Option.some.inj hwindow]
    split
    · exact hopen
    · exact hopen
  · rw [lookup_sweepIfDue, if_neg (Nat.not_lt.2 hdue), Option.filter_eq_some_iff] at hwindow
    exact of_decide_eq_true hwindow.2

/-- The decisions on a sequence of calls. -/
def decisions (perJktPerMinute perIpPerMinute : UInt32) (createdAt : Nat) (calls : List Call) :
    List Bool :=
  (outputs RateLimiter.perform (.new perJktPerMinute perIpPerMinute createdAt) calls).map
    RateLimitDecision.isAllowed

/-- The limiter after some calls. -/
def after (perJktPerMinute perIpPerMinute : UInt32) (createdAt : Nat) (calls : List Call) :
    RateLimiter :=
  final RateLimiter.perform (.new perJktPerMinute perIpPerMinute createdAt) calls

theorem outputs_reference (perJkt perIp : UInt32)
    (windows : RateLimitKey → Option FixedWindow.Opened) (calls : List Call) :
    outputs (reference perJkt perIp) windows calls =
      outputs (FixedWindow.answer windowLength (limits perJkt perIp)) windows
        (calls.map Call.request) := by
  induction calls generalizing windows with
  | nil => rfl
  | cons call calls ih =>
      rw [List.map_cons, outputs, outputs, ih]
      rfl

theorem decisions_eq_reference (perJkt perIp : UInt32) (createdAt : Nat) {calls : List Call}
    (hordered : InOrder Call.now 0 calls) :
    decisions perJkt perIp createdAt calls =
      outputs (reference perJkt perIp) (fun _ => none) calls := by
  have hstep : ∀ t limiter windows call, Mirrors perJkt perIp t limiter windows → t ≤ call.now →
      (limiter.perform call).1.isAllowed = (reference perJkt perIp windows call).1 ∧
        Mirrors perJkt perIp call.now (limiter.perform call).2
          (reference perJkt perIp windows call).2 :=
    fun t limiter windows call h hle => represents_check h call hle
  unfold decisions
  rw [← List.forall₂_eq_eq_eq, List.forall₂_map_left_iff]
  exact outputs_related_timed hstep (mirrors_new perJkt perIp createdAt) hordered

/-- The decisions are those of a fixed window for each key that is never swept.  So what is
decided for a key depends on its own calls alone, every window admits its first requests up
to the budget and no more, a budget of zero admits everything, and a check that sweeps leaves
open windows only. -/
theorem rate_limiter_equals_reference (perJkt perIp : UInt32) (createdAt : Nat) (calls : List Call)
    (hordered : InOrder Call.now 0 calls) :
    decisions perJkt perIp createdAt calls =
        outputs (reference perJkt perIp) (fun _ => none) calls ∧
    (∀ key most, limits perJkt perIp key = some most →
      FixedWindow.decisionsOf key (calls.map Call.request)
            (decisions perJkt perIp createdAt calls) =
          (FixedWindow.log windowLength most none
            (FixedWindow.timesOf key (calls.map Call.request))).map Prod.snd ∧
        ∀ t,
          (∃ n, FixedWindow.inWindow t (FixedWindow.log windowLength most none
              (FixedWindow.timesOf key (calls.map Call.request))) =
            (List.range' 0 n).map fun number => decide (number < most)) ∧
          (FixedWindow.inWindow t (FixedWindow.log windowLength most none
            (FixedWindow.timesOf key (calls.map Call.request)))).count true ≤ most) ∧
    (∀ key, limits perJkt perIp key = none →
      ∀ allowed ∈ FixedWindow.decisionsOf key (calls.map Call.request)
        (decisions perJkt perIp createdAt calls), allowed = true) ∧
    ∀ n call, calls[n]? = some call → Sweeps (after perJkt perIp createdAt (calls.take n)) call →
      ∀ key window, (after perJkt perIp createdAt (calls.take (n + 1))).windows.lookup key =
        some window → call.now - window.startedAt < windowLength := by
  have hsame := decisions_eq_reference perJkt perIp createdAt hordered
  have hkeyed := hsame.trans (outputs_reference perJkt perIp (fun _ => none) calls)
  have hlength : 0 < windowLength := by decide
  refine ⟨hsame, ?_, ?_, ?_⟩
  · intro key most hmost
    refine ⟨?_, ?_⟩
    · rw [hkeyed]
      exact FixedWindow.decisionsOf_outputs hmost _ _
    · intro t
      exact ⟨FixedWindow.inWindow_log hlength none _, FixedWindow.admitted_le hlength _⟩
  · intro key hnone
    rw [hkeyed]
    exact FixedWindow.decisionsOf_unlimited hnone _ _
  · intro n call hcall hsweeps key window hwindow
    refine check_sweeps hsweeps key window ?_
    have hafter : after perJkt perIp createdAt (calls.take (n + 1)) =
        ((after perJkt perIp createdAt (calls.take n)).perform call).2 := by
      unfold after final
      rw [List.take_add_one, hcall, List.foldl_append]
      rfl
    rw [← hafter]
    exact hwindow

/-! ### Two keys, one window and a sweep -/

/-- A key at its budget, another one a minute later, which sweeps, and the first one again. -/
def sampleCalls : List Call :=
  [.checkJkt "agent" (5 * second), .checkJkt "agent" (6 * second), .checkJkt "other" (66 * second),
    .checkJkt "agent" (66 * second)]

theorem rate_limiter_equals_reference_sample :
    decisions 1 0 0 sampleCalls = outputs (reference 1 0) (fun _ => none) sampleCalls ∧
      decisions 1 0 0 sampleCalls = [true, false, true, true] :=
  ⟨(rate_limiter_equals_reference 1 0 0 sampleCalls (by decide)).1, by decide⟩

end Zpay.X402.RateLimit
