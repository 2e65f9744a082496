import Zpay.X402.RateLimit

/-!
# How long a limited caller is told to wait

A refused check names a number of seconds.  What is left of the window is rounded down to
whole seconds, so a caller that waits exactly that long may still come before the window is
over; it does not when the window is a whole number of seconds old, or in its last second,
where the hint is one second at least.

## Main results

* `limited_window` — what a refusal says about the window of its key.
* `retry_after_holds_iff` — when the hint is long enough.
-/

open Zpay.Data Zpay.Machine

namespace Zpay.X402.RateLimit

/-! ## The hint -/

/-- Whatever other keys do meanwhile, the key's next request is allowed once the hinted
number of seconds has passed. -/
def HintHolds (limiter : RateLimiter) (call : Call) (retryAfterSeconds : Nat) : Prop :=
  ∀ others next, (∀ other ∈ others, other.key ≠ call.key) →
    InOrder Call.now call.now (others ++ [next]) → next.key = call.key →
    call.now + retryAfterSeconds * second ≤ next.now →
    ((final RateLimiter.perform limiter others).perform next).1 = .allowed

/-- How long before a call the window of its key opened. -/
def RateLimiter.age (limiter : RateLimiter) (call : Call) : Nat :=
  call.now - (limiter.windowAt call.key call.now).startedAt

/-- Windows started in the past. -/
def StartedBy (t : Nat) (limiter : RateLimiter) : Prop :=
  ∀ key window, limiter.windows.lookup key = some window → window.startedAt ≤ t

/-- The window of a key at `t`: still there, or over and dropped. -/
def KeepsWindow (key : RateLimitKey) (perMinute : UInt32) (window : Window) (t : Nat)
    (limiter : RateLimiter) : Prop :=
  limiter.perMinute key = perMinute ∧
    (limiter.windows.lookup key = some window ∨
      limiter.windows.lookup key = none ∧ window.startedAt + windowLength ≤ t)

section Steps

variable {limiter : RateLimiter} {key : RateLimitKey} {now t : Nat} {call : Call}

theorem sweep_window {window : Window}
    (h : (limiter.sweepIfDue now).windows.lookup key = some window) :
    limiter.windows.lookup key = some window := by
  rw [lookup_sweepIfDue] at h
  split at h
  · exact h
  · exact (Option.filter_eq_some_iff.1 h).1

/-- A request finds the window there was, or one that starts with it. -/
theorem windowAt_cases (limiter : RateLimiter) (key : RateLimitKey) (now : Nat) :
    (limiter.windows.lookup key = some (limiter.windowAt key now) ∧
        now - (limiter.windowAt key now).startedAt < windowLength) ∨
      limiter.windowAt key now = { count := 0, startedAt := now } := by
  unfold RateLimiter.windowAt
  simp only
  split
  · exact Or.inr rfl
  · next hlive =>
      cases hwindow : limiter.windows.lookup key with
      | none => exact Or.inr rfl
      | some window =>
          rw [hwindow, Option.getD_some] at hlive
          exact Or.inl ⟨rfl, Nat.not_le.1 hlive⟩

theorem startedBy_perform (h : StartedBy t limiter) (hle : t ≤ call.now) :
    StartedBy call.now (limiter.perform call).2 := by
  have hswept : StartedBy call.now (limiter.sweepIfDue call.now) := by
    intro key window hwindow
    exact Nat.le_trans (h key window (sweep_window hwindow)) hle
  intro key window hwindow
  rw [perform_eq] at hwindow
  by_cases hzero : limiter.perMinute call.key = 0
  · rw [hzero, check_zero] at hwindow
    exact Nat.le_trans (h key window hwindow) hle
  · rw [lookup_check _ _ _ hzero] at hwindow
    split at hwindow
    · have hstarted : ((limiter.sweepIfDue call.now).windowAt call.key call.now).startedAt ≤
          call.now := by
        rcases windowAt_cases (limiter.sweepIfDue call.now) call.key call.now with
          ⟨hheld, -⟩ | hfresh
        · exact hswept call.key _ hheld
        · rw [hfresh]
      rw [← Option.some.inj hwindow]
      split
      · exact hstarted
      · exact hstarted
    · exact hswept key window hwindow

theorem startedBy_after (perJkt perIp : UInt32) (createdAt : Nat) {calls : List Call}
    (hordered : InOrder Call.now 0 calls) (hlast : ∀ call ∈ calls, call.now ≤ t) :
    StartedBy t (after perJkt perIp createdAt calls) := by
  have hstep : ∀ t (limiter : RateLimiter) (call : Call), StartedBy t limiter → True →
      t ≤ call.now → StartedBy call.now (limiter.perform call).2 :=
    fun _ _ _ h _ hle => startedBy_perform h hle
  have hmono : ∀ t t' (limiter : RateLimiter), StartedBy t limiter → t ≤ t' →
      StartedBy t' limiter :=
    fun _ _ _ h hle key window hwindow => Nat.le_trans (h key window hwindow) hle
  have hnew : StartedBy 0 (.new perJkt perIp createdAt) :=
    fun _ _ hwindow => absurd hwindow (by simp [RateLimiter.new])
  exact final_timed hstep hmono hnew hordered (fun _ _ => trivial) hlast (Nat.zero_le t)

/-- A refusal: the window of the key is open and used up, and stays as it is. -/
theorem limited_window {retryAfterSeconds : Nat}
    (h : (limiter.perform call).1 = .limited retryAfterSeconds) :
    limiter.perMinute call.key ≠ 0 ∧ ∃ window,
      limiter.windows.lookup call.key = some window ∧
      (limiter.perform call).2.windows.lookup call.key = some window ∧
      limiter.windowAt call.key call.now = window ∧
      limiter.perMinute call.key ≤ window.count ∧
      call.now - window.startedAt < windowLength ∧
      retryAfterSeconds = max ((windowLength - (call.now - window.startedAt)) / second) 1 := by
  rw [perform_eq] at h ⊢
  by_cases hzero : limiter.perMinute call.key = 0
  · rw [hzero, check_zero] at h
    exact absurd h (by simp)
  · refine ⟨hzero, (limiter.sweepIfDue call.now).windowAt call.key call.now, ?_⟩
    have hkept := lookup_check limiter call.key call.now hzero call.key
    rw [if_pos rfl] at hkept
    unfold RateLimiter.check at h
    rw [if_neg hzero] at h
    simp only at h hkept
    split at h
    · next hfull =>
        rw [if_pos hfull] at hkept
        rcases windowAt_cases (limiter.sweepIfDue call.now) call.key call.now with
          ⟨hheld, hopen⟩ | hfresh
        · have hbefore := sweep_window hheld
          refine ⟨hbefore, hkept, ?_, hfull, hopen, ?_⟩
          · unfold RateLimiter.windowAt
            rw [hbefore, Option.getD_some]
            exact if_neg (Nat.not_le.2 hopen)
          · injection h with hretry
            exact hretry.symm
        · rw [hfresh] at hfull
          exact absurd (UInt32.le_antisymm hfull UInt32.zero_le) hzero
    · exact absurd h (by simp)

theorem perform_perMinute (limiter : RateLimiter) (call : Call) (key : RateLimitKey) :
    (limiter.perform call).2.perMinute key = limiter.perMinute key := by
  rw [perform_eq]
  exact check_perMinute key

end Steps

section Waiting

variable {limiter : RateLimiter} {key : RateLimitKey} {perMinute : UInt32} {window : Window}
  {now t : Nat} {call : Call}

theorem keepsWindow_mono {t' : Nat} (h : KeepsWindow key perMinute window t limiter)
    (hle : t ≤ t') : KeepsWindow key perMinute window t' limiter := by
  rcases h with ⟨hbudget, hheld | ⟨hdropped, hover⟩⟩
  · exact ⟨hbudget, Or.inl hheld⟩
  · exact ⟨hbudget, Or.inr ⟨hdropped, Nat.le_trans hover hle⟩⟩

/-- A sweep drops the window only when it is over. -/
theorem keepsWindow_sweep (h : KeepsWindow key perMinute window t limiter) (hle : t ≤ now) :
    (limiter.sweepIfDue now).windows.lookup key = some window ∨
      (limiter.sweepIfDue now).windows.lookup key = none ∧
        window.startedAt + windowLength ≤ now := by
  rw [lookup_sweepIfDue]
  rcases h with ⟨-, hheld | ⟨hdropped, hover⟩⟩
  · rw [hheld]
    split
    · exact Or.inl rfl
    · by_cases hlive : now - window.startedAt < windowLength
      · exact Or.inl (by rw [Option.filter_some, if_pos (decide_eq_true hlive)])
      · refine Or.inr ⟨?_, ?_⟩
        · rw [Option.filter_some, if_neg (by rw [decide_eq_false hlive]; decide)]
        · unfold windowLength second at *
          omega
  · rw [hdropped]
    split
    · exact Or.inr ⟨rfl, Nat.le_trans hover hle⟩
    · exact Or.inr ⟨rfl, Nat.le_trans hover hle⟩

/-- Other keys leave the window alone while it is open. -/
theorem keepsWindow_perform (h : KeepsWindow key perMinute window t limiter)
    (hother : call.key ≠ key) (hle : t ≤ call.now) :
    KeepsWindow key perMinute window call.now (limiter.perform call).2 := by
  refine ⟨(perform_perMinute limiter call key).trans h.1, ?_⟩
  rw [perform_eq]
  by_cases hzero : limiter.perMinute call.key = 0
  · rw [hzero, check_zero]
    exact (keepsWindow_mono h hle).2
  · rw [lookup_check _ _ _ hzero, if_neg (Ne.symm hother)]
    exact keepsWindow_sweep h hle

theorem keepsWindow_final {t' : Nat} {others : List Call}
    (h : KeepsWindow key perMinute window t limiter) (hordered : InOrder Call.now t others)
    (hothers : ∀ other ∈ others, other.key ≠ key) (hlast : ∀ other ∈ others, other.now ≤ t')
    (hle : t ≤ t') :
    KeepsWindow key perMinute window t' (final RateLimiter.perform limiter others) := by
  have hstep : ∀ t (limiter : RateLimiter) (other : Call),
      KeepsWindow key perMinute window t limiter → other.key ≠ key → t ≤ other.now →
      KeepsWindow key perMinute window other.now (limiter.perform other).2 :=
    fun _ _ _ h hother hle => keepsWindow_perform h hother hle
  exact final_timed hstep (fun _ _ _ h hle => keepsWindow_mono h hle) h hordered hothers hlast hle

theorem isAllowed_iff (decision : RateLimitDecision) :
    decision.isAllowed = true ↔ decision = .allowed := by
  cases decision with
  | allowed => exact iff_of_true rfl rfl
  | limited retryAfterSeconds =>
      exact iff_of_false Bool.false_ne_true (by simp)

/-- With its budget used up, a key is allowed again when its window is over. -/
theorem allowed_iff_over (h : KeepsWindow call.key perMinute window t limiter)
    (hpositive : perMinute ≠ 0) (hfull : perMinute ≤ window.count) (hle : t ≤ call.now)
    (hstarted : window.startedAt ≤ call.now) :
    (limiter.perform call).1 = .allowed ↔ window.startedAt + windowLength ≤ call.now := by
  rw [perform_eq, h.1, ← isAllowed_iff, check_isAllowed hpositive, decide_eq_true_iff]
  have hempty : ¬ perMinute ≤ 0 := fun hle => hpositive (UInt32.le_antisymm hle UInt32.zero_le)
  unfold RateLimiter.windowAt
  rcases keepsWindow_sweep h hle with hheld | ⟨hdropped, hover⟩
  · rw [hheld]
    simp only [Option.getD_some]
    by_cases hover : windowLength ≤ call.now - window.startedAt
    · rw [if_pos hover]
      exact iff_of_true hempty (by omega)
    · rw [if_neg hover]
      exact iff_of_false (not_not.2 hfull) (by omega)
  · rw [hdropped]
    simp only [Option.getD_none, ite_self]
    exact iff_of_true hempty hover

end Waiting

/-! ## Long enough -/

/-- A call for a key at a time. -/
def callAt : RateLimitKey → Nat → Call
  | .jkt jkt, now => .checkJkt jkt now
  | .ip ip, now => .checkIp ip now

theorem callAt_key (key : RateLimitKey) (now : Nat) : (callAt key now).key = key := by
  cases key <;> rfl

theorem callAt_now (key : RateLimitKey) (now : Nat) : (callAt key now).now = now := by
  cases key <;> rfl

/-- What is left of a window in whole seconds, and one at least, reaches its end. -/
theorem hint_reaches_iff {age : Nat} (h : age < windowLength) :
    windowLength ≤ age + max ((windowLength - age) / second) 1 * second ↔
      age % second = 0 ∨ 59 * second ≤ age := by
  unfold windowLength second at *
  omega

/-- The hint is long enough exactly when the refusal comes a whole number of seconds after
the window opened, or in its last second. -/
theorem retry_after_holds_iff (perJkt perIp : UInt32) (createdAt : Nat) (calls : List Call)
    (call : Call) (retryAfterSeconds : Nat) (hordered : InOrder Call.now 0 (calls ++ [call]))
    (hlimited : ((after perJkt perIp createdAt calls).perform call).1 =
      .limited retryAfterSeconds) :
    HintHolds ((after perJkt perIp createdAt calls).perform call).2 call retryAfterSeconds ↔
      (after perJkt perIp createdAt calls).age call % second = 0 ∨
        59 * second ≤ (after perJkt perIp createdAt calls).age call := by
  obtain ⟨hpast, hlast, -⟩ := hordered.of_snoc
  have hstartedBy := startedBy_after perJkt perIp createdAt hpast hlast
  generalize after perJkt perIp createdAt calls = limiter at hlimited hstartedBy ⊢
  obtain ⟨hpositive, window, hheld, hkept, hfound, hfull, hopen, hretry⟩ := limited_window hlimited
  have hstarted := hstartedBy call.key window hheld
  have hkeeps : KeepsWindow call.key (limiter.perMinute call.key) window call.now
      (limiter.perform call).2 := ⟨perform_perMinute limiter call call.key, Or.inl hkept⟩
  -- the next request of the key is allowed when the window is over, whatever comes between
  have hnext : ∀ others next, (∀ other ∈ others, other.key ≠ call.key) →
      InOrder Call.now call.now (others ++ [next]) → next.key = call.key →
      (((final RateLimiter.perform (limiter.perform call).2 others).perform next).1 = .allowed ↔
        window.startedAt + windowLength ≤ next.now) := by
    intro others next hothers hafter hkey
    obtain ⟨hbetween, hbefore, hlater⟩ := hafter.of_snoc
    have hstill := keepsWindow_final hkeeps hbetween hothers hbefore hlater
    rw [← hkey] at hstill hfull hpositive
    exact allowed_iff_over hstill hpositive hfull (Nat.le_refl _) (Nat.le_trans hstarted hlater)
  have hage : limiter.age call = call.now - window.startedAt := by
    unfold RateLimiter.age
    rw [hfound]
  rw [hage, ← hint_reaches_iff hopen, ← hretry]
  refine ⟨?_, ?_⟩
  · intro hholds
    have hat := hholds [] (callAt call.key (call.now + retryAfterSeconds * second))
      (fun _ h => absurd h (by simp)) ⟨by rw [callAt_now]; omega, trivial⟩
      (callAt_key _ _) (Nat.le_of_eq (callAt_now _ _).symm)
    have hover := (hnext [] (callAt call.key (call.now + retryAfterSeconds * second))
      (fun _ h => absurd h (by simp)) ⟨by rw [callAt_now]; omega, trivial⟩
      (callAt_key _ _)).1 hat
    rw [callAt_now] at hover
    omega
  · intro hreaches others next hothers hafter hkey hwaited
    exact (hnext others next hothers hafter hkey).2 (by omega)

/-! ### A refusal half a second into a window -/

/-- A budget of one, used up at the start of a window. -/
def sampleLimiter : RateLimiter := after 1 0 0 [.checkJkt "agent" 0]

def sampleRefused : Call := .checkJkt "agent" (second / 2)

/-- The caller is told to wait for 59 seconds, and is refused again after them. -/
theorem retry_hint_short :
    (sampleLimiter.perform sampleRefused).1 = .limited 59 ∧
      ¬ HintHolds (sampleLimiter.perform sampleRefused).2 sampleRefused 59 := by
  refine ⟨by decide, ?_⟩
  intro hholds
  have hagain := hholds [] (.checkJkt "agent" (second / 2 + 59 * second))
    (fun _ h => absurd h (by simp)) (by decide) rfl (Nat.le_refl _)
  exact absurd hagain (by decide)

theorem retry_after_holds_iff_sample :
    HintHolds (sampleLimiter.perform (.checkJkt "agent" (2 * second))).2
        (.checkJkt "agent" (2 * second)) 58 ↔
      sampleLimiter.age (.checkJkt "agent" (2 * second)) % second = 0 ∨
        59 * second ≤ sampleLimiter.age (.checkJkt "agent" (2 * second)) :=
  retry_after_holds_iff 1 0 0 [.checkJkt "agent" 0] (.checkJkt "agent" (2 * second)) 58 (by decide)
    (by decide)

end Zpay.X402.RateLimit
