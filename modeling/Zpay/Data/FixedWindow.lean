import Mathlib.Data.List.Basic
import Mathlib.Logic.Function.Basic
import Zpay.Machine.Simulation

/-!
# Fixed windows

The requests of one key, counted in windows of a fixed length.  A window opens at the
first request, and at the first one that comes a whole length after the last window opened;
of the requests in a window the first few are admitted, as many as the limit says.

Requests of many keys are decided key by key; a key may be without a limit.

## Main results

* `inWindow_log` — the requests of a window, in turn, against the limit.
* `admitted_le` — no window admits more than the limit.
* `decisionsOf_outputs`, `decisionsOf_unlimited` — what is decided for one key is decided by
  its own requests.
-/

open Zpay.Machine

namespace Zpay.Data.FixedWindow

/-- A window, and how many requests have fallen in it. -/
structure Opened where
  openedAt : Nat
  seen : Nat
  deriving DecidableEq, Repr

variable (length limit : Nat)

/-- The window a request falls in. -/
def current (opened : Option Opened) (now : Nat) : Opened :=
  match opened with
  | some window =>
      if window.openedAt + length ≤ now then { openedAt := now, seen := 0 } else window
  | none => { openedAt := now, seen := 0 }

def admits (opened : Option Opened) (now : Nat) : Bool :=
  decide ((current length opened now).seen < limit)

def next (opened : Option Opened) (now : Nat) : Opened :=
  { current length opened now with seen := (current length opened now).seen + 1 }

/-- The requests of one key: the window each falls in, and whether it is admitted. -/
def log : Option Opened → List Nat → List (Nat × Bool)
  | _, [] => []
  | opened, now :: times =>
      ((current length opened now).openedAt, admits length limit opened now) ::
        log (some (next length opened now)) times

/-- The decisions on the requests of the window that opened at `t`. -/
def inWindow (t : Nat) (entries : List (Nat × Bool)) : List Bool :=
  (entries.filter fun entry => decide (entry.1 = t)).map Prod.snd

/-- The number the next request of the window at `t` has in it. -/
def nextIn (opened : Option Opened) (t : Nat) : Nat :=
  match opened with
  | some window => if window.openedAt = t then window.seen else 0
  | none => 0

section Log

variable {length limit} {opened : Option Opened} {t : Nat}

theorem inWindow_cons_eq {entry : Nat × Bool} {entries : List (Nat × Bool)} (h : entry.1 = t) :
    inWindow t (entry :: entries) = entry.2 :: inWindow t entries := by
  unfold inWindow
  rw [List.filter_cons, if_pos (decide_eq_true h), List.map_cons]

theorem inWindow_cons_ne {entry : Nat × Bool} {entries : List (Nat × Bool)} (h : entry.1 ≠ t) :
    inWindow t (entry :: entries) = inWindow t entries := by
  unfold inWindow
  rw [List.filter_cons, if_neg (by rw [decide_eq_false h]; decide)]

/-- A request falls in the open window, or opens one a length later. -/
theorem current_cases (window : Opened) (now : Nat) :
    current length (some window) now = window ∨
      window.openedAt + length ≤ (current length (some window) now).openedAt ∧
        (current length (some window) now).seen = 0 := by
  unfold current
  simp only
  by_cases hover : window.openedAt + length ≤ now
  · rw [if_pos hover]
    exact Or.inr ⟨hover, rfl⟩
  · rw [if_neg hover]
    exact Or.inl rfl

/-- A window that is over is never entered again. -/
theorem inWindow_log_past {window : Opened} {times : List Nat} (hpast : t < window.openedAt) :
    inWindow t (log length limit (some window) times) = [] := by
  induction times generalizing window with
  | nil => rfl
  | cons now times ih =>
      have hlater : t < (current length (some window) now).openedAt := by
        rcases current_cases window now with hsame | ⟨hopened, -⟩
        · rw [hsame]
          exact hpast
        · omega
      rw [log, inWindow_cons_ne (Nat.ne_of_gt hlater)]
      exact ih hlater

/-- The requests of a window are decided in turn, each by its number in the window. -/
theorem inWindow_log (hlength : 0 < length) (opened : Option Opened) (times : List Nat) :
    ∃ n, inWindow t (log length limit opened times) =
      (List.range' (nextIn opened t) n).map fun number => decide (number < limit) := by
  induction times generalizing opened with
  | nil => exact ⟨0, rfl⟩
  | cons now times ih =>
      obtain ⟨n, hrest⟩ := ih (some (next length opened now))
      by_cases hin : (current length opened now).openedAt = t
      · -- the request is in the window, with the number that comes next
        have hnumber : (current length opened now).seen = nextIn opened t := by
          cases opened with
          | none => rfl
          | some window =>
              rcases current_cases window now with hsame | ⟨hopened, hseen⟩
              · rw [hsame] at hin ⊢
                exact (if_pos hin).symm
              · rw [hseen]
                exact (if_neg (by omega)).symm
        have hafter : nextIn (some (next length opened now)) t = nextIn opened t + 1 := by
          rw [← hnumber]
          exact if_pos hin
        refine ⟨n + 1, ?_⟩
        rw [log, inWindow_cons_eq hin, hrest, hafter, List.range'_succ, List.map_cons, ← hnumber]
        rfl
      · rw [log, inWindow_cons_ne hin]
        have hother : nextIn (some (next length opened now)) t = 0 := if_neg hin
        cases opened with
        | none =>
            rw [hother] at hrest
            exact ⟨n, hrest⟩
        | some window =>
            by_cases hopen : window.openedAt = t
            · -- the window is left, and what opens now is later
              rcases current_cases window now with hsame | ⟨hopened, -⟩
              · rw [hsame] at hin
                exact absurd hopen hin
              · have hlater : t < (next length (some window) now).openedAt := by
                  show t < (current length (some window) now).openedAt
                  omega
                exact ⟨0, inWindow_log_past hlater⟩
            · have hnone : nextIn (some window) t = 0 := if_neg hopen
              rw [hnone, ← hother]
              exact ⟨n, hrest⟩

/-- No window admits more than the limit. -/
theorem admitted_le (hlength : 0 < length) (times : List Nat) :
    (inWindow t (log length limit none times)).count true ≤ limit := by
  obtain ⟨n, hdecisions⟩ := inWindow_log hlength none times
  rw [hdecisions]
  show ((List.range' 0 n).map fun number => decide (number < limit)).count true ≤ limit
  rw [← List.range_eq_range', List.count_eq_countP, List.countP_map]
  have hfirst : ∀ m, (List.range m).countP ((· == true) ∘ fun number => decide (number < limit)) =
      min m limit := by
    intro m
    induction m with
    | zero => simp
    | succ m ih =>
        rw [List.range_succ, List.countP_append, ih]
        by_cases hm : m < limit
        · simp [hm]
          omega
        · simp [hm]
          omega
  rw [hfirst]
  exact Nat.min_le_right n limit

end Log

/-! ## Many keys -/

section Keyed

variable {κ : Type*} [DecidableEq κ] (limits : κ → Option Nat)

/-- A request of a key at a time. -/
def answer (windows : κ → Option Opened) (request : κ × Nat) : Bool × (κ → Option Opened) :=
  match limits request.1 with
  | none => (true, windows)
  | some most =>
      (admits length most (windows request.1) request.2,
        Function.update windows request.1 (some (next length (windows request.1) request.2)))

/-- The decisions on the requests of one key. -/
def decisionsOf (key : κ) : List (κ × Nat) → List Bool → List Bool
  | request :: requests, decision :: decisions =>
      if request.1 = key then decision :: decisionsOf key requests decisions
      else decisionsOf key requests decisions
  | _, _ => []

/-- The times at which a key makes its requests. -/
def timesOf (key : κ) (requests : List (κ × Nat)) : List Nat :=
  (requests.filter fun request => decide (request.1 = key)).map Prod.snd

variable {length limits} {key : κ}

theorem answer_unlimited {windows : κ → Option Opened} {now : Nat} (hlimit : limits key = none) :
    answer length limits windows (key, now) = (true, windows) := by
  unfold answer
  rw [hlimit]

theorem answer_limited {windows : κ → Option Opened} {now most : Nat}
    (hlimit : limits key = some most) :
    answer length limits windows (key, now) =
      (admits length most (windows key) now,
        Function.update windows key (some (next length (windows key) now))) := by
  unfold answer
  rw [hlimit]

theorem decisionsOf_outputs {most : Nat} (hlimit : limits key = some most)
    (windows : κ → Option Opened) (requests : List (κ × Nat)) :
    decisionsOf key requests (outputs (answer length limits) windows requests) =
      (log length most (windows key) (timesOf key requests)).map Prod.snd := by
  induction requests generalizing windows with
  | nil => rfl
  | cons request requests ih =>
      obtain ⟨other, now⟩ := request
      by_cases hkey : other = key
      · subst hkey
        have htimes : timesOf other ((other, now) :: requests) = now :: timesOf other requests := by
          unfold timesOf
          rw [List.filter_cons, if_pos (decide_eq_true rfl), List.map_cons]
        rw [htimes, outputs, decisionsOf, if_pos rfl, ih, log, List.map_cons,
          answer_limited hlimit]
        simp only [Function.update_self]
      · have htimes : timesOf key ((other, now) :: requests) = timesOf key requests := by
          unfold timesOf
          rw [List.filter_cons, if_neg (by rw [decide_eq_false hkey]; decide)]
        have hwindows : (answer length limits windows (other, now)).2 key = windows key := by
          cases hother : limits other with
          | none => rw [answer_unlimited hother]
          | some most' =>
              rw [answer_limited hother]
              exact Function.update_of_ne (Ne.symm hkey) _ _
        rw [htimes, outputs, decisionsOf, if_neg hkey, ih, hwindows]

theorem decisionsOf_unlimited (hlimit : limits key = none) (windows : κ → Option Opened)
    (requests : List (κ × Nat)) :
    ∀ decision ∈ decisionsOf key requests (outputs (answer length limits) windows requests),
      decision = true := by
  induction requests generalizing windows with
  | nil => exact fun _ h => absurd h (by simp [decisionsOf])
  | cons request requests ih =>
      obtain ⟨other, now⟩ := request
      rw [outputs, decisionsOf]
      by_cases hkey : other = key
      · subst hkey
        rw [if_pos rfl, answer_unlimited hlimit]
        intro decision hdecision
        rcases List.mem_cons.1 hdecision with rfl | hdecision
        · rfl
        · exact ih _ decision hdecision
      · rw [if_neg hkey]
        exact ih _

end Keyed

end Zpay.Data.FixedWindow
