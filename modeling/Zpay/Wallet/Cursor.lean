import Zpay.Wallet.Drains

/-!
# Whether the cursor only advances

A drain copies the cursor when it begins and stores its own when it ends, whatever the store
holds by then; and the cursor of a last page is not compared with anything.  So the cursor
goes back when a drain ends after one that got further, and when a last page says so.

## Main results

* `keeps_cursor_iff` — for one step.
* `cursor_advances_iff` — for whole runs.
* `cursor_goes_back` — two drains that overlap.
-/

open Zpay.Data Zpay.Machine

namespace Zpay.Wallet.Revocation

/-- The call that a step begins a drain of. -/
def begun (s : State) : Action → Option Nat
  | .begin c =>
      match s.calls.lookup c with
      | some (.starting _) => some c
      | _ => none
  | _ => none

/-- The store, the cursor each drain started from, and the cursors that drains have stored. -/
structure Tracked where
  store : State
  startedFrom : Nat → Int
  stored : List (Nat × Int)

namespace Tracked

def init : Tracked where
  store := .init
  startedFrom := fun _ => 0
  stored := []

def cursor (s : Tracked) : Int := s.store.cache.cursor

def step (config : Config) (s : Tracked) (a : Action) : Tracked where
  store := Revocation.step config s.store a
  startedFrom :=
    match begun s.store a with
    | some c => Function.update s.startedFrom c s.cursor
    | none => s.startedFrom
  stored :=
    match endOf s.store a with
    | some (c, .ok drain) => (c, drain.cursor) :: s.stored
    | _ => s.stored

end Tracked

/-- The cursor does not go back. -/
def Advances (s s' : Tracked) : Prop := s.cursor ≤ s'.cursor

theorem Advances.refl (s : Tracked) : Advances s s := Int.le_refl _

theorem Advances.trans {s s' s'' : Tracked} (h : Advances s s') (h' : Advances s' s'') :
    Advances s s'' := Int.le_trans h h'

/-- A drain that ends well started from no less than what other drains have stored. -/
def NoneNewer (s : Tracked) (a : Action) : Prop :=
  ∀ c drain, endOf s.store a = some (c, .ok drain) →
    ∀ c' cursor, (c', cursor) ∈ s.stored → c' ≠ c → cursor ≤ s.startedFrom c

/-- A drain that ends well finds the cursor it started from, and its last page does not point
behind it. -/
def KeepsCursor (s : Tracked) (a : Action) : Prop :=
  ∀ c drain, endOf s.store a = some (c, .ok drain) →
    s.startedFrom c = s.cursor ∧ s.cursor ≤ drain.cursor

/-! ## One step -/

section Step

variable {config : Config} {s : Tracked} {a : Action} {c : Nat}

theorem stage_le_two (phase : Option Phase) : stage phase ≤ 2 := by
  cases phase with
  | none => exact Nat.zero_le 2
  | some phase => cases phase <;> simp [stage]

/-- A drain is under way when it was before or has just begun. -/
theorem begun_of_stage {s : State} (h : stage ((step config s a).calls.lookup c) = 1) :
    stage (s.calls.lookup c) = 1 ∨ begun s a = some c := by
  have hmoves := call_moves config s a c
  generalize hbefore : s.calls.lookup c = before at hmoves ⊢
  generalize (step config s a).calls.lookup c = after at hmoves h
  cases hmoves with
  | stays _ _ => exact Or.inl h
  | begins caller hbegin =>
      right
      rw [hbegin]
      simp only [begun, hbefore]
  | responds caller drain response recorded => exact Or.inl rfl
  | continues caller drain next response recorded _ _ => exact Or.inl rfl
  | ends caller drain response recorded result _ => exact Or.inl rfl
  | disabledCheck jti _ => exact absurd h (by simp [stage])
  | disabledRefresh _ => exact absurd h (by simp [stage])
  | checksFresh jti _ => exact absurd h (by simp [stage])
  | starts caller _ => exact absurd h (by simp [stage])
  | decides jti => exact absurd h (by simp [stage])

theorem step_of_commits (config : Config) {drain : Drain}
    (h : endOf s.store a = some (c, .ok drain)) :
    (s.step config a).cursor = drain.cursor ∧
      (s.step config a).stored = (c, drain.cursor) :: s.stored ∧
      (s.step config a).startedFrom = s.startedFrom := by
  refine ⟨?_, ?_, ?_⟩
  · show (step config s.store a).cache.cursor = _
    rw [cache_step, h]
    rfl
  · unfold Tracked.step
    simp only [h]
  · obtain ⟨rfl, -⟩ := receiving_of_endOf h
    rfl

theorem step_of_not_commits (config : Config)
    (h : ¬ ∃ c drain, endOf s.store a = some (c, .ok drain)) :
    (s.step config a).cursor = s.cursor ∧ (s.step config a).stored = s.stored := by
  have hcache : (step config s.store a).cache = s.store.cache := by
    rw [cache_step]
    split
    · next c drain hend => exact absurd ⟨c, drain, hend⟩ h
    · rfl
  refine ⟨congrArg CacheState.cursor hcache, ?_⟩
  cases hend : endOf s.store a with
  | none => simp only [Tracked.step, hend]
  | some ended =>
      obtain ⟨c, result⟩ := ended
      cases result with
      | error err => simp only [Tracked.step, hend]
      | ok drain => exact absurd ⟨c, drain, hend⟩ h

theorem startedFrom_step (config : Config) (s : Tracked) (a : Action) (c : Nat) :
    (s.step config a).startedFrom c =
      if begun s.store a = some c then s.cursor else s.startedFrom c := by
  cases hbegun : begun s.store a with
  | none => simp only [Tracked.step, hbegun, reduceCtorEq, if_false]
  | some c' =>
      simp only [Tracked.step, hbegun, Option.some.injEq]
      by_cases hsame : c' = c
      · rw [if_pos hsame, hsame, Function.update_self]
      · rw [if_neg hsame, Function.update_of_ne (Ne.symm hsame)]

/-- The cursor is the last one stored, and the furthest; what stored it is over, and a drain
under way started from no further. -/
structure CursorInv (s : Tracked) : Prop where
  latest : s.stored = [] ∧ s.cursor = 0 ∨ ∃ c, (c, s.cursor) ∈ s.stored
  furthest : ∀ c cursor, (c, cursor) ∈ s.stored → cursor ≤ s.cursor
  ended : ∀ c cursor, (c, cursor) ∈ s.stored → stage (s.store.calls.lookup c) = 2
  behind : ∀ c, stage (s.store.calls.lookup c) = 1 →
    s.startedFrom c ≤ s.cursor ∧ (s.stored = [] → s.startedFrom c = s.cursor)

/-- A step keeps the cursor exactly when it does not move it back and no newer one has been
stored. -/
theorem keeps_cursor_iff (config : Config) (hinv : CursorInv s) (a : Action) :
    KeepsCursor s a ↔ Advances s (s.step config a) ∧ NoneNewer s a := by
  unfold Advances
  by_cases hcommits : ∃ c drain, endOf s.store a = some (c, .ok drain)
  · obtain ⟨c, drain, hend⟩ := hcommits
    have hunder := (stage_of_endOf config hend).1
    obtain ⟨hbehind, hfirst⟩ := hinv.behind c hunder
    rw [(step_of_commits config hend).1]
    constructor
    · intro hkeeps
      refine ⟨(hkeeps c drain hend).2, ?_⟩
      intro c' drain' hend' other cursor hstored _
      rw [(hkeeps c' drain' hend').1]
      exact hinv.furthest other cursor hstored
    · rintro ⟨hadvances, hnone⟩ c' drain' hend'
      rw [hend] at hend'
      obtain ⟨rfl, hdrain⟩ := Prod.mk.inj (Option.some.inj hend')
      obtain rfl := Except.ok.inj hdrain
      refine ⟨?_, hadvances⟩
      rcases hinv.latest with ⟨hempty, -⟩ | ⟨other, hstored⟩
      · exact hfirst hempty
      · -- another drain stored the cursor, since this one is not over
        have hother : other ≠ c := by
          rintro rfl
          have hover := hinv.ended other _ hstored
          omega
        have hnewer := hnone c drain hend other s.cursor hstored hother
        omega
  · rw [(step_of_not_commits config hcommits).1]
    exact iff_of_true (fun c drain hend => absurd ⟨c, drain, hend⟩ hcommits)
      ⟨Int.le_refl _, fun c drain hend => absurd ⟨c, drain, hend⟩ hcommits⟩

/-- What is over stays so. -/
theorem over_step (h : stage (s.store.calls.lookup c) = 2) :
    stage ((s.step config a).store.calls.lookup c) = 2 := by
  have hstage := stage_step config s.store a c
  have hbound := stage_le_two ((s.step config a).store.calls.lookup c)
  have hsame : stage ((s.step config a).store.calls.lookup c) =
      stage ((step config s.store a).calls.lookup c) := rfl
  omega

theorem cursorInv_step (hinv : CursorInv s) (hkeeps : KeepsCursor s a) :
    CursorInv (s.step config a) := by
  by_cases hcommits : ∃ c drain, endOf s.store a = some (c, .ok drain)
  · obtain ⟨c, drain, hend⟩ := hcommits
    obtain ⟨hcursor, hstored, hstarted⟩ := step_of_commits config hend
    obtain ⟨-, hadvances⟩ := hkeeps c drain hend
    have hover := (stage_of_endOf config hend).2
    refine ⟨?_, ?_, ?_, ?_⟩
    · rw [hcursor, hstored]
      exact Or.inr ⟨c, List.mem_cons_self⟩
    · rw [hcursor, hstored]
      intro other cursor hmem
      rcases List.mem_cons.1 hmem with heq | hmem
      · rw [(Prod.mk.inj heq).2]
      · exact Int.le_trans (hinv.furthest other cursor hmem) hadvances
    · rw [hstored]
      intro other cursor hmem
      rcases List.mem_cons.1 hmem with heq | hmem
      · rw [(Prod.mk.inj heq).1]
        exact hover
      · exact over_step (hinv.ended other cursor hmem)
    · intro other hunder
      obtain ⟨rfl, -⟩ := receiving_of_endOf hend
      have hbefore := (begun_of_stage hunder).resolve_right (by simp [begun])
      rw [hcursor, hstored, hstarted]
      exact ⟨Int.le_trans (hinv.behind other hbefore).1 hadvances,
        fun hempty => absurd hempty (by simp)⟩
  · obtain ⟨hcursor, hstored⟩ := step_of_not_commits config hcommits
    refine ⟨?_, ?_, ?_, ?_⟩
    · rw [hcursor, hstored]
      exact hinv.latest
    · rw [hcursor, hstored]
      exact hinv.furthest
    · rw [hstored]
      exact fun other cursor hmem => over_step (hinv.ended other cursor hmem)
    · intro other hunder
      rw [hcursor, hstored]
      rw [startedFrom_step]
      split
      · exact ⟨Int.le_refl _, fun _ => rfl⟩
      · next hbefore => exact hinv.behind other ((begun_of_stage hunder).resolve_right hbefore)

theorem cursorInv_init : CursorInv .init where
  latest := Or.inl ⟨rfl, rfl⟩
  furthest := fun _ _ h => absurd h (by simp [Tracked.init])
  ended := fun _ _ h => absurd h (by simp [Tracked.init])
  behind := fun c h => by
    change stage ((∅ : Table Nat Phase).lookup c) = 1 at h
    rw [AList.lookup_empty] at h
    exact absurd h (by simp [stage])

end Step

/-! ## Whole runs -/

/-- The stored cursor never goes back, and no drain ends that started behind one stored by
another, exactly when every drain that ends finds the cursor it started from and its last page
does not point behind it. -/
theorem cursor_advances_iff (config : Config) (as : List Action) :
    ((∀ i j, i ≤ j → Advances (run (Tracked.step config) .init (as.take i))
        (run (Tracked.step config) .init (as.take j))) ∧
      Along (Tracked.step config) NoneNewer .init as) ↔
      Along (Tracked.step config) KeepsCursor .init as := by
  rw [related_iff_along Advances.refl Advances.trans, ← along_and]
  exact (along_congr_while (fun _ _ hinv hkeeps => cursorInv_step hinv hkeeps)
    (fun _ a hinv => keeps_cursor_iff config hinv a) cursorInv_init as).symm

/-! ### Two drains that overlap -/

def sampleConfig : Config where
  issuerUrl := some "https://issuer.test"
  maxStaleness := 60

/-- A last page. -/
def samplePage (nextSince : Int) : Response :=
  .answered 200 (.ok { nextSince, revocations := [], truncated := false })

/-- Both begin at 0; one is told to go on from 10 and ends, then the other from 5. -/
def sampleRun : List Action :=
  [.refresh 0, .refresh 1, .begin 0, .begin 1, .respond 0 (samplePage 10), .receive 0,
    .respond 1 (samplePage 5), .receive 1]

theorem cursor_goes_back :
    ¬ ((∀ i j, i ≤ j → Advances (run (Tracked.step sampleConfig) .init (sampleRun.take i))
        (run (Tracked.step sampleConfig) .init (sampleRun.take j))) ∧
      Along (Tracked.step sampleConfig) NoneNewer .init sampleRun) := by
  rintro ⟨hadvances, -⟩
  have hback := hadvances 6 8 (by decide)
  unfold Advances at hback
  exact absurd hback (by decide)

/-- A single drain, whose last page points behind the cursor. -/
example :
    (run (Tracked.step sampleConfig) .init
      [.refresh 0, .begin 0, .respond 0 (samplePage (-5)), .receive 0]).cursor = -5 := by decide

end Zpay.Wallet.Revocation
