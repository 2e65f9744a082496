import Zpay.Machine.Run

/-!
# Sessions that may be cut short

A program that works on a store in atomic steps.  A step may fail, and then it has changed
nothing; and the program may be cut before any of its steps, and then the store is what the
steps before had made of it.  It can be started again from there any number of times.

`Ensures` is the triple of such a program: what holds of its value and the store when it
returns, of its error and the store when it fails, and of the store where it is cut.

## Main results

* `ensures_pure`, `ensures_bind`, `ensures_update`, `ensures_query`, `ensures_ite`,
  `ensures_forM` — the rules.
* `run_attempts` — what every attempt keeps, any number of attempts keep.
-/

namespace Zpay.Machine

variable {σ ε α β : Type}

/-! ## Sessions -/

/-- Why a session did not return. -/
inductive Halt (ε : Type)
  | failed (err : ε)
  | cut
  deriving DecidableEq, Repr

/-- The store, and after how many more steps the session is cut, if it is. -/
structure Live (σ : Type) where
  store : σ
  stepsLeft : Option Nat

def Session (σ ε α : Type) : Type := Live σ → Except (Halt ε) α × Live σ

instance : Monad (Session σ ε) where
  pure a := fun live => (.ok a, live)
  bind m f := fun live =>
    match m live with
    | (.ok a, live') => f a live'
    | (.error halt, live') => (.error halt, live')

/-- One step: all of it, or an error and nothing. -/
def Session.atomic (f : σ → Except ε (α × σ)) : Session σ ε α := fun live =>
  if live.stepsLeft = some 0 then (.error .cut, live)
  else
    match f live.store with
    | .ok (a, store) => (.ok a, { store, stepsLeft := live.stepsLeft.map (· - 1) })
    | .error err => (.error (.failed err), live)

def Session.update (f : σ → Except ε σ) : Session σ ε Unit :=
  .atomic fun s => (f s).map ((), ·)

def Session.query (f : σ → Except ε α) : Session σ ε α :=
  .atomic fun s => (f s).map (·, s)

def Session.fail (err : ε) : Session σ ε α := fun live => (.error (.failed err), live)

/-! ## Triples -/

/-- What is promised of an end: `Q` where the session returned, `E` where it failed and `C`
where it was cut, which it is only if it was to be. -/
def Meets (Q : α → σ → Prop) (E : ε → σ → Prop) (C : σ → Prop) (live : Live σ) :
    Except (Halt ε) α × Live σ → Prop
  | (.ok a, live') => Q a live'.store ∧ (live.stepsLeft = none → live'.stepsLeft = none)
  | (.error (.failed err), live') => E err live'.store
  | (.error .cut, live') => C live'.store ∧ live.stepsLeft ≠ none

/-- The promise holds of every end, from a store that meets `P`. -/
def Ensures (P : σ → Prop) (m : Session σ ε α) (Q : α → σ → Prop) (E : ε → σ → Prop)
    (C : σ → Prop) : Prop :=
  ∀ live : Live σ, P live.store → Meets Q E C live (m live)

section Rules

variable {P P' : σ → Prop} {Q Q' : α → σ → Prop} {R : β → σ → Prop} {E E' : ε → σ → Prop}
  {C C' : σ → Prop} {m : Session σ ε α} {f : α → Session σ ε β}

theorem ensures_pure {a : α} (h : ∀ s, P s → Q a s) : Ensures P (pure a : Session σ ε α) Q E C :=
  fun live hlive => ⟨h live.store hlive, id⟩

theorem ensures_bind (hm : Ensures P m Q E C) (hf : ∀ a, Ensures (Q a) (f a) R E C) :
    Ensures P (m >>= f) R E C := by
  intro live hlive
  have hfirst := hm live hlive
  show Meets R E C live (match m live with
    | (.ok a, live') => f a live'
    | (.error halt, live') => (.error halt, live'))
  generalize m live = ended at hfirst ⊢
  obtain ⟨result, live'⟩ := ended
  cases result with
  | error halt => cases halt <;> exact hfirst
  | ok a =>
      obtain ⟨hstore, hleft⟩ := hfirst
      have hrest := hf a live' hstore
      simp only
      generalize f a live' = ended at hrest ⊢
      obtain ⟨result, live''⟩ := ended
      cases result with
      | ok b => exact ⟨hrest.1, fun hnone => hrest.2 (hleft hnone)⟩
      | error halt =>
          cases halt with
          | failed err => exact hrest
          | cut => exact ⟨hrest.1, fun hnone => hrest.2 (hleft hnone)⟩

theorem ensures_atomic {g : σ → Except ε (α × σ)} (hcut : ∀ s, P s → C s)
    (hok : ∀ s a s', P s → g s = .ok (a, s') → Q a s')
    (herror : ∀ s err, P s → g s = .error err → E err s) :
    Ensures P (Session.atomic g) Q E C := by
  intro live hlive
  unfold Session.atomic
  by_cases hzero : live.stepsLeft = some 0
  · rw [if_pos hzero]
    exact ⟨hcut live.store hlive, by simp [hzero]⟩
  · rw [if_neg hzero]
    cases hg : g live.store with
    | error err => exact herror live.store err hlive hg
    | ok answer =>
        obtain ⟨a, s'⟩ := answer
        exact ⟨hok live.store a s' hlive hg, fun hnone => by simp [hnone]⟩

theorem ensures_update {g : σ → Except ε σ} {Q : Unit → σ → Prop} (hcut : ∀ s, P s → C s)
    (hok : ∀ s, P s → ∃ s', g s = .ok s' ∧ Q () s') : Ensures P (Session.update g) Q E C := by
  apply ensures_atomic hcut
  · intro s _ s' hs h
    obtain ⟨s'', hg, hq⟩ := hok s hs
    rw [hg] at h
    obtain rfl : s'' = s' := congrArg Prod.snd (Except.ok.inj h)
    exact hq
  · intro s err hs h
    obtain ⟨s'', hg, -⟩ := hok s hs
    rw [hg] at h
    exact absurd h (by simp [Except.map])

theorem ensures_query {g : σ → Except ε α} (hcut : ∀ s, P s → C s)
    (hok : ∀ s a, P s → g s = .ok a → Q a s) (herror : ∀ s err, P s → g s = .error err → E err s) :
    Ensures P (Session.query g) Q E C := by
  apply ensures_atomic hcut
  · intro s a s' hs h
    cases hg : g s with
    | error err =>
        rw [hg] at h
        exact absurd h (by simp [Except.map])
    | ok a' =>
        rw [hg] at h
        obtain ⟨rfl, rfl⟩ := Prod.mk.inj (Except.ok.inj h)
        exact hok s a' hs hg
  · intro s err hs h
    cases hg : g s with
    | ok a' =>
        rw [hg] at h
        exact absurd h (by simp [Except.map])
    | error err' =>
        rw [hg] at h
        obtain rfl : err' = err := Except.error.inj h
        exact herror s err' hs hg

theorem Ensures.mono (h : Ensures P m Q E C) (hpre : ∀ s, P' s → P s)
    (hpost : ∀ a s, Q a s → Q' a s) (herror : ∀ err s, E err s → E' err s)
    (hcut : ∀ s, C s → C' s) : Ensures P' m Q' E' C' := by
  intro live hlive
  have hm := h live (hpre live.store hlive)
  generalize m live = ended at hm ⊢
  obtain ⟨result, live'⟩ := ended
  cases result with
  | ok a => exact ⟨hpost a _ hm.1, hm.2⟩
  | error halt =>
      cases halt with
      | failed err => exact herror err _ hm
      | cut => exact ⟨hcut _ hm.1, hm.2⟩

theorem ensures_ite {p : Prop} [Decidable p] {m' : Session σ ε α}
    (hthen : p → Ensures P m Q E C) (helse : ¬ p → Ensures P m' Q E C) :
    Ensures P (if p then m else m') Q E C := by
  by_cases hp : p
  · rw [if_pos hp]
    exact hthen hp
  · rw [if_neg hp]
    exact helse hp

/-- What does not depend on the store can be had before the session. -/
theorem ensures_of_pre {p : Prop} (h : p → Ensures P m Q E C) :
    Ensures (fun s => p ∧ P s) m Q E C :=
  fun live hlive => h hlive.1 live hlive.2

/-- A loop over a list, with an invariant for each position in it. -/
theorem ensures_forM {g : β → Session σ ε PUnit} {I : Nat → σ → Prop} (xs : List β)
    (h : ∀ i x, xs[i]? = some x → Ensures (I i) (g x) (fun _ => I (i + 1)) E C) :
    Ensures (I 0) (xs.forM g) (fun _ => I xs.length) E C := by
  induction xs generalizing I with
  | nil => exact ensures_pure fun _ hs => hs
  | cons x xs ih =>
      apply ensures_bind (h 0 x rfl)
      intro _
      exact ih fun i x' hx' => h (i + 1) x' hx'

end Rules

/-! ## Attempts -/

/-- One start of a program: what it is given, and after how many steps it is cut. -/
structure Attempt (ω : Type) where
  input : ω
  stepsLeft : Option Nat

variable {ω : Type} {P : σ → Prop} {Q : α → σ → Prop} {E : ε → σ → Prop} {C : σ → Prop}

/-- How the attempt ends, and the store it leaves. -/
def attempt (program : ω → Session σ ε α) (s : σ) (a : Attempt ω) : Except (Halt ε) α × σ :=
  ((program a.input ⟨s, a.stepsLeft⟩).1, (program a.input ⟨s, a.stepsLeft⟩).2.store)

/-- The stores that attempts leave, one after the other. -/
def attempts (program : ω → Session σ ε α) (s : σ) (as : List (Attempt ω)) : σ :=
  run (fun s a => (attempt program s a).2) s as

/-- What is promised of a program is promised of its attempts. -/
theorem attempt_meets {program : ω → Session σ ε α} {s : σ} {a : Attempt ω}
    (h : Ensures P (program a.input) Q E C) (hs : P s) :
    ∃ live : Live σ, live.store = (attempt program s a).2 ∧
      Meets Q E C ⟨s, a.stepsLeft⟩ ((attempt program s a).1, live) :=
  ⟨(program a.input ⟨s, a.stepsLeft⟩).2, rfl, h ⟨s, a.stepsLeft⟩ hs⟩

theorem attempt_ok {program : ω → Session σ ε α} {s : σ} {a : Attempt ω} {v : α}
    (h : Ensures P (program a.input) Q E C) (hs : P s) (hend : (attempt program s a).1 = .ok v) :
    Q v (attempt program s a).2 := by
  obtain ⟨live, hstore, hmeets⟩ := attempt_meets h hs
  rw [hend] at hmeets
  exact hstore ▸ hmeets.1

theorem attempt_failed {program : ω → Session σ ε α} {s : σ} {a : Attempt ω} {err : ε}
    (h : Ensures P (program a.input) Q E C) (hs : P s)
    (hend : (attempt program s a).1 = .error (.failed err)) : E err (attempt program s a).2 := by
  obtain ⟨live, hstore, hmeets⟩ := attempt_meets h hs
  rw [hend] at hmeets
  exact hstore ▸ hmeets

theorem attempt_cut {program : ω → Session σ ε α} {s : σ} {a : Attempt ω}
    (h : Ensures P (program a.input) Q E C) (hs : P s)
    (hend : (attempt program s a).1 = .error .cut) :
    C (attempt program s a).2 ∧ a.stepsLeft ≠ none := by
  obtain ⟨live, hstore, hmeets⟩ := attempt_meets h hs
  rw [hend] at hmeets
  exact hstore ▸ hmeets

/-- However an attempt ends. -/
theorem attempt_ends {program : ω → Session σ ε α} {s : σ} {a : Attempt ω} {K : σ → Prop}
    (h : Ensures P (program a.input) (fun _ => K) (fun _ => K) K) (hs : P s) :
    K (attempt program s a).2 := by
  cases hend : (attempt program s a).1 with
  | ok v => exact attempt_ok h hs hend
  | error halt =>
      cases halt with
      | failed err => exact attempt_failed h hs hend
      | cut => exact (attempt_cut h hs hend).1

theorem run_attempts {program : ω → Session σ ε α} {K : σ → Prop}
    (h : ∀ input, Ensures K (program input) (fun _ => K) (fun _ => K) K) {s : σ} (hs : K s)
    (as : List (Attempt ω)) : K (attempts program s as) := by
  have hstep : ∀ s a, K s → K (attempt program s a).2 :=
    fun s a hs => attempt_ends (h a.input) hs
  exact run_invariant hstep hs as

end Zpay.Machine
