import Zpay.Wallet.Revocation

/-!
# What a drain may do to the cache

Whatever the issuer answers and however the calls interleave, only a drain that ends well
writes to the cache, it does so once, and it only adds to the revoked set.  A drain goes on
only while its cursor advances and it has pages left, so it ends.

## Main results

* `call_moves` — what one step does to one call.
* `cache_step` — what it does to the cache.
* `revocation_cache_grows` — what any number of calls do to it, from the start.
-/

open Zpay.Data Zpay.Machine

namespace Zpay.Wallet.Revocation

/-! ## What one step does -/

/-- The call whose refresh the step ends, and how. -/
def endOf (s : State) : Action → Option (Nat × Except RevocationRefreshError Drain)
  | .receive c =>
      match s.calls.lookup c with
      | some (.receiving _ drain response _) =>
          match drain.takeResponse response with
          | .error err => some (c, .error err)
          | .ok (.drained drain) => some (c, .ok drain)
          | .ok (.more _) => none
      | _ => none
  | _ => none

/-- The call that an action belongs to. -/
def Action.call : Action → Option Nat
  | .tick _ | .revoke _ _ => none
  | .check c _ | .refresh c | .begin c | .respond c _ | .receive c | .decide c => some c

/-- What a step may do to a call. -/
inductive Moves (config : Config) (s : State) (c : Nat) (a : Action) :
    Option Phase → Option Phase → Prop
  | stays (phase : Option Phase) : endOf s a = none ∨ a.call ≠ some c →
      Moves config s c a phase phase
  | disabledCheck (jti : String) : config.issuerUrl.isNone = true →
      Moves config s c a none (some (.answered jti .live s.now))
  | disabledRefresh : config.issuerUrl.isNone = true →
      Moves config s c a none (some (.refreshed (.ok ())))
  | checksFresh (jti : String) : config.issuerUrl.isNone = false →
      Moves config s c a none (some (.deciding jti))
  | starts (caller : Caller) : config.issuerUrl.isNone = false →
      Moves config s c a none (some (.starting caller))
  | begins (caller : Caller) : a = .begin c →
      Moves config s c a (some (.starting caller)) (some (.fetching caller s.cache.start))
  | responds (caller : Caller) (drain : Drain) (response : Response) (recorded : Nat) :
      Moves config s c a (some (.fetching caller drain))
        (some (.receiving caller drain response recorded))
  | continues (caller : Caller) (drain next : Drain) (response : Response) (recorded : Nat) :
      drain.takeResponse response = .ok (.more next) → endOf s a = none →
      Moves config s c a (some (.receiving caller drain response recorded))
        (some (.fetching caller next))
  | ends (caller : Caller) (drain : Drain) (response : Response) (recorded : Nat)
      (result : Except RevocationRefreshError Drain) : endOf s a = some (c, result) →
      Moves config s c a (some (.receiving caller drain response recorded))
        (some (caller.resume (result.map fun _ => ())))
  | decides (jti : String) :
      Moves config s c a (some (.deciding jti))
        (some (.answered jti (s.cache.outcome config.maxStaleness s.now jti) s.now))

section Step

variable {config : Config} {s : State} {c : Nat}

theorem lookup_setPhase (s : State) (c c' : Nat) (phase : Phase) :
    (s.setPhase c phase).calls.lookup c' =
      if c' = c then some phase else s.calls.lookup c' :=
  Table.lookup_insert_eq s.calls c c' phase

theorem endOf_other (hother : ∀ caller drain response recorded,
    s.calls.lookup c ≠ some (.receiving caller drain response recorded)) :
    endOf s (.receive c) = none := by
  dsimp only [endOf]
  split
  · next caller drain response recorded hphase =>
      exact absurd hphase (hother caller drain response recorded)
  · rfl

/-- A call that is set to a phase of its own makes the move it is set to. -/
theorem moves_setPhase {s' : State} {a : Action} {c' : Nat} {phase : Phase}
    (hcalls : s'.calls = s.calls) (hcall : a.call = some c')
    (hmoves : Moves config s c' a (s.calls.lookup c') (some phase)) (c : Nat) :
    Moves config s c a (s.calls.lookup c) ((s'.setPhase c' phase).calls.lookup c) := by
  rw [lookup_setPhase, hcalls]
  by_cases hsame : c = c'
  · subst hsame
    rw [if_pos rfl]
    exact hmoves
  · rw [if_neg hsame]
    refine .stays _ (Or.inr ?_)
    rw [hcall]
    exact fun heq => hsame (Option.some.inj heq).symm

variable (config)

theorem check_moves (s : State) (c' : Nat) (jti : String) (c : Nat) :
    Moves config s c (.check c' jti) (s.calls.lookup c)
      ((s.checkCall config c' jti).calls.lookup c) := by
  unfold State.checkCall
  split
  · exact .stays _ (Or.inl rfl)
  · next hnew =>
      refine moves_setPhase rfl rfl ?_ c
      rw [hnew]
      split
      · next hdisabled => exact .disabledCheck jti hdisabled
      · next henabled =>
          split
          · exact .checksFresh jti (Bool.not_eq_true _ ▸ henabled)
          · exact .starts _ (Bool.not_eq_true _ ▸ henabled)

theorem refresh_moves (s : State) (c' c : Nat) :
    Moves config s c (.refresh c') (s.calls.lookup c)
      ((s.refreshCall config c').calls.lookup c) := by
  unfold State.refreshCall
  split
  · exact .stays _ (Or.inl rfl)
  · next hnew =>
      refine moves_setPhase rfl rfl ?_ c
      rw [hnew]
      split
      · next hdisabled => exact .disabledRefresh hdisabled
      · next henabled => exact .starts _ (Bool.not_eq_true _ ▸ henabled)

theorem begin_moves (s : State) (c' c : Nat) :
    Moves config s c (.begin c') (s.calls.lookup c) ((s.beginCall c').calls.lookup c) := by
  unfold State.beginCall
  split
  · next caller hphase =>
      refine moves_setPhase rfl rfl ?_ c
      rw [hphase]
      exact .begins caller rfl
  · exact .stays _ (Or.inl rfl)

theorem respond_moves (s : State) (c' : Nat) (response : Response) (c : Nat) :
    Moves config s c (.respond c' response) (s.calls.lookup c)
      ((s.respondCall c' response).calls.lookup c) := by
  unfold State.respondCall
  split
  · next caller drain hphase =>
      refine moves_setPhase rfl rfl ?_ c
      rw [hphase]
      exact .responds caller drain response _
  · exact .stays _ (Or.inl rfl)

/-- A response ends the drain, with an error or with what it found, or asks for one more. -/
theorem receive_moves (s : State) (c' c : Nat) :
    Moves config s c (.receive c') (s.calls.lookup c) ((s.receiveCall c').calls.lookup c) := by
  unfold State.receiveCall
  split
  · next caller drain response recorded hphase =>
      split
      · next err htake =>
          refine moves_setPhase rfl rfl ?_ c
          rw [hphase]
          refine .ends caller drain response recorded (.error err) ?_
          simp only [endOf, hphase, htake]
      · next next htake =>
          refine moves_setPhase rfl rfl ?_ c
          rw [hphase]
          refine .continues caller drain next response recorded htake ?_
          simp only [endOf, hphase, htake]
      · next next htake =>
          refine moves_setPhase rfl rfl ?_ c
          rw [hphase]
          refine .ends caller drain response recorded (.ok next) ?_
          simp only [endOf, hphase, htake]
  · next hother => exact .stays _ (Or.inl (endOf_other hother))

theorem decide_moves (s : State) (c' c : Nat) :
    Moves config s c (.decide c') (s.calls.lookup c)
      ((s.decideCall config c').calls.lookup c) := by
  unfold State.decideCall
  split
  · next jti hphase =>
      refine moves_setPhase rfl rfl ?_ c
      rw [hphase]
      exact .decides jti
  · exact .stays _ (Or.inl rfl)

theorem call_moves (s : State) (a : Action) (c : Nat) :
    Moves config s c a (s.calls.lookup c) ((step config s a).calls.lookup c) := by
  cases a with
  | tick elapsed => exact .stays _ (Or.inl rfl)
  | revoke jti stamp => exact .stays _ (Or.inl rfl)
  | check c' jti => exact check_moves config s c' jti c
  | refresh c' => exact refresh_moves config s c' c
  | begin c' => exact begin_moves config s c' c
  | respond c' response => exact respond_moves config s c' response c
  | receive c' => exact receive_moves config s c' c
  | decide c' => exact decide_moves config s c' c

variable {config}

/-- Only a drain that ends well writes. -/
theorem cache_step (config : Config) (s : State) (a : Action) :
    (step config s a).cache =
      match endOf s a with
      | some (_, .ok drain) => s.cache.commit drain s.now
      | _ => s.cache := by
  cases a with
  | tick elapsed => rfl
  | revoke jti stamp => rfl
  | check c jti =>
      show (s.checkCall config c jti).cache = s.cache
      unfold State.checkCall
      split
      · rfl
      · rfl
  | refresh c =>
      show (s.refreshCall config c).cache = s.cache
      unfold State.refreshCall
      split
      · rfl
      · rfl
  | begin c =>
      show (s.beginCall c).cache = s.cache
      unfold State.beginCall
      split
      · rfl
      · rfl
  | respond c response =>
      show (s.respondCall c response).cache = s.cache
      unfold State.respondCall
      split
      · rfl
      · rfl
  | receive c =>
      show (s.receiveCall c).cache = _
      unfold State.receiveCall
      split
      · next caller drain response recorded hphase =>
          split
          · next err htake =>
              simp only [endOf, hphase, htake]
              rfl
          · next next htake =>
              simp only [endOf, hphase, htake]
              rfl
          · next next htake =>
              simp only [endOf, hphase, htake]
              rfl
      · next hother => rw [endOf_other hother]
  | decide c =>
      show (s.decideCall config c).cache = s.cache
      unfold State.decideCall
      split
      · rfl
      · rfl

/-- The call whose refresh a step ends is receiving, and the step is its own. -/
theorem receiving_of_endOf {a : Action} {result : Except RevocationRefreshError Drain}
    (h : endOf s a = some (c, result)) :
    a = .receive c ∧ ∃ caller drain response recorded,
      s.calls.lookup c = some (.receiving caller drain response recorded) := by
  unfold endOf at h
  split at h
  · next c' =>
      split at h
      · next caller drain response recorded hphase =>
          have hcall : c' = c := by
            split at h
            · exact (Prod.mk.inj (Option.some.inj h)).1
            · exact (Prod.mk.inj (Option.some.inj h)).1
            · exact absurd h (by simp)
          subst hcall
          exact ⟨rfl, caller, drain, response, recorded, hphase⟩
      · exact absurd h (by simp)
  · exact absurd h (by simp)

/-- A refresh that ended is over. -/
theorem resumed_of_endOf (config : Config) {a : Action}
    {result : Except RevocationRefreshError Drain} (h : endOf s a = some (c, result)) :
    ∃ caller : Caller, (step config s a).calls.lookup c =
      some (caller.resume (result.map fun _ => ())) := by
  obtain ⟨rfl, caller, drain, response, recorded, hphase⟩ := receiving_of_endOf h
  have hmoves := call_moves config s (.receive c) c
  rw [hphase] at hmoves
  generalize (step config s (.receive c)).calls.lookup c = after at hmoves ⊢
  cases hmoves with
  | stays _ hnone =>
      rcases hnone with hnone | hcall
      · rw [h] at hnone
        exact absurd hnone (by simp)
      · exact absurd rfl hcall
  | continues _ _ next _ _ _ hnone =>
      rw [h] at hnone
      exact absurd hnone (by simp)
  | ends _ _ _ _ result' hend =>
      rw [h] at hend
      obtain ⟨-, rfl⟩ := Prod.mk.inj (Option.some.inj hend)
      exact ⟨caller, rfl⟩

end Step

/-! ## How far a call is -/

/-- Whether the refresh of a call is not under way yet, is, or is over. -/
def stage : Option Phase → Nat
  | none | some (.starting _) => 0
  | some (.fetching _ _) | some (.receiving _ _ _ _) => 1
  | some (.deciding _) | some (.answered _ _ _) | some (.refreshed _) => 2

theorem stage_resume (caller : Caller) (result : Except RevocationRefreshError Unit) :
    stage (some (caller.resume result)) = 2 := by
  cases caller <;> rfl

section Stages

variable {config : Config} {s : State} {c : Nat}

/-- A call never goes back. -/
theorem stage_step (config : Config) (s : State) (a : Action) (c : Nat) :
    stage (s.calls.lookup c) ≤ stage ((step config s a).calls.lookup c) := by
  have hmoves := call_moves config s a c
  generalize s.calls.lookup c = before at hmoves ⊢
  generalize (step config s a).calls.lookup c = after at hmoves ⊢
  cases hmoves with
  | stays phase _ => exact Nat.le_refl _
  | disabledCheck jti _ => exact Nat.zero_le _
  | disabledRefresh _ => exact Nat.zero_le _
  | checksFresh jti _ => exact Nat.zero_le _
  | starts caller _ => exact Nat.le_refl 0
  | begins caller _ => exact Nat.zero_le _
  | responds caller drain response recorded => exact Nat.le_refl 1
  | continues caller drain next response recorded _ _ => exact Nat.le_refl 1
  | ends caller drain response recorded result _ =>
      rw [stage_resume]
      exact Nat.le_succ 1
  | decides jti => exact Nat.le_refl 2

theorem stage_of_endOf (config : Config) {a : Action}
    {result : Except RevocationRefreshError Drain} (h : endOf s a = some (c, result)) :
    stage (s.calls.lookup c) = 1 ∧ stage ((step config s a).calls.lookup c) = 2 := by
  obtain ⟨caller, hover⟩ := resumed_of_endOf config h
  obtain ⟨-, caller', drain, response, recorded, hunder⟩ := receiving_of_endOf h
  rw [hunder, hover]
  exact ⟨rfl, stage_resume caller _⟩

end Stages

/-! ## What holds throughout -/

/-- What is known of a call: a store without an issuer has only answered ones, a drain has
pages left, and a revoked answer was in the cache. -/
def CallInv (config : Config) (cache : CacheState) : Option Phase → Prop
  | none | some (.refreshed _) => True
  | some (.starting _) | some (.deciding _) => config.issuerUrl.isNone = false
  | some (.fetching _ drain) | some (.receiving _ drain _ _) =>
      config.issuerUrl.isNone = false ∧ drain.pages < maxDeltaPages
  | some (.answered jti outcome _) => outcome = .revoked → jti ∈ cache.revoked

structure CacheInv (config : Config) (s : State) : Prop where
  disabled : config.issuerUrl.isNone = true → s.cache.revoked = []
  calls : ∀ c, CallInv config s.cache (s.calls.lookup c)

/-- What a run may make of a state: the revoked set grows, calls go on, and what is answered
from now on knows what was revoked. -/
structure Later (s s' : State) : Prop where
  revoked : s.cache.revoked ⊆ s'.cache.revoked
  stage : ∀ c, stage (s.calls.lookup c) ≤ stage (s'.calls.lookup c)
  answered : ∀ c jti outcome answeredAt,
    s'.calls.lookup c = some (.answered jti outcome answeredAt) →
    s.calls.lookup c = some (.answered jti outcome answeredAt) ∨
      (jti ∈ s.cache.revoked → outcome = .revoked)

section Throughout

variable {config : Config} {s s' s'' : State} {c : Nat}

theorem Later.refl (s : State) : Later s s where
  revoked := List.Subset.refl _
  stage := fun _ => Nat.le_refl _
  answered := fun _ _ _ _ h => Or.inl h

theorem Later.trans (h : Later s s') (h' : Later s' s'') : Later s s'' where
  revoked := fun _ hjti => h'.revoked (h.revoked hjti)
  stage := fun c => Nat.le_trans (h.stage c) (h'.stage c)
  answered := by
    intro c jti outcome answeredAt hanswered
    rcases h'.answered c jti outcome answeredAt hanswered with hbefore | hnew
    · exact h.answered c jti outcome answeredAt hbefore
    · exact Or.inr fun hjti => hnew (h.revoked hjti)

theorem CallInv.mono {cache cache' : CacheState} {phase : Option Phase}
    (h : CallInv config cache phase) (hsub : cache.revoked ⊆ cache'.revoked) :
    CallInv config cache' phase := by
  cases phase with
  | none => trivial
  | some phase =>
      cases phase with
      | answered jti outcome answeredAt => exact fun hrevoked => hsub (h hrevoked)
      | starting caller => exact h
      | fetching caller drain => exact h
      | receiving caller drain response recorded => exact h
      | deciding jti => exact h
      | refreshed result => trivial

theorem revoked_step (config : Config) (s : State) (a : Action) :
    s.cache.revoked ⊆ (step config s a).cache.revoked := by
  rw [cache_step]
  split
  · exact List.subset_append_left _ _
  · exact List.Subset.refl _

theorem outcome_revoked {cache : CacheState} {maxStaleness now : Nat} {jti : String} :
    cache.outcome maxStaleness now jti = .revoked ↔ jti ∈ cache.revoked := by
  unfold CacheState.outcome
  by_cases hrevoked : jti ∈ cache.revoked
  · rw [if_pos hrevoked]
    exact iff_of_true rfl hrevoked
  · rw [if_neg hrevoked]
    refine iff_of_false ?_ hrevoked
    split
    · simp
    · simp

theorem callInv_step (hinv : CacheInv config s) (a : Action) (c : Nat) :
    CallInv config (step config s a).cache ((step config s a).calls.lookup c) := by
  have hcall := hinv.calls c
  have hmoves := call_moves config s a c
  have hsub := revoked_step config s a
  generalize s.calls.lookup c = before at hmoves hcall
  generalize (step config s a).calls.lookup c = after at hmoves ⊢
  cases hmoves with
  | stays phase _ => exact hcall.mono hsub
  | disabledCheck jti _ => exact fun hrevoked => absurd hrevoked (by simp)
  | disabledRefresh _ => trivial
  | checksFresh jti henabled => exact henabled
  | starts caller henabled => exact henabled
  | begins caller _ => exact ⟨hcall, show 0 < maxDeltaPages by decide⟩
  | responds caller drain response recorded => exact hcall
  | continues caller drain next response recorded htake _ =>
      obtain ⟨page, -, -, -, hpages⟩ := take_response_more htake
      exact ⟨hcall.1, hpages⟩
  | ends caller drain response recorded result _ =>
      cases caller with
      | check jti => exact hcall.1
      | refresh => trivial
  | decides jti => exact fun hrevoked => hsub (outcome_revoked.1 hrevoked)

theorem cacheInv_step (config : Config) (s : State) (a : Action) (hinv : CacheInv config s) :
    CacheInv config (step config s a) := by
  refine ⟨?_, callInv_step hinv a⟩
  intro hdisabled
  rw [cache_step]
  split
  · next c drain hend =>
      obtain ⟨-, caller, drain', response, recorded, hphase⟩ := receiving_of_endOf hend
      have hcall := hinv.calls c
      rw [hphase] at hcall
      exact absurd hdisabled (by rw [hcall.1]; decide)
  · exact hinv.disabled hdisabled

theorem later_step (config : Config) (s : State) (a : Action) (hinv : CacheInv config s) :
    Later s (step config s a) where
  revoked := revoked_step config s a
  stage := stage_step config s a
  answered := by
    intro c jti outcome answeredAt hanswered
    have hmoves := call_moves config s a c
    rw [hanswered] at hmoves
    generalize s.calls.lookup c = before at hmoves ⊢
    generalize hafter : some (Phase.answered jti outcome answeredAt) = after at hmoves
    cases hmoves with
    | stays phase _ => exact Or.inl rfl
    | disabledCheck jti' hdisabled =>
        refine Or.inr fun hjti => ?_
        rw [hinv.disabled hdisabled] at hjti
        exact absurd hjti (by simp)
    | ends caller drain response recorded result _ =>
        cases caller <;> exact absurd hafter (by simp [Caller.resume])
    | decides jti' =>
        injection hafter with hphase
        injection hphase with hjti houtcome _
        subst hjti houtcome
        exact Or.inr outcome_revoked.2
    | disabledRefresh _ => exact absurd hafter (by simp)
    | checksFresh jti' _ => exact absurd hafter (by simp)
    | starts caller _ => exact absurd hafter (by simp)
    | begins caller _ => exact absurd hafter (by simp)
    | responds caller drain response recorded => exact absurd hafter (by simp)
    | continues caller drain next response recorded _ _ => exact absurd hafter (by simp)

theorem cacheInv_init (config : Config) : CacheInv config .init where
  disabled := fun _ => rfl
  calls := fun c => by
    show CallInv config _ ((∅ : Table Nat Phase).lookup c)
    rw [AList.lookup_empty]
    trivial

/-- The state that the first steps of a run lead to. -/
def stateAt (config : Config) (as : List Action) (n : Nat) : State :=
  run (step config) .init (as.take n)

theorem later_stateAt (config : Config) (as : List Action) {i j : Nat} (hij : i ≤ j) :
    Later (stateAt config as i) (stateAt config as j) :=
  related_between Later.refl Later.trans (cacheInv_step config) (later_step config)
    (cacheInv_init config) as hij

theorem stateAt_succ {as : List Action} {n : Nat} {a : Action} (h : as[n]? = some a) :
    stateAt config as (n + 1) = step config (stateAt config as n) a := run_take_succ h

/-- The refresh of a call ends once. -/
theorem ends_once {as : List Action} {m n : Nat} {a b : Action}
    {result result' : Except RevocationRefreshError Drain} (hm : as[m]? = some a)
    (hn : as[n]? = some b) (hends : endOf (stateAt config as m) a = some (c, result))
    (hends' : endOf (stateAt config as n) b = some (c, result')) : m = n := by
  have hover := stage_of_endOf config hends
  have hover' := stage_of_endOf config hends'
  rw [← stateAt_succ hm] at hover
  rw [← stateAt_succ hn] at hover'
  rcases Nat.lt_trichotomy m n with hlt | rfl | hlt
  · have hstages := (later_stateAt config as (Nat.succ_le_of_lt hlt)).stage c
    rw [Nat.succ_eq_add_one, hover.2, hover'.1] at hstages
    exact absurd hstages (by decide)
  · rfl
  · have hstages := (later_stateAt config as (Nat.succ_le_of_lt hlt)).stage c
    rw [Nat.succ_eq_add_one, hover'.2, hover.1] at hstages
    exact absurd hstages (by decide)

/-! ## Page fetches -/

def isFetching : Option Phase → Bool
  | some (.fetching _ _) => true
  | _ => false

/-- The step sends the call's request for a page. -/
def fetches (config : Config) (c : Nat) (s : State) (a : Action) : Bool :=
  !isFetching (s.calls.lookup c) && isFetching ((step config s a).calls.lookup c)

/-- The pages that a refresh has asked for, or may have. -/
def fetched : Option Phase → Nat
  | none | some (.starting _) => 0
  | some (.fetching _ drain) | some (.receiving _ drain _ _) => drain.pages + 1
  | some (.deciding _) | some (.answered _ _ _) | some (.refreshed _) => maxDeltaPages

theorem fetched_le (hinv : CacheInv config s) (c : Nat) :
    fetched (s.calls.lookup c) ≤ maxDeltaPages := by
  have hcall := hinv.calls c
  generalize s.calls.lookup c = phase at hcall ⊢
  cases phase with
  | none => exact Nat.zero_le _
  | some phase =>
      cases phase with
      | starting caller => exact Nat.zero_le _
      | fetching caller drain => exact hcall.2
      | receiving caller drain response recorded => exact hcall.2
      | deciding jti => exact Nat.le_refl _
      | answered jti outcome answeredAt => exact Nat.le_refl _
      | refreshed result => exact Nat.le_refl _

/-- A request for a page is one more. -/
theorem fetched_step (hinv : CacheInv config s) (c : Nat) (a : Action) :
    fetched (s.calls.lookup c) + (if fetches config c s a then 1 else 0) ≤
      fetched ((step config s a).calls.lookup c) := by
  have hbound := fetched_le hinv c
  have hmoves := call_moves config s a c
  unfold fetches
  generalize s.calls.lookup c = before at hmoves hbound ⊢
  generalize (step config s a).calls.lookup c = after at hmoves ⊢
  cases hmoves with
  | stays _ _ =>
      cases isFetching before with
      | true => exact Nat.le_refl _
      | false => exact Nat.le_refl _
  | disabledCheck jti _ => exact Nat.zero_le _
  | disabledRefresh _ => exact Nat.zero_le _
  | checksFresh jti _ => exact Nat.zero_le _
  | starts caller _ => exact Nat.le_refl 0
  | begins caller _ => exact Nat.le_refl 1
  | responds caller drain response recorded => exact Nat.le_refl _
  | continues caller drain next response recorded htake _ =>
      obtain ⟨page, -, rfl, -⟩ := take_response_more htake
      exact Nat.le_refl _
  | ends caller drain response recorded result _ =>
      cases caller <;> exact hbound
  | decides jti => exact Nat.le_refl _

/-- A call of `refresh` that failed. -/
def HasFailed (c : Nat) (err : RevocationRefreshError) (s : State) : Prop :=
  s.calls.lookup c = some (.refreshed (.error err))

/-- A refresh that failed ended so at some step. -/
theorem ends_of_failed {as : List Action} {err : RevocationRefreshError}
    (h : HasFailed c err (run (step config) .init as)) :
    ∃ n b, as[n]? = some b ∧ endOf (stateAt config as n) b = some (c, .error err) := by
  have hnever : ¬ HasFailed c err .init := by
    show ¬ ((∅ : Table Nat Phase).lookup c = _)
    rw [AList.lookup_empty]
    simp
  obtain ⟨n, b, hb, hbefore, hafter⟩ := exists_step_of_run hnever h
  refine ⟨n, b, hb, ?_⟩
  unfold HasFailed at hbefore hafter
  have hmoves := call_moves config (run (step config) .init (as.take n)) b c
  rw [hafter] at hmoves
  generalize (run (step config) .init (as.take n)).calls.lookup c = before at hmoves hbefore
  generalize hphase : some (Phase.refreshed (Except.error err)) = after at hmoves hbefore
  cases hmoves with
  | stays _ _ => exact absurd rfl hbefore
  | ends caller drain response recorded result hend =>
      cases caller with
      | check jti => exact absurd hphase (by simp [Caller.resume])
      | refresh =>
          cases result with
          | ok drain => exact absurd hphase (by simp [Caller.resume, Except.map])
          | error err' =>
              injection hphase with hphase
              injection hphase with hresult
              injection hresult with herr
              exact herr ▸ hend
  | disabledCheck jti _ => exact absurd hphase (by simp)
  | disabledRefresh _ => exact absurd hphase (by simp)
  | checksFresh jti _ => exact absurd hphase (by simp)
  | starts caller _ => exact absurd hphase (by simp)
  | begins caller _ => exact absurd hphase (by simp)
  | responds caller drain response recorded => exact absurd hphase (by simp)
  | continues caller drain next response recorded _ _ => exact absurd hphase (by simp)
  | decides jti => exact absurd hphase (by simp)

/-- The revoked set only grows, so that after a revoked answer every other one is revoked; a
refresh that fails has written nothing; and no refresh asks for more pages than the maximum. -/
theorem revocation_cache_grows (config : Config) (as : List Action) :
    (∀ i j, i ≤ j →
      (stateAt config as i).cache.revoked ⊆ (stateAt config as j).cache.revoked ∧
      ∀ c jti answeredAt,
        (stateAt config as i).calls.lookup c = some (.answered jti .revoked answeredAt) →
        ∀ c' outcome answeredAt',
          (stateAt config as j).calls.lookup c' = some (.answered jti outcome answeredAt') →
          (stateAt config as i).calls.lookup c' = some (.answered jti outcome answeredAt') ∨
            outcome = .revoked) ∧
    (∀ c n b err, as[n]? = some b → endOf (stateAt config as n) b = some (c, .error err) →
      ∀ m a, as[m]? = some a → a.call = some c →
        (step config (stateAt config as m) a).cache = (stateAt config as m).cache) ∧
    (∀ c err, (run (step config) .init as).calls.lookup c = some (.refreshed (.error err)) →
      ∃ n b, as[n]? = some b ∧ endOf (stateAt config as n) b = some (c, .error err)) ∧
    ∀ c, countAlong (step config) (fetches config c) .init as ≤ maxDeltaPages := by
  refine ⟨?_, ?_, ?_, ?_⟩
  · intro i j hij
    have hlater := later_stateAt config as hij
    refine ⟨hlater.revoked, ?_⟩
    intro c jti answeredAt hrevoked c' outcome answeredAt' hanswered
    have hinv : CacheInv config (stateAt config as i) :=
      run_invariant (cacheInv_step config) (cacheInv_init config) (as.take i)
    have hcall := hinv.calls c
    rw [hrevoked] at hcall
    exact (hlater.answered c' jti outcome answeredAt' hanswered).imp_right fun h => h (hcall rfl)
  · intro c n b err hn hends m a hm hcall
    rw [cache_step]
    split
    · next c' drain hcommits =>
        -- the write would be the end of the same refresh
        obtain ⟨rfl, -⟩ := receiving_of_endOf hcommits
        obtain rfl : c' = c := Option.some.inj hcall
        obtain rfl := ends_once hm hn hcommits hends
        rw [hm] at hn
        obtain rfl := Option.some.inj hn
        rw [hcommits] at hends
        exact absurd hends (by simp)
    · rfl
  · intro c err hfailed
    exact ends_of_failed hfailed
  · intro c
    have hcount := add_countAlong_le (cacheInv_step config)
      (fun s a hinv => fetched_step hinv c a) (cacheInv_init config) as
    have hbound := fetched_le (run_invariant (cacheInv_step config) (cacheInv_init config) as) c
    omega

end Throughout

end Zpay.Wallet.Revocation
