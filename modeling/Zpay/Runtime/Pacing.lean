import Zpay.Data.Marked
import Zpay.Data.Text
import Zpay.Runtime.EventLoop

/-!
# How often the event loop subscribes

A break is followed by a sleep; an expiry is followed by a sweep and a subscribe from the
live tail, at once.  That is meant for the expiry of a cursor, after which the next break
sleeps.  But a subscribe from the live tail may be answered with an expiry as well, since
`RemoteEventSource` tells expiries by the kind of the error alone, and then the loop sweeps
and subscribes with nothing in between, for as long as it is answered so.

## Main results

* `paced_iff_adjacent` — the spacing of any two subscribes comes from that of neighbours.
* `run_loop_paced_iff` — the loop is paced exactly when only cursors expire at once.
* `refused_forever` — the loop on nothing but refusals.
-/

open Zpay.Data

namespace Zpay.Runtime.EventLoop

/-! ## The production source -/

/-- The errors of the chain plane that the runtime tells apart. -/
inductive IndexerError
  | failedPrecondition
  | invalidRequest (reason : String)
  | other
  deriving DecidableEq, Repr

/-- Classify an error as a resume-cursor expiry or invalidation. -/
def isCursorError : IndexerError → Bool
  | .failedPrecondition => true
  | .invalidRequest reason => Text.contains reason "cursor"
  | .other => false

inductive ChainEvent
  | chainReorged (startHeight endHeight : UInt32)
  | other
  deriving DecidableEq, Repr

structure ChainEventEnvelope (C : Type*) where
  event : ChainEvent
  visibleTipHeight : UInt32
  settledTipHeight : UInt32
  cursor : C

variable {C : Type*}

def deliveryFromEnvelope (envelope : ChainEventEnvelope C) : Delivery C where
  visibleTip := envelope.visibleTipHeight.toNat
  settledTip := envelope.settledTipHeight.toNat
  cursor := envelope.cursor
  reverted :=
    match envelope.event with
    | .chainReorged startHeight endHeight => some (startHeight.toNat, endHeight.toNat)
    | .other => none

/-- `RemoteEventStream::next_item`, on an item of the stream. -/
def remoteItem : Except IndexerError (ChainEventEnvelope C) → StreamItem C
  | .ok envelope => .delivery (deliveryFromEnvelope envelope)
  | .error err => if isCursorError err then .cursorExpired else .disconnect

/-- `RemoteEventSource::subscribe`, on an answer of the chain plane. -/
def remoteSubscribe :
    Except IndexerError (List (Except IndexerError (ChainEventEnvelope C))) → SubscribeOutcome C
  | .ok items => .opened (items.map remoteItem)
  | .error err => if isCursorError err then .cursorExpired else .reconnect

/-! ## Spacing -/

/-- What lies between two subscribes: an envelope, a sleep, or the sweep after the expiry of a
cursor, which one subscribe from the live tail may follow at once. -/
def Spaced (resume : Resume C) (between : List (Call C)) (next : Resume C) : Prop :=
  (∃ visibleTip settledTip, .storeChainView visibleTip settledTip ∈ between) ∨
    (∃ seconds, .backoffSleep seconds ∈ between) ∨
    ∃ cursor, resume = .after cursor ∧ between = [.reconcile] ∧ next = .liveTail

/-- Any two subscribes are spaced. -/
def Paced (calls : List (Call C)) : Prop :=
  ∀ resume between next, .subscribe resume :: (between ++ [.subscribe next]) <:+: calls →
    Spaced resume between next

/-- The subscription expires before it has delivered anything. -/
def SubscribeOutcome.expiresAtOnce : SubscribeOutcome C → Bool
  | .cursorExpired | .opened (.cursorExpired :: _) => true
  | .opened _ | .reconnect => false

/-- An envelope has been delivered since the latest expiry, so there is a cursor. -/
def deliveredSinceExpiry (past : List (Observation C)) : Bool :=
  (past.takeWhile fun o => !o.isExpired).any fun o => o.cursor?.isSome

/-- After some past, a subscription expires at once only where there is a cursor to expire. -/
def OnlyCursorsExpire (past : List (Observation C)) (script : List (SubscribeOutcome C)) : Prop :=
  ∀ before outcome later, script = before ++ outcome :: later → outcome.expiresAtOnce = true →
    deliveredSinceExpiry ((observed before).reverse ++ past) = true

/-! ## Neighbours -/

def Call.IsSubscribe (call : Call C) : Prop := ∃ resume, call = .subscribe resume

section Neighbours

variable {calls between : List (Call C)} {resume next : Resume C}

/-- Every two neighbouring subscribes are spaced. -/
def PacedNext (calls : List (Call C)) : Prop :=
  ∀ resume between next,
    Adjacent Call.IsSubscribe calls (.subscribe resume) between (.subscribe next) →
    Spaced resume between next

/-- More between two subscribes leaves them spaced, unless nothing but the sweep spaced them. -/
theorem Spaced.widen {between' : List (Call C)} {next' : Resume C}
    (h : Spaced resume between next) (hsub : between ⊆ between') :
    Spaced resume between' next' ∨ next = .liveTail := by
  rcases h with ⟨visible, settled, hview⟩ | ⟨seconds, hsleep⟩ | ⟨cursor, -, -, htail⟩
  · exact Or.inl (Or.inl ⟨visible, settled, hsub hview⟩)
  · exact Or.inl (Or.inr (Or.inl ⟨seconds, hsub hsleep⟩))
  · exact Or.inr htail

/-- Nothing spaces a subscribe from the live tail but an envelope or a sleep. -/
theorem Spaced.of_liveTail {between' : List (Call C)} {resume' next' : Resume C}
    (h : Spaced .liveTail between next) (hsub : between ⊆ between') :
    Spaced resume' between' next' := by
  rcases h with ⟨visible, settled, hview⟩ | ⟨seconds, hsleep⟩ | ⟨cursor, htail, -⟩
  · exact Or.inl ⟨visible, settled, hsub hview⟩
  · exact Or.inr (Or.inl ⟨seconds, hsub hsleep⟩)
  · exact absurd htail (by simp)

theorem paced_iff_adjacent : Paced calls ↔ PacedNext calls := by
  constructor
  · intro hpaced resume between next hadjacent
    exact hpaced resume between next hadjacent.within
  · intro hnext resume between next hwithin
    have hmark : ∀ resume : Resume C, (Call.subscribe resume).IsSubscribe := fun r => ⟨r, rfl⟩
    rcases exists_adjacent (hmark resume) (hmark next) hwithin with
      hadjacent | ⟨before, call, after, rfl, hadjacent, hrest⟩
    · exact hnext resume between next hadjacent
    · obtain ⟨middle, rfl⟩ := hadjacent.second
      have hbefore : before ⊆ before ++ .subscribe middle :: after := List.subset_append_left _ _
      rcases (hnext resume before middle hadjacent).widen hbefore with hspaced | rfl
      · exact hspaced
      · -- the subscribe in between is from the live tail, and the next one is not spaced for free
        have hafter : after ⊆ before ++ .subscribe .liveTail :: after :=
          fun _ hcall => List.mem_append_right _ (List.mem_cons_of_mem _ hcall)
        rcases exists_adjacent (hmark .liveTail) (hmark next) hrest with
          hadjacent | ⟨before', call', after', rfl, hadjacent, -⟩
        · exact (hnext .liveTail after next hadjacent).of_liveTail hafter
        · obtain ⟨middle', rfl⟩ := hadjacent.second
          exact (hnext .liveTail before' middle' hadjacent).of_liveTail
            fun _ hcall => hafter (List.mem_append_left _ hcall)

end Neighbours

/-! ## One subscription -/

/-- What is observed of a subscription once it is asked for. -/
def observedOutcome : SubscribeOutcome C → List (Observation C)
  | .opened items => observedStream items
  | .cursorExpired => [.expired]
  | .reconnect => [.broken]

section Subscription

variable {past : List (Observation C)}

theorem observed_cons (outcome : SubscribeOutcome C) (script : List (SubscribeOutcome C)) :
    observed (outcome :: script) = .asked :: (observedOutcome outcome ++ observed script) := by
  cases outcome with
  | opened items => rfl
  | cursorExpired => rfl
  | reconnect => rfl

theorem reference_from_cons (outcome : SubscribeOutcome C) (script : List (SubscribeOutcome C)) :
    referenceFrom past (observed (outcome :: script)) =
      .subscribe (resumePoint past) ::
        (referenceFrom (.asked :: past) (observedOutcome outcome) ++
          referenceFrom ((observedOutcome outcome).reverse ++ .asked :: past)
            (observed script)) := by
  rw [observed_cons, referenceFrom, reference_from_append]
  rfl

/-- Whatever the script, a subscribe comes first. -/
theorem reference_from_observed (past : List (Observation C))
    (script : List (SubscribeOutcome C)) :
    ∃ rest, referenceFrom past (observed script) = .subscribe (resumePoint past) :: rest := by
  cases script with
  | nil => exact ⟨[], rfl⟩
  | cons outcome script => exact ⟨_, reference_from_cons outcome script⟩

/-- Only a question is answered with a subscribe. -/
theorem not_subscribe_of_not_asked {os : List (Observation C)} (h : .asked ∉ os) :
    ∀ call ∈ referenceFrom past os, ¬ call.IsSubscribe := by
  induction os generalizing past with
  | nil => simp [referenceFrom]
  | cons o os ih =>
      rw [List.mem_cons, not_or] at h
      intro call hcall
      rw [referenceFrom, List.mem_append] at hcall
      rcases hcall with hcall | hcall
      · rintro ⟨resume, rfl⟩
        cases o with
        | asked => exact h.1 rfl
        | delivered delivery =>
            unfold answer at hcall
            cases hreverted : delivery.reverted <;> simp [hreverted] at hcall
        | expired => simp [answer] at hcall
        | broken => simp [answer] at hcall
      · exact ih h.2 call hcall

theorem not_asked_outcome (outcome : SubscribeOutcome C) : .asked ∉ observedOutcome outcome := by
  have hstream : ∀ items : List (StreamItem C), .asked ∉ observedStream items := by
    intro items
    induction items with
    | nil => simp [observedStream]
    | cons item items ih =>
        cases item with
        | delivery delivery => simpa [observedStream] using ih
        | cursorExpired => simp [observedStream]
        | disconnect => simp [observedStream]
  cases outcome with
  | opened items => exact hstream items
  | cursorExpired => simp [observedOutcome]
  | reconnect => simp [observedOutcome]

theorem delivered_since_expiry_iff :
    deliveredSinceExpiry past = true ↔ ∃ cursor, resumePoint past = .after cursor := by
  unfold deliveredSinceExpiry resumePoint
  cases hcursor : (past.takeWhile fun o => !o.isExpired).findSome? Observation.cursor? with
  | none =>
      rw [List.findSome?_eq_none_iff] at hcursor
      simpa using hcursor
  | some cursor =>
      obtain ⟨o, hmem, ho⟩ := List.exists_of_findSome?_eq_some hcursor
      exact iff_of_true (List.any_eq_true.2 ⟨o, hmem, by rw [ho]; rfl⟩) ⟨cursor, rfl⟩

/-- A subscription that expires at once is spaced from the next one only by its cursor; one
that breaks or delivers is spaced anyway. -/
theorem spaced_outcome_iff (outcome : SubscribeOutcome C) :
    Spaced (resumePoint past) (referenceFrom (.asked :: past) (observedOutcome outcome))
        (resumePoint ((observedOutcome outcome).reverse ++ .asked :: past)) ↔
      (outcome.expiresAtOnce = true → deliveredSinceExpiry past = true) := by
  have hexpired : Spaced (resumePoint past) (referenceFrom (.asked :: past) [.expired])
      (resumePoint ([Observation.expired].reverse ++ .asked :: past)) ↔
        deliveredSinceExpiry past = true := by
    rw [delivered_since_expiry_iff]
    simp [Spaced, referenceFrom, answer]
  have hbroken : Spaced (resumePoint past) (referenceFrom (.asked :: past) [.broken])
      (resumePoint ([Observation.broken].reverse ++ .asked :: past)) :=
    Or.inr (Or.inl ⟨_, List.mem_cons_self⟩)
  have hlate : ∀ outcome : SubscribeOutcome C, outcome.expiresAtOnce = false →
      outcome.expiresAtOnce = true → deliveredSinceExpiry past = true := by
    intro outcome hnot hexpires
    rw [hnot] at hexpires
    exact absurd hexpires (by decide)
  cases outcome with
  | opened items =>
      cases items with
      | nil => exact iff_of_true hbroken (hlate _ rfl)
      | cons item items =>
          cases item with
          | delivery delivery =>
              exact iff_of_true (Or.inl ⟨_, _, List.mem_cons_self⟩) (hlate _ rfl)
          | cursorExpired => exact hexpired.trans ⟨fun h _ => h, fun h => h rfl⟩
          | disconnect => exact iff_of_true hbroken (hlate _ rfl)
  | cursorExpired => exact hexpired.trans ⟨fun h _ => h, fun h => h rfl⟩
  | reconnect => exact iff_of_true hbroken (hlate _ rfl)

/-- The first subscription of a script, and the rest of it. -/
theorem only_cursors_expire_cons {outcome : SubscribeOutcome C}
    {script : List (SubscribeOutcome C)} :
    OnlyCursorsExpire past (outcome :: script) ↔
      (outcome.expiresAtOnce = true → deliveredSinceExpiry past = true) ∧
        OnlyCursorsExpire ((observedOutcome outcome).reverse ++ .asked :: past) script := by
  have hasked : deliveredSinceExpiry (.asked :: past) = deliveredSinceExpiry past := rfl
  have hpast : ∀ before : List (SubscribeOutcome C),
      (observed (outcome :: before)).reverse ++ past =
        (observed before).reverse ++ ((observedOutcome outcome).reverse ++ .asked :: past) := by
    intro before
    rw [observed_cons]
    simp
  constructor
  · intro h
    refine ⟨fun hexpires => ?_, ?_⟩
    · rw [← hasked]
      exact h [] outcome script rfl hexpires
    · intro before other later hscript hexpires
      rw [← hpast]
      exact h (outcome :: before) other later (by rw [hscript]; rfl) hexpires
  · rintro ⟨hfirst, hrest⟩ before other later hscript hexpires
    cases before with
    | nil =>
        obtain ⟨rfl, -⟩ := List.cons.inj hscript
        exact hfirst hexpires
    | cons first before =>
        obtain ⟨rfl, hlater⟩ := List.cons.inj hscript
        rw [hpast]
        exact hrest before other later hlater hexpires

end Subscription

/-! ## Whole scripts -/

/-- From any past on, the subscribes are spaced exactly when only cursors expire at once. -/
theorem reference_from_paced_iff (past : List (Observation C))
    (script : List (SubscribeOutcome C)) :
    PacedNext (referenceFrom past (observed script)) ↔ OnlyCursorsExpire past script := by
  induction script generalizing past with
  | nil =>
      refine iff_of_true (fun _ _ _ h => absurd h not_adjacent_singleton) ?_
      intro before outcome later hscript
      exact absurd hscript (by simp)
  | cons outcome script ih =>
      rw [only_cursors_expire_cons, ← spaced_outcome_iff, ← ih, reference_from_cons]
      obtain ⟨rest, hrest⟩ := reference_from_observed
        ((observedOutcome outcome).reverse ++ .asked :: past) script
      have hbody : ∀ call ∈ referenceFrom (.asked :: past) (observedOutcome outcome),
          ¬ call.IsSubscribe := not_subscribe_of_not_asked (not_asked_outcome outcome)
      have hmark : ∀ resume : Resume C, (Call.subscribe resume).IsSubscribe := fun r => ⟨r, rfl⟩
      rw [hrest]
      constructor
      · intro hnext
        constructor
        · exact hnext _ _ _
            ((adjacent_segment (hmark _) hbody (hmark _)).2 (Or.inl ⟨rfl, rfl, rfl⟩))
        · intro resume between next hadjacent
          exact hnext resume between next
            ((adjacent_segment (hmark _) hbody (hmark _)).2 (Or.inr hadjacent))
      · rintro ⟨hspaced, hlater⟩ resume between next hadjacent
        rcases (adjacent_segment (hmark _) hbody (hmark _)).1 hadjacent with
          ⟨hfirst, rfl, hsecond⟩ | hadjacent
        · injection hfirst with hfirst
          injection hsecond with hsecond
          rw [hfirst, hsecond]
          exact hspaced
        · exact hlater resume between next hadjacent

/-- In every script the loop is paced exactly when only cursors expire at once. -/
theorem run_loop_paced_iff (script : List (SubscribeOutcome C)) :
    Paced (runLoop recording script []) ↔ OnlyCursorsExpire [] script := by
  have hsweep : ∀ call ∈ [(Call.reconcile : Call C)], ¬ call.IsSubscribe := by
    simp [Call.IsSubscribe]
  have hreference : reference script = [.reconcile] ++ referenceFrom [] (observed script) := rfl
  rw [run_loop_calls, paced_iff_adjacent, ← reference_from_paced_iff, hreference]
  unfold PacedNext
  simp only [adjacent_unmarked_append hsweep]

/-! ### Refusals that count as expiries -/

theorem reference_from_expired {past : List (Observation C)} (n : Nat)
    (htail : resumePoint past = .liveTail) :
    referenceFrom past (observed (List.replicate n .cursorExpired)) =
      (List.replicate n [Call.subscribe .liveTail, .reconcile]).flatten ++
        [.subscribe .liveTail] := by
  induction n generalizing past with
  | zero =>
      rw [← htail]
      rfl
  | succ n ih =>
      have hrest := @ih (.expired :: .asked :: past) resume_point_expired
      rw [List.replicate_succ, List.replicate_succ, List.flatten_cons, reference_from_cons, htail]
      show _ :: (_ ++ referenceFrom (.expired :: .asked :: past) _) = _
      rw [hrest]
      rfl

/-- Refused with cursor errors, the loop goes from subscribe to sweep to subscribe, and never
sleeps. -/
theorem refused_forever (errs : List IndexerError)
    (hcursor : ∀ err ∈ errs, isCursorError err = true) :
    runLoop recording (errs.map fun err => remoteSubscribe (C := C) (.error err)) [] =
      .reconcile :: ((List.replicate errs.length [.subscribe .liveTail, .reconcile]).flatten ++
        [.subscribe .liveTail]) := by
  have hscript : (errs.map fun err => remoteSubscribe (C := C) (.error err)) =
      List.replicate errs.length .cursorExpired := by
    rw [List.eq_replicate_iff]
    refine ⟨List.length_map _, ?_⟩
    intro outcome houtcome
    obtain ⟨err, herr, rfl⟩ := List.mem_map.1 houtcome
    exact if_pos (hcursor err herr)
  rw [run_loop_calls, hscript]
  exact congrArg (Call.reconcile :: ·) (reference_from_expired errs.length rfl)

/-- One refused subscribe from the live tail, and the next one is not spaced from it. -/
theorem loop_not_paced :
    ¬ ∀ answers : List (Except IndexerError (List (Except IndexerError (ChainEventEnvelope Nat)))),
      Paced (runLoop recording (answers.map remoteSubscribe) []) := by
  intro hpaced
  have hspaced := hpaced [.error .failedPrecondition] .liveTail [.reconcile] .liveTail
    ⟨[.reconcile], [], rfl⟩
  rcases hspaced with ⟨visible, settled, hview⟩ | ⟨seconds, hsleep⟩ | ⟨cursor, htail, -⟩
  · exact absurd hview (by simp)
  · exact absurd hsleep (by simp)
  · exact absurd htail (by simp)

end Zpay.Runtime.EventLoop
