import Mathlib.Algebra.Order.Ring.Int
import Mathlib.Data.List.Basic

/-!
# The chain-event loop

`run_loop` subscribes, drains the stream, and decides from the reason it stopped
where to resume, how long to sleep and whether to reconcile.  It is given here
over any sink and any script of subscribe outcomes, as the source has it: a loop
over subscriptions with a loop over the items of each inside.

What it ought to do is a fold over the flat list of what the loop observes, in
which every answer is read off the past: the last delivery since the latest
expiry, the number of breaks since the last delivery.

## Main results

* `run_loop_eq_foldl` — over any sink, the loop does what its recorded calls do.
* `run_loop_calls` — the calls are those of the reference fold.
-/

namespace Zpay.Runtime.EventLoop

/-! ## Sources -/

/-- Position a subscription resumes from. -/
inductive Resume (C : Type*)
  | liveTail
  | after (cursor : C)
  deriving DecidableEq, Repr

/-- A chain-event delivery reduced to what the loop acts on. -/
structure Delivery (C : Type*) where
  visibleTip : Nat
  settledTip : Nat
  cursor : C
  reverted : Option (Nat × Nat)
  deriving DecidableEq, Repr

/-- One item drained from an open subscription. -/
inductive StreamItem (C : Type*)
  | delivery (delivery : Delivery C)
  | cursorExpired
  | disconnect
  deriving DecidableEq, Repr

/-- Result of opening a subscription; the end of a script stops the loop. -/
inductive SubscribeOutcome (C : Type*)
  | opened (items : List (StreamItem C))
  | cursorExpired
  | reconnect
  deriving DecidableEq, Repr

/-- Why a drained subscription stopped. -/
inductive DrainStop
  | cursorExpired
  | reconnect
  deriving DecidableEq, Repr

/-! ## Sinks -/

/-- The calls the loop makes, on its sink and on its source. -/
inductive Call (C : Type*)
  | subscribe (resume : Resume C)
  | reconcile
  | storeChainView (visibleTip settledTip : Nat)
  | handleReorg (revertedStartHeight revertedEndHeight : Nat)
  | backoffSleep (seconds : Nat)
  deriving DecidableEq, Repr

/-- What the calls do to the world of the loop. -/
structure LoopSink (C W : Type*) where
  subscribe : Resume C → W → W
  reconcile : W → W
  storeChainView : Nat → Nat → W → W
  handleReorg : Nat → Nat → W → W
  backoffSleep : Nat → W → W

variable {C W : Type*}

def LoopSink.perform (sink : LoopSink C W) (w : W) : Call C → W
  | .subscribe resume => sink.subscribe resume w
  | .reconcile => sink.reconcile w
  | .storeChainView visibleTip settledTip => sink.storeChainView visibleTip settledTip w
  | .handleReorg startHeight endHeight => sink.handleReorg startHeight endHeight w
  | .backoffSleep seconds => sink.backoffSleep seconds w

/-- The sink that only writes its calls down. -/
def recording : LoopSink C (List (Call C)) where
  subscribe resume calls := calls ++ [.subscribe resume]
  reconcile calls := calls ++ [.reconcile]
  storeChainView visibleTip settledTip calls := calls ++ [.storeChainView visibleTip settledTip]
  handleReorg startHeight endHeight calls := calls ++ [.handleReorg startHeight endHeight]
  backoffSleep seconds calls := calls ++ [.backoffSleep seconds]

/-! ## The loop -/

def reconnectBackoffInitialSeconds : Nat := 1

def reconnectBackoffMaxSeconds : Nat := 30

def grow (backoff : Nat) : Nat := min (backoff * 2) reconnectBackoffMaxSeconds

section Loop

variable (sink : LoopSink C W)

/-- Drain one live subscription until it errors or ends. -/
def drain : List (StreamItem C) → Resume C → Bool → W → DrainStop × Bool × Resume C × W
  | [], resume, progressed, w => (.reconnect, progressed, resume, w)
  | .delivery delivery :: items, _, _, w =>
      let w := sink.storeChainView delivery.visibleTip delivery.settledTip w
      let w :=
        match delivery.reverted with
        | some (startHeight, endHeight) => sink.handleReorg startHeight endHeight w
        | none => w
      drain items (.after delivery.cursor) true w
  | .cursorExpired :: _, resume, progressed, w => (.cursorExpired, progressed, resume, w)
  | .disconnect :: _, resume, progressed, w => (.reconnect, progressed, resume, w)

/-- The loop from a subscribe on, with its position and its backoff. -/
def runLoopFrom : List (SubscribeOutcome C) → Resume C → Nat → W → W
  | [], resume, _, w => sink.subscribe resume w
  | outcome :: script, resume, backoff, w =>
      let w := sink.subscribe resume w
      match outcome with
      | .opened items =>
          match drain sink items resume false w with
          | (stop, progressed, resume, w) =>
              let backoff := if progressed then reconnectBackoffInitialSeconds else backoff
              match stop with
              | .cursorExpired => runLoopFrom script .liveTail backoff (sink.reconcile w)
              | .reconnect =>
                  runLoopFrom script resume (grow backoff) (sink.backoffSleep backoff w)
      | .cursorExpired => runLoopFrom script .liveTail backoff (sink.reconcile w)
      | .reconnect => runLoopFrom script resume (grow backoff) (sink.backoffSleep backoff w)

/-- One startup sweep, then the loop from the live tail. -/
def runLoop (script : List (SubscribeOutcome C)) (w : W) : W :=
  runLoopFrom sink script .liveTail reconnectBackoffInitialSeconds (sink.reconcile w)

end Loop

/-! ### Over any sink -/

/-- Draining into a sink is draining into the record and performing the record. -/
theorem drain_eq_foldl (sink : LoopSink C W) (items : List (StreamItem C)) (resume : Resume C)
    (progressed : Bool) (calls : List (Call C)) (w : W) :
    drain sink items resume progressed (calls.foldl sink.perform w) =
      ((drain recording items resume progressed calls).1,
        (drain recording items resume progressed calls).2.1,
        (drain recording items resume progressed calls).2.2.1,
        (drain recording items resume progressed calls).2.2.2.foldl sink.perform w) := by
  induction items generalizing resume progressed calls with
  | nil => rfl
  | cons item items ih =>
      cases item with
      | delivery delivery =>
          rw [drain, drain]
          cases hreverted : delivery.reverted with
          | none =>
              rw [← ih]
              simp only [recording, List.foldl_append, List.foldl_cons, List.foldl_nil,
                LoopSink.perform]
          | some range =>
              rw [← ih]
              simp only [recording, List.foldl_append, List.foldl_cons, List.foldl_nil,
                LoopSink.perform]
      | cursorExpired => rfl
      | disconnect => rfl

theorem run_loop_from_eq_foldl (sink : LoopSink C W) (script : List (SubscribeOutcome C))
    (resume : Resume C) (backoff : Nat) (calls : List (Call C)) (w : W) :
    runLoopFrom sink script resume backoff (calls.foldl sink.perform w) =
      (runLoopFrom recording script resume backoff calls).foldl sink.perform w := by
  have hsingle : ∀ (calls : List (Call C)) (call : Call C),
      sink.perform (calls.foldl sink.perform w) call =
        (calls ++ [call]).foldl sink.perform w := by
    intro calls call
    rw [List.foldl_append]
    rfl
  induction script generalizing resume backoff calls with
  | nil => exact hsingle calls (.subscribe resume)
  | cons outcome script ih =>
      have hasked : sink.subscribe resume (calls.foldl sink.perform w) =
          (calls ++ [Call.subscribe resume]).foldl sink.perform w :=
        hsingle calls (.subscribe resume)
      have hreconcile : ∀ calls : List (Call C), sink.reconcile (calls.foldl sink.perform w) =
          (calls ++ [Call.reconcile]).foldl sink.perform w := fun calls => hsingle calls .reconcile
      have hsleep : ∀ (calls : List (Call C)) seconds,
          sink.backoffSleep seconds (calls.foldl sink.perform w) =
            (calls ++ [Call.backoffSleep seconds]).foldl sink.perform w :=
        fun calls seconds => hsingle calls (.backoffSleep seconds)
      cases outcome with
      | opened items =>
          have hrecorded :
              recording.subscribe resume calls = calls ++ [Call.subscribe resume] := rfl
          simp only [runLoopFrom, hasked, drain_eq_foldl, hrecorded]
          generalize drain recording items resume false (calls ++ [Call.subscribe resume]) = drained
          obtain ⟨stop, progressed, resume', calls'⟩ := drained
          cases stop with
          | cursorExpired =>
              simp only [hreconcile, ih]
              rfl
          | reconnect =>
              simp only [hsleep, ih]
              rfl
      | cursorExpired =>
          simp only [runLoopFrom, hasked, hreconcile, ih]
          rfl
      | reconnect =>
          simp only [runLoopFrom, hasked, hsleep, ih]
          rfl

/-- Over any sink, the loop does what its recorded calls do. -/
theorem run_loop_eq_foldl (sink : LoopSink C W) (script : List (SubscribeOutcome C)) (w : W) :
    runLoop sink script w = (runLoop recording script []).foldl sink.perform w :=
  run_loop_from_eq_foldl sink script .liveTail reconnectBackoffInitialSeconds [.reconcile] w

/-! ## The reference -/

/-- What the loop gets to see, one thing after the other. -/
inductive Observation (C : Type*)
  | asked
  | delivered (delivery : Delivery C)
  | expired
  | broken
  deriving DecidableEq, Repr

/-- A stream is seen up to its first error, or to its end. -/
def observedStream : List (StreamItem C) → List (Observation C)
  | [] => [.broken]
  | .delivery delivery :: items => .delivered delivery :: observedStream items
  | .cursorExpired :: _ => [.expired]
  | .disconnect :: _ => [.broken]

def observed : List (SubscribeOutcome C) → List (Observation C)
  | [] => [.asked]
  | .opened items :: script => .asked :: (observedStream items ++ observed script)
  | .cursorExpired :: script => .asked :: .expired :: observed script
  | .reconnect :: script => .asked :: .broken :: observed script

def Observation.cursor? : Observation C → Option C
  | .delivered delivery => some delivery.cursor
  | .asked | .expired | .broken => none

def Observation.isExpired : Observation C → Bool
  | .expired => true
  | .asked | .delivered _ | .broken => false

def Observation.isBroken : Observation C → Bool
  | .broken => true
  | .asked | .delivered _ | .expired => false

/-- After the last delivery since the latest expiry; the past is given with what
was observed last in front. -/
def resumePoint (past : List (Observation C)) : Resume C :=
  match (past.takeWhile fun o => !o.isExpired).findSome? Observation.cursor? with
  | some cursor => .after cursor
  | none => .liveTail

/-- The breaks since the last delivery. -/
def breaks (past : List (Observation C)) : Nat :=
  (past.takeWhile fun o => o.cursor?.isNone).countP Observation.isBroken

/-- The calls an observation leads to. -/
def answer (past : List (Observation C)) : Observation C → List (Call C)
  | .asked => [.subscribe (resumePoint past)]
  | .delivered delivery =>
      .storeChainView delivery.visibleTip delivery.settledTip ::
        match delivery.reverted with
        | some (startHeight, endHeight) => [.handleReorg startHeight endHeight]
        | none => []
  | .expired => [.reconcile]
  | .broken => [.backoffSleep (min (2 ^ breaks past) reconnectBackoffMaxSeconds)]

def referenceFrom (past : List (Observation C)) : List (Observation C) → List (Call C)
  | [] => []
  | o :: os => answer past o ++ referenceFrom (o :: past) os

/-- One reconciliation, then an answer to everything observed. -/
def reference (script : List (SubscribeOutcome C)) : List (Call C) :=
  .reconcile :: referenceFrom [] (observed script)

/-- How the end of a drain is observed. -/
def DrainStop.observation : DrainStop → Observation C
  | .cursorExpired => .expired
  | .reconnect => .broken

/-! ### What an observation adds to the past -/

section Past

variable {past : List (Observation C)}

@[simp] theorem resume_point_asked : resumePoint (.asked :: past) = resumePoint past := rfl

@[simp] theorem resume_point_delivered (delivery : Delivery C) :
    resumePoint (.delivered delivery :: past) = .after delivery.cursor := rfl

@[simp] theorem resume_point_expired : resumePoint (.expired :: past) = .liveTail := rfl

@[simp] theorem resume_point_broken : resumePoint (.broken :: past) = resumePoint past := rfl

@[simp] theorem breaks_asked : breaks (.asked :: past) = breaks past := rfl

@[simp] theorem breaks_delivered (delivery : Delivery C) :
    breaks (.delivered delivery :: past) = 0 := rfl

@[simp] theorem breaks_expired : breaks (.expired :: past) = breaks past := rfl

@[simp] theorem breaks_broken : breaks (.broken :: past) = breaks past + 1 := by
  show List.countP Observation.isBroken (.broken :: past.takeWhile _) = _
  rw [List.countP_cons_of_pos rfl]
  rfl

theorem reference_from_append (os os' : List (Observation C)) :
    referenceFrom past (os ++ os') =
      referenceFrom past os ++ referenceFrom (os.reverse ++ past) os' := by
  induction os generalizing past with
  | nil => rfl
  | cons o os ih =>
      show answer past o ++ referenceFrom (o :: past) (os ++ os') = _
      rw [ih, List.reverse_cons, List.append_assoc, ← List.append_assoc]
      rfl

end Past

/-- Doubling under a ceiling. -/
theorem grow_min_pow (k : Nat) :
    grow (min (2 ^ k) reconnectBackoffMaxSeconds) =
      min (2 ^ (k + 1)) reconnectBackoffMaxSeconds := by
  rw [grow, reconnectBackoffMaxSeconds, Nat.pow_succ]
  omega

/-! ## The loop follows the reference -/

/-- What a drain leaves, told by the part of the stream it has seen: its calls,
its position, and a count of breaks that starts anew with any delivery. -/
theorem drain_recording (items : List (StreamItem C)) (past : List (Observation C))
    (progressed : Bool) (calls : List (Call C)) (k : Nat)
    (hbreaks : (if progressed then 0 else k) = breaks past) :
    ∃ (seen : List (Observation C)) (stop : DrainStop) (progressed' : Bool),
      drain recording items (resumePoint past) progressed calls =
        (stop, progressed', resumePoint (seen.reverse ++ past),
          calls ++ referenceFrom past seen) ∧
      observedStream items = seen ++ [stop.observation] ∧
      (if progressed' then 0 else k) = breaks (seen.reverse ++ past) := by
  induction items generalizing past progressed calls with
  | nil =>
      refine ⟨[], .reconnect, progressed, ?_, rfl, hbreaks⟩
      rw [referenceFrom, List.append_nil]
      rfl
  | cons item items ih =>
      cases item with
      | delivery delivery =>
          have hstep : drain recording (.delivery delivery :: items) (resumePoint past)
              progressed calls =
              drain recording items (resumePoint (.delivered delivery :: past)) true
                (calls ++ answer past (.delivered delivery)) := by
            rw [drain, resume_point_delivered, answer]
            cases delivery.reverted with
            | none => rfl
            | some range =>
                simp only [recording, List.append_assoc, List.singleton_append]
          obtain ⟨seen, stop, progressed', hdrain, hobserved, hcount⟩ :=
            ih (.delivered delivery :: past) true (calls ++ answer past (.delivered delivery)) rfl
          have hpast : (Observation.delivered delivery :: seen).reverse ++ past =
              seen.reverse ++ .delivered delivery :: past := by
            rw [List.reverse_cons, List.append_assoc]
            rfl
          refine ⟨.delivered delivery :: seen, stop, progressed', ?_, ?_, ?_⟩
          · rw [hstep, hdrain, hpast, referenceFrom, List.append_assoc]
          · rw [observedStream, hobserved]
            rfl
          · rw [hpast]
            exact hcount
      | cursorExpired =>
          refine ⟨[], .cursorExpired, progressed, ?_, rfl, hbreaks⟩
          rw [referenceFrom, List.append_nil]
          rfl
      | disconnect =>
          refine ⟨[], .reconnect, progressed, ?_, rfl, hbreaks⟩
          rw [referenceFrom, List.append_nil]
          rfl

/-- From any point of its history on, the loop answers a script as the reference does. -/
def AnswersFrom (script : List (SubscribeOutcome C)) : Prop :=
  ∀ (past : List (Observation C)) (calls : List (Call C)),
    runLoopFrom recording script (resumePoint past)
        (min (2 ^ breaks past) reconnectBackoffMaxSeconds) calls =
      calls ++ referenceFrom past (observed script)

section AnswersFrom

variable {script : List (SubscribeOutcome C)}

/-- An expiry, and the rest of the script from the live tail. -/
theorem AnswersFrom.expired (h : AnswersFrom script) (past : List (Observation C))
    (calls : List (Call C)) :
    runLoopFrom recording script .liveTail
        (min (2 ^ breaks past) reconnectBackoffMaxSeconds) (recording.reconcile calls) =
      calls ++ referenceFrom past (.expired :: observed script) := by
  have hrest := h (.expired :: past) (recording.reconcile calls)
  rw [resume_point_expired, breaks_expired] at hrest
  rw [hrest, referenceFrom, ← List.append_assoc]
  rfl

/-- A break, and the rest of the script after one more sleep. -/
theorem AnswersFrom.broken (h : AnswersFrom script) (past : List (Observation C))
    (calls : List (Call C)) :
    runLoopFrom recording script (resumePoint past)
        (grow (min (2 ^ breaks past) reconnectBackoffMaxSeconds))
        (recording.backoffSleep (min (2 ^ breaks past) reconnectBackoffMaxSeconds) calls) =
      calls ++ referenceFrom past (.broken :: observed script) := by
  have hrest := h (.broken :: past)
    (recording.backoffSleep (min (2 ^ breaks past) reconnectBackoffMaxSeconds) calls)
  rw [resume_point_broken, breaks_broken] at hrest
  rw [grow_min_pow, hrest, referenceFrom, ← List.append_assoc]
  rfl

/-- A stream, drained to its end, and the rest of the script from where it stopped. -/
theorem AnswersFrom.opened (h : AnswersFrom script) (items : List (StreamItem C))
    (past : List (Observation C)) (calls : List (Call C)) :
    runLoopFrom recording (.opened items :: script) (resumePoint past)
        (min (2 ^ breaks past) reconnectBackoffMaxSeconds) calls =
      calls ++ referenceFrom past (observed (.opened items :: script)) := by
  obtain ⟨seen, stop, progressed, hdrain, hobserved, hcount⟩ :=
    drain_recording items (.asked :: past) false
      (recording.subscribe (resumePoint past) calls) (breaks past) rfl
  have hbackoff : (if progressed then reconnectBackoffInitialSeconds
      else min (2 ^ breaks past) reconnectBackoffMaxSeconds) =
      min (2 ^ breaks (seen.reverse ++ .asked :: past)) reconnectBackoffMaxSeconds := by
    rw [← hcount]
    cases progressed with
    | true => rfl
    | false => rfl
  have hreference : calls ++ referenceFrom past (observed (.opened items :: script)) =
      (recording.subscribe (resumePoint past) calls ++ referenceFrom (.asked :: past) seen) ++
        referenceFrom (seen.reverse ++ .asked :: past) (stop.observation :: observed script) := by
    rw [observed, referenceFrom, hobserved, List.append_assoc, reference_from_append]
    simp only [recording, answer, List.append_assoc, List.cons_append, List.nil_append]
  rw [resume_point_asked] at hdrain
  rw [hreference]
  simp only [runLoopFrom, hdrain, hbackoff]
  cases stop with
  | cursorExpired => exact h.expired _ _
  | reconnect => exact h.broken _ _

end AnswersFrom

theorem run_loop_from_calls (script : List (SubscribeOutcome C)) : AnswersFrom script := by
  induction script with
  | nil => exact fun _ _ => rfl
  | cons outcome script ih =>
      intro past calls
      cases outcome with
      | opened items => exact ih.opened items past calls
      | cursorExpired =>
          have hrest := ih.expired (.asked :: past)
            (recording.subscribe (resumePoint past) calls)
          rw [breaks_asked] at hrest
          simp only [runLoopFrom, hrest]
          simp only [recording, observed, referenceFrom, answer, List.append_assoc]
      | reconnect =>
          have hrest := ih.broken (.asked :: past)
            (recording.subscribe (resumePoint past) calls)
          rw [breaks_asked, resume_point_asked] at hrest
          simp only [runLoopFrom, hrest]
          simp only [recording, observed, referenceFrom, answer, List.append_assoc]

/-- For every script, the calls of the loop are those of the reference fold. -/
theorem run_loop_calls (script : List (SubscribeOutcome C)) :
    runLoop recording script [] = reference script := by
  have hcalls := run_loop_from_calls script [] (recording.reconcile ([] : List (Call C)))
  exact hcalls

/-- A reorg is handled right after its view is stored, and the next subscribe
resumes after it. -/
example : runLoop recording [.opened [.delivery
      { visibleTip := 8, settledTip := 2, cursor := 5, reverted := some (6, 7) }]] [] =
    [.reconcile, .subscribe .liveTail, .storeChainView 8 2, .handleReorg 6 7, .backoffSleep 1,
      .subscribe (.after 5)] := rfl

end Zpay.Runtime.EventLoop
