import Zpay.Core.Status

/-!
# The event stream of a payment

`EventStream::poll_next`, over any tail and any in-flight re-read: the head first, then a
resync that is under way, then the tail.  Snapshots are what the caller says they are; all
the stream asks of one is whether it closes.

Serialising a snapshot does not fail, and the gauge of open streams is left out.

## Main results

* `pollNext_closed`, `pollNext_head`, `pollNext_resync`, `pollNext_tail` — what one poll
  does, by where the stream stands.
-/

open Zpay.Core

namespace Zpay.X402.Events

def channelCapacity : Nat := 16

/-- A named event on the wire; `serialization_failed` is left out. -/
inductive Event (α : Type)
  | snapshot (snapshot : α)
  | lag
  | resyncFailed
  deriving DecidableEq, Repr

/-- `Poll<Option<Event>>`. -/
inductive PollNext (α : Type)
  | pending
  | ready (event : Option (Event α))
  deriving DecidableEq, Repr

/-- What polling the broadcast tail gives. -/
inductive TailPoll (α : Type)
  | snapshot (snapshot : α)
  | lagged (missed : Nat)
  | ended
  | pending
  deriving DecidableEq, Repr

structure EventStream (α τ ρ : Type) where
  head : Option α
  tail : τ
  resyncInFlight : Option ρ
  closed : Bool
  deriving DecidableEq, Repr

/-- How a stream's parts are polled, and how a re-read begins. -/
structure Polling (α τ ρ : Type) where
  streamClosed : α → Bool
  pollTail : τ → TailPoll α × τ
  pollResync : ρ → Option (Except StoreError α) × ρ
  reRead : ρ

variable {α τ ρ : Type}

def EventStream.new (initial : α) (rx : τ) : EventStream α τ ρ where
  head := some initial
  tail := rx
  resyncInFlight := none
  closed := false

def EventStream.pollNext (polling : Polling α τ ρ) (stream : EventStream α τ ρ) :
    PollNext α × EventStream α τ ρ :=
  if stream.closed then (.ready none, stream)
  else
    match stream.head with
    | some initial =>
        (.ready (some (.snapshot initial)),
          { stream with head := none, closed := polling.streamClosed initial })
    | none =>
        match stream.resyncInFlight with
        | some future =>
            match polling.pollResync future with
            | (none, future) => (.pending, { stream with resyncInFlight := some future })
            | (some (.ok snapshot), _) =>
                (.ready (some (.snapshot snapshot)),
                  { stream with
                    resyncInFlight := none
                    closed := polling.streamClosed snapshot })
            | (some (.error _), _) =>
                (.ready (some .resyncFailed),
                  { stream with resyncInFlight := none, closed := true })
        | none =>
            match polling.pollTail stream.tail with
            | (.snapshot snapshot, tail) =>
                (.ready (some (.snapshot snapshot)),
                  { stream with tail, closed := polling.streamClosed snapshot })
            | (.lagged _, tail) =>
                (.ready (some .lag), { stream with tail, resyncInFlight := some polling.reRead })
            | (.ended, tail) => (.ready none, { stream with tail, closed := true })
            | (.pending, tail) => (.pending, { stream with tail })

/-- Where the stream's next snapshot comes from. -/
inductive Source
  | head
  | resync
  | tail
  deriving DecidableEq, Repr

def EventStream.source (stream : EventStream α τ ρ) : Source :=
  if stream.head.isSome then .head
  else if stream.resyncInFlight.isSome then .resync
  else .tail

/-! ## One poll -/

section Polls

variable {polling : Polling α τ ρ} {stream : EventStream α τ ρ}

theorem pollNext_closed (h : stream.closed = true) :
    stream.pollNext polling = (.ready none, stream) := by
  unfold EventStream.pollNext
  rw [if_pos h]

theorem pollNext_head {initial : α} (hopen : stream.closed = false)
    (hhead : stream.head = some initial) :
    stream.pollNext polling = (.ready (some (.snapshot initial)),
      { stream with head := none, closed := polling.streamClosed initial }) := by
  obtain ⟨head, tail, resyncInFlight, closed⟩ := stream
  cases hopen
  cases hhead
  rfl

/-- A re-read under way is all that a poll drives. -/
theorem pollNext_resync {future : ρ} (hopen : stream.closed = false)
    (hhead : stream.head = none) (hresync : stream.resyncInFlight = some future) :
    stream.pollNext polling =
      match polling.pollResync future with
      | (none, future) => (.pending, { stream with resyncInFlight := some future })
      | (some (.ok snapshot), _) =>
          (.ready (some (.snapshot snapshot)),
            { stream with resyncInFlight := none, closed := polling.streamClosed snapshot })
      | (some (.error _), _) =>
          (.ready (some .resyncFailed),
            { stream with resyncInFlight := none, closed := true }) := by
  obtain ⟨head, tail, resyncInFlight, closed⟩ := stream
  cases hopen
  cases hhead
  cases hresync
  rfl

theorem pollNext_tail (hopen : stream.closed = false) (hhead : stream.head = none)
    (hresync : stream.resyncInFlight = none) :
    stream.pollNext polling =
      match polling.pollTail stream.tail with
      | (.snapshot snapshot, tail) =>
          (.ready (some (.snapshot snapshot)),
            { stream with tail, closed := polling.streamClosed snapshot })
      | (.lagged _, tail) =>
          (.ready (some .lag), { stream with tail, resyncInFlight := some polling.reRead })
      | (.ended, tail) => (.ready none, { stream with tail, closed := true })
      | (.pending, tail) => (.pending, { stream with tail }) := by
  obtain ⟨head, tail, resyncInFlight, closed⟩ := stream
  cases hopen
  cases hhead
  cases hresync
  rfl

theorem source_head {initial : α} (h : stream.head = some initial) : stream.source = .head := by
  unfold EventStream.source
  rw [h]
  rfl

theorem source_resync {future : ρ} (hhead : stream.head = none)
    (h : stream.resyncInFlight = some future) : stream.source = .resync := by
  unfold EventStream.source
  rw [hhead, h]
  rfl

theorem source_tail (hhead : stream.head = none) (h : stream.resyncInFlight = none) :
    stream.source = .tail := by
  unfold EventStream.source
  rw [hhead, h]
  rfl

end Polls

end Zpay.X402.Events
