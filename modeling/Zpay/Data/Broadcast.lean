import Mathlib.Data.List.Basic

/-!
# One receiver of a bounded broadcast channel

A broadcast channel keeps the last messages for every receiver, up to a capacity.  Seen
from one receiver, a send over capacity overwrites the oldest message not yet received; the
next receive reports how many were lost, and the ones after it go on with the oldest kept.

The channel is a parameter, and `BroadcastChannel.Lawful` is all that is asked of it.
`ringChannel` is one that meets it.

## Main results

* `Lawful.send_sublist`, `Lawful.send_last` — what is kept is in order, and ends with the
  last sent.
* `Lawful.sound_send` — a receiver that lost messages has others waiting.
* `Lawful.recv_cases` — the three ways a receive ends.
* `ringChannel_lawful` — the laws hold of the channel that is written out.
-/

namespace Zpay.Data

inductive Received (α : Type*)
  | item (a : α)
  | lagged (missed : Nat)
  | empty
  deriving DecidableEq, Repr

/-- A channel of messages `α`, seen from its receivers `ρ`: the messages one still holds,
and how many it has lost without being told. -/
structure BroadcastChannel (α ρ : Type*) where
  subscribe : ρ
  send : ρ → α → ρ
  recv : ρ → Received α × ρ
  buffer : ρ → List α
  missed : ρ → Nat

namespace BroadcastChannel

variable {α ρ : Type*} (channel : BroadcastChannel α ρ)

/-- Messages are lost only to others that wait. -/
def Sound (r : ρ) : Prop := 0 < channel.missed r → channel.buffer r ≠ []

/-- What a channel of this capacity does.  A receiver starts after all that was sent before
it.  A send is kept, at the cost of the oldest message of a receiver that holds as many as
the capacity.  A receive tells of the lost first, and then takes the oldest. -/
structure Lawful (capacity : Nat) : Prop where
  buffer_subscribe : channel.buffer channel.subscribe = []
  missed_subscribe : channel.missed channel.subscribe = 0
  buffer_send : ∀ r a, (channel.buffer r).length < capacity →
    channel.buffer (channel.send r a) = channel.buffer r ++ [a]
  missed_send : ∀ r a, (channel.buffer r).length < capacity →
    channel.missed (channel.send r a) = channel.missed r
  buffer_send_full : ∀ r a, capacity ≤ (channel.buffer r).length →
    channel.buffer (channel.send r a) = (channel.buffer r).tail ++ [a]
  missed_send_full : ∀ r a, capacity ≤ (channel.buffer r).length →
    channel.missed (channel.send r a) = channel.missed r + 1
  recv_lagged : ∀ r, 0 < channel.missed r →
    (channel.recv r).1 = .lagged (channel.missed r) ∧
      channel.buffer (channel.recv r).2 = channel.buffer r ∧
      channel.missed (channel.recv r).2 = 0
  recv_empty : ∀ r, channel.missed r = 0 → channel.buffer r = [] →
    (channel.recv r).1 = .empty ∧ channel.buffer (channel.recv r).2 = [] ∧
      channel.missed (channel.recv r).2 = 0
  recv_item : ∀ r a rest, channel.missed r = 0 → channel.buffer r = a :: rest →
    (channel.recv r).1 = .item a ∧ channel.buffer (channel.recv r).2 = rest ∧
      channel.missed (channel.recv r).2 = 0

namespace Lawful

variable {channel} {capacity : Nat} (lawful : channel.Lawful capacity)
include lawful

theorem send_sublist (r : ρ) (a : α) :
    (channel.buffer (channel.send r a)).Sublist (channel.buffer r ++ [a]) := by
  rcases Nat.lt_or_ge (channel.buffer r).length capacity with hroom | hfull
  · rw [lawful.buffer_send r a hroom]
  · rw [lawful.buffer_send_full r a hfull]
    exact (List.tail_sublist (channel.buffer r)).append_right [a]

theorem send_last (r : ρ) (a : α) :
    (channel.buffer (channel.send r a)).getLast? = some a := by
  rcases Nat.lt_or_ge (channel.buffer r).length capacity with hroom | hfull
  · rw [lawful.buffer_send r a hroom]
    exact List.getLast?_concat
  · rw [lawful.buffer_send_full r a hfull]
    exact List.getLast?_concat

theorem send_ne_nil (r : ρ) (a : α) : channel.buffer (channel.send r a) ≠ [] := by
  intro hnil
  have hlast := lawful.send_last r a
  rw [hnil] at hlast
  exact absurd hlast (by simp)

theorem sound_subscribe : channel.Sound channel.subscribe := by
  intro hlost
  rw [lawful.missed_subscribe] at hlost
  exact absurd hlost (Nat.lt_irrefl 0)

theorem sound_send (r : ρ) (a : α) : channel.Sound (channel.send r a) :=
  fun _ => lawful.send_ne_nil r a

/-- The three ways a receive ends. -/
theorem recv_cases (r : ρ) :
    (0 < channel.missed r ∧ ∃ r', channel.recv r = (.lagged (channel.missed r), r') ∧
      channel.buffer r' = channel.buffer r ∧ channel.missed r' = 0) ∨
    (channel.buffer r = [] ∧ ∃ r', channel.recv r = (.empty, r') ∧
      channel.buffer r' = [] ∧ channel.missed r' = 0) ∨
    ∃ a rest r', channel.buffer r = a :: rest ∧ channel.recv r = (.item a, r') ∧
      channel.buffer r' = rest ∧ channel.missed r' = 0 := by
  by_cases hmissed : 0 < channel.missed r
  · obtain ⟨hanswer, hleft⟩ := lawful.recv_lagged r hmissed
    exact .inl ⟨hmissed, _, Prod.ext hanswer rfl, hleft⟩
  · have hzero : channel.missed r = 0 := by omega
    cases hbuffer : channel.buffer r with
    | nil =>
        obtain ⟨hanswer, hleft⟩ := lawful.recv_empty r hzero hbuffer
        exact .inr (.inl ⟨rfl, _, Prod.ext hanswer rfl, hleft⟩)
    | cons a rest =>
        obtain ⟨hanswer, hleft⟩ := lawful.recv_item r a rest hzero hbuffer
        exact .inr (.inr ⟨a, rest, _, rfl, Prod.ext hanswer rfl, hleft⟩)

end Lawful

end BroadcastChannel

/-! ## A channel that is written out -/

/-- The messages a receiver holds, oldest first, and the number it has lost. -/
structure Receiver (α : Type*) where
  buffer : List α
  missed : Nat
  deriving DecidableEq, Repr

namespace Receiver

variable {α : Type*}

/-- A receiver that has just subscribed. -/
def fresh : Receiver α where
  buffer := []
  missed := 0

def send (capacity : Nat) (r : Receiver α) (a : α) : Receiver α :=
  if r.buffer.length < capacity then { r with buffer := r.buffer ++ [a] }
  else { buffer := r.buffer.tail ++ [a], missed := r.missed + 1 }

def recv (r : Receiver α) : Received α × Receiver α :=
  if 0 < r.missed then (.lagged r.missed, { r with missed := 0 })
  else
    match r.buffer with
    | [] => (.empty, r)
    | a :: rest => (.item a, { r with buffer := rest })

theorem send_of_room {capacity : Nat} (r : Receiver α) (a : α)
    (hroom : r.buffer.length < capacity) :
    r.send capacity a = { r with buffer := r.buffer ++ [a] } := if_pos hroom

theorem send_of_full {capacity : Nat} (r : Receiver α) (a : α)
    (hfull : capacity ≤ r.buffer.length) :
    r.send capacity a = { buffer := r.buffer.tail ++ [a], missed := r.missed + 1 } :=
  if_neg (Nat.not_lt.2 hfull)

end Receiver

def ringChannel {α : Type*} (capacity : Nat) : BroadcastChannel α (Receiver α) where
  subscribe := .fresh
  send := Receiver.send capacity
  recv := Receiver.recv
  buffer := Receiver.buffer
  missed := Receiver.missed

theorem ringChannel_lawful {α : Type*} (capacity : Nat) :
    (ringChannel capacity : BroadcastChannel α (Receiver α)).Lawful capacity where
  buffer_subscribe := rfl
  missed_subscribe := rfl
  buffer_send r a hroom := congrArg Receiver.buffer (Receiver.send_of_room r a hroom)
  missed_send r a hroom := (congrArg Receiver.missed (Receiver.send_of_room r a hroom)).trans rfl
  buffer_send_full r a hfull := congrArg Receiver.buffer (Receiver.send_of_full r a hfull)
  missed_send_full r a hfull := congrArg Receiver.missed (Receiver.send_of_full r a hfull)
  recv_lagged r hmissed := by
    have hrecv : r.recv = (.lagged r.missed, { r with missed := 0 }) := if_pos hmissed
    show r.recv.1 = _ ∧ r.recv.2.buffer = r.buffer ∧ r.recv.2.missed = 0
    rw [hrecv]
    exact ⟨rfl, rfl, rfl⟩
  recv_empty r hzero hbuffer := by
    obtain ⟨buffer, missed⟩ := r
    cases hzero
    cases hbuffer
    exact ⟨rfl, rfl, rfl⟩
  recv_item r a rest hzero hbuffer := by
    obtain ⟨buffer, missed⟩ := r
    cases hzero
    cases hbuffer
    exact ⟨rfl, rfl, rfl⟩

end Zpay.Data
