import Zpay.Data.Broadcast
import Zpay.Machine.Run
import Zpay.X402.Events

/-!
# What a subscriber is told, and when

One payment, one run of `events_handler` and its stream, and any number of publishers.
A publisher reads a snapshot and publishes it in two steps; writes to the stores happen at
any time, and each makes a new version.  A read sees one version, and everything the
snapshot depends on counts as the store.  A publish reaches the channel only once the
handler has subscribed.

The channel is any that keeps the laws of a broadcast channel of the hub's capacity.

`PaymentEventHub::publish` leaves order to its callers.  What the stream adds is that a
re-read is always made after what it follows.

## Main results

* `inv_step` — the buffer ends with the last snapshot published, or the stream has caught
  up with it.
* `emitted_order` — what never goes back, and what a drained stream has told.
* `told_older_state` — where a subscriber is told an older state after a newer one.
-/

open Zpay.Data Zpay.Core Zpay.Machine Zpay.X402.Events

namespace Zpay.X402.Delivery

/-! ## The machine -/

/-- A snapshot and the store version it was read at. -/
structure Versioned where
  version : Nat
  snapshot : PaymentStatusSnapshot
  deriving DecidableEq, Repr

/-- A re-read under way; `none` until the stores answer. -/
abbrev ReRead := Option (Except StoreError Versioned)

/-- A stream on receivers `ρ` of the channel. -/
abbrev Stream (ρ : Type) := EventStream Versioned ρ ReRead

def pollTail {ρ : Type} (channel : BroadcastChannel Versioned ρ) (rx : ρ) :
    TailPoll Versioned × ρ :=
  match channel.recv rx with
  | (.item snapshot, rx) => (.snapshot snapshot, rx)
  | (.lagged missed, rx) => (.lagged missed, rx)
  | (.empty, rx) => (.pending, rx)

def polling {ρ : Type} (channel : BroadcastChannel Versioned ρ) : Polling Versioned ρ ReRead where
  streamClosed item := item.snapshot.streamClosed
  pollTail := pollTail channel
  pollResync future := (future, future)
  reRead := none

/-- `events_handler`, with the problem it answers where it opens no stream. -/
inductive Handler (ρ : Type)
  | idle
  | probed
  | subscribed (rx : ρ)
  | streaming (stream : Stream ρ)
  | refused (status : Nat) (code : String)

/-- An emitted snapshot, and where the stream had it from. -/
structure Emission where
  source : Source
  item : Versioned
  deriving DecidableEq, Repr

structure State (ρ : Type) where
  version : Nat
  content : PaymentStatusSnapshot
  /-- The publishers between their read and their publish. -/
  readers : Table Nat Versioned
  handler : Handler ρ
  published : List Versioned
  emitted : List Emission

def State.init {ρ : Type} (content : PaymentStatusSnapshot) : State ρ where
  version := 0
  content := content
  readers := ∅
  handler := .idle
  published := []
  emitted := []

inductive Action
  | write (content : PaymentStatusSnapshot)
  | read (publisher : Nat)
  | publish (publisher : Nat)
  | probe (fault : Option StoreError)
  | subscribe
  | openStream (fault : Option StoreError)
  | reRead (fault : Option StoreError)
  | poll

section Steps

variable {ρ : Type} (channel : BroadcastChannel Versioned ρ)

/-- `lookup_payment_status` at this instant. -/
def State.current (s : State ρ) : Versioned where
  version := s.version
  snapshot := s.content

/-- `Sender::send`, where there is a receiver. -/
def Handler.deliver (handler : Handler ρ) (item : Versioned) : Handler ρ :=
  match handler with
  | .subscribed rx => .subscribed (channel.send rx item)
  | .streaming stream => .streaming { stream with tail := channel.send stream.tail item }
  | handler => handler

def State.readFor (s : State ρ) (publisher : Nat) : State ρ :=
  match s.readers.lookup publisher with
  | some _ => s
  | none => { s with readers := s.readers.insert publisher s.current }

def State.publishFrom (s : State ρ) (publisher : Nat) : State ρ :=
  match s.readers.lookup publisher with
  | some item =>
      { s with
        readers := s.readers.erase publisher
        handler := s.handler.deliver channel item
        published := s.published ++ [item] }
  | none => s

def State.probeStore (s : State ρ) (fault : Option StoreError) : State ρ :=
  match s.handler with
  | .idle =>
      { s with
        handler :=
          if fault.isSome then .refused 503 "status_store_unavailable"
          else if s.content.status = .neverIssued then .refused 404 "payment_id_unknown"
          else .probed }
  | _ => s

def State.subscribeHub (s : State ρ) : State ρ :=
  match s.handler with
  | .probed => { s with handler := .subscribed channel.subscribe }
  | _ => s

def State.open (s : State ρ) (fault : Option StoreError) : State ρ :=
  match s.handler with
  | .subscribed rx =>
      { s with
        handler :=
          if fault.isSome then .refused 503 "status_store_unavailable"
          else .streaming (.new s.current rx) }
  | _ => s

/-- The stores answer a re-read under way. -/
def State.answerReRead (s : State ρ) (fault : Option StoreError) : State ρ :=
  match s.handler with
  | .streaming stream =>
      match stream.resyncInFlight with
      | some none =>
          { s with
            handler := .streaming
              { stream with
                resyncInFlight := some (some (match fault with
                  | some err => .error err
                  | none => .ok s.current)) } }
      | _ => s
  | _ => s

def State.pollStream (s : State ρ) : State ρ :=
  match s.handler with
  | .streaming stream =>
      match stream.pollNext (polling channel) with
      | (.ready (some (.snapshot item)), next) =>
          { s with
            handler := .streaming next
            emitted := s.emitted ++ [{ source := stream.source, item }] }
      | (_, next) => { s with handler := .streaming next }
  | _ => s

def step (s : State ρ) : Action → State ρ
  | .write content => { s with version := s.version + 1, content }
  | .read publisher => s.readFor publisher
  | .publish publisher => s.publishFrom channel publisher
  | .probe fault => s.probeStore fault
  | .subscribe => s.subscribeHub channel
  | .openStream fault => s.open fault
  | .reRead fault => s.answerReRead fault
  | .poll => s.pollStream channel

end Steps

/-! ## What is promised -/

section Promises

variable {ρ : Type}

/-- The snapshots a stream has had from its tail. -/
def tails (emitted : List Emission) : List Versioned :=
  (emitted.filter fun e => decide (e.source = .tail)).map Emission.item

/-- A re-read is as new as all that was emitted before it. -/
def ReReadsNewest (s : State ρ) : Prop :=
  s.emitted.Pairwise fun e e' => e'.source ≠ .tail → e.item.version ≤ e'.item.version

/-- Tail snapshots come in the order they were published in. -/
def TailsPublished (s : State ρ) : Prop := (tails s.emitted).Sublist s.published

/-- Tail snapshots come in the order of their versions. -/
def TailsAscend (s : State ρ) : Prop :=
  s.emitted.Pairwise fun e e' =>
    e.source = .tail → e'.source = .tail → e.item.version ≤ e'.item.version

/-- The stream is open, with an empty buffer, nothing lost, and no re-read under way. -/
def Drained (channel : BroadcastChannel Versioned ρ) (s : State ρ) : Prop :=
  ∃ stream, s.handler = .streaming stream ∧ stream.closed = false ∧ stream.head = none ∧
    stream.resyncInFlight = none ∧ channel.buffer stream.tail = [] ∧
    channel.missed stream.tail = 0

/-- The last snapshot emitted is as new as `item`. -/
def CaughtUp (s : State ρ) (item : Versioned) : Prop :=
  ∃ e, s.emitted.getLast? = some e ∧ item.version ≤ e.item.version

/-- No publisher reads while another is between its read and its publish. -/
def exclusive (s : State ρ) : Action → Bool
  | .read _ => s.readers.entries.isEmpty
  | _ => true

end Promises

/-! ## The invariant -/

section Holds

variable {ρ : Type} (channel : BroadcastChannel Versioned ρ)

/-- What the buffer holds of what was published. -/
structure TailInv (s : State ρ) (rx : ρ) : Prop where
  sound : channel.Sound rx
  order : (tails s.emitted ++ channel.buffer rx).Sublist s.published
  last : channel.buffer rx ≠ [] → (channel.buffer rx).getLast? = s.published.getLast?

structure StreamInv (s : State ρ) (stream : Stream ρ) : Prop where
  tail : TailInv channel s stream.tail
  /-- The head was read after everything published behind the subscription. -/
  head : ∀ initial, stream.head = some initial →
    s.emitted = [] ∧ stream.resyncInFlight = none ∧ initial.version ≤ s.version ∧
      (channel.buffer stream.tail = [] →
        ∀ item, s.published.getLast? = some item → item.version ≤ initial.version)
  /-- A re-read goes with a full buffer, and is made after all that was emitted. -/
  resync : ∀ future, stream.resyncInFlight = some future → channel.buffer stream.tail ≠ [] ∧
    ∀ item, future = some (.ok item) →
      item.version ≤ s.version ∧ ∀ e ∈ s.emitted, e.item.version ≤ item.version
  caughtUp : stream.head = none → channel.buffer stream.tail = [] →
    ∀ item, s.published.getLast? = some item → CaughtUp s item

def HandlerInv (s : State ρ) : Prop :=
  match s.handler with
  | .subscribed rx => s.emitted = [] ∧ TailInv channel s rx
  | .streaming stream => StreamInv channel s stream
  | .idle | .probed | .refused _ _ => s.emitted = []

structure Inv (s : State ρ) : Prop where
  readers : ∀ publisher item, s.readers.lookup publisher = some item → item.version ≤ s.version
  published : ∀ item ∈ s.published, item.version ≤ s.version
  emitted : ∀ e ∈ s.emitted, e.item.version ≤ s.version
  reReads : ReReadsNewest s
  handler : HandlerInv channel s

end Holds

section Invariant

variable {ρ : Type} {channel : BroadcastChannel Versioned ρ}
variable {s s' : State ρ} {rx rx' : ρ} {stream : Stream ρ}

/-- The tail depends on what was emitted and published, and on nothing else. -/
theorem TailInv.congr (h : TailInv channel s rx) (hemitted : s'.emitted = s.emitted)
    (hpublished : s'.published = s.published) : TailInv channel s' rx := by
  refine ⟨h.sound, ?_, ?_⟩
  · rw [hemitted, hpublished]
    exact h.order
  · rw [hpublished]
    exact h.last

theorem CaughtUp.congr {item : Versioned} (h : CaughtUp s item)
    (hemitted : s'.emitted = s.emitted) : CaughtUp s' item := by
  unfold CaughtUp
  rw [hemitted]
  exact h

theorem StreamInv.congr (h : StreamInv channel s stream) (hversion : s.version ≤ s'.version)
    (hemitted : s'.emitted = s.emitted) (hpublished : s'.published = s.published) :
    StreamInv channel s' stream := by
  refine ⟨h.tail.congr hemitted hpublished, ?_, ?_, ?_⟩
  · intro initial hhead
    obtain ⟨hnone, hresync, hread, hbound⟩ := h.head initial hhead
    rw [hemitted, hpublished]
    exact ⟨hnone, hresync, Nat.le_trans hread hversion, hbound⟩
  · intro future hfuture
    obtain ⟨hbuffer, hread⟩ := h.resync future hfuture
    refine ⟨hbuffer, fun item hitem => ?_⟩
    rw [hemitted]
    exact ⟨Nat.le_trans (hread item hitem).1 hversion, (hread item hitem).2⟩
  · intro hhead hbuffer item hlast
    rw [hpublished] at hlast
    exact (h.caughtUp hhead hbuffer item hlast).congr hemitted

/-- A step that neither publishes nor emits, and leaves the handler alone. -/
theorem HandlerInv.congr (h : HandlerInv channel s) (hhandler : s'.handler = s.handler)
    (hversion : s.version ≤ s'.version) (hemitted : s'.emitted = s.emitted)
    (hpublished : s'.published = s.published) : HandlerInv channel s' := by
  unfold HandlerInv at h ⊢
  rw [hhandler]
  split at h
  · rw [hemitted]
    exact ⟨h.1, h.2.congr hemitted hpublished⟩
  · exact h.congr hversion hemitted hpublished
  · rw [hemitted]
    exact h
  · rw [hemitted]
    exact h
  · rw [hemitted]
    exact h

/-- Nothing is published or emitted, and the handler is in order. -/
theorem Inv.handlerStep (h : Inv channel s) (handler : Handler ρ)
    (hhandler : HandlerInv channel { s with handler }) : Inv channel { s with handler } :=
  ⟨h.readers, h.published, h.emitted, h.reReads, hhandler⟩

theorem Inv.streamed (h : Inv channel s) (hhandler : s.handler = .streaming stream) :
    StreamInv channel s stream := by
  have hinv := h.handler
  unfold HandlerInv at hinv
  rw [hhandler] at hinv
  exact hinv

theorem Inv.subscription (h : Inv channel s) (hhandler : s.handler = .subscribed rx) :
    s.emitted = [] ∧ TailInv channel s rx := by
  have hinv := h.handler
  unfold HandlerInv at hinv
  rw [hhandler] at hinv
  exact hinv

/-- Nothing is emitted before there is a stream. -/
theorem Inv.unemitted (h : Inv channel s) (hhandler : ∀ stream, s.handler ≠ .streaming stream) :
    s.emitted = [] := by
  have hinv := h.handler
  unfold HandlerInv at hinv
  split at hinv
  · exact hinv.1
  · next stream hstreaming => exact absurd hstreaming (hhandler stream)
  · exact hinv
  · exact hinv
  · exact hinv

/-! ## Publishing -/

theorem TailInv.deliver (lawful : channel.Lawful channelCapacity) (h : TailInv channel s rx)
    (item : Versioned) (hemitted : s'.emitted = s.emitted)
    (hpublished : s'.published = s.published ++ [item]) :
    TailInv channel s' (channel.send rx item) := by
  refine ⟨lawful.sound_send rx item, ?_, fun _ => ?_⟩
  · rw [hemitted, hpublished]
    have hsent : (tails s.emitted ++ channel.buffer (channel.send rx item)).Sublist
        (tails s.emitted ++ (channel.buffer rx ++ [item])) :=
      (List.Sublist.refl _).append (lawful.send_sublist rx item)
    rw [← List.append_assoc] at hsent
    exact hsent.trans (h.order.append (List.Sublist.refl [item]))
  · rw [hpublished, lawful.send_last]
    exact List.getLast?_concat.symm

theorem inv_publish (lawful : channel.Lawful channelCapacity) (h : Inv channel s)
    (publisher : Nat) : Inv channel (s.publishFrom channel publisher) := by
  unfold State.publishFrom
  split
  · next item hitem =>
      have hread : item.version ≤ s.version := h.readers publisher item hitem
      refine ⟨?_, ?_, h.emitted, h.reReads, ?_⟩
      · intro other held hheld
        change (s.readers.erase publisher).lookup other = some held at hheld
        rw [Table.lookup_erase_eq] at hheld
        split at hheld
        · exact absurd hheld (by simp)
        · exact h.readers other held hheld
      · intro held hheld
        cases List.mem_append.1 hheld with
        | inl hearlier => exact h.published held hearlier
        | inr hnew =>
            rw [List.mem_singleton] at hnew
            rw [hnew]
            exact hread
      · unfold HandlerInv
        cases hphase : s.handler with
        | subscribed rx =>
            obtain ⟨hnone, htail⟩ := h.subscription hphase
            exact ⟨hnone, htail.deliver lawful item rfl rfl⟩
        | streaming stream =>
            have hstream : StreamInv channel s stream := h.streamed hphase
            have hwaiting := lawful.send_ne_nil stream.tail item
            refine ⟨hstream.tail.deliver lawful item rfl rfl, ?_, ?_, ?_⟩
            · intro initial hhead
              obtain ⟨hnone, hresync, hversion, _⟩ := hstream.head initial hhead
              exact ⟨hnone, hresync, hversion, fun hnil => absurd hnil hwaiting⟩
            · intro future hfuture
              exact ⟨hwaiting, (hstream.resync future hfuture).2⟩
            · exact fun _ hnil => absurd hnil hwaiting
        | idle | probed | refused =>
            apply h.unemitted
            intro stream hstreaming
            rw [hphase] at hstreaming
            exact absurd hstreaming (by simp)
  · exact h

/-! ## Polling -/

theorem tails_concat (emitted : List Emission) (e : Emission) :
    tails (emitted ++ [e]) =
      if e.source = .tail then tails emitted ++ [e.item] else tails emitted := by
  unfold tails
  rw [List.filter_append, List.map_append]
  split
  · next hsource => simp [hsource]
  · next hsource => simp [hsource]

/-- A snapshot that is emitted, and the stream that is left. -/
theorem inv_emit (h : Inv channel s) {next : Stream ρ} {e : Emission}
    (hread : e.item.version ≤ s.version)
    (hnewest : e.source ≠ .tail → ∀ earlier ∈ s.emitted, earlier.item.version ≤ e.item.version)
    (hstream : StreamInv channel
      { s with handler := .streaming next, emitted := s.emitted ++ [e] } next) :
    Inv channel { s with handler := .streaming next, emitted := s.emitted ++ [e] } := by
  refine ⟨h.readers, h.published, ?_, ?_, hstream⟩
  · intro e' he'
    cases List.mem_append.1 he' with
    | inl hearlier => exact h.emitted e' hearlier
    | inr hnew =>
        rw [List.mem_singleton] at hnew
        rw [hnew]
        exact hread
  · apply List.pairwise_append.2
    refine ⟨h.reReads, List.pairwise_singleton _ _, ?_⟩
    intro earlier hearlier e' he' hsource
    rw [List.mem_singleton] at he'
    rw [he'] at hsource ⊢
    exact hnewest hsource earlier hearlier

theorem inv_emitHead (h : Inv channel s) (hstream : StreamInv channel s stream)
    {initial : Versioned} (hhead : stream.head = some initial) (closed : Bool) :
    Inv channel { s with
      handler := .streaming { stream with head := none, closed }
      emitted := s.emitted ++ [{ source := .head, item := initial }] } := by
  obtain ⟨hnone, hresync, hread, hbound⟩ := hstream.head initial hhead
  apply inv_emit h hread
  · intro _ earlier hearlier
    rw [hnone] at hearlier
    exact absurd hearlier List.not_mem_nil
  · refine ⟨⟨hstream.tail.sound, ?_, hstream.tail.last⟩,
      fun _ hnone => absurd hnone (by simp), ?_, ?_⟩
    · show (tails (s.emitted ++ [{ source := .head, item := initial }]) ++ _).Sublist _
      rw [tails_concat, if_neg nofun]
      exact hstream.tail.order
    · intro future hfuture
      exact absurd (hresync.symm.trans hfuture) (by simp)
    · intro _ hbuffer item hlast
      exact ⟨_, List.getLast?_concat, hbound hbuffer item hlast⟩

theorem inv_emitReRead (h : Inv channel s) (hstream : StreamInv channel s stream) {item : Versioned}
    (hhead : stream.head = none) (hresync : stream.resyncInFlight = some (some (.ok item)))
    (closed : Bool) :
    Inv channel { s with
      handler := .streaming { stream with resyncInFlight := none, closed }
      emitted := s.emitted ++ [{ source := .resync, item }] } := by
  obtain ⟨hbuffer, hread⟩ := hstream.resync _ hresync
  obtain ⟨hversion, hnewest⟩ := hread item rfl
  apply inv_emit h hversion (fun _ => hnewest)
  refine ⟨⟨hstream.tail.sound, ?_, hstream.tail.last⟩, ?_,
    fun _ hnone => absurd hnone (by simp), ?_⟩
  · show (tails (s.emitted ++ [{ source := .resync, item }]) ++ _).Sublist _
    rw [tails_concat, if_neg nofun]
    exact hstream.tail.order
  · intro initial hinitial
    exact absurd (hhead.symm.trans hinitial) (by simp)
  · exact fun _ hnil => absurd hnil hbuffer

/-- The oldest of the buffer is emitted; what remains still ends with the last published. -/
theorem inv_emitTail (h : Inv channel s) (hstream : StreamInv channel s stream)
    {item : Versioned} {rest : List Versioned} (hhead : stream.head = none)
    (hresync : stream.resyncInFlight = none) (hbuffer : channel.buffer stream.tail = item :: rest)
    (hrest : channel.buffer rx' = rest) (hmissed : channel.missed rx' = 0) (closed : Bool) :
    Inv channel { s with
      handler := .streaming { stream with tail := rx', closed }
      emitted := s.emitted ++ [{ source := .tail, item }] } := by
  have horder : (tails s.emitted ++ item :: rest).Sublist s.published := by
    rw [← hbuffer]
    exact hstream.tail.order
  have hlast : (item :: rest).getLast? = s.published.getLast? := by
    rw [← hbuffer]
    apply hstream.tail.last
    rw [hbuffer]
    exact List.cons_ne_nil item rest
  have hitem : item ∈ s.published :=
    horder.subset (List.mem_append_right _ List.mem_cons_self)
  apply inv_emit h (h.published item hitem) (fun hsource => absurd rfl hsource)
  refine ⟨⟨?_, ?_, ?_⟩, ?_, ?_, ?_⟩
  · intro hlost
    change 0 < channel.missed rx' at hlost
    omega
  · show (tails (s.emitted ++ [{ source := .tail, item }]) ++ channel.buffer rx').Sublist _
    rw [tails_concat, if_pos rfl, List.append_assoc, hrest]
    exact horder
  · intro hleft
    change channel.buffer rx' ≠ [] at hleft
    show (channel.buffer rx').getLast? = s.published.getLast?
    rw [hrest] at hleft ⊢
    rw [← hlast]
    cases rest with
    | nil => exact absurd rfl hleft
    | cons next later => exact List.getLast?_cons_cons.symm
  · intro initial hinitial
    exact absurd (hhead.symm.trans hinitial) (by simp)
  · intro future hfuture
    exact absurd (hresync.symm.trans hfuture) (by simp)
  · intro _ hnil newest hnewest
    change channel.buffer rx' = [] at hnil
    change s.published.getLast? = some newest at hnewest
    rw [← hlast, ← hrest, hnil, List.getLast?_singleton] at hnewest
    injection hnewest with hnewest
    exact ⟨_, List.getLast?_concat, Nat.le_of_eq (congrArg Versioned.version hnewest.symm)⟩

/-- A receive that takes nothing from the buffer. -/
theorem TailInv.received (h : TailInv channel s rx)
    (hbuffer : channel.buffer rx' = channel.buffer rx) (hmissed : channel.missed rx' = 0) :
    TailInv channel s rx' := by
  refine ⟨fun hlost => ?_, ?_, ?_⟩
  · rw [hmissed] at hlost
    exact absurd hlost (Nat.lt_irrefl 0)
  · rw [hbuffer]
    exact h.order
  · rw [hbuffer]
    exact h.last

/-- A poll that emits no snapshot. -/
theorem inv_silent (h : Inv channel s) {next : Stream ρ} (hstream : StreamInv channel s next) :
    Inv channel { s with handler := .streaming next } :=
  h.handlerStep _ (hstream.congr (Nat.le_refl _) rfl rfl)

theorem inv_pollReRead (h : Inv channel s) (hstream : StreamInv channel s stream)
    (hopen : stream.closed = false) (hhead : stream.head = none) {future : ReRead}
    (hresync : stream.resyncInFlight = some future) (hhandler : s.handler = .streaming stream) :
    Inv channel (s.pollStream channel) := by
  have hwaiting : channel.buffer stream.tail ≠ [] := (hstream.resync future hresync).1
  have hunread : ∀ initial, stream.head ≠ some initial :=
    fun initial hinitial => absurd (hhead.symm.trans hinitial) (by simp)
  unfold State.pollStream
  rw [hhandler]
  simp only
  rw [pollNext_resync hopen hhead hresync, source_resync hhead hresync]
  cases future with
  | none =>
      apply inv_silent h
      refine ⟨hstream.tail, fun initial hinitial => absurd hinitial (hunread initial), ?_,
        fun _ hnil => absurd hnil hwaiting⟩
      intro answer hanswer
      exact hstream.resync answer (hresync.trans hanswer)
  | some answer =>
      cases answer with
      | ok item => exact inv_emitReRead h hstream hhead hresync _
      | error err =>
          apply inv_silent h
          exact ⟨hstream.tail, fun initial hinitial => absurd hinitial (hunread initial),
            fun _ hnone => absurd hnone (by simp), fun _ hnil => absurd hnil hwaiting⟩

theorem inv_pollTail (lawful : channel.Lawful channelCapacity) (h : Inv channel s)
    (hstream : StreamInv channel s stream) (hopen : stream.closed = false)
    (hhead : stream.head = none) (hresync : stream.resyncInFlight = none)
    (hhandler : s.handler = .streaming stream) : Inv channel (s.pollStream channel) := by
  have hunread : ∀ initial, stream.head ≠ some initial :=
    fun initial hinitial => absurd (hhead.symm.trans hinitial) (by simp)
  unfold State.pollStream
  rw [hhandler]
  simp only
  rw [pollNext_tail hopen hhead hresync, source_tail hhead hresync]
  unfold polling pollTail
  simp only
  obtain ⟨hmissed, rx', hrecv, hbuffer, hnone⟩ | ⟨hempty, rx', hrecv, hbuffer, hnone⟩ |
    ⟨item, rest, rx', hbuffer, hrecv, hrest, hnone⟩ := lawful.recv_cases stream.tail
  · -- Messages were lost to others that wait; the re-read goes ahead of them.
    rw [hrecv]
    have hwaiting : channel.buffer rx' ≠ [] := by
      rw [hbuffer]
      exact hstream.tail.sound hmissed
    apply inv_silent h
    refine ⟨hstream.tail.received hbuffer hnone,
      fun initial hinitial => absurd hinitial (hunread initial), ?_,
      fun _ hnil => absurd hnil hwaiting⟩
    intro future hfuture
    refine ⟨hwaiting, fun item hitem => ?_⟩
    rw [← Option.some.inj hfuture] at hitem
    exact absurd hitem (by simp)
  · rw [hrecv]
    apply inv_silent h
    refine ⟨hstream.tail.received (hbuffer.trans hempty.symm) hnone,
      fun initial hinitial => absurd hinitial (hunread initial), ?_,
      fun hunheaded _ => hstream.caughtUp hunheaded hempty⟩
    intro future hfuture
    exact absurd (hresync.symm.trans hfuture) (by simp)
  · rw [hrecv]
    exact inv_emitTail h hstream hhead hresync hbuffer hrest hnone _

theorem inv_poll (lawful : channel.Lawful channelCapacity) (h : Inv channel s) :
    Inv channel (s.pollStream channel) := by
  cases hhandler : s.handler with
  | streaming stream =>
      have hstream : StreamInv channel s stream := h.streamed hhandler
      cases hopen : stream.closed with
      | true =>
          unfold State.pollStream
          rw [hhandler]
          simp only
          rw [pollNext_closed hopen]
          exact inv_silent h hstream
      | false =>
          cases hhead : stream.head with
          | some initial =>
              unfold State.pollStream
              rw [hhandler]
              simp only
              rw [pollNext_head hopen hhead, source_head hhead]
              exact inv_emitHead h hstream hhead _
          | none =>
              cases hresync : stream.resyncInFlight with
              | some future => exact inv_pollReRead h hstream hopen hhead hresync hhandler
              | none => exact inv_pollTail lawful h hstream hopen hhead hresync hhandler
  | idle | probed | subscribed | refused =>
      unfold State.pollStream
      rw [hhandler]
      exact h

/-! ## The handler -/

theorem inv_probe (h : Inv channel s) (fault : Option StoreError) :
    Inv channel (s.probeStore fault) := by
  unfold State.probeStore
  split
  · next hidle =>
      have hnone : s.emitted = [] := by
        apply h.unemitted
        intro stream hstreaming
        rw [hidle] at hstreaming
        exact absurd hstreaming (by simp)
      apply h.handlerStep
      split
      · exact hnone
      · split
        · exact hnone
        · exact hnone
  · exact h

theorem inv_subscribe (lawful : channel.Lawful channelCapacity) (h : Inv channel s) :
    Inv channel (s.subscribeHub channel) := by
  unfold State.subscribeHub
  split
  · next hprobed =>
      have hnone : s.emitted = [] := by
        apply h.unemitted
        intro stream hstreaming
        rw [hprobed] at hstreaming
        exact absurd hstreaming (by simp)
      refine h.handlerStep _ ⟨hnone, lawful.sound_subscribe, ?_,
        fun hwaiting => absurd lawful.buffer_subscribe hwaiting⟩
      show (tails s.emitted ++ channel.buffer channel.subscribe).Sublist s.published
      rw [hnone, lawful.buffer_subscribe]
      exact List.nil_sublist _
  · exact h

/-- The head is read after the subscription, hence after all that was published before. -/
theorem inv_open (h : Inv channel s) (fault : Option StoreError) : Inv channel (s.open fault) := by
  unfold State.open
  split
  · next rx hsubscribed =>
      obtain ⟨hnone, htail⟩ := h.subscription hsubscribed
      apply h.handlerStep
      split
      · exact hnone
      · refine ⟨htail.congr rfl rfl, ?_,
          fun _ hresync => absurd hresync (by simp [EventStream.new]),
          fun hhead => absurd hhead (by simp [EventStream.new])⟩
        intro initial hinitial
        injection hinitial with hinitial
        rw [← hinitial]
        refine ⟨hnone, rfl, Nat.le_refl _, fun _ item hlast => ?_⟩
        exact h.published item (List.mem_of_getLast? hlast)
  · exact h

theorem inv_reRead (h : Inv channel s) (fault : Option StoreError) :
    Inv channel (s.answerReRead fault) := by
  unfold State.answerReRead
  split
  · next stream hstreaming =>
      have hstream : StreamInv channel s stream := h.streamed hstreaming
      split
      · next hresync =>
          have hwaiting : channel.buffer stream.tail ≠ [] := (hstream.resync none hresync).1
          apply h.handlerStep
          refine ⟨hstream.tail.congr rfl rfl, ?_, ?_, fun _ hnil => absurd hnil hwaiting⟩
          · intro initial hinitial
            rw [(hstream.head initial hinitial).2.1] at hresync
            exact absurd hresync (by simp)
          · intro future hfuture
            refine ⟨hwaiting, fun item hitem => ?_⟩
            rw [← Option.some.inj hfuture] at hitem
            cases fault with
            | some err => exact absurd hitem (by simp)
            | none =>
                have hcurrent : s.current = item := by
                  injection Option.some.inj hitem
                rw [← hcurrent]
                exact ⟨Nat.le_refl _, h.emitted⟩
      · exact h
  · exact h

theorem inv_step (lawful : channel.Lawful channelCapacity) (h : Inv channel s) (a : Action) :
    Inv channel (step channel s a) := by
  cases a with
  | write content =>
      have hnewer : s.version ≤ s.version + 1 := Nat.le_succ s.version
      exact ⟨fun publisher item hitem => Nat.le_trans (h.readers publisher item hitem) hnewer,
        fun item hitem => Nat.le_trans (h.published item hitem) hnewer,
        fun e he => Nat.le_trans (h.emitted e he) hnewer, h.reReads,
        h.handler.congr rfl hnewer rfl rfl⟩
  | read publisher =>
      show Inv channel (s.readFor publisher)
      unfold State.readFor
      split
      · exact h
      · refine ⟨?_, h.published, h.emitted, h.reReads,
          h.handler.congr rfl (Nat.le_refl _) rfl rfl⟩
        intro other item hitem
        change (s.readers.insert publisher s.current).lookup other = some item at hitem
        rw [Table.lookup_insert_eq] at hitem
        split at hitem
        · rw [← Option.some.inj hitem]
          exact Nat.le_refl _
        · exact h.readers other item hitem
  | publish publisher => exact inv_publish lawful h publisher
  | probe fault => exact inv_probe h fault
  | subscribe => exact inv_subscribe lawful h
  | openStream fault => exact inv_open h fault
  | reRead fault => exact inv_reRead h fault
  | poll => exact inv_poll lawful h

theorem inv_init (content : PaymentStatusSnapshot) : Inv channel (.init content) where
  readers := by
    intro publisher item hitem
    exact absurd hitem (by simp [State.init])
  published := by
    intro item hitem
    exact absurd hitem List.not_mem_nil
  emitted := by
    intro e he
    exact absurd he List.not_mem_nil
  reReads := List.Pairwise.nil
  handler := rfl

theorem tails_published (h : Inv channel s) : TailsPublished s := by
  by_cases hopen : ∃ stream, s.handler = .streaming stream
  · obtain ⟨stream, hhandler⟩ := hopen
    exact (List.sublist_append_left _ _).trans (h.streamed hhandler).tail.order
  · have hnone : s.emitted = [] := h.unemitted fun stream hhandler => hopen ⟨stream, hhandler⟩
    unfold TailsPublished
    rw [hnone]
    exact List.nil_sublist _

/-- A drained stream has caught up with the last snapshot published. -/
theorem caught_up_last (h : Inv channel s) (hdrained : Drained channel s) {item : Versioned}
    (hlast : s.published.getLast? = some item) : CaughtUp s item := by
  obtain ⟨stream, hhandler, _, hhead, _, hbuffer, _⟩ := hdrained
  exact (h.streamed hhandler).caughtUp hhead hbuffer item hlast

/-! ## One publisher at a time -/

structure Serial (s : State ρ) : Prop where
  ascend : s.published.Pairwise fun item item' => item.version ≤ item'.version
  newest : ∀ publisher item, s.readers.lookup publisher = some item →
    ∀ earlier ∈ s.published, earlier.version ≤ item.version
  alone : ∀ publisher publisher' item item', s.readers.lookup publisher = some item →
    s.readers.lookup publisher' = some item' → publisher = publisher'

theorem Serial.congr (h : Serial s) (hreaders : s'.readers = s.readers)
    (hpublished : s'.published = s.published) : Serial s' := by
  constructor
  · rw [hpublished]
    exact h.ascend
  · rw [hreaders, hpublished]
    exact h.newest
  · rw [hreaders]
    exact h.alone

theorem serial_read (hinv : Inv channel s) (h : Serial s) (publisher : Nat)
    (hexclusive : s.readers.entries.isEmpty = true) : Serial (s.readFor publisher) := by
  have hnobody : ∀ other, s.readers.lookup other = none := by
    intro other
    have hempty : s.readers.entries = [] := List.isEmpty_iff.1 hexclusive
    unfold AList.lookup
    rw [hempty]
    rfl
  unfold State.readFor
  split
  · exact h
  · have honly : ∀ other item, (s.readers.insert publisher s.current).lookup other = some item →
        other = publisher ∧ item = s.current := by
      intro other item hitem
      rw [Table.lookup_insert_eq] at hitem
      split at hitem
      · next heq => exact ⟨heq, (Option.some.inj hitem).symm⟩
      · rw [hnobody] at hitem
        exact absurd hitem (by simp)
    refine ⟨h.ascend, ?_, ?_⟩
    · intro other item hitem earlier hearlier
      rw [(honly other item hitem).2]
      exact hinv.published earlier hearlier
    · intro other other' item item' hitem hitem'
      rw [(honly other item hitem).1, (honly other' item' hitem').1]

theorem serial_publish (h : Serial s) (publisher : Nat) :
    Serial (s.publishFrom channel publisher) := by
  unfold State.publishFrom
  split
  · next item hitem =>
      have hnobody : ∀ other held, (s.readers.erase publisher).lookup other ≠ some held := by
        intro other held hheld
        rw [Table.lookup_erase_eq] at hheld
        split at hheld
        · exact absurd hheld (by simp)
        · next hne => exact hne (h.alone other publisher held item hheld hitem)
      refine ⟨?_, fun other held hheld => absurd hheld (hnobody other held),
        fun other _ held _ hheld => absurd hheld (hnobody other held)⟩
      apply List.pairwise_append.2
      refine ⟨h.ascend, List.pairwise_singleton _ _, ?_⟩
      intro earlier hearlier latest hlatest
      rw [List.mem_singleton] at hlatest
      rw [hlatest]
      exact h.newest publisher item hitem earlier hearlier
  · exact h

theorem serial_step (hinv : Inv channel s) (h : Serial s) (a : Action)
    (hexclusive : exclusive s a = true) : Serial (step channel s a) := by
  cases a with
  | write content => exact h.congr rfl rfl
  | read publisher => exact serial_read hinv h publisher hexclusive
  | publish publisher => exact serial_publish h publisher
  | probe fault =>
      show Serial (s.probeStore fault)
      unfold State.probeStore
      split
      · exact h.congr rfl rfl
      · exact h
  | subscribe =>
      show Serial (s.subscribeHub channel)
      unfold State.subscribeHub
      split
      · exact h.congr rfl rfl
      · exact h
  | openStream fault =>
      show Serial (s.open fault)
      unfold State.open
      split
      · exact h.congr rfl rfl
      · exact h
  | reRead fault =>
      show Serial (s.answerReRead fault)
      unfold State.answerReRead
      split
      · split
        · exact h.congr rfl rfl
        · exact h
      · exact h
  | poll =>
      show Serial (s.pollStream channel)
      unfold State.pollStream
      split
      · split
        · exact h.congr rfl rfl
        · exact h.congr rfl rfl
      · exact h

theorem serial_init (content : PaymentStatusSnapshot) : Serial (.init content : State ρ) where
  ascend := List.Pairwise.nil
  newest := by
    intro publisher item hitem
    exact absurd hitem (by simp [State.init])
  alone := by
    intro publisher publisher' item item' hitem
    exact absurd hitem (by simp [State.init])

theorem tails_ascend (hinv : Inv channel s) (h : Serial s) : TailsAscend s := by
  have htails : (tails s.emitted).Pairwise fun item item' => item.version ≤ item'.version :=
    h.ascend.sublist (tails_published hinv)
  unfold tails at htails
  rw [List.pairwise_map, List.pairwise_filter] at htails
  apply htails.imp
  intro e e' hordered hsource hsource'
  exact hordered (decide_eq_true hsource) (decide_eq_true hsource')

/-- The last snapshot published is the newest. -/
theorem caught_up_newest (hinv : Inv channel s) (h : Serial s) (hdrained : Drained channel s)
    {item : Versioned} (hitem : item ∈ s.published) : CaughtUp s item := by
  have hnil : s.published ≠ [] := List.ne_nil_of_mem hitem
  have hnewest : item.version ≤ (s.published.getLast hnil).version :=
    h.ascend.rel_getLast_of_rel_getLast_getLast hitem (Nat.le_refl _)
  obtain ⟨e, hemitted, hnewer⟩ :=
    caught_up_last hinv hdrained (List.getLast?_eq_some_getLast hnil)
  exact ⟨e, hemitted, Nat.le_trans hnewest hnewer⟩

end Invariant

/-! ## Whole runs -/

section Runs

variable {ρ : Type}

/-- What holds however publishers interleave. -/
structure Orderly (channel : BroadcastChannel Versioned ρ) (s : State ρ) : Prop where
  reReads : ReReadsNewest s
  tails : TailsPublished s
  caughtUp : Drained channel s → ∀ item, s.published.getLast? = some item → CaughtUp s item

/-- What holds while one publishes at a time. -/
structure SeriallyOrderly (channel : BroadcastChannel Versioned ρ) (s : State ρ) : Prop where
  tails : TailsAscend s
  caughtUp : Drained channel s → ∀ item ∈ s.published, CaughtUp s item

/-- A stream goes back to an older version only from a re-read to its tail, or where its tail
was published so; once drained it has told what was published last, which is the newest if
publishers take turns. -/
theorem emitted_order (channel : BroadcastChannel Versioned ρ)
    (lawful : channel.Lawful channelCapacity) (content : PaymentStatusSnapshot)
    (as : List Action) :
    Orderly channel (run (step channel) (.init content) as) ∧
      (Along (step channel) (fun s a => exclusive s a = true) (.init content) as →
        SeriallyOrderly channel (run (step channel) (.init content) as)) := by
  have hkeeps : ∀ s a, Inv channel s → Inv channel (step channel s a) :=
    fun _ a h => inv_step lawful h a
  have hinv : Inv channel (run (step channel) (.init content) as) :=
    run_invariant hkeeps (inv_init content) as
  refine ⟨⟨hinv.reReads, tails_published hinv,
    fun hdrained _ hlast => caught_up_last hinv hdrained hlast⟩, fun hexclusive => ?_⟩
  have hstep : ∀ s a, (Inv channel s ∧ Serial s) → exclusive s a = true →
      Inv channel (step channel s a) ∧ Serial (step channel s a) :=
    fun s a h hturn => ⟨inv_step lawful h.1 a, serial_step h.1 h.2 a hturn⟩
  obtain ⟨_, hserial⟩ :=
    run_invariant_along hstep ⟨inv_init content, serial_init content⟩ hexclusive
  exact ⟨tails_ascend hinv hserial,
    fun hdrained _ hitem => caught_up_newest hinv hserial hdrained hitem⟩

end Runs

/-! ## Told an older state -/

/-- A payment seen in the mempool, after some reorgs. -/
def sample (reorgCount : UInt32) : PaymentStatusSnapshot where
  paymentId := ⟨"p"⟩
  status := .broadcast
  intentPosture := .unverified
  broadcastOutcome := none
  settledAtUnixSeconds := none
  confirmationCount := some 0
  minedBlockHeight := none
  reorgCount := reorgCount
  settled := false

/-- Runs of the payment on the channel that is written out. -/
def runSample (as : List Action) : State (Receiver Versioned) :=
  run (step (ringChannel channelCapacity)) (.init (sample 0)) as

/-- In the run one publishes at a time. -/
def TakesTurns (as : List Action) : Prop :=
  Along (step (ringChannel channelCapacity)) (fun s a => exclusive s a = true)
    (.init (sample 0)) as

def opening : List Action := [.probe none, .subscribe, .openStream none, .poll]

/-- Taking turns, two publishers are told about in order. -/
def inTurn : List Action :=
  opening ++ [.write (sample 1), .read 1, .publish 1, .write (sample 2), .read 2, .publish 2,
    .poll, .poll]

theorem emitted_order_inTurn :
    TakesTurns inTurn ∧
      (runSample inTurn).emitted.map (fun e => e.item.version) = [0, 1, 2] ∧
      SeriallyOrderly (ringChannel channelCapacity) (runSample inTurn) := by
  have hexclusive : Along (step (ringChannel channelCapacity))
      (fun s a => exclusive s a = true) (.init (sample 0)) inTurn := by
    decide
  refine ⟨hexclusive, rfl, ?_⟩
  exact (emitted_order (ringChannel channelCapacity) (ringChannel_lawful channelCapacity)
    (sample 0) inTurn).2 hexclusive

/-- The publisher that read first publishes last. -/
def overlapped : List Action :=
  opening ++ [.write (sample 1), .read 1, .write (sample 2), .read 2, .publish 2, .publish 1,
    .poll, .poll]

/-- The head is read after a snapshot that is published behind it. -/
def behindHead : List Action :=
  [.probe none, .subscribe, .write (sample 1), .read 1, .write (sample 2), .openStream none,
    .publish 1, .poll, .poll]

def NeverBack {ρ : Type} (s : State ρ) : Prop :=
  s.emitted.Pairwise fun e e' => e.item.version ≤ e'.item.version

theorem told_older_state :
    (¬ NeverBack (runSample overlapped) ∧
      Drained (ringChannel channelCapacity) (runSample overlapped) ∧
      (runSample overlapped).readers.entries = [] ∧
      ∃ item ∈ (runSample overlapped).published, ¬ CaughtUp (runSample overlapped) item) ∧
    TakesTurns behindHead ∧ ¬ NeverBack (runSample behindHead) := by
  have hoverlapped : (runSample overlapped).emitted =
      [⟨.head, ⟨0, sample 0⟩⟩, ⟨.tail, ⟨2, sample 2⟩⟩, ⟨.tail, ⟨1, sample 1⟩⟩] := rfl
  have hbehind : (runSample behindHead).emitted =
      [⟨.head, ⟨2, sample 2⟩⟩, ⟨.tail, ⟨1, sample 1⟩⟩] := rfl
  have hturns : Along (step (ringChannel channelCapacity))
      (fun s a => exclusive s a = true) (.init (sample 0)) behindHead := by
    decide
  refine ⟨⟨?_, ⟨_, rfl, rfl, rfl, rfl, rfl, rfl⟩, rfl, ⟨2, sample 2⟩, List.mem_cons_self, ?_⟩,
    hturns, ?_⟩
  · unfold NeverBack
    rw [hoverlapped]
    decide
  · unfold CaughtUp
    rw [hoverlapped]
    simp
  · unfold NeverBack
    rw [hbehind]
    decide

end Zpay.X402.Delivery
