import Zpay.Wallet.UsageLedger

/-!
# Who owns a reservation

Sign requests over one ledger, as far as the ledger sees them: a request reserves
once, and commits or releases at most once, after its reserve was answered
`fresh`.  Reserves come at any times.

A pending row older than the TTL is granted to the next identical reserve, and the
request that lost it does not learn so.  The ledger keeps no owner: the statements
of a commit and of a release name the token alone, and a commit overwrites a
completed row as well.

## Main results

* `records_immutable_iff` — completed rows stay as they are, and nobody ends the
  reservation of another, exactly when no commit or release comes late.
* `late_commit` — a run of three requests' calls that does both.
-/

open Zpay.Data Zpay.Machine

namespace Zpay.Wallet.Reservations

/-! ## The machine -/

/-- A request that was told `fresh`, until it commits or releases. -/
structure Holder where
  jti : String
  intentHash : String
  deriving DecidableEq, Repr

/-- `granted` is the history: the request a token was last granted to. -/
structure State where
  ledger : UsageLedger
  holders : Table Nat Holder
  granted : Table String Nat
  nextRequest : Nat

def State.initial : State where
  ledger := ∅
  holders := ∅
  granted := ∅
  nextRequest := 0

inductive Action
  | reserve (jti intentHash : String) (nowMs : Int)
  | commit (request : Nat) (response : SignPaymentResponse) (nowMs : Int)
  | release (request : Nat)
  deriving DecidableEq

section Step

variable (codec : PayloadCodec)

/-- A new request reserves. -/
def State.reserve (s : State) (jti intentHash : String) (nowMs : Int) : State :=
  let (answer, ledger) := reserveAt codec s.ledger jti intentHash nowMs
  if answer = .ok .fresh then
    { ledger
      holders := AList.insert s.nextRequest { jti, intentHash } s.holders
      granted := AList.insert jti s.nextRequest s.granted
      nextRequest := s.nextRequest + 1 }
  else { s with ledger, nextRequest := s.nextRequest + 1 }

/-- A request that holds its token ends with this operation on the ledger. -/
def State.finish (s : State) (request : Nat)
    (operation : Holder → UsageLedger → UsageLedger) : State :=
  match s.holders.lookup request with
  | none => s
  | some holder =>
      { s with
        ledger := operation holder s.ledger
        holders := s.holders.erase request }

def commitHeld (response : SignPaymentResponse) (nowMs : Int) (holder : Holder)
    (ledger : UsageLedger) : UsageLedger :=
  (commit codec ledger holder.jti holder.intentHash response nowMs).2

def releaseHeld (holder : Holder) (ledger : UsageLedger) : UsageLedger :=
  (release ledger holder.jti).2

def step (s : State) : Action → State
  | .reserve jti intentHash nowMs => s.reserve codec jti intentHash nowMs
  | .commit request response nowMs => s.finish request (commitHeld codec response nowMs)
  | .release request => s.finish request releaseHeld

end Step

/-! ## The property -/

section Property

variable (codec : PayloadCodec)

/-- What is completed in `s` is unchanged in `t`, and a reserve of its intent is
answered alike at any times. -/
def CompletedKept (s t : State) : Prop :=
  ∀ jti row, s.ledger.lookup jti = some row → row.state = .completed →
    (∃ row', t.ledger.lookup jti = some row' ∧ row'.state = .completed ∧
      row'.intentHash = row.intentHash ∧ row'.responseJson = row.responseJson) ∧
    ∀ nowMs nowMs', (reserveAt codec t.ledger jti row.intentHash nowMs').1 =
      (reserveAt codec s.ledger jti row.intentHash nowMs).1

/-- The request whose commit or release this is. -/
def Action.ends : Action → Option Nat
  | .reserve .. => none
  | .commit request _ _ | .release request => some request

/-- A commit or release leaves a pending row alone that was last granted to
another request. -/
def OthersKept (s : State) (a : Action) : Prop :=
  ∀ request jti row owner, a.ends = some request → s.ledger.lookup jti = some row →
    row.state = .pending → s.granted.lookup jti = some owner → owner ≠ request →
    (step codec s a).ledger.lookup jti = some row

/-- A commit finds no row, the pending row of its own request, or what it would
write; a release finds no pending row but its own. -/
def Timely (s : State) (a : Action) : Prop :=
  ∀ request holder row, a.ends = some request → s.holders.lookup request = some holder →
    s.ledger.lookup holder.jti = some row →
    match a with
    | .reserve .. => True
    | .commit _ response _ =>
        ∀ json, codec.toJson response = .ok json →
          match row.state with
          | .pending => s.granted.lookup holder.jti = some request
          | .completed => row.intentHash = holder.intentHash ∧ row.responseJson = some json
    | .release _ => row.state = .pending → s.granted.lookup holder.jti = some request

end Property

variable {codec : PayloadCodec} {s t : State}

/-! ## Completed rows -/

/-- The answer for a completed row depends on its intent and response alone. -/
theorem reserve_answer_congr {ledger ledger' : UsageLedger} {jti : String} {row row' : LedgerRow}
    (hrow : ledger.lookup jti = some row) (hcompleted : row.state = .completed)
    (hrow' : ledger'.lookup jti = some row') (hcompleted' : row'.state = .completed)
    (hintent : row'.intentHash = row.intentHash) (hresponse : row'.responseJson = row.responseJson)
    (nowMs nowMs' : Int) :
    (reserveAt codec ledger' jti row.intentHash nowMs').1 =
      (reserveAt codec ledger jti row.intentHash nowMs).1 := by
  unfold reserveAt
  rw [hrow, hrow']
  simp only [classifyExisting, hcompleted, hcompleted', hintent, hresponse, ne_eq,
    not_true_eq_false, if_false]
  cases row.responseJson with
  | none => rfl
  | some json => cases hparsed : codec.fromJson json <;> simp [hparsed]

/-- Completed rows that stay are all it takes. -/
theorem completed_kept_of_rows
    (h : ∀ jti row, s.ledger.lookup jti = some row → row.state = .completed →
      ∃ row', t.ledger.lookup jti = some row' ∧ row'.state = .completed ∧
        row'.intentHash = row.intentHash ∧ row'.responseJson = row.responseJson) :
    CompletedKept codec s t := by
  intro jti row hrow hcompleted
  obtain ⟨row', hrow', hcompleted', hintent, hresponse⟩ := h jti row hrow hcompleted
  refine ⟨⟨row', hrow', hcompleted', hintent, hresponse⟩, ?_⟩
  exact reserve_answer_congr hrow hcompleted hrow' hcompleted' hintent hresponse

theorem completed_kept_refl (s : State) : CompletedKept codec s s := by
  apply completed_kept_of_rows
  intro jti row hrow hcompleted
  exact ⟨row, hrow, hcompleted, rfl, rfl⟩

theorem completed_kept_trans {s t u : State} (hst : CompletedKept codec s t)
    (htu : CompletedKept codec t u) : CompletedKept codec s u := by
  apply completed_kept_of_rows
  intro jti row hrow hcompleted
  obtain ⟨row', hrow', hcompleted', hintent, hresponse⟩ := (hst jti row hrow hcompleted).1
  obtain ⟨row'', hrow'', hcompleted'', hintent', hresponse'⟩ :=
    (htu jti row' hrow' hcompleted').1
  exact ⟨row'', hrow'', hcompleted'', hintent'.trans hintent, hresponse'.trans hresponse⟩

/-! ## What the actions do -/

/-- Every pending row was granted to somebody. -/
def Granted (s : State) : Prop :=
  ∀ jti row, s.ledger.lookup jti = some row → row.state = .pending →
    ∃ owner, s.granted.lookup jti = some owner

theorem reserve_ledger (jti intentHash : String) (nowMs : Int) :
    (s.reserve codec jti intentHash nowMs).ledger =
      (reserveAt codec s.ledger jti intentHash nowMs).2 := by
  unfold State.reserve
  simp only
  split <;> rfl

theorem reserve_granted (jti intentHash : String) (nowMs : Int) :
    (s.reserve codec jti intentHash nowMs).granted =
      if (reserveAt codec s.ledger jti intentHash nowMs).1 = .ok .fresh then
        AList.insert jti s.nextRequest s.granted
      else s.granted := by
  unfold State.reserve
  simp only
  split <;> rfl

/-- A reserve changes no completed row. -/
theorem reserve_completed_kept (jti intentHash : String) (nowMs : Int) :
    CompletedKept codec s (s.reserve codec jti intentHash nowMs) := by
  apply completed_kept_of_rows
  intro other row hrow hcompleted
  rw [reserve_ledger]
  by_cases hother : other = jti
  · subst hother
    obtain ⟨row', hrow', -, hsame⟩ := reserve_keeps codec s.ledger other intentHash nowMs
    obtain ⟨hstate, hintent, hresponse⟩ := hsame row hrow
    exact ⟨row', hrow', hstate.trans hcompleted, hintent, hresponse⟩
  · rw [reserve_frame hother]
    exact ⟨row, hrow, hcompleted, rfl, rfl⟩

theorem reserve_keeps_granted (jti intentHash : String) (nowMs : Int) (hs : Granted s) :
    Granted (s.reserve codec jti intentHash nowMs) := by
  intro other row hrow hpending
  rw [reserve_ledger] at hrow
  rw [reserve_granted]
  by_cases hfresh : (reserveAt codec s.ledger jti intentHash nowMs).1 = .ok .fresh
  · rw [if_pos hfresh, Table.lookup_insert_eq]
    by_cases hother : other = jti
    · rw [if_pos hother]
      exact ⟨s.nextRequest, rfl⟩
    · rw [if_neg hother]
      rw [reserve_frame hother] at hrow
      exact hs other row hrow hpending
  · rw [if_neg hfresh]
    by_cases hother : other = jti
    · subst hother
      cases hold : s.ledger.lookup other with
      | none => exact absurd (reserve_fresh.2 (.inl hold)) hfresh
      | some old =>
          obtain ⟨row', hrow', -, hsame⟩ := reserve_keeps codec s.ledger other intentHash nowMs
          rw [hrow, Option.some.injEq] at hrow'
          have hstate : row.state = old.state := by
            rw [hrow']
            exact (hsame old hold).1
          exact hs other old hold (hstate ▸ hpending)
    · rw [reserve_frame hother] at hrow
      exact hs other row hrow hpending

theorem finish_of_none {request : Nat} {operation : Holder → UsageLedger → UsageLedger}
    (h : s.holders.lookup request = none) : s.finish request operation = s := by
  unfold State.finish
  rw [h]

theorem finish_ledger {request : Nat} {holder : Holder}
    {operation : Holder → UsageLedger → UsageLedger}
    (h : s.holders.lookup request = some holder) :
    (s.finish request operation).ledger = operation holder s.ledger := by
  unfold State.finish
  rw [h]

theorem finish_granted {request : Nat} {operation : Holder → UsageLedger → UsageLedger} :
    (s.finish request operation).granted = s.granted := by
  unfold State.finish
  split <;> rfl

/-- What a commit writes. -/
theorem commit_held_ok {response : SignPaymentResponse} {nowMs : Int} {holder : Holder}
    {ledger : UsageLedger} {json : String} (h : codec.toJson response = .ok json) :
    ∃ reservedAtMs, (commitHeld codec response nowMs holder ledger).lookup holder.jti =
      some { intentHash := holder.intentHash, state := .completed, responseJson := some json,
             reservedAtMs } := by
  unfold commitHeld commit
  rw [h]
  exact ⟨_, AList.lookup_insert _⟩

theorem commit_held_error {response : SignPaymentResponse} {nowMs : Int} {holder : Holder}
    {ledger : UsageLedger} {err : String} (h : codec.toJson response = .error err) :
    commitHeld codec response nowMs holder ledger = ledger := by
  unfold commitHeld commit
  rw [h]

/-- What a release deletes. -/
theorem release_held_lookup (holder : Holder) (ledger : UsageLedger) :
    (releaseHeld holder ledger).lookup holder.jti =
      (ledger.lookup holder.jti).filter fun row => row.state == .completed := by
  unfold releaseHeld release
  cases hrow : ledger.lookup holder.jti with
  | none => exact hrow
  | some row =>
      obtain ⟨intentHash, state, responseJson, reservedAtMs⟩ := row
      cases state with
      | pending => exact AList.lookup_erase holder.jti ledger
      | completed => exact hrow

/-! ## One step -/

/-- A step that touches one token can change that token's completed row only. -/
theorem completed_kept_iff_own {jti : String}
    (hframe : ∀ other, other ≠ jti → t.ledger.lookup other = s.ledger.lookup other) :
    CompletedKept codec s t ↔
      ∀ row, s.ledger.lookup jti = some row → row.state = .completed →
        ∃ row', t.ledger.lookup jti = some row' ∧ row'.state = .completed ∧
          row'.intentHash = row.intentHash ∧ row'.responseJson = row.responseJson := by
  constructor
  · intro hkept row hrow hcompleted
    exact (hkept jti row hrow hcompleted).1
  · intro hown
    apply completed_kept_of_rows
    intro other row hrow hcompleted
    by_cases hother : other = jti
    · subst hother
      exact hown row hrow hcompleted
    · rw [hframe other hother]
      exact ⟨row, hrow, hcompleted, rfl, rfl⟩

theorem others_kept_iff_own {a : Action} {request : Nat} {jti : String}
    (hends : a.ends = some request)
    (hframe : ∀ other, other ≠ jti →
      (step codec s a).ledger.lookup other = s.ledger.lookup other) :
    OthersKept codec s a ↔
      ∀ row owner, s.ledger.lookup jti = some row → row.state = .pending →
        s.granted.lookup jti = some owner → owner ≠ request →
        (step codec s a).ledger.lookup jti = some row := by
  constructor
  · intro hkept row owner hrow hpending howner hne
    exact hkept request jti row owner hends hrow hpending howner hne
  · intro hown request' other row owner hends' hrow hpending howner hne
    rw [hends, Option.some.injEq] at hends'
    subst hends'
    by_cases hother : other = jti
    · subst hother
      exact hown row owner hrow hpending howner hne
    · rw [hframe other hother]
      exact hrow

/-- A step that leaves the ledger alone keeps everything. -/
theorem kept_of_ledger {a : Action} (h : (step codec s a).ledger = s.ledger) :
    CompletedKept codec s (step codec s a) ∧ OthersKept codec s a := by
  constructor
  · apply completed_kept_of_rows
    intro jti row hrow hcompleted
    rw [h]
    exact ⟨row, hrow, hcompleted, rfl, rfl⟩
  · intro _ jti row _ _ hrow _ _ _
    rw [h]
    exact hrow

theorem commit_timely_iff {request : Nat} {holder : Holder} {response : SignPaymentResponse}
    {nowMs : Int} (hs : Granted s) (hholder : s.holders.lookup request = some holder) :
    Timely codec s (.commit request response nowMs) ↔
      CompletedKept codec s (step codec s (.commit request response nowMs)) ∧
        OthersKept codec s (.commit request response nowMs) := by
  have hledger : (step codec s (.commit request response nowMs)).ledger =
      commitHeld codec response nowMs holder s.ledger := finish_ledger hholder
  cases hjson : codec.toJson response with
  | error err =>
      rw [commit_held_error hjson] at hledger
      refine iff_of_true ?_ (kept_of_ledger hledger)
      intro _ _ _ _ _ _ json hok
      rw [hjson] at hok
      exact absurd hok (by simp)
  | ok json =>
      have hwritten : ∃ reservedAtMs,
          (commitHeld codec response nowMs holder s.ledger).lookup holder.jti =
            some { intentHash := holder.intentHash, state := .completed,
                   responseJson := some json, reservedAtMs } := commit_held_ok hjson
      obtain ⟨reservedAtMs, hafter⟩ := hwritten
      have hframe : ∀ other, other ≠ holder.jti →
          (step codec s (.commit request response nowMs)).ledger.lookup other =
            s.ledger.lookup other := by
        intro other hother
        rw [hledger]
        exact commit_frame hother
      rw [completed_kept_iff_own hframe, others_kept_iff_own rfl hframe, hledger, hafter]
      constructor
      · intro htimely
        have hrow_timely := fun row hrow => htimely request holder row rfl hholder hrow json hjson
        constructor
        · intro row hrow hcompleted
          have hsame := hrow_timely row hrow
          rw [hcompleted] at hsame
          exact ⟨_, rfl, rfl, hsame.1.symm, hsame.2.symm⟩
        · intro row owner hrow hpending howner hne
          have hown := hrow_timely row hrow
          rw [hpending] at hown
          exact absurd (Option.some.inj (howner.symm.trans hown)) hne
      · rintro ⟨hcompleted, hothers⟩ request' holder' row hends hholder' hrow json' hjson'
        cases hends
        rw [hholder, Option.some.injEq] at hholder'
        subst hholder'
        rw [hjson, Except.ok.injEq] at hjson'
        subst hjson'
        cases hstate : row.state with
        | pending =>
            obtain ⟨owner, howner⟩ := hs holder.jti row hrow hstate
            by_cases hown : owner = request
            · rw [← hown]
              exact howner
            · have hsame := hothers row owner hrow hstate howner hown
              rw [Option.some.injEq] at hsame
              rw [← hsame] at hstate
              exact absurd hstate (by simp)
        | completed =>
            obtain ⟨row', hrow', -, hintent, hresponse⟩ := hcompleted row hrow hstate
            rw [Option.some.injEq] at hrow'
            subst hrow'
            exact ⟨hintent.symm, hresponse.symm⟩

theorem release_timely_iff {request : Nat} {holder : Holder} (hs : Granted s)
    (hholder : s.holders.lookup request = some holder) :
    Timely codec s (.release request) ↔
      CompletedKept codec s (step codec s (.release request)) ∧
        OthersKept codec s (.release request) := by
  have hledger : (step codec s (.release request)).ledger = releaseHeld holder s.ledger :=
    finish_ledger hholder
  have hframe : ∀ other, other ≠ holder.jti →
      (step codec s (.release request)).ledger.lookup other = s.ledger.lookup other := by
    intro other hother
    rw [hledger]
    exact release_frame hother
  rw [completed_kept_iff_own hframe, others_kept_iff_own rfl hframe, hledger, release_held_lookup]
  constructor
  · intro htimely
    constructor
    · intro row hrow hcompleted
      rw [hrow]
      exact ⟨row, by simp [hcompleted], hcompleted, rfl, rfl⟩
    · intro row owner hrow hpending howner hne
      have hown := htimely request holder row rfl hholder hrow hpending
      exact absurd (Option.some.inj (howner.symm.trans hown)) hne
  · rintro ⟨-, hothers⟩ request' holder' row hends hholder' hrow hpending
    cases hends
    rw [hholder, Option.some.injEq] at hholder'
    subst hholder'
    obtain ⟨owner, howner⟩ := hs holder.jti row hrow hpending
    by_cases hown : owner = request
    · rw [← hown]
      exact howner
    · have hsame := hothers row owner hrow hpending howner hown
      rw [hrow, Option.filter_eq_some_iff] at hsame
      exact absurd hsame.2 (by simp [hpending])

/-- A request that holds nothing has nothing to be late for. -/
theorem timely_iff_of_none {request : Nat} {a : Action}
    {operation : Holder → UsageLedger → UsageLedger}
    (hends : a.ends = some request) (hstep : step codec s a = s.finish request operation)
    (hholder : s.holders.lookup request = none) :
    Timely codec s a ↔ CompletedKept codec s (step codec s a) ∧ OthersKept codec s a := by
  have hledger : (step codec s a).ledger = s.ledger := by
    rw [hstep, finish_of_none hholder]
  refine iff_of_true ?_ (kept_of_ledger hledger)
  intro other holder _ hother hheld
  have hsame : request = other := Option.some.inj (hends.symm.trans hother)
  rw [← hsame, hholder] at hheld
  exact absurd hheld (by simp)

/-- An action keeps completed rows and the reservations of others exactly when it
is timely. -/
theorem timely_iff (hs : Granted s) (a : Action) :
    Timely codec s a ↔ CompletedKept codec s (step codec s a) ∧ OthersKept codec s a := by
  cases a with
  | reserve jti intentHash nowMs =>
      have hnone : ∀ request, (Action.reserve jti intentHash nowMs).ends ≠ some request := by
        simp [Action.ends]
      refine iff_of_true (fun request _ _ hends => absurd hends (hnone request)) ?_
      exact ⟨reserve_completed_kept jti intentHash nowMs,
        fun request _ _ _ hends => absurd hends (hnone request)⟩
  | commit request response nowMs =>
      cases hholder : s.holders.lookup request with
      | none => exact timely_iff_of_none rfl rfl hholder
      | some holder => exact commit_timely_iff hs hholder
  | release request =>
      cases hholder : s.holders.lookup request with
      | none => exact timely_iff_of_none rfl rfl hholder
      | some holder => exact release_timely_iff hs hholder

/-- A commit makes no row pending. -/
theorem commit_held_pending {response : SignPaymentResponse} {nowMs : Int} {holder : Holder}
    {ledger : UsageLedger} {jti : String} {row : LedgerRow}
    (hrow : (commitHeld codec response nowMs holder ledger).lookup jti = some row)
    (hpending : row.state = .pending) : ledger.lookup jti = some row := by
  by_cases hjti : jti = holder.jti
  · subst hjti
    cases hjson : codec.toJson response with
    | error err =>
        rw [commit_held_error hjson] at hrow
        exact hrow
    | ok json =>
        have hwritten : ∃ reservedAtMs,
            (commitHeld codec response nowMs holder ledger).lookup holder.jti =
              some { intentHash := holder.intentHash, state := .completed,
                     responseJson := some json, reservedAtMs } := commit_held_ok hjson
        obtain ⟨reservedAtMs, hafter⟩ := hwritten
        rw [hafter, Option.some.injEq] at hrow
        rw [← hrow] at hpending
        exact absurd hpending (by simp)
  · have hframe : (commitHeld codec response nowMs holder ledger).lookup jti =
        ledger.lookup jti := commit_frame hjti
    rw [← hframe]
    exact hrow

theorem release_held_pending {holder : Holder} {ledger : UsageLedger} {jti : String}
    {row : LedgerRow} (hrow : (releaseHeld holder ledger).lookup jti = some row) :
    ledger.lookup jti = some row := by
  by_cases hjti : jti = holder.jti
  · subst hjti
    rw [release_held_lookup, Option.filter_eq_some_iff] at hrow
    exact hrow.1
  · have hframe : (releaseHeld holder ledger).lookup jti = ledger.lookup jti :=
      release_frame hjti
    rw [← hframe]
    exact hrow

/-- So the end of a request needs no new grant. -/
theorem finish_keeps_granted {request : Nat} {operation : Holder → UsageLedger → UsageLedger}
    (hoperation : ∀ holder jti row, (operation holder s.ledger).lookup jti = some row →
      row.state = .pending → s.ledger.lookup jti = some row)
    (hs : Granted s) : Granted (s.finish request operation) := by
  intro jti row hrow hpending
  rw [finish_granted]
  cases hholder : s.holders.lookup request with
  | none =>
      rw [finish_of_none hholder] at hrow
      exact hs jti row hrow hpending
  | some holder =>
      rw [finish_ledger hholder] at hrow
      exact hs jti row (hoperation holder jti row hrow hpending) hpending

theorem granted_step (s : State) (a : Action) (hs : Granted s) : Granted (step codec s a) := by
  cases a with
  | reserve jti intentHash nowMs => exact reserve_keeps_granted jti intentHash nowMs hs
  | commit request response nowMs =>
      exact finish_keeps_granted (fun _ _ _ hrow hpending => commit_held_pending hrow hpending) hs
  | release request =>
      exact finish_keeps_granted (fun _ _ _ hrow _ => release_held_pending hrow) hs

/-! ## Whole runs -/

/-- In a run, completed rows never change, every reserve of their intent gets the
same answer, and no commit or release ends the reservation of another request, if
and only if every commit and release is timely. -/
theorem records_immutable_iff (codec : PayloadCodec) (as : List Action) :
    ((∀ i j, i ≤ j → CompletedKept codec (run (step codec) .initial (as.take i))
        (run (step codec) .initial (as.take j))) ∧
      Along (step codec) (OthersKept codec) .initial as) ↔
    Along (step codec) (Timely codec) .initial as := by
  have hinitial : Granted .initial := by
    intro jti row hrow
    exact absurd hrow (by simp [State.initial])
  rw [related_iff_along completed_kept_refl completed_kept_trans, ← along_and]
  exact (along_congr granted_step (fun s a hs => timely_iff hs a) hinitial as).symm

/-! ### A request that lost its reservation -/

def signedResponse (bytes : String) : SignPaymentResponse where
  signedPayload :=
    { format := "pczt", bytes, txId := "t1",
      fee := { currency := "zec", value := "1", unit := "zat" }, expiresAt := 40 }

/-- Stores the bytes of the payload. -/
def bytesCodec : PayloadCodec where
  toJson response := .ok response.signedPayload.bytes
  fromJson json := .ok (signedResponse json)

/-- The second request takes the token over after the TTL; then both commit. -/
def takenOver : List Action :=
  [.reserve "j" "h" 0, .reserve "j" "h" 120000, .commit 0 (signedResponse "a") 120001,
    .commit 1 (signedResponse "b") 120002]

def takenOverState (n : Nat) : State :=
  run (step bytesCodec) .initial (takenOver.take n)

/-- The first commit ends the second request's reservation, and the second commit
replaces the completed response. -/
theorem late_commit :
    ¬ OthersKept bytesCodec (takenOverState 2) (.commit 0 (signedResponse "a") 120001) ∧
      ((takenOverState 3).ledger.lookup "j").any (fun row =>
        row.state == .completed && row.responseJson == some "a") = true ∧
      ((takenOverState 4).ledger.lookup "j").any (fun row =>
        row.state == .completed && row.responseJson == some "b") = true ∧
      ¬ CompletedKept bytesCodec (takenOverState 3) (takenOverState 4) := by
  have hfirst : ((takenOverState 3).ledger.lookup "j").any (fun row =>
      row.state == .completed && row.responseJson == some "a") = true := by decide
  have hsecond : ((takenOverState 4).ledger.lookup "j").any (fun row =>
      row.state == .completed && row.responseJson == some "b") = true := by decide
  refine ⟨?_, hfirst, hsecond, ?_⟩
  · intro hkept
    have hpending : (takenOverState 2).ledger.lookup "j" =
        some { intentHash := "h", state := .pending, responseJson := none,
               reservedAtMs := 120000 } := by decide
    have howner : (takenOverState 2).granted.lookup "j" = some 1 := by decide
    have hsame := hkept 0 "j" _ 1 rfl hpending rfl howner (by decide)
    exact absurd hsame (by decide)
  · intro hkept
    obtain ⟨row, hrow, hstored⟩ := (Option.any_eq_true _ _).1 hfirst
    obtain ⟨row', hrow', hreplaced⟩ := (Option.any_eq_true _ _).1 hsecond
    rw [Bool.and_eq_true, beq_iff_eq, beq_iff_eq] at hstored hreplaced
    obtain ⟨⟨row'', hrow'', -, -, hresponse⟩, -⟩ := hkept "j" row hrow hstored.1
    rw [hrow', Option.some.injEq] at hrow''
    rw [← hrow'', hreplaced.2, hstored.2] at hresponse
    exact absurd hresponse (by decide)

end Zpay.Wallet.Reservations
