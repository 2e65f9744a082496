import Zpay.Data.Table
import Zpay.Machine.Run

/-!
# The single-use access-token ledger

One row per access-token `jti`: `pending` from the moment a request reserves
it until the signed payload is committed, `completed` from then on.  `reserve`
is the only operation that answers; a pending row older than the TTL is handed
to the next identical reserve, and no row says who reserved it.

The operations are the statements the source runs, each inside its transaction
or lock, so one call is one atomic step on the table.

## Main results

* `reserve_fresh` — the two ways a reserve is answered `fresh`: no row, or an
  expired pending row of the same intent, which it then stamps anew.
* `reserve_frame`, `commit_frame`, `release_frame` — rows of other tokens.
* `reserve_keeps`, `commit_keeps` — what happens to the token's own row.
-/

open Zpay.Data

namespace Zpay.Wallet

/-! ## Rows and answers -/

/-- A fee or amount on the wire. -/
structure AmountWire where
  currency : String
  value : String
  unit : String
  deriving DecidableEq, Repr

/-- `signed_payload` envelope; its expiry is always a block height and its
metadata is always null. -/
structure SignedPayloadWire where
  format : String
  bytes : String
  txId : String
  fee : AmountWire
  expiresAt : UInt32
  deriving DecidableEq, Repr

structure SignPaymentResponse where
  signedPayload : SignedPayloadWire
  deriving DecidableEq, Repr

/-- The JSON form of a response, as `serde_json` writes and reads it. -/
structure PayloadCodec where
  toJson : SignPaymentResponse → Except String String
  fromJson : String → Except String SignPaymentResponse

/-- The `CHECK (state IN ('pending', 'completed'))` column. -/
inductive RowState
  | pending
  | completed
  deriving DecidableEq, Repr

/-- One `usage_ledger` row; the key is the `jti`. -/
structure LedgerRow where
  intentHash : String
  state : RowState
  responseJson : Option String
  reservedAtMs : Int
  deriving DecidableEq, Repr

abbrev UsageLedger := Table String LedgerRow

/-- Outcome of reserving an access-token `jti` before signing. -/
inductive Reservation
  | fresh
  | completed (response : SignPaymentResponse)
  | intentConflict
  | pending
  deriving DecidableEq, Repr

/-- The errors a ledger operation reports after the ledger was opened. -/
inductive LedgerError
  | statement (reason : String)
  | rowMalformed (reason : String)
  deriving DecidableEq, Repr

def LedgerError.display : LedgerError → String
  | .statement reason => "ledger statement failed: " ++ reason
  | .rowMalformed reason => "ledger row malformed: " ++ reason

/-- `PENDING_RESERVATION_TTL` in milliseconds. -/
def pendingReservationTtlMs : Int := 120000

/-- `i64::saturating_sub`. -/
def saturatingSub (a b : Int) : Int := max (-2 ^ 63) (min (2 ^ 63 - 1) (a - b))

/-! ## Operations -/

section Operations

variable (codec : PayloadCodec)

/-- An expired pending reservation, which a later reserve may take over. -/
def LedgerRow.reclaimable (row : LedgerRow) (intentHash : String) (nowMs : Int) : Bool :=
  row.state == .pending && row.intentHash == intentHash &&
    decide (pendingReservationTtlMs ≤ saturatingSub nowMs row.reservedAtMs)

/-- Classify an existing row against the reserving intent hash, reclaiming an
expired pending reservation in place. -/
def classifyExisting (ledger : UsageLedger) (jti intentHash : String) (nowMs : Int)
    (row : LedgerRow) : Except LedgerError Reservation × UsageLedger :=
  match row.state with
  | .completed =>
      if row.intentHash ≠ intentHash then (.ok .intentConflict, ledger)
      else
        match row.responseJson with
        | none => (.error (.rowMalformed
            ("completed jti " ++ jti ++ " has no stored payload")), ledger)
        | some json =>
            match codec.fromJson json with
            | .error err => (.error (.rowMalformed
                ("stored payload for jti " ++ jti ++ " did not parse: " ++ err)), ledger)
            | .ok response => (.ok (.completed response), ledger)
  | .pending =>
      if row.intentHash ≠ intentHash then (.ok .intentConflict, ledger)
      else if pendingReservationTtlMs ≤ saturatingSub nowMs row.reservedAtMs then
        (.ok .fresh, ledger.insert jti { row with reservedAtMs := nowMs })
      else (.ok .pending, ledger)

/-- `INSERT … ON CONFLICT DO NOTHING`, then the classification of the row that
was there, in one immediate transaction. -/
def reserveAt (ledger : UsageLedger) (jti intentHash : String) (nowMs : Int) :
    Except LedgerError Reservation × UsageLedger :=
  match ledger.lookup jti with
  | none => (.ok .fresh, ledger.insert jti
      { intentHash, state := .pending, responseJson := none, reservedAtMs := nowMs })
  | some row => classifyExisting codec ledger jti intentHash nowMs row

/-- Upsert of the completed row; a row already there keeps its reservation
stamp. -/
def commit (ledger : UsageLedger) (jti intentHash : String)
    (response : SignPaymentResponse) (nowMs : Int) :
    Except LedgerError Unit × UsageLedger :=
  match codec.toJson response with
  | .error err => (.error (.statement ("signed payload did not serialize: " ++ err)), ledger)
  | .ok json =>
      let reservedAtMs := ((ledger.lookup jti).map LedgerRow.reservedAtMs).getD nowMs
      (.ok (), ledger.insert jti
        { intentHash, state := .completed, responseJson := some json, reservedAtMs })

/-- `DELETE … WHERE jti = ? AND state = 'pending'`. -/
def release (ledger : UsageLedger) (jti : String) : Except LedgerError Unit × UsageLedger :=
  match ledger.lookup jti with
  | some { state := .pending, .. } => (.ok (), ledger.erase jti)
  | _ => (.ok (), ledger)

end Operations

/-! ## What the operations do to a row -/

section Rows

variable {codec : PayloadCodec} {ledger : UsageLedger} {jti intentHash : String} {nowMs : Int}

/-- A reserve is answered `fresh` on an unseen token and on an expired pending
row of the same intent, and in no other case. -/
theorem reserve_fresh :
    (reserveAt codec ledger jti intentHash nowMs).1 = .ok .fresh ↔
      ledger.lookup jti = none ∨
      ∃ row, ledger.lookup jti = some row ∧ row.reclaimable intentHash nowMs = true := by
  unfold reserveAt
  cases hrow : ledger.lookup jti with
  | none => simp
  | some row =>
      simp only [reduceCtorEq, Option.some.injEq, false_or, exists_eq_left',
        LedgerRow.reclaimable, classifyExisting]
      cases hstate : row.state with
      | completed =>
          by_cases hintent : row.intentHash = intentHash
          · cases row.responseJson with
            | none => simp [hintent]
            | some json => cases hjson : codec.fromJson json <;> simp [hintent, hjson]
          · simp [hintent]
      | pending =>
          by_cases hintent : row.intentHash = intentHash
          · by_cases hexpired : pendingReservationTtlMs ≤ saturatingSub nowMs row.reservedAtMs
            · simp [hintent, hexpired]
            · simp [hintent, hexpired]
          · simp [hintent]

/-- The row a reserve leaves under its token: a new pending row when there was
none, the old one with perhaps another stamp when there was. -/
theorem reserve_keeps (codec : PayloadCodec) (ledger : UsageLedger)
    (jti intentHash : String) (nowMs : Int) :
    ∃ row, (reserveAt codec ledger jti intentHash nowMs).2.lookup jti = some row ∧
      (ledger.lookup jti = none → row.state = .pending ∧ row.intentHash = intentHash) ∧
      ∀ old, ledger.lookup jti = some old →
        row.state = old.state ∧ row.intentHash = old.intentHash ∧
          row.responseJson = old.responseJson := by
  unfold reserveAt
  cases hrow : ledger.lookup jti with
  | none => exact ⟨_, AList.lookup_insert _, fun _ => ⟨rfl, rfl⟩, by simp⟩
  | some old =>
      have hsame : ∀ old', some old = some old' → old.state = old'.state ∧
          old.intentHash = old'.intentHash ∧ old.responseJson = old'.responseJson := by
        rintro _ ⟨rfl⟩
        exact ⟨rfl, rfl, rfl⟩
      simp only [classifyExisting]
      split
      · split
        · exact ⟨old, hrow, by simp, hsame⟩
        · split
          · exact ⟨old, hrow, by simp, hsame⟩
          · split
            · exact ⟨old, hrow, by simp, hsame⟩
            · exact ⟨old, hrow, by simp, hsame⟩
      · split
        · exact ⟨old, hrow, by simp, hsame⟩
        · split
          · exact ⟨_, AList.lookup_insert _, by simp, hsame⟩
          · exact ⟨old, hrow, by simp, hsame⟩

theorem reserve_frame {other : String} (hne : other ≠ jti) :
    (reserveAt codec ledger jti intentHash nowMs).2.lookup other = ledger.lookup other := by
  unfold reserveAt classifyExisting
  repeat' split
  all_goals first | rfl | exact AList.lookup_insert_ne hne

theorem commit_frame {response : SignPaymentResponse} {other : String} (hne : other ≠ jti) :
    (commit codec ledger jti intentHash response nowMs).2.lookup other =
      ledger.lookup other := by
  unfold commit
  split
  · rfl
  · exact AList.lookup_insert_ne hne

/-- A commit never empties a row. -/
theorem commit_keeps {response : SignPaymentResponse} {row : LedgerRow}
    (hrow : ledger.lookup jti = some row) :
    ∃ row', (commit codec ledger jti intentHash response nowMs).2.lookup jti = some row' := by
  unfold commit
  split
  · exact ⟨row, hrow⟩
  · exact ⟨_, AList.lookup_insert _⟩

theorem release_frame {other : String} (hne : other ≠ jti) :
    (release ledger jti).2.lookup other = ledger.lookup other := by
  unfold release
  split
  · exact AList.lookup_erase_ne hne
  · rfl

end Rows

end Zpay.Wallet
