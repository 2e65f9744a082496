import Mathlib.Data.String.Basic
import Zpay.Core.Status

/-!
# The settlement ledger as a store

`SettlementLedgerStore` with its in-memory implementation: what each operation
answers, beside what it makes of the ledger.  The wall clock of a call goes with
it, for the store that reads one.

Strings are ordered by code points, as the bytes of their UTF-8 forms are.
-/

open Zpay.Data

namespace Zpay.Core

/-- `SettlementLedgerStore`. -/
inductive LedgerOperation
  | record (paymentId : PaymentId) (entry : SettlementLedgerEntry)
  | find (paymentId : PaymentId)
  | entryCount
  | successKindTransactions
  | listRecent (limit : UInt32) (payeeId : Option PayeeId)
  | recordConfirmation (paymentId : PaymentId) (confirmationCount : UInt32)
      (minedBlockHeight : Option Nat)
  | downgradeOnReorg (paymentId : PaymentId) (reorgedAtUnixSeconds : Int)
  | downgradeReorgedRange (revertedStartHeight revertedEndHeight : Nat)
      (reorgedAtUnixSeconds : Int)
  deriving DecidableEq

structure LedgerCall where
  operation : LedgerOperation
  nowUnixSeconds : Int
  deriving DecidableEq

inductive LedgerAnswer
  | recorded
  | found (entry : Option SettlementLedgerEntry)
  | count (entries : Nat)
  | transactions (rows : List SuccessKindRow)
  | recent (rows : List (PaymentId × SettlementLedgerEntry))
  | updated (found : Bool)
  | downgraded (paymentIds : List PaymentId)
  deriving DecidableEq

/-- The same answer, up to the order of an unordered list. -/
def LedgerAnswer.Same : LedgerAnswer → LedgerAnswer → Prop
  | .transactions rows, .transactions rows' => rows.Perm rows'
  | .downgraded paymentIds, .downgraded paymentIds' => paymentIds.Perm paymentIds'
  | answer, answer' => answer = answer'

/-- By payment id, which is a ULID, the newest first. -/
def newestFirst {ν : Type*} (rows : List (PaymentId × ν)) : List (PaymentId × ν) :=
  descending (fun row => row.1.value) rows

theorem PaymentId.value_injective : Function.Injective PaymentId.value := by
  intro a b hab
  cases a
  cases b
  exact congrArg PaymentId.mk hab

/-- The order does not look at the values. -/
theorem newestFirst_map {ν μ : Type*} (f : ν → μ) (rows : List (PaymentId × ν)) :
    (newestFirst rows).map (fun row => (row.1, f row.2)) =
      newestFirst (rows.map fun row => (row.1, f row.2)) :=
  descending_map rows fun _ => rfl

/-- Nor does it depend on how the rows were listed. -/
theorem newestFirst_eq_of_perm {ν : Type*} {rows rows' : List (PaymentId × ν)}
    (hperm : rows.Perm rows') (hnodup : (rows.map Prod.fst).Nodup) :
    newestFirst rows = newestFirst rows' := by
  have hkeys : (rows.map fun row => row.1.value).Nodup := by
    have hvalues := hnodup.map PaymentId.value_injective
    rw [List.map_map] at hvalues
    exact hvalues
  exact descending_eq_of_perm hperm hkeys

namespace SettlementLedger

def entryCount (ledger : SettlementLedger) : Nat := (Table.rows ledger).length

/-- The newest entries by payment id, perhaps of one payee. -/
def listRecent (ledger : SettlementLedger) (limit : UInt32) (payeeId : Option PayeeId) :
    List (PaymentId × SettlementLedgerEntry) :=
  (newestFirst ((Table.rows ledger).filter fun row =>
    payeeId.all fun wanted => decide (row.2.payeeId = wanted))).take limit.toNat

/-- The ids whose stored height lies in the range. -/
def reorgedIds (ledger : SettlementLedger) (revertedStartHeight revertedEndHeight : Nat) :
    List PaymentId :=
  ((Table.rows ledger).filter fun row =>
    row.2.minedWithin revertedStartHeight revertedEndHeight).map Prod.fst

def perform (ledger : SettlementLedger) (call : LedgerCall) :
    Except StoreError LedgerAnswer × SettlementLedger :=
  match call.operation with
  | .record paymentId entry => (.ok .recorded, ledger.record paymentId entry)
  | .find paymentId => (.ok (.found (ledger.find paymentId)), ledger)
  | .entryCount => (.ok (.count ledger.entryCount), ledger)
  | .successKindTransactions => (.ok (.transactions ledger.successKindTransactions), ledger)
  | .listRecent limit payeeId => (.ok (.recent (ledger.listRecent limit payeeId)), ledger)
  | .recordConfirmation paymentId confirmationCount minedBlockHeight =>
      (.ok (.updated (ledger.lookup paymentId).isSome),
        ledger.recordConfirmation paymentId confirmationCount minedBlockHeight)
  | .downgradeOnReorg paymentId reorgedAtUnixSeconds =>
      (.ok (.updated ((ledger.lookup paymentId).any fun entry => entry.minedBlockHeight.isSome)),
        ledger.downgradeOnReorg paymentId reorgedAtUnixSeconds)
  | .downgradeReorgedRange revertedStartHeight revertedEndHeight reorgedAtUnixSeconds =>
      (.ok (.downgraded (ledger.reorgedIds revertedStartHeight revertedEndHeight)),
        ledger.downgradeReorgedRange revertedStartHeight revertedEndHeight reorgedAtUnixSeconds)

end SettlementLedger

end Zpay.Core
