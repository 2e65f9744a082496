import Zpay.Core.LedgerTable
import Zpay.Machine.Simulation

/-!
# Two settlement ledgers, one behaviour

The in-memory ledger and the SQL table answer every sequence of operations alike.
A table represents a ledger when its rows decode to the ledger's entries; every
operation keeps that, and its answer can be read off either side.

The reorg counter of a row is not clamped in SQL, and reads as the ceiling once it
has passed it; the in-memory one stays there.

## Main results

* `row_to_entry_encode` — decoding a row undoes encoding it.
* `update_represents` — an `UPDATE` against the bulk rewrite of the map.
* `perform_represents` — every operation keeps the representation and answers alike.
* `ledgers_equivalent` — so does every sequence of operations.
-/

open Zpay.Data Zpay.Machine

namespace Zpay.Core

variable {ledger : SettlementLedger} {table : SettlementTable} {texts : SqlTexts}

/-! ## Ranges -/

/-- Heights and amounts fit a signed 64-bit column. -/
def SettlementLedgerEntry.InRange (entry : SettlementLedgerEntry) : Prop :=
  (∀ height ∈ entry.minedBlockHeight, height < 2 ^ 63) ∧ entry.amountZat.toNat < 2 ^ 63

def LedgerOperation.InRange : LedgerOperation → Prop
  | .record _ entry => entry.InRange
  | .recordConfirmation _ _ minedBlockHeight => ∀ height ∈ minedBlockHeight, height < 2 ^ 63
  | .downgradeReorgedRange revertedStartHeight revertedEndHeight _ =>
      revertedStartHeight < 2 ^ 63 ∧ revertedEndHeight < 2 ^ 63
  | .find _ | .entryCount | .successKindTransactions | .listRecent _ _ | .downgradeOnReorg _ _ =>
      True

theorem clampI64_of_lt {value : Nat} (h : value < 2 ^ 63) : clampI64 value = value := by
  unfold clampI64
  exact if_pos h

theorem readU32_value {raw : Int} (h : 0 ≤ raw) :
    (readU32 raw).toNat = min raw.toNat (2 ^ 32 - 1) := by
  unfold readU32
  by_cases hfits : raw < 2 ^ 32
  · rw [if_pos ⟨h, hfits⟩, UInt32.toNat_ofNat']
    omega
  · have hceiling : (UInt32.ofNat (2 ^ 32 - 1)).toNat = 2 ^ 32 - 1 := rfl
    rw [if_neg fun hboth => hfits hboth.2, hceiling]
    omega

theorem readU32_toNat (value : UInt32) : readU32 value.toNat = value := by
  have hbound := value.toNat_lt
  rw [← UInt32.toNat_inj, readU32_value (Int.natCast_nonneg _), Int.toNat_natCast]
  omega

/-- A counter that is not clamped reads like one that saturates. -/
theorem readU32_succ {raw : Int} (h : 0 ≤ raw) :
    readU32 (raw + 1) = saturatingAdd32 (readU32 raw) 1 := by
  rw [← UInt32.toNat_inj, saturating_succ_toNat, readU32_value h, readU32_value (by omega)]
  omega

/-! ## Rows and entries -/

/-- What every row of the table meets: the constraints, and no negative counter or
height. -/
structure SettlementRow.Sound (row : SettlementRow) : Prop where
  checked : row.checked = true
  counter : 0 ≤ row.reorgCount
  height : ∀ raw ∈ row.minedBlockHeight, 0 ≤ raw

theorem row_to_entry_eq_ok {row : SettlementRow} {entry : SettlementLedgerEntry} :
    rowToSettlementLedgerEntry row = .ok entry ↔
      decodeBroadcastOutcome row.broadcastOutcomeKind row.transactionId row.upstreamMessage =
        .ok entry.broadcastOutcome ∧ row.withOutcome entry.broadcastOutcome = entry := by
  unfold rowToSettlementLedgerEntry
  cases decodeBroadcastOutcome row.broadcastOutcomeKind row.transactionId row.upstreamMessage with
  | error err => simp [Except.map]
  | ok outcome =>
      rw [Except.map, Except.ok.injEq, Except.ok.injEq]
      constructor
      · intro heq
        subst heq
        exact ⟨rfl, rfl⟩
      · intro hboth
        rw [hboth.1]
        exact hboth.2

/-- Decoding undoes encoding. -/
theorem row_to_entry_encode {entry : SettlementLedgerEntry} (h : entry.InRange) :
    rowToSettlementLedgerEntry entry.toRow = .ok entry := by
  rw [row_to_entry_eq_ok]
  constructor
  · cases hout : entry.broadcastOutcome <;>
      simp [SettlementLedgerEntry.toRow, encodeBroadcastOutcome, decodeBroadcastOutcome, hout]
  · have hheight : (entry.minedBlockHeight.map clampI64).map readU64 = entry.minedBlockHeight := by
      cases hmined : entry.minedBlockHeight with
      | none => rfl
      | some height =>
          have hlt : height < 2 ^ 63 := h.1 height hmined
          rw [Option.map_some, Option.map_some, clampI64_of_lt hlt]
          rfl
    have hamount : UInt64.ofNat (readU64 (clampI64 entry.amountZat.toNat)) = entry.amountZat := by
      rw [clampI64_of_lt h.2]
      exact UInt64.ofNat_toNat
    have hread : ∀ value : Option UInt32,
        (value.map fun n => (n.toNat : Int)).map readU32 = value := by
      intro value
      cases value with
      | none => rfl
      | some value => rw [Option.map_some, Option.map_some, readU32_toNat]
    unfold SettlementRow.withOutcome SettlementLedgerEntry.toRow
    simp only [hheight, hamount, hread, readU32_toNat]

theorem toRow_sound (entry : SettlementLedgerEntry) : entry.toRow.Sound := by
  have hchecked : entry.toRow.checked = true := by
    cases hout : entry.broadcastOutcome <;>
      simp [SettlementRow.checked, SettlementRow.kindKnown, SettlementRow.outcomeColumns,
        SettlementRow.successKind, SettlementLedgerEntry.toRow, encodeBroadcastOutcome, hout]
  have hcounter : 0 ≤ entry.toRow.reorgCount := Int.natCast_nonneg _
  refine ⟨hchecked, hcounter, ?_⟩
  intro raw hraw
  obtain ⟨height, -, rfl⟩ := Option.map_eq_some_iff.1 hraw
  unfold clampI64
  split <;> omega

/-- What a confirmation writes reads as the confirmed entry. -/
theorem row_to_entry_confirmed {row : SettlementRow} {entry : SettlementLedgerEntry}
    {count : UInt32} {height : Option Nat} (checkedAt : Int)
    (hheight : ∀ h ∈ height, h < 2 ^ 63) (hrow : rowToSettlementLedgerEntry row = .ok entry) :
    rowToSettlementLedgerEntry (row.confirmed count height checkedAt) =
      .ok (entry.recordConfirmation count height) := by
  rw [row_to_entry_eq_ok] at hrow ⊢
  refine ⟨hrow.1, ?_⟩
  have hmined : ((height.map clampI64).or row.minedBlockHeight).map readU64 =
      height.or (row.minedBlockHeight.map readU64) := by
    cases height with
    | none => rfl
    | some h =>
        rw [Option.map_some, Option.some_or, Option.map_some, clampI64_of_lt (hheight h rfl)]
        rfl
  rw [← hrow.2]
  unfold SettlementRow.confirmed SettlementRow.withOutcome
    SettlementLedgerEntry.recordConfirmation
  simp only [hmined, Option.map_some, readU32_toNat]

theorem confirmed_sound {row : SettlementRow} (count : UInt32) (height : Option Nat)
    (checkedAt : Int) (h : row.Sound) : (row.confirmed count height checkedAt).Sound := by
  refine ⟨h.checked, h.counter, ?_⟩
  intro raw hraw
  rcases Option.or_eq_some_iff.1 hraw with hgiven | ⟨-, hkept⟩
  · obtain ⟨height, -, rfl⟩ := Option.map_eq_some_iff.1 hgiven
    unfold clampI64
    split <;> omega
  · exact h.height raw hkept

/-- What a downgrade writes reads as the downgraded entry. -/
theorem row_to_entry_downgraded {row : SettlementRow} {entry : SettlementLedgerEntry}
    (reorgedAt : Int) (hsound : row.Sound) (hmined : row.minedBlockHeight.isSome = true)
    (hrow : rowToSettlementLedgerEntry row = .ok entry) :
    rowToSettlementLedgerEntry (row.downgraded reorgedAt) =
      .ok (entry.downgradeOnReorg reorgedAt) := by
  rw [row_to_entry_eq_ok] at hrow ⊢
  rw [SettlementLedgerEntry.downgradeOnReorg_broadcastOutcome]
  refine ⟨hrow.1, ?_⟩
  obtain ⟨raw, hraw⟩ := Option.isSome_iff_exists.1 hmined
  have hheight : entry.minedBlockHeight = some (readU64 raw) := by
    rw [← hrow.2]
    show row.minedBlockHeight.map readU64 = _
    rw [hraw, Option.map_some]
  have hzero : readU32 0 = 0 := rfl
  unfold SettlementLedgerEntry.downgradeOnReorg
  rw [hheight, ← hrow.2]
  unfold SettlementRow.downgraded SettlementRow.withOutcome
  simp only [readU32_succ hsound.counter, Option.map_none, Option.map_some, hzero]

theorem downgraded_sound {row : SettlementRow} (reorgedAt : Int) (h : row.Sound) :
    (row.downgraded reorgedAt).Sound := by
  have hcounter : 0 ≤ row.reorgCount + 1 := by
    have := h.counter
    omega
  refine ⟨h.checked, hcounter, ?_⟩
  intro raw hraw
  exact absurd hraw (by simp [SettlementRow.downgraded])

/-! ## Representation -/

/-- Every row of the table is sound and decodes to the ledger's entry. -/
structure Represents (ledger : SettlementLedger) (table : SettlementTable) : Prop where
  sound : ∀ paymentId row, table.lookup paymentId = some row → row.Sound
  entries : ∀ paymentId, (table.lookup paymentId).map rowToSettlementLedgerEntry =
    (ledger.lookup paymentId).map .ok

theorem represents_empty : Represents ∅ ∅ where
  sound _ _ hrow := absurd hrow (by simp)
  entries _ := by simp

/-- Nothing but the lookups of the ledger matters. -/
theorem Represents.congr {ledger' : SettlementLedger} (h : Represents ledger table)
    (hsame : ∀ paymentId, ledger'.lookup paymentId = ledger.lookup paymentId) :
    Represents ledger' table where
  sound := h.sound
  entries paymentId := by rw [h.entries paymentId, hsame paymentId]

theorem Represents.row (h : Represents ledger table) {paymentId : PaymentId}
    {row : SettlementRow} (hrow : table.lookup paymentId = some row) :
    ∃ entry, ledger.lookup paymentId = some entry ∧
      rowToSettlementLedgerEntry row = .ok entry := by
  have hentries := h.entries paymentId
  rw [hrow, Option.map_some] at hentries
  obtain ⟨entry, hentry, hok⟩ := Option.map_eq_some_iff.1 hentries.symm
  exact ⟨entry, hentry, hok.symm⟩

/-- A condition on rows that is one on entries selects the same payments. -/
theorem selected_perm (h : Represents ledger table)
    {selects : PaymentId → SettlementRow → Bool} {p : PaymentId → SettlementLedgerEntry → Bool}
    (hselects : ∀ paymentId row entry, row.Sound → rowToSettlementLedgerEntry row = .ok entry →
      selects paymentId row = p paymentId entry) :
    (((Table.rows table).filter fun row => selects row.1 row.2).map fun row =>
        (row.1, rowToSettlementLedgerEntry row.2)).Perm
      (((Table.rows ledger).filter fun row => p row.1 row.2).map fun row =>
        (row.1, Except.ok row.2)) := by
  -- The condition as one on decoded rows, which both listings share.
  let q : PaymentId × Except StoreError SettlementLedgerEntry → Bool
    | (paymentId, .ok entry) => p paymentId entry
    | (_, .error _) => false
  have hrows : (Table.rows table).filter (fun row => selects row.1 row.2) =
      (Table.rows table).filter fun row => q (row.1, rowToSettlementLedgerEntry row.2) := by
    apply List.filter_congr
    intro row hin
    have hrow : table.lookup row.1 = some row.2 := (Table.mem_rows table row.1 row.2).1 hin
    obtain ⟨entry, -, hok⟩ := h.row hrow
    rw [hselects row.1 row.2 entry (h.sound row.1 row.2 hrow) hok, hok]
  have hperm := (Table.readRows_perm h.entries).filter q
  unfold Table.readRows at hperm
  rw [List.filter_map, List.filter_map] at hperm
  rw [hrows]
  exact hperm

/-- An `UPDATE` that is a rewrite of entries, against the same rewrite of the map. -/
theorem update_represents (h : Represents ledger table)
    {selects : PaymentId → SettlementRow → Bool} {p : PaymentId → SettlementLedgerEntry → Bool}
    {set : SettlementRow → SettlementRow} {f : SettlementLedgerEntry → SettlementLedgerEntry}
    (hselects : ∀ paymentId row entry, row.Sound → rowToSettlementLedgerEntry row = .ok entry →
      selects paymentId row = p paymentId entry)
    (hset : ∀ paymentId row entry, row.Sound → rowToSettlementLedgerEntry row = .ok entry →
      selects paymentId row = true → rowToSettlementLedgerEntry (set row) = .ok (f entry))
    (hsound : ∀ row : SettlementRow, row.Sound → (set row).Sound) :
    ∃ paymentIds table', table.update texts selects set = .ok (paymentIds, table') ∧
      paymentIds.Perm
        (((Table.rows ledger).filter fun row => p row.1 row.2).map Prod.fst) ∧
      Represents (Table.mapRows ledger fun paymentId entry =>
        if p paymentId entry then f entry else entry) table' := by
  have hchecked : ((Table.rows table).filter fun row => selects row.1 row.2).all
      (fun row => (set row.2).checked) = true := by
    rw [List.all_eq_true]
    intro row hin
    have hrow := (Table.mem_rows table row.1 row.2).1 (List.mem_filter.1 hin).1
    exact (hsound row.2 (h.sound row.1 row.2 hrow)).checked
  refine ⟨_, _, if_pos hchecked, ?_, ?_, ?_⟩
  · have hperm := (selected_perm h hselects).map Prod.fst
    rw [List.map_map, List.map_map] at hperm
    exact hperm
  · intro paymentId row' hrow'
    rw [Table.lookup_mapRows] at hrow'
    obtain ⟨row, hrow, rfl⟩ := Option.map_eq_some_iff.1 hrow'
    have hold := h.sound paymentId row hrow
    split
    · exact hsound row hold
    · exact hold
  · intro paymentId
    rw [Table.lookup_mapRows, Table.lookup_mapRows]
    cases hrow : table.lookup paymentId with
    | none =>
        have hentries := h.entries paymentId
        rw [hrow, Option.map_none] at hentries
        rw [Option.map_eq_none_iff.1 hentries.symm]
        rfl
    | some row =>
        obtain ⟨entry, hentry, hok⟩ := h.row hrow
        have hold := h.sound paymentId row hrow
        have hsame := hselects paymentId row entry hold hok
        rw [hentry, Option.map_some, Option.map_some, Option.map_some, Option.map_some]
        congr 1
        by_cases hselected : selects paymentId row = true
        · rw [if_pos hselected, if_pos (hsame ▸ hselected)]
          exact hset paymentId row entry hold hok hselected
        · rw [if_neg hselected, if_neg (hsame ▸ hselected)]
          exact hok

/-! ## Operations -/

/-- Both succeed, with the same answer. -/
def SameAnswer : Except StoreError LedgerAnswer → Except StoreError LedgerAnswer → Prop
  | .ok answer, .ok answer' => answer.Same answer'
  | _, _ => False

/-- The operation keeps the representation, and answers alike. -/
def Agrees (texts : SqlTexts) (ledger : SettlementLedger) (table : SettlementTable)
    (call : LedgerCall) : Prop :=
  SameAnswer (ledger.perform call).1 (table.perform texts call).1 ∧
    Represents (ledger.perform call).2 (table.perform texts call).2

variable {now : Int}

theorem agrees_record (h : Represents ledger table) {paymentId : PaymentId}
    {entry : SettlementLedgerEntry} (hentry : entry.InRange) :
    Agrees texts ledger table ⟨.record paymentId entry, now⟩ := by
  have hperform : table.perform texts ⟨.record paymentId entry, now⟩ =
      (.ok .recorded, AList.insert paymentId entry.toRow table) := by
    simp [SettlementTable.perform, SettlementTable.record, SettlementTable.upsert,
      (toRow_sound entry).checked, SettlementTable.answered, Except.map]
  unfold Agrees
  rw [hperform]
  refine ⟨rfl, ?_, ?_⟩
  · intro other row hrow
    rw [Table.lookup_insert_eq] at hrow
    split at hrow
    · rw [← Option.some.inj hrow]
      exact toRow_sound entry
    · exact h.sound other row hrow
  · intro other
    show _ = ((ledger.record paymentId entry).lookup other).map _
    rw [Table.lookup_insert_eq, SettlementLedger.lookup_record]
    by_cases hother : other = paymentId
    · rw [if_pos hother, if_pos hother, Option.map_some, Option.map_some,
        row_to_entry_encode hentry]
    · rw [if_neg hother, if_neg hother]
      exact h.entries other

theorem agrees_find (h : Represents ledger table) (paymentId : PaymentId) :
    Agrees texts ledger table ⟨.find paymentId, now⟩ := by
  refine ⟨?_, h⟩
  have hfound : table.find paymentId = .ok (ledger.find paymentId) := by
    have hentries := h.entries paymentId
    unfold SettlementTable.find SettlementLedger.find
    cases hrow : table.lookup paymentId with
    | none =>
        rw [hrow, Option.map_none] at hentries
        rw [Option.map_eq_none_iff.1 hentries.symm]
    | some row =>
        obtain ⟨entry, hentry, hok⟩ := h.row hrow
        rw [hentry]
        simp only [hok]
        rfl
  show SameAnswer _ ((table.find paymentId).map .found)
  rw [hfound]
  rfl

theorem agrees_entryCount (h : Represents ledger table) :
    Agrees texts ledger table ⟨.entryCount, now⟩ := by
  refine ⟨?_, h⟩
  have hlength := (Table.readRows_perm h.entries).length_eq
  unfold Table.readRows at hlength
  rw [List.length_map, List.length_map] at hlength
  show LedgerAnswer.count (Table.rows ledger).length = .count (Table.rows table).length
  rw [hlength]

/-! ### The poll's query -/

/-- The poll's row of a decoded row. -/
def pollRow : PaymentId × Except StoreError SettlementLedgerEntry → Option SuccessKindRow
  | (paymentId, .ok entry) =>
      entry.broadcastOutcome.transactionId.map fun transactionId =>
        { paymentId, transactionId, minedBlockHeight := entry.minedBlockHeight }
  | (_, .error _) => none

/-- A success kind decodes with its transaction id, and another kind to none. -/
theorem decoded_transaction_id {row : SettlementRow} {outcome : BroadcastOutcome}
    (h : decodeBroadcastOutcome row.broadcastOutcomeKind row.transactionId row.upstreamMessage =
      .ok outcome) :
    outcome.transactionId = (if row.successKind then row.transactionId else none) ∧
      (row.successKind = true → row.transactionId.isSome = true) := by
  unfold decodeBroadcastOutcome at h
  unfold SettlementRow.successKind
  split at h
  · next hkind =>
      split at h
      · next transactionId htransaction =>
          rw [Except.ok.injEq] at h
          simp [← h, BroadcastOutcome.transactionId, hkind, htransaction]
      · exact absurd h (by simp)
  · next haccepted =>
      split at h
      · next hkind =>
          split at h
          · next transactionId htransaction =>
              rw [Except.ok.injEq] at h
              simp [← h, BroadcastOutcome.transactionId, hkind, htransaction]
          · exact absurd h (by simp)
      · next hduplicate =>
          have hnone : outcome.transactionId = none := by
            cases outcome with
            | accepted id => grind
            | duplicate id => grind
            | invalidEncoding message => rfl
            | rejected message => rfl
            | unknown message => rfl
          simp [hnone, haccepted, hduplicate]

/-- The query's condition and columns, on a decodable row. -/
theorem success_kind_row (texts : SqlTexts) {row : SettlementRow} {entry : SettlementLedgerEntry}
    (paymentId : PaymentId) (hrow : rowToSettlementLedgerEntry row = .ok entry) :
    match pollRow (paymentId, .ok entry) with
    | some polled =>
        row.successKind = true ∧ SettlementTable.successKindRow texts paymentId row = .ok polled
    | none => row.successKind = false := by
  obtain ⟨hdecoded, hentry⟩ := row_to_entry_eq_ok.1 hrow
  have hmined : entry.minedBlockHeight = row.minedBlockHeight.map readU64 := by
    rw [← hentry]
    rfl
  have hpoll : pollRow (paymentId, .ok entry) =
      entry.broadcastOutcome.transactionId.map fun transactionId =>
        { paymentId, transactionId, minedBlockHeight := entry.minedBlockHeight } := rfl
  obtain ⟨htransaction, hpresent⟩ := decoded_transaction_id hdecoded
  by_cases hkind : row.successKind = true
  · obtain ⟨transactionId, hsome⟩ := Option.isSome_iff_exists.1 (hpresent hkind)
    rw [if_pos hkind, hsome] at htransaction
    rw [hpoll, htransaction, hmined]
    exact ⟨hkind, by simp [SettlementTable.successKindRow, hsome]⟩
  · rw [if_neg hkind] at htransaction
    rw [hpoll, htransaction]
    exact Bool.not_eq_true _ ▸ hkind

/-- The query over a listing of sound rows. -/
theorem success_kind_rows (h : Represents ledger table) (rows : List (PaymentId × SettlementRow))
    (hrows : ∀ row ∈ rows, table.lookup row.1 = some row.2) :
    ((rows.filter fun row => row.2.successKind).mapM fun row =>
        SettlementTable.successKindRow texts row.1 row.2) =
      .ok (rows.filterMap fun row => pollRow (row.1, rowToSettlementLedgerEntry row.2)) := by
  induction rows with
  | nil => rfl
  | cons row rows ih =>
      have hrow := hrows row List.mem_cons_self
      have hrest := ih fun row' hin => hrows row' (List.mem_cons_of_mem row hin)
      obtain ⟨entry, -, hok⟩ := h.row hrow
      have hcolumns := success_kind_row texts row.1 hok
      rw [List.filterMap_cons, hok]
      split at hcolumns
      · next polled hpolled =>
          obtain ⟨hkind, hread⟩ := hcolumns
          rw [hpolled, List.filter_cons, if_pos hkind, List.mapM_cons, hread, hrest]
          rfl
      · next hpolled =>
          have hkind : ¬ row.2.successKind = true := by rw [hcolumns]; decide
          rw [hpolled, List.filter_cons, if_neg hkind]
          exact hrest

theorem agrees_successKind (h : Represents ledger table) :
    Agrees texts ledger table ⟨.successKindTransactions, now⟩ := by
  refine ⟨?_, h⟩
  have hquery : table.successKindTransactions texts =
      .ok ((Table.rows table).filterMap fun row =>
        pollRow (row.1, rowToSettlementLedgerEntry row.2)) :=
    success_kind_rows h (Table.rows table) fun row hin => (Table.mem_rows table row.1 row.2).1 hin
  have hperm := (Table.readRows_perm h.entries).filterMap pollRow
  unfold Table.readRows at hperm
  rw [List.filterMap_map, List.filterMap_map] at hperm
  show SameAnswer _ ((table.successKindTransactions texts).map .transactions)
  rw [hquery]
  exact hperm.symm

/-! ### The newest entries -/

/-- Decoding a listing that reads as these entries. -/
theorem decode_listing {rows : List (PaymentId × SettlementRow)}
    {entries : List (PaymentId × SettlementLedgerEntry)}
    (h : (rows.map fun row => (row.1, rowToSettlementLedgerEntry row.2)) =
      entries.map fun entry => (entry.1, Except.ok entry.2)) :
    (rows.mapM fun row => (rowToSettlementLedgerEntry row.2).map (row.1, ·)) = .ok entries := by
  induction rows generalizing entries with
  | nil =>
      cases entries with
      | nil => rfl
      | cons entry entries => exact absurd h (by simp)
  | cons row rows ih =>
      cases entries with
      | nil => exact absurd h (by simp)
      | cons entry entries =>
          rw [List.map_cons, List.map_cons, List.cons.injEq, Prod.mk.injEq] at h
          obtain ⟨⟨hid, hok⟩, hrest⟩ := h
          rw [List.mapM_cons, hok, ih hrest, hid]
          rfl

theorem agrees_listRecent (h : Represents ledger table) (limit : UInt32)
    (payeeId : Option PayeeId) :
    Agrees texts ledger table ⟨.listRecent limit payeeId, now⟩ := by
  refine ⟨?_, h⟩
  let selects : PaymentId → SettlementRow → Bool :=
    fun _ row => payeeId.all fun wanted => row.payeeId == wanted.value
  let p : PaymentId → SettlementLedgerEntry → Bool :=
    fun _ entry => payeeId.all fun wanted => decide (entry.payeeId = wanted)
  have hselects : ∀ paymentId row entry, row.Sound →
      rowToSettlementLedgerEntry row = .ok entry → selects paymentId row = p paymentId entry := by
    intro paymentId row entry _ hok
    obtain ⟨-, hentry⟩ := row_to_entry_eq_ok.1 hok
    have hpayee : entry.payeeId = ⟨row.payeeId⟩ := by
      rw [← hentry]
      rfl
    cases payeeId with
    | none => rfl
    | some wanted =>
        obtain ⟨wanted⟩ := wanted
        show (row.payeeId == wanted) = decide (entry.payeeId = ⟨wanted⟩)
        rw [hpayee, Bool.eq_iff_iff, beq_iff_eq, decide_eq_true_eq, PayeeId.mk.injEq]
  have hperm := selected_perm h hselects
  have hkeys : ((((Table.rows table).filter fun row => selects row.1 row.2).map fun row =>
      (row.1, rowToSettlementLedgerEntry row.2)).map Prod.fst).Nodup := by
    have hids := Table.nodup_readRows table rowToSettlementLedgerEntry
    unfold Table.readRows at hids
    exact hids.sublist ((List.filter_sublist.map _).map _)
  have hsorted := newestFirst_eq_of_perm hperm hkeys
  rw [← newestFirst_map, ← newestFirst_map] at hsorted
  have hlisted : table.listRecent limit payeeId = .ok (ledger.listRecent limit payeeId) := by
    apply decode_listing
    rw [List.map_take, SettlementLedger.listRecent, List.map_take]
    exact congrArg (List.take limit.toNat) hsorted
  show SameAnswer _ ((table.listRecent limit payeeId).map .recent)
  rw [hlisted]
  rfl

/-! ### The writers -/

/-- An `UPDATE` of one payment's row, which answers whether there was one. -/
theorem update_one (h : Represents ledger table) {paymentId : PaymentId}
    {selects : PaymentId → SettlementRow → Bool} {q : SettlementLedgerEntry → Bool}
    {set : SettlementRow → SettlementRow} {f : SettlementLedgerEntry → SettlementLedgerEntry}
    (hselects : ∀ other row entry, row.Sound → rowToSettlementLedgerEntry row = .ok entry →
      selects other row = (other == paymentId && q entry))
    (hset : ∀ other row entry, row.Sound → rowToSettlementLedgerEntry row = .ok entry →
      selects other row = true → rowToSettlementLedgerEntry (set row) = .ok (f entry))
    (hsound : ∀ row : SettlementRow, row.Sound → (set row).Sound) :
    ∃ table', SettlementTable.answered table ((table.update texts selects set).map
        fun (affected, table') => (!affected.isEmpty, table')) =
          (.ok ((ledger.lookup paymentId).any q), table') ∧
      Represents (Table.mapRows ledger fun other entry =>
        if other == paymentId && q entry then f entry else entry) table' := by
  obtain ⟨paymentIds, table', hupdate, hperm, hrepresents⟩ :=
    update_represents h hselects hset hsound
  refine ⟨table', ?_, hrepresents⟩
  rw [hupdate, ← Table.selects_row ledger paymentId q, ← hperm.isEmpty_eq]
  rfl

theorem agrees_recordConfirmation (h : Represents ledger table) (paymentId : PaymentId)
    (count : UInt32) {height : Option Nat} (hheight : ∀ x ∈ height, x < 2 ^ 63) :
    Agrees texts ledger table ⟨.recordConfirmation paymentId count height, now⟩ := by
  have hupdated : ∃ table', table.recordConfirmation texts paymentId count height now =
        (.ok ((ledger.lookup paymentId).any fun _ => true), table') ∧
      Represents (Table.mapRows ledger fun other entry =>
        if other == paymentId && true then entry.recordConfirmation count height else entry)
        table' := by
    apply update_one h
    · intro other row entry _ _
      exact (Bool.and_true _).symm
    · intro other row entry _ hok _
      exact row_to_entry_confirmed now hheight hok
    · intro row hsound
      exact confirmed_sound count height now hsound
  obtain ⟨table', hanswer, hrepresents⟩ := hupdated
  have hperform : table.perform texts ⟨.recordConfirmation paymentId count height, now⟩ =
      (.ok (.updated ((ledger.lookup paymentId).any fun _ => true)), table') := by
    show (table.recordConfirmation texts paymentId count height now).map _ id = _
    rw [hanswer]
    rfl
  unfold Agrees
  rw [hperform]
  constructor
  · show LedgerAnswer.updated _ = .updated _
    rw [Option.any_true]
  · apply hrepresents.congr
    intro other
    show (ledger.recordConfirmation paymentId count height).lookup other = _
    rw [SettlementLedger.lookup_record_confirmation, Table.lookup_mapRows]
    by_cases hother : other = paymentId
    · subst hother
      simp
    · simp [hother]

theorem mined_of_row {row : SettlementRow} {entry : SettlementLedgerEntry}
    (hok : rowToSettlementLedgerEntry row = .ok entry) :
    entry.minedBlockHeight = row.minedBlockHeight.map readU64 := by
  rw [← (row_to_entry_eq_ok.1 hok).2]
  rfl

theorem downgrade_unmined {entry : SettlementLedgerEntry} {reorgedAt : Int}
    (h : ¬ entry.minedBlockHeight.isSome = true) : entry.downgradeOnReorg reorgedAt = entry := by
  rw [Option.not_isSome_iff_eq_none] at h
  unfold SettlementLedgerEntry.downgradeOnReorg
  rw [h]

theorem agrees_downgradeOnReorg (h : Represents ledger table) (paymentId : PaymentId)
    (reorgedAt : Int) :
    Agrees texts ledger table ⟨.downgradeOnReorg paymentId reorgedAt, now⟩ := by
  have hupdated : ∃ table', table.downgradeOnReorg texts paymentId reorgedAt =
        (.ok ((ledger.lookup paymentId).any fun entry => entry.minedBlockHeight.isSome),
          table') ∧
      Represents (Table.mapRows ledger fun other entry =>
        if other == paymentId && entry.minedBlockHeight.isSome then
          entry.downgradeOnReorg reorgedAt else entry) table' := by
    apply update_one h
    · intro other row entry _ hok
      rw [mined_of_row hok, Option.isSome_map]
    · intro other row entry hsound hok hselected
      rw [Bool.and_eq_true] at hselected
      exact row_to_entry_downgraded reorgedAt hsound hselected.2 hok
    · intro row hsound
      exact downgraded_sound reorgedAt hsound
  obtain ⟨table', hanswer, hrepresents⟩ := hupdated
  have hperform : table.perform texts ⟨.downgradeOnReorg paymentId reorgedAt, now⟩ =
      (.ok (.updated ((ledger.lookup paymentId).any fun entry => entry.minedBlockHeight.isSome)),
        table') := by
    show (table.downgradeOnReorg texts paymentId reorgedAt).map _ id = _
    rw [hanswer]
    rfl
  unfold Agrees
  rw [hperform]
  refine ⟨rfl, hrepresents.congr ?_⟩
  intro other
  show (ledger.downgradeOnReorg paymentId reorgedAt).lookup other = _
  rw [SettlementLedger.lookup_downgrade_on_reorg, Table.lookup_mapRows]
  by_cases hother : other = paymentId
  · subst hother
    rw [if_pos rfl]
    congr 1
    funext entry
    rw [beq_self_eq_true, Bool.true_and]
    split
    · rfl
    · next hunmined => exact downgrade_unmined hunmined
  · simp [hother]

/-- `BETWEEN` on the column selects by the stored height. -/
theorem between_iff_within {row : SettlementRow} {entry : SettlementLedgerEntry}
    {startHeight endHeight : Nat} (hstart : startHeight < 2 ^ 63) (hend : endHeight < 2 ^ 63)
    (hsound : row.Sound) (hok : rowToSettlementLedgerEntry row = .ok entry) :
    (row.minedBlockHeight.any fun height =>
        decide (clampI64 startHeight ≤ height) && decide (height ≤ clampI64 endHeight)) =
      entry.minedWithin startHeight endHeight := by
  unfold SettlementLedgerEntry.minedWithin
  rw [mined_of_row hok, clampI64_of_lt hstart, clampI64_of_lt hend]
  cases hmined : row.minedBlockHeight with
  | none => rfl
  | some raw =>
      have hraw : 0 ≤ raw := hsound.height raw hmined
      rw [Option.any_some, Option.map_some, Option.any_some]
      unfold readU64
      congr 1
      · rw [Bool.eq_iff_iff, decide_eq_true_eq, decide_eq_true_eq]
        omega
      · rw [Bool.eq_iff_iff, decide_eq_true_eq, decide_eq_true_eq]
        omega

theorem agrees_downgradeReorgedRange (h : Represents ledger table) {startHeight endHeight : Nat}
    (hstart : startHeight < 2 ^ 63) (hend : endHeight < 2 ^ 63) (reorgedAt : Int) :
    Agrees texts ledger table ⟨.downgradeReorgedRange startHeight endHeight reorgedAt, now⟩ := by
  have hselects : ∀ (_ : PaymentId) row entry, row.Sound →
      rowToSettlementLedgerEntry row = .ok entry →
      (row.minedBlockHeight.any fun height =>
          decide (clampI64 startHeight ≤ height) && decide (height ≤ clampI64 endHeight)) =
        entry.minedWithin startHeight endHeight :=
    fun _ _ _ hsound hok => between_iff_within hstart hend hsound hok
  have hset : ∀ (_ : PaymentId) row entry, row.Sound →
      rowToSettlementLedgerEntry row = .ok entry →
      (row.minedBlockHeight.any fun height =>
          decide (clampI64 startHeight ≤ height) && decide (height ≤ clampI64 endHeight)) =
        true →
      rowToSettlementLedgerEntry (row.downgraded reorgedAt) =
        .ok (entry.downgradeOnReorg reorgedAt) := by
    intro _ row entry hsound hok hselected
    obtain ⟨raw, hraw, -⟩ := (Option.any_eq_true _ _).1 hselected
    have hmined : row.minedBlockHeight.isSome = true := by
      rw [hraw]
      rfl
    exact row_to_entry_downgraded reorgedAt hsound hmined hok
  obtain ⟨paymentIds, table', hupdate, hperm, hrepresents⟩ :=
    update_represents h hselects hset fun _ hsound => downgraded_sound reorgedAt hsound
  have hperform : table.perform texts ⟨.downgradeReorgedRange startHeight endHeight reorgedAt,
      now⟩ = (.ok (.downgraded paymentIds), table') := by
    show (table.downgradeReorgedRange texts startHeight endHeight reorgedAt).map _ id = _
    unfold SettlementTable.downgradeReorgedRange
    rw [hupdate]
    rfl
  unfold Agrees
  rw [hperform]
  exact ⟨hperm.symm, hrepresents⟩

/-! ## Sequences of operations -/

theorem perform_agrees (h : Represents ledger table) {call : LedgerCall}
    (hcall : call.operation.InRange) : Agrees texts ledger table call := by
  obtain ⟨operation, now⟩ := call
  cases operation with
  | record paymentId entry => exact agrees_record h hcall
  | find paymentId => exact agrees_find h paymentId
  | entryCount => exact agrees_entryCount h
  | successKindTransactions => exact agrees_successKind h
  | listRecent limit payeeId => exact agrees_listRecent h limit payeeId
  | recordConfirmation paymentId count height =>
      exact agrees_recordConfirmation h paymentId count hcall
  | downgradeOnReorg paymentId reorgedAt => exact agrees_downgradeOnReorg h paymentId reorgedAt
  | downgradeReorgedRange startHeight endHeight reorgedAt =>
      exact agrees_downgradeReorgedRange h hcall.1 hcall.2 reorgedAt

/-- Every sequence of operations, with heights, bounds and amounts below `2 ^ 63`,
is answered by both ledgers, and alike; and decoding undoes encoding. -/
theorem ledgers_equivalent (texts : SqlTexts) (calls : List LedgerCall)
    (hcalls : ∀ call ∈ calls, call.operation.InRange) :
    List.Forall₂ SameAnswer (outputs SettlementLedger.perform ∅ calls)
        (outputs (SettlementTable.perform texts) ∅ calls) ∧
      ∀ entry : SettlementLedgerEntry, entry.InRange →
        rowToSettlementLedgerEntry entry.toRow = .ok entry := by
  have hperform : ∀ ledger table (call : LedgerCall), Represents ledger table →
      call.operation.InRange → Agrees texts ledger table call :=
    fun _ _ _ h hcall => perform_agrees h hcall
  exact ⟨outputs_related hperform represents_empty hcalls, fun _ h => row_to_entry_encode h⟩

def acceptedEntry : SettlementLedgerEntry where
  broadcastOutcome := .accepted "t1"
  settledAtUnixSeconds := 100
  confirmationCount := none
  minedBlockHeight := none
  reorgCount := .ofNat (2 ^ 32 - 1)
  lastReorgedAt := none
  expiryHeight := some 40
  payeeId := ⟨"p"⟩
  amountZat := 5

/-- A row whose counter is at its ceiling is mined, reorged out and listed. -/
def ceilingCalls : List LedgerCall :=
  [⟨.record ⟨"pay_1"⟩ acceptedEntry, 100⟩, ⟨.recordConfirmation ⟨"pay_1"⟩ 1 (some 7), 101⟩,
    ⟨.downgradeReorgedRange 6 7 102, 102⟩, ⟨.listRecent 10 (some ⟨"p"⟩), 103⟩]

theorem ledgers_equivalent_ceiling :
    List.Forall₂ SameAnswer (outputs SettlementLedger.perform ∅ ceilingCalls)
        (outputs (SettlementTable.perform sampleSqlTexts) ∅ ceilingCalls) ∧
      ∀ entry : SettlementLedgerEntry, entry.InRange →
        rowToSettlementLedgerEntry entry.toRow = .ok entry := by
  apply ledgers_equivalent sampleSqlTexts ceilingCalls
  simp [ceilingCalls, LedgerOperation.InRange, SettlementLedgerEntry.InRange, acceptedEntry]

end Zpay.Core
