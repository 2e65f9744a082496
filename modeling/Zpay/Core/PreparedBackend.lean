import Zpay.Core.Prepare

/-!
# The two prepared stores

`PreparedTxStore` is implemented twice: as a table with a partial unique index, and in
memory as a map with a secondary index kept by hand.  What `propose` relies on is stated
once, as laws of a backend, and both are shown to meet them.

A lookup by idempotency key finds what a lookup by payment id finds, under the right pair.
The other direction, that every row of a pair is found under it, is where the two differ:
the table refuses a second row, and the map takes it and forgets the first.

## Main results

* `libsqlLawful`, `memoryLawful` — what both stores do to a row, and to a pair.
* `libsql_agrees`, `libsql_exclusive` — what only the table can promise.
-/

open Zpay.Data

namespace Zpay.Core

/-! ## The trait -/

structure PreparedTxBackend (σ : Type) where
  empty : σ
  insert : σ → PreparedTxEntry → Except StoreError Unit × σ
  findByPaymentId : σ → PaymentId → Option PreparedTxEntry
  findByIdempotency : σ → String → String → Option PreparedTxEntry
  remove : σ → PaymentId → Except StoreError (Option PreparedTxEntry) × σ
  sweepExpired : σ → Nat → Except StoreError Nat × σ

/-! ## In memory -/

/-- `CacheInner`. -/
structure PreparedTxCache where
  byPaymentId : Table PaymentId PreparedTxEntry
  byIdempotency : Table (String × String) PaymentId

/-- What the secondary index files an entry under. -/
def PreparedTxEntry.pair (entry : PreparedTxEntry) : Option (String × String) :=
  entry.idempotencyKey.map fun key => (entry.agentDpopJkt, key)

namespace PreparedTxCache

def insert (cache : PreparedTxCache) (entry : PreparedTxEntry) :
    Except StoreError Unit × PreparedTxCache :=
  (.ok (),
    { byIdempotency :=
        match entry.pair with
        | some pair => AList.insert pair entry.preparation.paymentId cache.byIdempotency
        | none => cache.byIdempotency
      byPaymentId := AList.insert entry.preparation.paymentId entry cache.byPaymentId })

def findByPaymentId (cache : PreparedTxCache) (paymentId : PaymentId) :
    Option PreparedTxEntry :=
  cache.byPaymentId.lookup paymentId

def findByIdempotency (cache : PreparedTxCache) (jkt idempotencyKey : String) :
    Option PreparedTxEntry :=
  (cache.byIdempotency.lookup (jkt, idempotencyKey)).bind fun paymentId =>
    cache.byPaymentId.lookup paymentId

def remove (cache : PreparedTxCache) (paymentId : PaymentId) :
    Except StoreError (Option PreparedTxEntry) × PreparedTxCache :=
  let removed := cache.byPaymentId.lookup paymentId
  (.ok removed,
    { byPaymentId := cache.byPaymentId.erase paymentId
      byIdempotency :=
        match removed.bind PreparedTxEntry.pair with
        | some pair => cache.byIdempotency.erase pair
        | none => cache.byIdempotency })

def sweepExpired (cache : PreparedTxCache) (nowUnixSeconds : Nat) :
    Except StoreError Nat × PreparedTxCache :=
  let live := Table.retain cache.byPaymentId fun _ entry =>
    decide (nowUnixSeconds < entry.expiresAtUnixSeconds.toNat)
  (.ok (cache.byPaymentId.rows.length - live.rows.length),
    { byPaymentId := live
      byIdempotency := Table.retain cache.byIdempotency fun _ paymentId =>
        (live.lookup paymentId).isSome })

end PreparedTxCache

def memoryPrepared : PreparedTxBackend PreparedTxCache where
  empty := { byPaymentId := ∅, byIdempotency := ∅ }
  insert := PreparedTxCache.insert
  findByPaymentId := PreparedTxCache.findByPaymentId
  findByIdempotency := PreparedTxCache.findByIdempotency
  remove := PreparedTxCache.remove
  sweepExpired := PreparedTxCache.sweepExpired

/-! ## In the database -/

def libsqlPrepared (texts : SqlTexts) : PreparedTxBackend PreparedTxStore where
  empty := ∅
  insert := PreparedTxStore.insert texts
  findByPaymentId := PreparedTxStore.findByPaymentId
  findByIdempotency := PreparedTxStore.findByIdempotency
  remove := PreparedTxStore.remove
  sweepExpired store nowUnixSeconds :=
    if 2 ^ 63 ≤ nowUnixSeconds then
      (.error (.integrityViolation "now_unix_seconds exceeds i64"), store)
    else
      let live := store.sweepExpired nowUnixSeconds
      (.ok (store.rows.length - live.rows.length), live)

/-! ## The laws -/

/-- An entry as `propose` composes it: what the row decoder derives again is what it
already says. -/
def PreparedTxEntry.Composed (entry : PreparedTxEntry) : Prop :=
  entry.toRow.toEntry entry.preparation.paymentId = entry

namespace PreparedTxBackend

variable {σ : Type} (b : PreparedTxBackend σ)

/-- Every row of the pair is what a lookup of the pair finds. -/
def Agrees (jkt key : String) (s : σ) : Prop :=
  ∀ paymentId entry, b.findByPaymentId s paymentId = some entry →
    entry.pair = some (jkt, key) → b.findByIdempotency s jkt key = some entry

/-- What a store of prepared transactions does, to entries that are composed and ids that
are fresh.  `Good` is the implementation's own invariant. -/
structure Lawful where
  Good : σ → Prop
  good_empty : Good b.empty
  good_insert : ∀ {s entry}, Good s →
    b.findByPaymentId s entry.preparation.paymentId = none → Good (b.insert s entry).2
  good_remove : ∀ {s paymentId}, Good s → Good (b.remove s paymentId).2
  good_sweep : ∀ {s now}, Good s → Good (b.sweepExpired s now).2
  find_empty : ∀ paymentId, b.findByPaymentId b.empty paymentId = none
  insert_error : ∀ {s entry err}, (b.insert s entry).1 = .error err → (b.insert s entry).2 = s
  find_insert : ∀ {s entry} paymentId, entry.Composed → (b.insert s entry).1 = .ok () →
    b.findByPaymentId (b.insert s entry).2 paymentId =
      if paymentId = entry.preparation.paymentId then some entry
      else b.findByPaymentId s paymentId
  find_remove : ∀ s paymentId other, b.findByPaymentId (b.remove s paymentId).2 other =
    if other = paymentId then none else b.findByPaymentId s other
  /-- A sweep deletes nothing that is not due, and adds nothing. -/
  find_sweep : ∀ {s now paymentId entry}, b.findByPaymentId s paymentId = some entry →
    now < entry.expiresAtUnixSeconds.toNat →
    b.findByPaymentId (b.sweepExpired s now).2 paymentId = some entry
  sweep_find : ∀ {s now paymentId entry},
    b.findByPaymentId (b.sweepExpired s now).2 paymentId = some entry →
    b.findByPaymentId s paymentId = some entry
  find_id : ∀ {s paymentId entry}, Good s → b.findByPaymentId s paymentId = some entry →
    entry.preparation.paymentId = paymentId
  found : ∀ {s jkt key entry}, Good s → b.findByIdempotency s jkt key = some entry →
    entry.pair = some (jkt, key) ∧
      b.findByPaymentId s entry.preparation.paymentId = some entry
  agrees_insert : ∀ {s entry jkt key}, Good s → entry.Composed →
    b.findByPaymentId s entry.preparation.paymentId = none →
    (entry.pair = some (jkt, key) → b.findByIdempotency s jkt key = none) →
    b.Agrees jkt key s → b.Agrees jkt key (b.insert s entry).2
  agrees_remove : ∀ {s paymentId jkt key}, Good s → b.Agrees jkt key s →
    b.Agrees jkt key (b.remove s paymentId).2
  agrees_sweep : ∀ {s now jkt key}, Good s → b.Agrees jkt key s →
    b.Agrees jkt key (b.sweepExpired s now).2

end PreparedTxBackend

theorem pair_eq {entry : PreparedTxEntry} {jkt key : String} :
    entry.pair = some (jkt, key) ↔
      entry.agentDpopJkt = jkt ∧ entry.idempotencyKey = some key := by
  unfold PreparedTxEntry.pair
  cases entry.idempotencyKey <;> simp

/-! ## The database meets them -/

section Libsql

variable {texts : SqlTexts} {store : PreparedTxStore} {paymentId : PaymentId}
  {entry : PreparedTxEntry}
  {jkt key : String}

/-- The partial unique index. -/
def UniquePairs (store : PreparedTxStore) : Prop :=
  ∀ paymentId paymentId' row row' pair, store.lookup paymentId = some row →
    store.lookup paymentId' = some row' → (row.toEntry paymentId).pair = some pair →
    (row'.toEntry paymentId').pair = some pair → paymentId = paymentId'

theorem find_by_payment_id_some :
    store.findByPaymentId paymentId = some entry ↔
      ∃ row, store.lookup paymentId = some row ∧ row.toEntry paymentId = entry :=
  Option.map_eq_some_iff

theorem find_by_idempotency_some (h : store.findByIdempotency jkt key = some entry) :
    ∃ paymentId row, store.lookup paymentId = some row ∧ row.toEntry paymentId = entry ∧
      entry.pair = some (jkt, key) := by
  unfold PreparedTxStore.findByIdempotency at h
  obtain ⟨⟨paymentId, row⟩, hfind, hentry⟩ := Option.map_eq_some_iff.1 h
  have hpair := List.find?_some hfind
  rw [Bool.and_eq_true, beq_iff_eq, beq_iff_eq] at hpair
  refine ⟨paymentId, row, (Table.mem_rows store _ _).1 (List.mem_of_find?_eq_some hfind), hentry,
    ?_⟩
  rw [← hentry]
  exact pair_eq.2 hpair

/-- Under the unique index, a row of the pair is the one a lookup of the pair finds. -/
theorem libsql_agrees (hunique : UniquePairs store) :
    (libsqlPrepared texts).Agrees jkt key store := by
  intro paymentId entry hfind hpair
  obtain ⟨row, hrow, hentry⟩ := find_by_payment_id_some.1 hfind
  rw [← hentry] at hpair
  have hsome : (store.findByIdempotency jkt key).isSome = true :=
    find_by_idempotency_isSome.2 ⟨paymentId, row, hrow, pair_eq.1 hpair⟩
  obtain ⟨other, hother⟩ := Option.isSome_iff_exists.1 hsome
  obtain ⟨paymentId', row', hrow', hentry', hpair'⟩ := find_by_idempotency_some hother
  rw [← hentry'] at hpair'
  have hid : paymentId = paymentId' :=
    hunique paymentId paymentId' row row' (jkt, key) hrow hrow' hpair hpair'
  subst hid
  rw [hrow] at hrow'
  injection hrow' with hrows
  rw [← hentry, hrows, hentry']
  exact hother

/-- An insert that the index lets through finds no other row of its pair. -/
theorem libsql_exclusive (hfresh : store.lookup entry.preparation.paymentId = none)
    (hinsert : (PreparedTxStore.insert texts store entry).1 = .ok ())
    (hpair : entry.pair = some (jkt, key)) : store.findByIdempotency jkt key = none := by
  cases hfind : store.findByIdempotency jkt key with
  | none => rfl
  | some other =>
      obtain ⟨paymentId, row, hrow, hentry, hother⟩ := find_by_idempotency_some hfind
      rw [← hentry] at hother
      obtain ⟨hjkt, hkey⟩ := pair_eq.1 hother
      obtain ⟨hjkt', hkey'⟩ := pair_eq.1 hpair
      have hne : paymentId ≠ entry.preparation.paymentId := by
        intro heq
        rw [heq, hfresh] at hrow
        exact absurd hrow (by simp)
      have hconflicts : store.conflicts entry.preparation.paymentId entry.toRow = true :=
        conflicts_iff.2 ⟨Option.isSome_iff_exists.2 ⟨key, hkey'⟩, paymentId, row, hrow, hne,
          hjkt.trans hjkt'.symm, hkey.trans hkey'.symm⟩
      rw [(insert_prepared_ok hinsert).2] at hconflicts
      exact absurd hconflicts (by decide)

theorem uniquePairs_empty : UniquePairs ∅ := by
  intro paymentId paymentId' row row' pair hrow
  exact absurd hrow (by simp)

theorem uniquePairs_insert (hunique : UniquePairs store)
    (hfresh : store.lookup entry.preparation.paymentId = none) :
    UniquePairs (PreparedTxStore.insert texts store entry).2 := by
  cases hinsert : (PreparedTxStore.insert texts store entry).1 with
  | error err => rw [insert_prepared_error hinsert]; exact hunique
  | ok _ =>
      rw [(insert_prepared_ok hinsert).1]
      have hother : ∀ paymentId row jkt key, store.lookup paymentId = some row →
          (row.toEntry paymentId).pair = some (jkt, key) →
          entry.pair = some (jkt, key) → False := by
        intro paymentId row jkt key hrow hpair hentry
        have hnone := libsql_exclusive hfresh hinsert hentry
        have hfind : store.findByPaymentId paymentId = some (row.toEntry paymentId) :=
          find_by_payment_id_some.2 ⟨row, hrow, rfl⟩
        have hagrees : (libsqlPrepared texts).Agrees jkt key store := libsql_agrees hunique
        have hsome := hagrees paymentId _ hfind hpair
        rw [show (libsqlPrepared texts).findByIdempotency store jkt key = none from hnone] at hsome
        exact absurd hsome (by simp)
      intro paymentId paymentId' row row' pair hrow hrow' hpair hpair'
      rw [Table.lookup_insert_eq] at hrow hrow'
      split at hrow
      · next hid =>
          injection hrow with hentry
          split at hrow'
          · next hid' => rw [hid, hid']
          · rw [← hentry] at hpair
            exact (hother paymentId' row' pair.1 pair.2 hrow' hpair' hpair).elim
      · split at hrow'
        · injection hrow' with hentry
          rw [← hentry] at hpair'
          exact (hother paymentId row pair.1 pair.2 hrow hpair hpair').elim
        · exact hunique paymentId paymentId' row row' pair hrow hrow' hpair hpair'

/-- Deleting rows leaves the pairs unique. -/
theorem UniquePairs.mono {store' : PreparedTxStore} (hunique : UniquePairs store)
    (hsub : ∀ paymentId row, store'.lookup paymentId = some row →
      store.lookup paymentId = some row) : UniquePairs store' := by
  intro paymentId paymentId' row row' pair hrow hrow' hpair hpair'
  exact hunique paymentId paymentId' row row' pair (hsub _ _ hrow) (hsub _ _ hrow') hpair hpair'

theorem find_remove_prepared (store : PreparedTxStore) (paymentId other : PaymentId) :
    (PreparedTxStore.remove store paymentId).2.findByPaymentId other =
      if other = paymentId then none else store.findByPaymentId other := by
  unfold PreparedTxStore.findByPaymentId
  rw [lookup_remove_prepared]
  split
  · rfl
  · rfl

theorem lookup_of_remove {other : PaymentId} {row : PreparedTxRow}
    (h : (PreparedTxStore.remove store paymentId).2.lookup other = some row) :
    store.lookup other = some row := by
  rw [lookup_remove_prepared] at h
  split at h
  · exact absurd h (by simp)
  · exact h

theorem libsql_sweep_lookup (store : PreparedTxStore) (now : Nat) (paymentId : PaymentId) :
    ((libsqlPrepared texts).sweepExpired store now).2.lookup paymentId =
      (store.lookup paymentId).filter fun row =>
        decide (2 ^ 63 ≤ now) || decide (now < row.expiresAtUnixSeconds.toNat) := by
  unfold libsqlPrepared
  simp only
  split
  · next hlate =>
      simp only [hlate, decide_true, Bool.true_or]
      cases store.lookup paymentId <;> rfl
  · next hearly =>
      simp only [hearly, decide_false, Bool.false_or]
      exact lookup_sweep_prepared

theorem lookup_of_sweep {now : Nat} {row : PreparedTxRow}
    (h : ((libsqlPrepared texts).sweepExpired store now).2.lookup paymentId = some row) :
    store.lookup paymentId = some row := by
  rw [libsql_sweep_lookup, Option.filter_eq_some_iff] at h
  exact h.1

def libsqlLawful (texts : SqlTexts) : (libsqlPrepared texts).Lawful where
  Good := UniquePairs
  good_empty := uniquePairs_empty
  good_insert := by
    intro store entry hunique hfresh
    have hunused : store.lookup entry.preparation.paymentId = none :=
      Option.map_eq_none_iff.1 hfresh
    exact uniquePairs_insert hunique hunused
  good_remove := fun hunique => hunique.mono fun _ _ => lookup_of_remove
  good_sweep := fun hunique => hunique.mono fun _ _ => lookup_of_sweep
  find_empty := fun _ => rfl
  insert_error := insert_prepared_error
  find_insert := by
    intro store entry paymentId hcomposed hinsert
    show (PreparedTxStore.insert texts store entry).2.findByPaymentId paymentId = _
    unfold PreparedTxStore.findByPaymentId
    rw [(insert_prepared_ok hinsert).1, Table.lookup_insert_eq]
    split
    · next hid =>
        rw [hid, Option.map_some]
        exact congrArg some hcomposed
    · rfl
  find_remove := find_remove_prepared
  find_sweep := by
    intro store now paymentId entry hfind hlive
    obtain ⟨row, hrow, hentry⟩ := find_by_payment_id_some.1 hfind
    apply find_by_payment_id_some.2
    refine ⟨row, ?_, hentry⟩
    rw [← hentry] at hlive
    have hkept : decide (now < row.expiresAtUnixSeconds.toNat) = true := decide_eq_true hlive
    rw [libsql_sweep_lookup, Option.filter_eq_some_iff, hkept, Bool.or_true]
    exact ⟨hrow, rfl⟩
  sweep_find := by
    intro store now paymentId entry hfind
    obtain ⟨row, hrow, hentry⟩ := find_by_payment_id_some.1 hfind
    exact find_by_payment_id_some.2 ⟨row, lookup_of_sweep hrow, hentry⟩
  find_id := by
    intro store paymentId entry _ hfind
    obtain ⟨row, _, hentry⟩ := find_by_payment_id_some.1 hfind
    rw [← hentry]
    rfl
  found := by
    intro store jkt key entry _ hfind
    obtain ⟨paymentId, row, hrow, hentry, hpair⟩ := find_by_idempotency_some hfind
    refine ⟨hpair, find_by_payment_id_some.2 ⟨row, ?_, ?_⟩⟩
    · rw [← hentry]
      exact hrow
    · rw [← hentry]
      rfl
  agrees_insert := by
    intro store entry jkt key hunique _ hfresh _ _
    have hunused : store.lookup entry.preparation.paymentId = none :=
      Option.map_eq_none_iff.1 hfresh
    exact libsql_agrees (uniquePairs_insert hunique hunused)
  agrees_remove := fun hunique _ =>
    libsql_agrees (hunique.mono fun _ _ => lookup_of_remove)
  agrees_sweep := fun hunique _ =>
    libsql_agrees (hunique.mono fun _ _ => lookup_of_sweep)

end Libsql

/-! ## The cache meets them -/

section Memory

variable {cache : PreparedTxCache} {paymentId : PaymentId} {entry : PreparedTxEntry}
  {jkt key : String}

/-- Entries are filed under their own ids, and the secondary index names held entries of
the right pair. -/
structure WellIndexed (cache : PreparedTxCache) : Prop where
  keyed : ∀ paymentId entry, cache.byPaymentId.lookup paymentId = some entry →
    entry.preparation.paymentId = paymentId
  indexed : ∀ pair paymentId, cache.byIdempotency.lookup pair = some paymentId →
    ∃ entry, cache.byPaymentId.lookup paymentId = some entry ∧ entry.pair = some pair

theorem cache_insert_index (cache : PreparedTxCache) (entry : PreparedTxEntry)
    (pair : String × String) :
    (cache.insert entry).2.byIdempotency.lookup pair =
      if entry.pair = some pair then some entry.preparation.paymentId
      else cache.byIdempotency.lookup pair := by
  unfold PreparedTxCache.insert
  cases hentry : entry.pair with
  | none => rfl
  | some own =>
      simp only
      rw [Table.lookup_insert_eq]
      by_cases heq : pair = own
      · rw [if_pos heq, if_pos (congrArg some heq.symm)]
      · rw [if_neg heq, if_neg fun h => heq (Option.some.inj h).symm]

theorem cache_insert_row (cache : PreparedTxCache) (entry : PreparedTxEntry)
    (paymentId : PaymentId) :
    (cache.insert entry).2.byPaymentId.lookup paymentId =
      if paymentId = entry.preparation.paymentId then some entry
      else cache.byPaymentId.lookup paymentId :=
  Table.lookup_insert_eq cache.byPaymentId _ paymentId entry

theorem cache_remove_index (cache : PreparedTxCache) (paymentId : PaymentId)
    (pair : String × String) :
    (cache.remove paymentId).2.byIdempotency.lookup pair =
      if (cache.byPaymentId.lookup paymentId).bind PreparedTxEntry.pair = some pair then none
      else cache.byIdempotency.lookup pair := by
  unfold PreparedTxCache.remove
  simp only
  cases hremoved : (cache.byPaymentId.lookup paymentId).bind PreparedTxEntry.pair with
  | none => rfl
  | some own =>
      simp only
      rw [Table.lookup_erase_eq]
      by_cases heq : pair = own
      · rw [if_pos heq, if_pos (congrArg some heq.symm)]
      · rw [if_neg heq, if_neg fun h => heq (Option.some.inj h).symm]

theorem cache_remove_row (cache : PreparedTxCache) (paymentId other : PaymentId) :
    (cache.remove paymentId).2.byPaymentId.lookup other =
      if other = paymentId then none else cache.byPaymentId.lookup other :=
  Table.lookup_erase_eq cache.byPaymentId paymentId other

theorem cache_sweep_row (cache : PreparedTxCache) (now : Nat) (paymentId : PaymentId) :
    (cache.sweepExpired now).2.byPaymentId.lookup paymentId =
      (cache.byPaymentId.lookup paymentId).filter fun entry =>
        decide (now < entry.expiresAtUnixSeconds.toNat) :=
  Table.lookup_retain cache.byPaymentId _ paymentId

theorem cache_sweep_index (cache : PreparedTxCache) (now : Nat) (pair : String × String) :
    (cache.sweepExpired now).2.byIdempotency.lookup pair =
      (cache.byIdempotency.lookup pair).filter fun paymentId =>
        ((cache.sweepExpired now).2.byPaymentId.lookup paymentId).isSome :=
  Table.lookup_retain cache.byIdempotency _ pair

theorem cache_find_some : cache.findByIdempotency jkt key = some entry ↔
    ∃ paymentId, cache.byIdempotency.lookup (jkt, key) = some paymentId ∧
      cache.byPaymentId.lookup paymentId = some entry :=
  Option.bind_eq_some_iff

/-- A row of a pair that agrees is the one its index entry names. -/
theorem WellIndexed.names (hindexed : WellIndexed cache) {paymentId : PaymentId}
    (hrow : cache.byPaymentId.lookup paymentId = some entry)
    (hfind : cache.findByIdempotency jkt key = some entry) :
    cache.byIdempotency.lookup (jkt, key) = some paymentId := by
  obtain ⟨named, hindex, hnamed⟩ := cache_find_some.1 hfind
  rw [← hindexed.keyed paymentId entry hrow, hindexed.keyed named entry hnamed]
  exact hindex

theorem wellIndexed_insert (hindexed : WellIndexed cache)
    (hfresh : cache.byPaymentId.lookup entry.preparation.paymentId = none) :
    WellIndexed (cache.insert entry).2 := by
  constructor
  · intro paymentId held hrow
    rw [cache_insert_row] at hrow
    split at hrow
    · next hid =>
        injection hrow with hheld
        rw [← hheld, hid]
    · exact hindexed.keyed paymentId held hrow
  · intro pair paymentId hindex
    rw [cache_insert_index] at hindex
    split at hindex
    · next hpair =>
        injection hindex with hid
        refine ⟨entry, ?_, hpair⟩
        rw [cache_insert_row, if_pos hid.symm]
    · obtain ⟨held, hrow, hpair⟩ := hindexed.indexed pair paymentId hindex
      refine ⟨held, ?_, hpair⟩
      have hne : paymentId ≠ entry.preparation.paymentId := by
        intro heq
        rw [heq, hfresh] at hrow
        exact absurd hrow (by simp)
      rw [cache_insert_row, if_neg hne]
      exact hrow

theorem wellIndexed_remove (hindexed : WellIndexed cache) :
    WellIndexed (cache.remove paymentId).2 := by
  constructor
  · intro other held hrow
    rw [cache_remove_row] at hrow
    split at hrow
    · exact absurd hrow (by simp)
    · exact hindexed.keyed other held hrow
  · intro pair other hindex
    rw [cache_remove_index] at hindex
    split at hindex
    · exact absurd hindex (by simp)
    · next hkept =>
        obtain ⟨held, hrow, hpair⟩ := hindexed.indexed pair other hindex
        refine ⟨held, ?_, hpair⟩
        have hne : other ≠ paymentId := by
          intro heq
          rw [heq] at hrow
          rw [hrow] at hkept
          exact hkept hpair
        rw [cache_remove_row, if_neg hne]
        exact hrow

theorem wellIndexed_sweep {now : Nat} (hindexed : WellIndexed cache) :
    WellIndexed (cache.sweepExpired now).2 := by
  constructor
  · intro paymentId held hrow
    rw [cache_sweep_row, Option.filter_eq_some_iff] at hrow
    exact hindexed.keyed paymentId held hrow.1
  · intro pair paymentId hindex
    rw [cache_sweep_index, Option.filter_eq_some_iff, Option.isSome_iff_exists] at hindex
    obtain ⟨hindex, held, hlive⟩ := hindex
    obtain ⟨own, hrow, hpair⟩ := hindexed.indexed pair paymentId hindex
    have hheld : cache.byPaymentId.lookup paymentId = some held := by
      rw [cache_sweep_row, Option.filter_eq_some_iff] at hlive
      exact hlive.1
    rw [hrow] at hheld
    injection hheld with heq
    rw [heq] at hpair
    exact ⟨held, hlive, hpair⟩

/-- A fresh row of another pair, or the first of this one, is in its place. -/
theorem agrees_cache_insert (hindexed : WellIndexed cache)
    (hfirst : entry.pair = some (jkt, key) → cache.findByIdempotency jkt key = none)
    (hagrees : memoryPrepared.Agrees jkt key cache) :
    memoryPrepared.Agrees jkt key (cache.insert entry).2 := by
  intro paymentId held hrow hpair
  apply cache_find_some.2
  change (cache.insert entry).2.byPaymentId.lookup paymentId = some held at hrow
  refine ⟨paymentId, ?_, hrow⟩
  rw [cache_insert_row] at hrow
  rw [cache_insert_index]
  split at hrow
  · next hid =>
      injection hrow with hheld
      rw [← hheld] at hpair
      rw [if_pos hpair, hid]
  · have hfind : cache.findByIdempotency jkt key = some held := hagrees paymentId held hrow hpair
    have hother : entry.pair ≠ some (jkt, key) := by
      intro hentry
      rw [hfirst hentry] at hfind
      exact absurd hfind (by simp)
    rw [if_neg hother]
    exact hindexed.names hrow hfind

theorem agrees_cache_remove (hindexed : WellIndexed cache)
    (hagrees : memoryPrepared.Agrees jkt key cache) :
    memoryPrepared.Agrees jkt key (cache.remove paymentId).2 := by
  intro other held hrow hpair
  apply cache_find_some.2
  change (cache.remove paymentId).2.byPaymentId.lookup other = some held at hrow
  refine ⟨other, ?_, hrow⟩
  rw [cache_remove_row] at hrow
  split at hrow
  · exact absurd hrow (by simp)
  · next hne =>
      have hfind : cache.findByIdempotency jkt key = some held := hagrees other held hrow hpair
      have hindex := hindexed.names hrow hfind
      rw [cache_remove_index, if_neg]
      · exact hindex
      · -- Were the removed row one of this pair, the lookup would have found it instead.
        intro hremoved
        obtain ⟨gone, hgone, hgonePair⟩ := Option.bind_eq_some_iff.1 hremoved
        have hfound : cache.findByIdempotency jkt key = some gone :=
          hagrees paymentId gone hgone hgonePair
        have hnamed := hindexed.names hgone hfound
        rw [hindex] at hnamed
        exact hne (Option.some.inj hnamed)

theorem agrees_cache_sweep {now : Nat} (hindexed : WellIndexed cache)
    (hagrees : memoryPrepared.Agrees jkt key cache) :
    memoryPrepared.Agrees jkt key (cache.sweepExpired now).2 := by
  intro paymentId held hlive hpair
  apply cache_find_some.2
  change (cache.sweepExpired now).2.byPaymentId.lookup paymentId = some held at hlive
  refine ⟨paymentId, ?_, hlive⟩
  have hrow : cache.byPaymentId.lookup paymentId = some held := by
    rw [cache_sweep_row, Option.filter_eq_some_iff] at hlive
    exact hlive.1
  have hfind : cache.findByIdempotency jkt key = some held := hagrees paymentId held hrow hpair
  rw [cache_sweep_index, Option.filter_eq_some_iff, hlive]
  exact ⟨hindexed.names hrow hfind, rfl⟩

def memoryLawful : memoryPrepared.Lawful where
  Good := WellIndexed
  good_empty := by
    constructor
    · intro paymentId entry hrow
      exact absurd hrow (by simp [memoryPrepared])
    · intro pair paymentId hindex
      exact absurd hindex (by simp [memoryPrepared])
  good_insert := wellIndexed_insert
  good_remove := wellIndexed_remove
  good_sweep := wellIndexed_sweep
  find_empty := fun _ => rfl
  insert_error := fun h => absurd h (by simp [memoryPrepared, PreparedTxCache.insert])
  find_insert := fun paymentId _ _ => cache_insert_row _ _ paymentId
  find_remove := cache_remove_row
  find_sweep := by
    intro cache now paymentId entry hrow hlive
    show (cache.sweepExpired now).2.byPaymentId.lookup paymentId = some entry
    rw [cache_sweep_row, Option.filter_eq_some_iff]
    exact ⟨hrow, decide_eq_true hlive⟩
  sweep_find := by
    intro cache now paymentId entry hlive
    change (cache.sweepExpired now).2.byPaymentId.lookup paymentId = some entry at hlive
    rw [cache_sweep_row, Option.filter_eq_some_iff] at hlive
    exact hlive.1
  find_id := fun hindexed hrow => hindexed.keyed _ _ hrow
  found := by
    intro cache jkt key entry hindexed hfind
    obtain ⟨paymentId, hindex, hrow⟩ := cache_find_some.1 hfind
    obtain ⟨own, hown, hpair⟩ := hindexed.indexed (jkt, key) paymentId hindex
    rw [hrow] at hown
    injection hown with heq
    rw [← heq] at hpair
    refine ⟨hpair, ?_⟩
    rw [hindexed.keyed paymentId entry hrow]
    exact hrow
  agrees_insert := fun hindexed _ _ => agrees_cache_insert hindexed
  agrees_remove := agrees_cache_remove
  agrees_sweep := agrees_cache_sweep

end Memory

end Zpay.Core
