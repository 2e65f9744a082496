import Zpay.Core.PreparedTable

/-!
# Two prepared stores, one behaviour

The cache and the SQL table answer alike, whatever sequence of operations they are given,
when every insert is one that `propose` makes: it has looked for the pair and found
nothing, its id is fresh, and its integers fit the columns.

The cache finds a row by its pair through an index it keeps by hand, the table through the
columns themselves; that both find the same row is a consequence of the laws that the two
meet.  Beyond the range of the `now` parameter they do differ.

## Main results

* `find_by_idempotency_eq` — lawful stores that agree on ids agree on pairs.
* `mirrors_perform` — every operation that is issued keeps the two in step.
* `prepared_stores_agree` — so does every sequence of them.
-/

open Zpay.Data Zpay.Machine

namespace Zpay.Core

/-! ## What is issued -/

/-- What `propose` has established of an entry when it inserts it.  An id that was never
used is not held. -/
structure FreshEntry (cache : PreparedTxCache) (entry : PreparedTxEntry) : Prop where
  unused : cache.findByPaymentId entry.preparation.paymentId = none
  uri : entry.preparation.paymentUri =
    composePaymentUri entry.recipientUnifiedAddress entry.amountZat entry.preparation.memoBytes
  amount : entry.preparation.amountZat = entry.amountZat
  amountFits : entry.amountZat.toNat < 2 ^ 63
  deadlineFits : entry.expiresAtUnixSeconds.toNat < 2 ^ 63
  unclaimed : ∀ key ∈ entry.idempotencyKey,
    cache.findByIdempotency entry.agentDpopJkt key = none

def PreparedOperation.Proposed (cache : PreparedTxCache) : PreparedOperation → Prop
  | .insert entry => FreshEntry cache entry
  | .findByPaymentId _ | .findByIdempotency _ _ | .remove _ | .sweepExpired _ | .entryCount =>
      True

def PreparedOperation.SweepInRange : PreparedOperation → Prop
  | .sweepExpired nowUnixSeconds => nowUnixSeconds.toNat < 2 ^ 63
  | .insert _ | .findByPaymentId _ | .findByIdempotency _ _ | .remove _ | .entryCount => True

def PreparedOperation.Issued (cache : PreparedTxCache) (op : PreparedOperation) : Prop :=
  op.Proposed cache ∧ op.SweepInRange

section Fresh

variable {cache : PreparedTxCache} {entry : PreparedTxEntry}

theorem FreshEntry.composed (h : FreshEntry cache entry) : entry.Composed := by
  obtain ⟨preparation⟩ := entry
  obtain ⟨paymentId, paymentUri, memoBytes, expiryHeight, amountZat⟩ := preparation
  have huri := h.uri
  have hamount := h.amount
  simp only at huri hamount
  subst huri hamount
  rfl

theorem FreshEntry.unclaimed_pair (h : FreshEntry cache entry) {jkt key : String}
    (hpair : entry.pair = some (jkt, key)) : cache.findByIdempotency jkt key = none := by
  obtain ⟨rfl, hkey⟩ := pair_eq.1 hpair
  exact h.unclaimed key hkey

/-- What `propose` composes, after a lookup that found nothing, is fresh. -/
theorem compose_entry_fresh {sha256 : List UInt8 → List UInt8} {registry : PayeeRegistry}
    {request : PrepareRequest} {jkt : String} {paymentId : PaymentId}
    {tip : Except TipError UInt32} {now : UInt64}
    (hentry : composeEntry sha256 registry request jkt paymentId tip now = .ok entry)
    (hunused : cache.findByPaymentId paymentId = none)
    (hunclaimed : ∀ key ∈ usableKey request, cache.findByIdempotency jkt key = none)
    (hamount : entry.amountZat.toNat < 2 ^ 63)
    (hdeadline : entry.expiresAtUnixSeconds.toNat < 2 ^ 63) : FreshEntry cache entry := by
  have hcomposed := compose_entry_toRow hentry
  obtain ⟨hid, hjkt, hkey⟩ := compose_entry_payment_id hentry
  have hpreparation := congrArg PreparedTxEntry.preparation hcomposed
  refine ⟨?_, ?_, ?_, hamount, hdeadline, ?_⟩
  · rw [hid]
    exact hunused
  · exact (congrArg Preparation.paymentUri hpreparation).symm
  · exact (congrArg Preparation.amountZat hpreparation).symm
  · rw [hjkt, hkey]
    exact hunclaimed

end Fresh

/-! ## Lookups by pair -/

section Lawful

variable {σ τ : Type} {b : PreparedTxBackend σ} {b' : PreparedTxBackend τ} {s : σ} {t : τ}
  {jkt key : String}

theorem find_by_idempotency_of (law : b.Lawful) (hgood : law.Good s)
    (hfind : ∀ paymentId, b.findByPaymentId s paymentId = b'.findByPaymentId t paymentId)
    (hagrees : b'.Agrees jkt key t) {entry : PreparedTxEntry}
    (h : b.findByIdempotency s jkt key = some entry) :
    b'.findByIdempotency t jkt key = some entry := by
  obtain ⟨hpair, hrow⟩ := law.found hgood h
  rw [hfind] at hrow
  exact hagrees entry.preparation.paymentId entry hrow hpair

/-- Stores that agree on every id agree on every pair. -/
theorem find_by_idempotency_eq (law : b.Lawful) (law' : b'.Lawful) (hgood : law.Good s)
    (hgood' : law'.Good t)
    (hfind : ∀ paymentId, b.findByPaymentId s paymentId = b'.findByPaymentId t paymentId)
    (hagrees : b.Agrees jkt key s) (hagrees' : b'.Agrees jkt key t) :
    b.findByIdempotency s jkt key = b'.findByIdempotency t jkt key := by
  ext entry
  constructor
  · exact find_by_idempotency_of law hgood hfind hagrees'
  · exact find_by_idempotency_of law' hgood' (fun paymentId => (hfind paymentId).symm) hagrees

end Lawful

/-! ## The cache and the typed table -/

/-- The two hold the same entries, each under its own discipline. -/
structure Mirrors (cache : PreparedTxCache) (store : PreparedTxStore) : Prop where
  entries : ∀ paymentId, cache.findByPaymentId paymentId = store.findByPaymentId paymentId
  indexed : WellIndexed cache
  unique : UniquePairs store
  agrees : ∀ jkt key, memoryPrepared.Agrees jkt key cache

section Mirrors

variable {texts : SqlTexts} {cache : PreparedTxCache} {store : PreparedTxStore}
  {entry : PreparedTxEntry}

theorem mirrors_empty : Mirrors memoryPrepared.empty ∅ where
  entries _ := rfl
  indexed := memoryLawful.good_empty
  unique := uniquePairs_empty
  agrees _ _ _ _ hrow _ := absurd hrow (by simp [memoryPrepared, PreparedTxCache.findByPaymentId])

theorem Mirrors.findByIdempotency_eq (texts : SqlTexts) (h : Mirrors cache store)
    (jkt key : String) :
    cache.findByIdempotency jkt key = store.findByIdempotency jkt key :=
  find_by_idempotency_eq memoryLawful (libsqlLawful texts) h.indexed h.unique h.entries
    (h.agrees jkt key) (libsql_agrees h.unique)

theorem Mirrors.rows_length (h : Mirrors cache store) :
    cache.byPaymentId.rows.length = store.rows.length := by
  apply Table.length_rows_eq
  intro paymentId
  have hentry := congrArg Option.isSome (h.entries paymentId)
  unfold PreparedTxStore.findByPaymentId at hentry
  rw [Option.isSome_map] at hentry
  exact hentry

/-- A fresh entry whose pair is unclaimed meets no bound and no other row. -/
theorem insert_fresh_ok (texts : SqlTexts) (h : Mirrors cache store)
    (hfresh : FreshEntry cache entry) :
    (PreparedTxStore.insert texts store entry).1 = .ok () := by
  have hfree : store.conflicts entry.preparation.paymentId entry.toRow ≠ true := by
    intro hconflicts
    obtain ⟨hsome, other, held, hrow, -, hjkt, hkey⟩ := conflicts_iff.1 hconflicts
    obtain ⟨key, hown⟩ := Option.isSome_iff_exists.1 hsome
    have hclaimed : (store.findByIdempotency entry.agentDpopJkt key).isSome = true :=
      find_by_idempotency_isSome.2 ⟨other, held, hrow, hjkt, hkey.trans hown⟩
    rw [← h.findByIdempotency_eq texts, hfresh.unclaimed key hown] at hclaimed
    exact absurd hclaimed (by decide)
  unfold PreparedTxStore.insert
  rw [if_neg (Nat.not_le.2 hfresh.amountFits), if_neg (Nat.not_le.2 hfresh.deadlineFits),
    if_neg hfree]

theorem mirrors_insert (h : Mirrors cache store) (hfresh : FreshEntry cache entry) :
    Mirrors (cache.insert entry).2 (PreparedTxStore.insert texts store entry).2 where
  entries paymentId := by
    have hok := insert_fresh_ok texts h hfresh
    have hcache := memoryLawful.find_insert (s := cache) paymentId hfresh.composed rfl
    have hstore := (libsqlLawful texts).find_insert (s := store) paymentId hfresh.composed hok
    refine hcache.trans (Eq.trans ?_ hstore.symm)
    split
    · rfl
    · exact h.entries paymentId
  indexed := memoryLawful.good_insert h.indexed hfresh.unused
  unique := by
    have hunused :
        (libsqlPrepared texts).findByPaymentId store entry.preparation.paymentId = none :=
      (h.entries _).symm.trans hfresh.unused
    exact (libsqlLawful texts).good_insert h.unique hunused
  agrees jkt key := memoryLawful.agrees_insert h.indexed hfresh.composed hfresh.unused
    hfresh.unclaimed_pair (h.agrees jkt key)

theorem mirrors_remove (h : Mirrors cache store) (paymentId : PaymentId) :
    Mirrors (cache.remove paymentId).2 (PreparedTxStore.remove store paymentId).2 where
  entries other := by
    have hcache := memoryLawful.find_remove cache paymentId other
    have hstore := find_remove_prepared store paymentId other
    refine hcache.trans (Eq.trans ?_ hstore.symm)
    split
    · rfl
    · exact h.entries other
  indexed := memoryLawful.good_remove h.indexed
  unique := h.unique.mono fun _ _ => lookup_of_remove
  agrees jkt key := memoryLawful.agrees_remove h.indexed (h.agrees jkt key)

theorem mirrors_sweep (texts : SqlTexts) (h : Mirrors cache store) {now : Nat}
    (hnow : now < 2 ^ 63) :
    Mirrors (cache.sweepExpired now).2 ((libsqlPrepared texts).sweepExpired store now).2 where
  entries paymentId := by
    have hentry := h.entries paymentId
    unfold PreparedTxCache.findByPaymentId PreparedTxStore.findByPaymentId at hentry ⊢
    rw [cache_sweep_row, libsql_sweep_lookup, hentry]
    have hearly : ¬ 2 ^ 63 ≤ now := Nat.not_le.2 hnow
    simp only [hearly, decide_false, Bool.false_or]
    cases store.lookup paymentId with
    | none => rfl
    | some row =>
        simp only [Option.map_some, Option.filter_some]
        show (if decide (now < row.expiresAtUnixSeconds.toNat) = true then _ else _) = _
        split <;> rfl
  indexed := memoryLawful.good_sweep h.indexed
  unique := (libsqlLawful texts).good_sweep h.unique
  agrees jkt key := memoryLawful.agrees_sweep h.indexed (h.agrees jkt key)

/-- Every operation that is issued is answered alike, with success, and keeps the stores in
step. -/
theorem mirrors_perform (h : Mirrors cache store) {op : PreparedOperation}
    (hop : op.Issued cache) :
    (cache.perform op).1 = (store.perform texts op).1 ∧
      (∃ answer, (cache.perform op).1 = .ok answer) ∧
      Mirrors (cache.perform op).2 (store.perform texts op).2 := by
  cases op with
  | insert entry =>
      have hok := insert_fresh_ok texts h hop.1
      refine ⟨?_, ⟨_, rfl⟩, mirrors_insert h hop.1⟩
      show Except.ok PreparedAnswer.inserted =
        Except.map (fun _ => PreparedAnswer.inserted) (PreparedTxStore.insert texts store entry).1
      rw [hok]
      rfl
  | findByPaymentId paymentId =>
      refine ⟨?_, ⟨_, rfl⟩, h⟩
      show Except.ok (PreparedAnswer.found (cache.findByPaymentId paymentId)) = _
      rw [h.entries]
      rfl
  | findByIdempotency jkt key =>
      refine ⟨?_, ⟨_, rfl⟩, h⟩
      show Except.ok (PreparedAnswer.found (cache.findByIdempotency jkt key)) = _
      rw [h.findByIdempotency_eq texts]
      rfl
  | remove paymentId =>
      refine ⟨?_, ⟨_, rfl⟩, mirrors_remove h paymentId⟩
      show Except.ok (PreparedAnswer.removed (cache.findByPaymentId paymentId)) = _
      rw [h.entries]
      rfl
  | sweepExpired now =>
      have hnow : now.toNat < 2 ^ 63 := hop.2
      have hswept := mirrors_sweep texts h hnow
      refine ⟨?_, ⟨_, rfl⟩, hswept⟩
      have hlive := hswept.rows_length
      have hanswer : ((libsqlPrepared texts).sweepExpired store now.toNat).1 =
          .ok (store.rows.length -
            ((libsqlPrepared texts).sweepExpired store now.toNat).2.rows.length) := by
        unfold libsqlPrepared
        simp only [if_neg (Nat.not_le.2 hnow)]
      show Except.ok (PreparedAnswer.swept (cache.byPaymentId.rows.length -
          (cache.sweepExpired now.toNat).2.byPaymentId.rows.length)) =
        Except.map PreparedAnswer.swept ((libsqlPrepared texts).sweepExpired store now.toNat).1
      rw [hanswer, h.rows_length, hlive]
      rfl
  | entryCount =>
      refine ⟨?_, ⟨_, rfl⟩, h⟩
      show Except.ok (PreparedAnswer.count cache.byPaymentId.rows.length) = _
      rw [h.rows_length]
      rfl

end Mirrors

/-! ## Past the signed clock -/

/-- A time that no `i64` holds is refused, and nothing is deleted. -/
theorem sweep_refused (texts : SqlTexts) (table : PreparedTable) {now : UInt64}
    (hnow : 2 ^ 63 ≤ now.toNat) :
    table.perform texts (.sweepExpired now) =
      (.error (.integrityViolation "now_unix_seconds exceeds i64"), table) := by
  have hrefused : table.sweepExpired now =
      (.error (.integrityViolation "now_unix_seconds exceeds i64"), table) := by
    unfold PreparedTable.sweepExpired tryI64
    rw [if_neg (Nat.not_lt.2 hnow)]
  show Prod.map _ id (table.sweepExpired now) = _
  rw [hrefused]
  rfl

/-- The cache compares any time, and keeps the rows that are not due. -/
theorem cache_sweep_any (cache : PreparedTxCache) (now : UInt64) :
    (∃ dropped, (cache.perform (.sweepExpired now)).1 = .ok (.swept dropped)) ∧
      ∀ paymentId, (cache.perform (.sweepExpired now)).2.findByPaymentId paymentId =
        (cache.findByPaymentId paymentId).filter fun entry =>
          decide (now < entry.expiresAtUnixSeconds) :=
  ⟨⟨_, rfl⟩, cache_sweep_row cache now.toNat⟩

/-! ## Every sequence of operations -/

/-- On every sequence of operations that is issued the cache and the SQL table give the
same answers, none of them a failure.  A sweep past the signed clock is the table's to refuse and
the cache's to make. -/
theorem prepared_stores_agree (texts : SqlTexts) (ops : List PreparedOperation)
    (hops : Along (fun cache op => (PreparedTxCache.perform cache op).2)
      (fun cache op => op.Issued cache) memoryPrepared.empty ops) :
    (outputs PreparedTxCache.perform memoryPrepared.empty ops =
        outputs (PreparedTable.perform texts) ∅ ops ∧
      ∀ answer ∈ outputs (PreparedTable.perform texts) ∅ ops, ∃ value, answer = .ok value) ∧
    ∀ now : UInt64, 2 ^ 63 ≤ now.toNat →
      (∀ table : PreparedTable, table.perform texts (.sweepExpired now) =
        (.error (.integrityViolation "now_unix_seconds exceeds i64"), table)) ∧
      ∀ cache : PreparedTxCache,
        (∃ dropped, (cache.perform (.sweepExpired now)).1 = .ok (.swept dropped)) ∧
          ∀ paymentId, (cache.perform (.sweepExpired now)).2.findByPaymentId paymentId =
            (cache.findByPaymentId paymentId).filter fun entry =>
              decide (now < entry.expiresAtUnixSeconds) := by
  let Holds (cache : PreparedTxCache) (table : PreparedTable) : Prop :=
    ∃ store : PreparedTxStore, table = store.encode ∧ Mirrors cache store
  have hperform : ∀ cache table (op : PreparedOperation), Holds cache table → op.Issued cache →
      ((∃ value, (cache.perform op).1 = .ok value) ∧
        (cache.perform op).1 = (table.perform texts op).1) ∧
      Holds (cache.perform op).2 (table.perform texts op).2 := by
    rintro cache table op ⟨store, rfl, hmirrors⟩ hop
    obtain ⟨hsame, hvalue, hnext⟩ := mirrors_perform hmirrors hop
    rw [perform_encode]
    exact ⟨⟨hvalue, hsame⟩, _, rfl, hnext⟩
  have hempty : Holds memoryPrepared.empty ∅ := ⟨∅, rfl, mirrors_empty⟩
  have hrelated := outputs_related_along
    (S := fun answer answer' => (∃ value, answer = .ok value) ∧ answer = answer')
    hperform hempty hops
  rw [List.forall₂_and_left, List.forall₂_eq_eq_eq] at hrelated
  obtain ⟨hsuccess, hsame⟩ := hrelated
  refine ⟨?_, fun now hnow => ⟨fun table => sweep_refused texts table hnow,
    fun cache => cache_sweep_any cache now⟩⟩
  rw [← hsame]
  exact ⟨rfl, hsuccess⟩

def preparedSample (paymentId : String) (idempotencyKey : Option String)
    (expiresAtUnixSeconds : UInt64) : PreparedTxEntry where
  preparation :=
    { paymentId := ⟨paymentId⟩
      paymentUri := composePaymentUri "u1merchant" 150000 [0xff, 0x02]
      memoBytes := [0xff, 0x02]
      expiryHeight := 1040
      amountZat := 150000 }
  payeeId := ⟨"merchant"⟩
  network := .testnet
  recipientUnifiedAddress := "u1merchant"
  amountZat := 150000
  expiresAtUnixSeconds
  idempotencyKey
  agentDpopJkt := "jkt"

/-- A pair whose row expired is claimed again by another payment. -/
def preparedSampleOps : List PreparedOperation :=
  [.insert (preparedSample "pay_1" (some "order-7") 400),
    .findByIdempotency "jkt" "order-7",
    .sweepExpired 400,
    .findByIdempotency "jkt" "order-7",
    .insert (preparedSample "pay_2" (some "order-7") 900),
    .findByIdempotency "jkt" "order-7",
    .remove ⟨"pay_2"⟩,
    .entryCount]

theorem prepared_stores_agree_sample :
    (outputs PreparedTxCache.perform memoryPrepared.empty preparedSampleOps =
        outputs (PreparedTable.perform sampleSqlTexts) ∅ preparedSampleOps ∧
      ∀ answer ∈ outputs (PreparedTable.perform sampleSqlTexts) ∅ preparedSampleOps,
        ∃ value, answer = .ok value) ∧
    PreparedTable.perform sampleSqlTexts ∅ (.sweepExpired 9223372036854775808) =
      (.error (.integrityViolation "now_unix_seconds exceeds i64"), ∅) := by
  have hfirst : FreshEntry memoryPrepared.empty (preparedSample "pay_1" (some "order-7") 400) := by
    refine ⟨rfl, rfl, rfl, by decide, by decide, ?_⟩
    intro key hkey
    rfl
  have hsweep : (PreparedOperation.sweepExpired 400).SweepInRange := by
    show (400 : UInt64).toNat < 2 ^ 63
    decide
  have hops : Along (fun cache op => (PreparedTxCache.perform cache op).2)
      (fun cache op => op.Issued cache) memoryPrepared.empty preparedSampleOps := by
    refine ⟨⟨hfirst, trivial⟩, ⟨trivial, trivial⟩, ⟨trivial, hsweep⟩, ⟨trivial, trivial⟩,
      ⟨⟨by decide, rfl, rfl, by decide, by decide, ?_⟩, trivial⟩, ⟨trivial, trivial⟩,
      ⟨trivial, trivial⟩, ⟨trivial, trivial⟩, trivial⟩
    intro key hkey
    obtain rfl := Option.some.inj hkey
    decide
  obtain ⟨hagree, hlate⟩ := prepared_stores_agree sampleSqlTexts preparedSampleOps hops
  exact ⟨hagree, (hlate 9223372036854775808 (by decide)).1 ∅⟩

/-- From the end of the 64-bit clock on the table refuses to sweep, and the cache sweeps. -/
theorem sweep_past_i64_differs :
    ¬ ∀ (texts : SqlTexts) (ops : List PreparedOperation),
      Along (fun cache op => (PreparedTxCache.perform cache op).2)
          (fun cache op => op.Proposed cache) memoryPrepared.empty ops →
        outputs PreparedTxCache.perform memoryPrepared.empty ops =
          outputs (PreparedTable.perform texts) ∅ ops := by
  intro hagree
  have hsweep :=
    hagree sampleSqlTexts [.sweepExpired 9223372036854775808] ⟨trivial, trivial⟩
  exact absurd hsweep (by decide)

end Zpay.Core
