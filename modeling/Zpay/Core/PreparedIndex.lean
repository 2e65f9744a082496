import Mathlib.Data.Set.Finite.Lemmas
import Mathlib.Data.Set.Finite.List
import Zpay.Core.PreparedBackend
import Zpay.Machine.Run

/-!
# The index that is kept by hand

`PreparedTxCache` under any sequence of inserts, removals and sweeps.  Its secondary index
is written by an insert, erased by pair in a removal and filtered by payment id in a sweep,
so entries that share an id or a pair get in each other's way; the database, whose index is
made of the rows themselves, has no such sequence.

The index is right when a pair names the entry of that pair that was inserted last.  When an
entry was inserted is kept as history beside the cache.

## Main results

* `index_agrees_iff_latest` — the index is right exactly when it names, for every pair, the
  entry that was inserted last.
* `index_kept_iff` — the writes that keep it right.
* `index_agrees_iff` — so for whole sequences.
-/

open Zpay.Data Zpay.Machine

namespace Zpay.Core.PreparedIndex

/-! ## The cache and its history -/

/-- The writing calls of the trait. -/
inductive Write
  | insert (entry : PreparedTxEntry)
  | remove (paymentId : PaymentId)
  | sweepExpired (nowUnixSeconds : UInt64)

/-- The cache, and after how many inserts each id was last inserted. -/
structure History where
  cache : PreparedTxCache
  inserts : Nat
  insertedAt : PaymentId → Nat

def History.initial : History where
  cache := memoryPrepared.empty
  inserts := 0
  insertedAt := fun _ => 0

namespace History

variable (s : History)

def write : Write → History
  | .insert entry =>
      { cache := (s.cache.insert entry).2
        inserts := s.inserts + 1
        insertedAt := Function.update s.insertedAt entry.preparation.paymentId s.inserts }
  | .remove paymentId => { s with cache := (s.cache.remove paymentId).2 }
  | .sweepExpired nowUnixSeconds =>
      { s with cache := (s.cache.sweepExpired nowUnixSeconds.toNat).2 }

def held (paymentId : PaymentId) : Option PreparedTxEntry := s.cache.byPaymentId.lookup paymentId

def index (pair : String × String) : Option PaymentId := s.cache.byIdempotency.lookup pair

/-- An entry of the pair is held under this id. -/
def Holds (pair : String × String) (paymentId : PaymentId) : Prop :=
  ∃ entry, s.held paymentId = some entry ∧ entry.pair = some pair

/-- The entry of the pair that was inserted last. -/
def Latest (pair : String × String) (paymentId : PaymentId) : Prop :=
  s.Holds pair paymentId ∧
    ∀ other, s.Holds pair other → s.insertedAt other ≤ s.insertedAt paymentId

end History

/-- The index and the entries agree. -/
structure IndexAgrees (s : History) : Prop where
  indexed : ∀ jkt key paymentId, s.cache.byIdempotency.lookup (jkt, key) = some paymentId →
    ∃ entry, s.cache.byPaymentId.lookup paymentId = some entry ∧ entry.agentDpopJkt = jkt ∧
      entry.idempotencyKey = some key
  found : ∀ paymentId entry key, s.cache.byPaymentId.lookup paymentId = some entry →
    entry.idempotencyKey = some key →
    (∀ other entry', s.cache.byPaymentId.lookup other = some entry' →
      entry'.agentDpopJkt = entry.agentDpopJkt → entry'.idempotencyKey = some key →
      ¬ s.insertedAt paymentId < s.insertedAt other) →
    s.cache.findByIdempotency entry.agentDpopJkt key = some entry
  own : ∀ jkt key entry, s.cache.findByIdempotency jkt key = some entry →
    entry.agentDpopJkt = jkt ∧ entry.idempotencyKey = some key

/-- The writes that leave the index right. -/
def IndexKept (s : History) : Write → Prop
  | .insert entry =>
      -- an id that a pair names is not given to an entry of another pair
      ∀ pair, s.index pair = some entry.preparation.paymentId → entry.pair = some pair
  | .remove paymentId =>
      -- no other entry has the pair of the one that goes
      ∀ pair, s.Holds pair paymentId → ∀ other, s.Holds pair other → other = paymentId
  | .sweepExpired nowUnixSeconds =>
      -- where the entry that its pair names is due, so is every other one of the pair
      ∀ pair paymentId entry, s.index pair = some paymentId → s.held paymentId = some entry →
        entry.expiresAtUnixSeconds ≤ nowUnixSeconds →
        ∀ other entry', s.held other = some entry' → entry'.pair = some pair →
          entry'.expiresAtUnixSeconds ≤ nowUnixSeconds

/-! ## The entry inserted last -/

/-- Entries are filed under their own ids, and no two were inserted at the same time. -/
structure Inv (s : History) : Prop where
  keyed : ∀ paymentId entry, s.held paymentId = some entry →
    entry.preparation.paymentId = paymentId
  stamped : ∀ paymentId entry, s.held paymentId = some entry → s.insertedAt paymentId < s.inserts
  distinct : ∀ paymentId paymentId' entry entry', s.held paymentId = some entry →
    s.held paymentId' = some entry' → s.insertedAt paymentId = s.insertedAt paymentId' →
    paymentId = paymentId'

section Latest

variable {s s' : History} {pair : String × String} {paymentId other : PaymentId}

/-- A pair that is held has an entry inserted last. -/
theorem exists_latest (hholds : s.Holds pair paymentId) : ∃ latest, s.Latest pair latest := by
  have hfinite : {held | s.Holds pair held}.Finite := by
    refine (List.finite_toSet s.cache.byPaymentId.keys).subset ?_
    intro held hheld
    obtain ⟨entry, hentry, -⟩ := hheld
    exact AList.lookup_isSome.1 (Option.isSome_iff_exists.2 ⟨entry, hentry⟩)
  obtain ⟨latest, hlatest, hall⟩ :=
    Set.exists_max_image _ s.insertedAt hfinite ⟨paymentId, hholds⟩
  exact ⟨latest, hlatest, hall⟩

theorem latest_unique (hinv : Inv s) (h : s.Latest pair paymentId) (h' : s.Latest pair other) :
    paymentId = other := by
  obtain ⟨entry, hentry, -⟩ := h.1
  obtain ⟨entry', hentry', -⟩ := h'.1
  exact hinv.distinct paymentId other entry entry' hentry hentry'
    (Nat.le_antisymm (h'.2 paymentId h.1) (h.2 other h'.1))

/-- Where entries of a pair go, the last one stays the last one if it stays at all. -/
theorem latest_of_subset (hinv : Inv s') (hsub : ∀ x, s'.Holds pair x → s.Holds pair x)
    (hstamps : ∀ x, s'.Holds pair x → s'.insertedAt x = s.insertedAt x)
    (hlatest : s.Latest pair paymentId) (hstays : s'.Holds pair paymentId) :
    s'.Latest pair other ↔ other = paymentId := by
  have hstill : s'.Latest pair paymentId := by
    refine ⟨hstays, ?_⟩
    intro x hx
    rw [hstamps x hx, hstamps paymentId hstays]
    exact hlatest.2 x (hsub x hx)
  constructor
  · intro hother
    exact latest_unique hinv hother hstill
  · rintro rfl
    exact hstill

end Latest

/-- The index names the entry that was inserted last. -/
def NamesLatest (s : History) (pair : String × String) : Prop :=
  ∀ paymentId, s.index pair = some paymentId ↔ s.Latest pair paymentId

theorem index_agrees_iff_latest {s : History} (hinv : Inv s) :
    IndexAgrees s ↔ ∀ pair, NamesLatest s pair := by
  have hholds : ∀ jkt key paymentId, s.Holds (jkt, key) paymentId ↔
      ∃ entry, s.cache.byPaymentId.lookup paymentId = some entry ∧ entry.agentDpopJkt = jkt ∧
        entry.idempotencyKey = some key := by
    intro jkt key paymentId
    simp only [History.Holds, pair_eq]
    rfl
  constructor
  · intro hagrees
    have hnames : ∀ jkt key paymentId, s.Latest (jkt, key) paymentId →
        s.index (jkt, key) = some paymentId := by
      intro jkt key paymentId hlatest
      obtain ⟨entry, hentry, hpair⟩ := hlatest.1
      obtain ⟨rfl, hkey⟩ := pair_eq.1 hpair
      have hnoLater : ∀ other entry', s.cache.byPaymentId.lookup other = some entry' →
          entry'.agentDpopJkt = entry.agentDpopJkt → entry'.idempotencyKey = some key →
          ¬ s.insertedAt paymentId < s.insertedAt other := by
        intro other entry' hother hjkt' hkey'
        exact Nat.not_lt.2 (hlatest.2 other ((hholds _ _ _).2 ⟨entry', hother, hjkt', hkey'⟩))
      have hfound := hagrees.found paymentId entry key hentry hkey hnoLater
      obtain ⟨named, hindex, hnamed⟩ := cache_find_some.1 hfound
      have hsame : named = paymentId :=
        (hinv.keyed named entry hnamed).symm.trans (hinv.keyed paymentId entry hentry)
      rw [← hsame]
      exact hindex
    rintro ⟨jkt, key⟩ paymentId
    constructor
    · intro hindex
      have hheld := (hholds jkt key paymentId).2 (hagrees.indexed jkt key paymentId hindex)
      obtain ⟨latest, hlatest⟩ := exists_latest hheld
      have hsame := hnames jkt key latest hlatest
      rw [hindex] at hsame
      exact Option.some.inj hsame ▸ hlatest
    · exact hnames jkt key paymentId
  · intro hnames
    have hindexed : ∀ jkt key paymentId, s.cache.byIdempotency.lookup (jkt, key) = some paymentId →
        ∃ entry, s.cache.byPaymentId.lookup paymentId = some entry ∧ entry.agentDpopJkt = jkt ∧
          entry.idempotencyKey = some key := by
      intro jkt key paymentId hindex
      exact (hholds jkt key paymentId).1 ((hnames (jkt, key) paymentId).1 hindex).1
    constructor
    · exact hindexed
    · intro paymentId entry key hentry hkey hlast
      have hlatest : s.Latest (entry.agentDpopJkt, key) paymentId := by
        refine ⟨⟨entry, hentry, pair_eq.2 ⟨rfl, hkey⟩⟩, ?_⟩
        intro other hother
        obtain ⟨entry', hentry', hjkt', hkey'⟩ := (hholds _ _ _).1 hother
        exact Nat.not_lt.1 (hlast other entry' hentry' hjkt' hkey')
      exact cache_find_some.2 ⟨paymentId, (hnames _ paymentId).2 hlatest, hentry⟩
    · intro jkt key entry hfind
      obtain ⟨paymentId, hindex, hentry⟩ := cache_find_some.1 hfind
      obtain ⟨entry', hentry', hown⟩ := hindexed jkt key paymentId hindex
      rw [hentry] at hentry'
      exact Option.some.inj hentry' ▸ hown

/-! ## One write -/

section Writes

variable {s : History} {entry : PreparedTxEntry} {paymentId : PaymentId} {nowUnixSeconds : UInt64}

theorem held_insert (x : PaymentId) :
    (s.write (.insert entry)).held x =
      if x = entry.preparation.paymentId then some entry else s.held x :=
  cache_insert_row s.cache entry x

theorem held_remove (x : PaymentId) :
    (s.write (.remove paymentId)).held x = if x = paymentId then none else s.held x :=
  cache_remove_row s.cache paymentId x

theorem held_sweep (x : PaymentId) :
    (s.write (.sweepExpired nowUnixSeconds)).held x =
      (s.held x).filter fun entry =>
        decide (nowUnixSeconds.toNat < entry.expiresAtUnixSeconds.toNat) :=
  cache_sweep_row s.cache nowUnixSeconds.toNat x

theorem insertedAt_insert (x : PaymentId) :
    (s.write (.insert entry)).insertedAt x =
      if x = entry.preparation.paymentId then s.inserts else s.insertedAt x := by
  show Function.update s.insertedAt entry.preparation.paymentId s.inserts x = _
  rw [Function.update_apply]

/-- What a removal or a sweep leaves was there before. -/
theorem inv_of_subset {s' : History} (hinv : Inv s)
    (hsub : ∀ x held, s'.held x = some held → s.held x = some held)
    (hinserts : s'.inserts = s.inserts) (hstamps : s'.insertedAt = s.insertedAt) : Inv s' := by
  constructor
  · intro x held hheld
    exact hinv.keyed x held (hsub x held hheld)
  · intro x held hheld
    rw [hinserts, hstamps]
    exact hinv.stamped x held (hsub x held hheld)
  · intro x y held held' hheld hheld' hsame
    rw [hstamps] at hsame
    exact hinv.distinct x y held held' (hsub x held hheld) (hsub y held' hheld') hsame

theorem held_of_remove {x : PaymentId} {held : PreparedTxEntry}
    (h : (s.write (.remove paymentId)).held x = some held) : s.held x = some held := by
  rw [held_remove] at h
  split at h
  · exact absurd h (by simp)
  · exact h

theorem held_of_sweep {x : PaymentId} {held : PreparedTxEntry}
    (h : (s.write (.sweepExpired nowUnixSeconds)).held x = some held) :
    s.held x = some held ∧ ¬ held.expiresAtUnixSeconds ≤ nowUnixSeconds := by
  rw [held_sweep, Option.filter_eq_some_iff, decide_eq_true_eq] at h
  exact ⟨h.1, UInt64.not_le.2 (UInt64.lt_iff_toNat_lt.2 h.2)⟩

theorem inv_write (hinv : Inv s) (a : Write) : Inv (s.write a) := by
  cases a with
  | insert entry =>
      constructor
      · intro x held hheld
        rw [held_insert] at hheld
        split at hheld
        · next hid => exact Option.some.inj hheld ▸ hid.symm
        · exact hinv.keyed x held hheld
      · intro x held hheld
        show _ < s.inserts + 1
        rw [insertedAt_insert]
        rw [held_insert] at hheld
        split at hheld
        · next hid => rw [if_pos hid]; exact Nat.lt_succ_self _
        · next hid =>
            rw [if_neg hid]
            exact Nat.lt_succ_of_lt (hinv.stamped x held hheld)
      · intro x y held held' hheld hheld' hsame
        rw [insertedAt_insert, insertedAt_insert] at hsame
        rw [held_insert] at hheld hheld'
        by_cases hx : x = entry.preparation.paymentId
        · by_cases hy : y = entry.preparation.paymentId
          · exact hx.trans hy.symm
          · rw [if_neg hy] at hheld'
            rw [if_pos hx, if_neg hy] at hsame
            have hbefore := hinv.stamped y held' hheld'
            omega
        · rw [if_neg hx] at hheld
          by_cases hy : y = entry.preparation.paymentId
          · rw [if_neg hx, if_pos hy] at hsame
            have hbefore := hinv.stamped x held hheld
            omega
          · rw [if_neg hx, if_neg hy] at hsame
            rw [if_neg hy] at hheld'
            exact hinv.distinct x y held held' hheld hheld' hsame
  | remove paymentId => exact inv_of_subset hinv (fun _ _ => held_of_remove) rfl rfl
  | sweepExpired nowUnixSeconds =>
      exact inv_of_subset hinv (fun _ _ h => (held_of_sweep h).1) rfl rfl

theorem holds_insert {pair : String × String} {x : PaymentId} :
    (s.write (.insert entry)).Holds pair x ↔
      if x = entry.preparation.paymentId then entry.pair = some pair else s.Holds pair x := by
  unfold History.Holds
  simp only [held_insert]
  split
  · simp
  · exact Iff.rfl

theorem index_sweep (s : History) (nowUnixSeconds : UInt64) (pair : String × String) :
    (s.write (.sweepExpired nowUnixSeconds)).index pair =
      (s.index pair).filter fun x =>
        ((s.write (.sweepExpired nowUnixSeconds)).held x).isSome :=
  cache_sweep_index s.cache nowUnixSeconds.toNat pair

end Writes

/-! ## What one write does to a pair -/

section Pairs

variable {s s' : History} {pair : String × String} {entry : PreparedTxEntry}
  {paymentId : PaymentId} {nowUnixSeconds : UInt64}

theorem names_none (hnames : NamesLatest s pair) (hindex : s.index pair = none) (x : PaymentId) :
    ¬ s.Holds pair x := by
  intro hholds
  obtain ⟨latest, hlatest⟩ := exists_latest hholds
  have hnamed := (hnames latest).2 hlatest
  rw [hindex] at hnamed
  exact absurd hnamed (by simp)

/-- Where a pair is no longer named, no entry of it may be left. -/
theorem names_of_erased (hindex : s'.index pair = none) :
    NamesLatest s' pair ↔ ∀ x, ¬ s'.Holds pair x := by
  constructor
  · intro hnames
    exact names_none hnames hindex
  · intro hgone x
    rw [hindex]
    constructor
    · intro h
      exact absurd h (by simp)
    · intro hlatest
      exact absurd hlatest.1 (hgone x)

/-- Where entries of a pair go but the one it names stays, it still names the last one. -/
theorem names_of_subset (hinv : Inv s') (hsub : ∀ x, s'.Holds pair x → s.Holds pair x)
    (hstamps : ∀ x, s'.Holds pair x → s'.insertedAt x = s.insertedAt x)
    (hnames : NamesLatest s pair) (hindex : s'.index pair = s.index pair)
    (hstays : ∀ x, s.index pair = some x → s'.Holds pair x) : NamesLatest s' pair := by
  cases hnamed : s.index pair with
  | none =>
      apply (names_of_erased (hindex.trans hnamed)).2
      intro x hholds
      exact names_none hnames hnamed x (hsub x hholds)
  | some latest =>
      intro x
      rw [hindex, hnamed, latest_of_subset hinv hsub hstamps ((hnames latest).1 hnamed)
        (hstays latest hnamed), Option.some.injEq]
      exact eq_comm

theorem names_insert (hinv : Inv s) (hnames : NamesLatest s pair) :
    NamesLatest (s.write (.insert entry)) pair ↔
      (s.index pair = some entry.preparation.paymentId → entry.pair = some pair) := by
  have hindex : (s.write (.insert entry)).index pair =
      if entry.pair = some pair then some entry.preparation.paymentId else s.index pair :=
    cache_insert_index s.cache entry pair
  by_cases hpair : entry.pair = some pair
  · rw [if_pos hpair] at hindex
    have hlast : (s.write (.insert entry)).Latest pair entry.preparation.paymentId := by
      refine ⟨holds_insert.2 (by rw [if_pos rfl]; exact hpair), ?_⟩
      intro other hother
      rw [insertedAt_insert, insertedAt_insert, if_pos rfl]
      by_cases hid : other = entry.preparation.paymentId
      · rw [if_pos hid]
      · rw [if_neg hid]
        rw [holds_insert, if_neg hid] at hother
        obtain ⟨held, hheld, -⟩ := hother
        exact Nat.le_of_lt (hinv.stamped other held hheld)
    refine iff_of_true ?_ fun _ => hpair
    intro x
    rw [hindex, Option.some.injEq]
    constructor
    · rintro rfl
      exact hlast
    · intro hlatest
      exact latest_unique (inv_write hinv _) hlast hlatest
  · rw [if_neg hpair] at hindex
    constructor
    · intro hnames' hnamed
      rw [← hindex] at hnamed
      have hholds := ((hnames' _).1 hnamed).1
      rw [holds_insert, if_pos rfl] at hholds
      exact hholds
    · intro hother
      have hsub : ∀ x, (s.write (.insert entry)).Holds pair x →
          x ≠ entry.preparation.paymentId ∧ s.Holds pair x := by
        intro x hholds
        rw [holds_insert] at hholds
        split at hholds
        · exact absurd hholds hpair
        · next hid => exact ⟨hid, hholds⟩
      refine names_of_subset (inv_write hinv _) (fun x hx => (hsub x hx).2) ?_ hnames hindex ?_
      · intro x hholds
        rw [insertedAt_insert, if_neg (hsub x hholds).1]
      · intro x hnamed
        have hid : x ≠ entry.preparation.paymentId := by
          rintro rfl
          exact hpair (hother hnamed)
        rw [holds_insert, if_neg hid]
        exact ((hnames x).1 hnamed).1

theorem names_remove (hinv : Inv s) (hnames : NamesLatest s pair) :
    NamesLatest (s.write (.remove paymentId)) pair ↔
      (s.Holds pair paymentId → ∀ other, s.Holds pair other → other = paymentId) := by
  have hindex : (s.write (.remove paymentId)).index pair =
      if (s.held paymentId).bind PreparedTxEntry.pair = some pair then none else s.index pair :=
    cache_remove_index s.cache paymentId pair
  have hpairs : (s.held paymentId).bind PreparedTxEntry.pair = some pair ↔ s.Holds pair paymentId :=
    Option.bind_eq_some_iff
  have hholds : ∀ x, (s.write (.remove paymentId)).Holds pair x ↔
      x ≠ paymentId ∧ s.Holds pair x := by
    intro x
    unfold History.Holds
    simp only [held_remove]
    by_cases hid : x = paymentId
    · simp [hid]
    · simp [hid]
  by_cases hremoved : s.Holds pair paymentId
  · rw [if_pos (hpairs.2 hremoved)] at hindex
    rw [names_of_erased hindex]
    constructor
    · intro hgone _ other hother
      by_contra hid
      exact hgone other ((hholds other).2 ⟨hid, hother⟩)
    · intro hall x hx
      exact ((hholds x).1 hx).1 (hall hremoved x ((hholds x).1 hx).2)
  · rw [if_neg (mt hpairs.1 hremoved)] at hindex
    refine iff_of_true ?_ fun h => absurd h hremoved
    refine names_of_subset (inv_write hinv _) (fun x hx => ((hholds x).1 hx).2) (fun _ _ => rfl)
      hnames hindex ?_
    intro x hnamed
    have hx := ((hnames x).1 hnamed).1
    refine (hholds x).2 ⟨?_, hx⟩
    rintro rfl
    exact hremoved hx

theorem names_sweep (hinv : Inv s) (hnames : NamesLatest s pair) :
    NamesLatest (s.write (.sweepExpired nowUnixSeconds)) pair ↔
      ∀ paymentId entry, s.index pair = some paymentId → s.held paymentId = some entry →
        entry.expiresAtUnixSeconds ≤ nowUnixSeconds →
        ∀ other entry', s.held other = some entry' → entry'.pair = some pair →
          entry'.expiresAtUnixSeconds ≤ nowUnixSeconds := by
  have hsub : ∀ x, (s.write (.sweepExpired nowUnixSeconds)).Holds pair x → s.Holds pair x := by
    intro x hx
    obtain ⟨entry, hentry, hpair⟩ := hx
    exact ⟨entry, (held_of_sweep hentry).1, hpair⟩
  have hlive : ∀ x entry, s.held x = some entry → ¬ entry.expiresAtUnixSeconds ≤ nowUnixSeconds →
      (s.write (.sweepExpired nowUnixSeconds)).held x = some entry := by
    intro x entry hentry hdue
    rw [held_sweep, hentry, Option.filter_some, if_pos]
    exact decide_eq_true (UInt64.lt_iff_toNat_lt.1 (UInt64.not_le.1 hdue))
  have hindex := index_sweep s nowUnixSeconds pair
  cases hnamed : s.index pair with
  | none =>
      rw [hnamed] at hindex
      refine iff_of_true ?_ fun _ _ h => absurd h (by simp)
      apply (names_of_erased hindex).2
      intro x hx
      exact names_none hnames hnamed x (hsub x hx)
  | some latest =>
      obtain ⟨entry, hentry, hpair⟩ := ((hnames latest).1 hnamed).1
      rw [hnamed, Option.filter_some] at hindex
      by_cases hdue : entry.expiresAtUnixSeconds ≤ nowUnixSeconds
      · have hswept : (s.write (.sweepExpired nowUnixSeconds)).held latest = none := by
          cases hkept : (s.write (.sweepExpired nowUnixSeconds)).held latest with
          | none => rfl
          | some kept =>
              obtain ⟨hheld, hnot⟩ := held_of_sweep hkept
              rw [hentry] at hheld
              exact absurd (Option.some.inj hheld ▸ hdue) hnot
        rw [hswept] at hindex
        rw [names_of_erased hindex]
        constructor
        · intro hgone paymentId named _ _ _ other entry' hentry' hpair'
          by_contra hnot
          exact hgone other ⟨entry', hlive other entry' hentry' hnot, hpair'⟩
        · intro hall x hx
          obtain ⟨entry', hentry', hpair'⟩ := hx
          obtain ⟨hheld, hnot⟩ := held_of_sweep hentry'
          exact hnot (hall latest entry rfl hentry hdue x entry' hheld hpair')
      · have hkept := hlive latest entry hentry hdue
        rw [hkept] at hindex
        constructor
        · intro _ paymentId named hsame hheld hdue'
          rw [← Option.some.inj hsame, hentry] at hheld
          exact absurd (Option.some.inj hheld ▸ hdue') hdue
        · intro _
          refine names_of_subset (inv_write hinv _) hsub (fun _ _ => rfl) hnames
            (hindex.trans hnamed.symm) ?_
          intro x hx
          rw [hnamed] at hx
          exact Option.some.inj hx ▸ ⟨entry, hkept, hpair⟩

end Pairs

/-! ## Sequences of writes -/

/-- The writes that keep the index right. -/
theorem index_kept_iff {s : History} (hinv : Inv s) (hagrees : IndexAgrees s) (a : Write) :
    IndexKept s a ↔ IndexAgrees (s.write a) := by
  have hnames := (index_agrees_iff_latest hinv).1 hagrees
  rw [index_agrees_iff_latest (inv_write hinv a)]
  cases a with
  | insert entry => exact forall_congr' fun pair => (names_insert hinv (hnames pair)).symm
  | remove paymentId => exact forall_congr' fun pair => (names_remove hinv (hnames pair)).symm
  | sweepExpired nowUnixSeconds =>
      exact forall_congr' fun pair => (names_sweep hinv (hnames pair)).symm

theorem inv_initial : Inv History.initial where
  keyed := fun _ _ h => absurd h (by simp [History.held, History.initial, memoryPrepared])
  stamped := fun _ _ h => absurd h (by simp [History.held, History.initial, memoryPrepared])
  distinct := fun _ _ _ _ h => absurd h (by simp [History.held, History.initial, memoryPrepared])

theorem index_agrees_initial : IndexAgrees History.initial where
  indexed := fun _ _ _ h => absurd h (by simp [History.initial, memoryPrepared])
  found := fun _ _ _ h => absurd h (by simp [History.initial, memoryPrepared])
  own := fun _ _ _ h => absurd h
    (by simp [History.initial, memoryPrepared, PreparedTxCache.findByIdempotency])

/-- The index agrees with the entries throughout a sequence of writes exactly when every one
of them keeps it so. -/
theorem index_agrees_iff (as : List Write) :
    (∀ n, IndexAgrees (run History.write .initial (as.take n))) ↔
      Along History.write IndexKept .initial as := by
  have hinv : ∀ s a, Inv s → Inv (s.write a) := fun _ a hinv => inv_write hinv a
  have hstep : ∀ s a, Inv s → IndexAgrees s → (IndexKept s a ↔ IndexAgrees (s.write a)) :=
    fun _ a hinv hagrees => index_kept_iff hinv hagrees a
  exact always_iff_along hinv hstep inv_initial index_agrees_initial as

/-! ### Entries that share an id or a pair -/

def sampleEntry (paymentId agentDpopJkt idempotencyKey : String) : PreparedTxEntry where
  preparation :=
    { paymentId := ⟨paymentId⟩, paymentUri := "zcash:utest1q", memoBytes := [],
      expiryHeight := 140, amountZat := 5 }
  payeeId := ⟨"aether-ai"⟩
  network := .testnet
  recipientUnifiedAddress := "utest1q"
  amountZat := 5
  expiresAtUnixSeconds := 1000
  idempotencyKey := some idempotencyKey
  agentDpopJkt := agentDpopJkt

/-- An entry that replaces another one is found under the other one's agent and key. -/
theorem replaced_entry_found :
    ¬ ∀ (as : List Write) n, IndexAgrees (run History.write .initial (as.take n)) := by
  intro hagrees
  have hown := (hagrees [.insert (sampleEntry "p" "alice" "a"),
    .insert (sampleEntry "p" "bob" "b")] 2).own "alice" "a" (sampleEntry "p" "bob" "b") (by decide)
  exact absurd hown.1 (by decide)

/-- The earlier of two entries of a pair is removed, and the later one is no longer found. -/
example :
    let s := run History.write .initial [.insert (sampleEntry "p" "alice" "a"),
      .insert (sampleEntry "q" "alice" "a"), .remove ⟨"p"⟩]
    s.held ⟨"q"⟩ = some (sampleEntry "q" "alice" "a") ∧
      s.cache.findByIdempotency "alice" "a" = none := by decide

end Zpay.Core.PreparedIndex
