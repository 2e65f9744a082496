import Mathlib.Algebra.Order.Ring.Int
import Mathlib.Data.List.AList
import Mathlib.Order.Defs.LinearOrder

/-!
# Keyed tables

A store with a primary key is a finite map whose rows can be enumerated: the
same value serves a hash map behind a lock and a database table with one row a
key.  Mathlib's association lists give the map; this module adds the operations
a store is written with (`modify` one row, `mapRows` a bulk update, `retain` a
conditional delete) and says what each of them does to a lookup.  A table whose
values are a coding of another's is that table through `mapValues`.

## Main results

* `lookup_insert_eq`, `lookup_erase_eq`, `lookup_modify`, `lookup_mapRows`,
  `lookup_retain` — every operation, at every key, as an equation about
  `lookup`.  Proofs about a store rewrite with these and never look inside it.
* `insert_mapValues`, `erase_mapValues`, `retain_mapValues` — the operations of a coded
  table are the coded operations.
* `lookup_foldl` — a pass that rewrites rows under distinct keys.
* `mem_rows`, `readRows_perm` — enumeration and lookup agree; tables with the same
  lookups list the same rows.
* `descending_eq_of_perm` — sorted by its keys, a table has one listing.
-/

namespace Zpay.Data

/-- A finite map with enumerable rows. -/
abbrev Table (κ ν : Type*) := AList fun _ : κ => ν

namespace Table

variable {κ ν : Type*}

/-- The rows, in no particular order. -/
def rows (t : Table κ ν) : List (κ × ν) := t.entries.map fun e => (e.1, e.2)

/-- Keeps the rows that meet `p` and deletes the others. -/
def retain (t : Table κ ν) (p : κ → ν → Bool) : Table κ ν where
  entries := t.entries.filter fun e => p e.1 e.2
  nodupKeys := t.nodupKeys.sublist List.filter_sublist

/-- Rewrites every row in place. -/
def mapRows (t : Table κ ν) (f : κ → ν → ν) : Table κ ν where
  entries := t.entries.map (Sigma.map id f)
  nodupKeys := List.NodupKeys.map₂ f t.entries t.nodupKeys

/-- The same keys, with every value read through `f`. -/
def mapValues {μ : Type*} (t : Table κ ν) (f : ν → μ) : Table κ μ where
  entries := t.entries.map (Sigma.map id fun _ => f)
  nodupKeys := List.NodupKeys.map₂ (fun _ => f) t.entries t.nodupKeys

variable [DecidableEq κ]

/-- Overwrites the row under `k`, when there is one. -/
def modify (t : Table κ ν) (k : κ) (f : ν → ν) : Table κ ν :=
  match t.lookup k with
  | some v => t.insert k (f v)
  | none => t

theorem lookup_insert_eq (t : Table κ ν) (k j : κ) (v : ν) :
    (t.insert k v).lookup j = if j = k then some v else t.lookup j := by
  split
  · next heq => subst heq; exact AList.lookup_insert t
  · next hne => exact AList.lookup_insert_ne hne

/-- What holds of an inserted row and of the others holds of every row. -/
theorem forall_insert {P : κ → ν → Prop} {t : Table κ ν} {k : κ} {v : ν} (hnew : P k v)
    (hothers : ∀ j w, j ≠ k → t.lookup j = some w → P j w) :
    ∀ j w, (AList.insert k v t).lookup j = some w → P j w := by
  intro j w h
  rw [lookup_insert_eq] at h
  split at h
  · next heq => exact Option.some.inj h ▸ heq ▸ hnew
  · next hne => exact hothers j w hne h

theorem lookup_erase_eq (t : Table κ ν) (k j : κ) :
    (t.erase k).lookup j = if j = k then none else t.lookup j := by
  split
  · next heq => subst heq; exact AList.lookup_erase j t
  · next hne => exact AList.lookup_erase_ne hne

theorem lookup_modify (t : Table κ ν) (k j : κ) (f : ν → ν) :
    (t.modify k f).lookup j = if j = k then (t.lookup k).map f else t.lookup j := by
  unfold modify
  split
  · next v hrow => rw [lookup_insert_eq, hrow]; rfl
  · next hrow =>
      split
      · next heq => rw [heq, hrow]; rfl
      · rfl

theorem lookup_mapRows (t : Table κ ν) (f : κ → ν → ν) (k : κ) :
    (t.mapRows f).lookup k = (t.lookup k).map (f k) :=
  List.dlookup_map₂ k

theorem lookup_retain (t : Table κ ν) (p : κ → ν → Bool) (k : κ) :
    (t.retain p).lookup k = (t.lookup k).filter (p k) := by
  ext v
  rw [Option.filter_eq_some_iff]
  constructor
  · intro hrow
    obtain ⟨hin, hp⟩ := List.mem_filter.1 (AList.mem_lookup_iff.1 hrow)
    exact ⟨AList.mem_lookup_iff.2 hin, hp⟩
  · rintro ⟨hrow, hp⟩
    exact AList.mem_lookup_iff.2 (List.mem_filter.2 ⟨AList.mem_lookup_iff.1 hrow, hp⟩)

theorem mem_rows (t : Table κ ν) (k : κ) (v : ν) :
    (k, v) ∈ t.rows ↔ t.lookup k = some v := by
  rw [← Option.mem_def, AList.mem_lookup_iff, rows, List.mem_map]
  constructor
  · rintro ⟨⟨j, w⟩, hin, heq⟩
    obtain ⟨rfl, rfl⟩ := Prod.mk.inj heq
    exact hin
  · exact fun hin => ⟨⟨k, v⟩, hin, rfl⟩

/-- The rows, with every value read through `f`. -/
def readRows {μ : Type*} (t : Table κ ν) (f : ν → μ) : List (κ × μ) :=
  t.rows.map fun row => (row.1, f row.2)

theorem mem_readRows {μ : Type*} (t : Table κ ν) (f : ν → μ) (k : κ) (w : μ) :
    (k, w) ∈ t.readRows f ↔ (t.lookup k).map f = some w := by
  unfold readRows
  rw [List.mem_map, Option.map_eq_some_iff]
  constructor
  · intro hrow
    obtain ⟨⟨j, v⟩, hin, heq⟩ := hrow
    obtain ⟨rfl, rfl⟩ := Prod.mk.inj heq
    exact ⟨v, (mem_rows t j v).1 hin, rfl⟩
  · intro hrow
    obtain ⟨v, hlookup, rfl⟩ := hrow
    exact ⟨(k, v), (mem_rows t k v).2 hlookup, rfl⟩

omit [DecidableEq κ] in
/-- Every key is listed once. -/
theorem nodup_readRows {μ : Type*} (t : Table κ ν) (f : ν → μ) :
    ((t.readRows f).map Prod.fst).Nodup := by
  have hkeys : (t.readRows f).map Prod.fst = t.entries.keys := by
    unfold readRows rows List.keys
    rw [List.map_map, List.map_map]
    rfl
  rw [hkeys]
  exact t.nodupKeys

omit [DecidableEq κ] in
/-- A selection of the rows names every key at most once. -/
theorem nodup_keys_filterMap {β : Type*} (t : Table κ ν) {f : κ × ν → Option β} {key : β → κ}
    (hkey : ∀ row b, f row = some b → key b = row.1) :
    ((t.rows.filterMap f).map key).Nodup := by
  have hkeys : (t.rows.map Prod.fst).Nodup := by
    have hread := t.nodup_readRows fun v => v
    unfold readRows at hread
    rw [List.map_map] at hread
    exact hread
  refine hkeys.sublist ?_
  generalize t.rows = rows
  induction rows with
  | nil => exact .slnil
  | cons row rows ih =>
      rw [List.map_cons]
      cases hselected : f row with
      | none =>
          rw [List.filterMap_cons_none hselected]
          exact ih.cons _
      | some b =>
          rw [List.filterMap_cons_some hselected, List.map_cons, hkey row b hselected]
          exact ih.cons_cons _

/-- Tables that agree on every lookup, up to `f` and `g`, list the same rows. -/
theorem readRows_perm {ν' μ : Type*} {t : Table κ ν} {t' : Table κ ν'} {f : ν → μ} {g : ν' → μ}
    (h : ∀ k, (t.lookup k).map f = (t'.lookup k).map g) :
    (t.readRows f).Perm (t'.readRows g) := by
  rw [List.perm_ext_iff_of_nodup (List.Nodup.of_map Prod.fst (t.nodup_readRows f))
    (List.Nodup.of_map Prod.fst (t'.nodup_readRows g))]
  intro row
  obtain ⟨k, w⟩ := row
  rw [mem_readRows, mem_readRows, h k]

/-- Whether a condition on one key's value selects a row. -/
theorem selects_row (t : Table κ ν) (k : κ) (q : ν → Bool) :
    (!((t.rows.filter fun row => row.1 == k && q row.2).map Prod.fst).isEmpty) =
      (t.lookup k).any q := by
  rw [Bool.eq_iff_iff, Option.any_eq_true, Bool.not_eq_true', List.isEmpty_eq_false_iff_exists_mem]
  constructor
  · intro hselected
    obtain ⟨_, hin⟩ := hselected
    obtain ⟨⟨j, v⟩, hrow, -⟩ := List.mem_map.1 hin
    obtain ⟨hlisted, hq⟩ := List.mem_filter.1 hrow
    rw [Bool.and_eq_true, beq_iff_eq] at hq
    obtain ⟨rfl, hv⟩ := hq
    exact ⟨v, (mem_rows t j v).1 hlisted, hv⟩
  · intro hvalue
    obtain ⟨v, hlookup, hq⟩ := hvalue
    refine ⟨k, List.mem_map.2 ⟨(k, v), List.mem_filter.2 ⟨(mem_rows t k v).2 hlookup, ?_⟩, rfl⟩⟩
    rw [Bool.and_eq_true, beq_iff_eq]
    exact ⟨rfl, hq⟩

/-! ### Reading every value -/

section MapValues

variable {μ : Type*} (f : ν → μ)

theorem lookup_mapValues (t : Table κ ν) (k : κ) :
    (t.mapValues f).lookup k = (t.lookup k).map f :=
  List.dlookup_map₂ k

omit [DecidableEq κ] in
theorem rows_mapValues (t : Table κ ν) :
    (t.mapValues f).rows = t.rows.map fun row => (row.1, f row.2) := by
  unfold rows mapValues
  rw [List.map_map, List.map_map]
  rfl

theorem erase_mapValues (t : Table κ ν) (k : κ) :
    (t.mapValues f).erase k = mapValues (t.erase k) f := by
  ext1
  show List.kerase k (t.entries.map _) = (List.kerase k t.entries).map _
  unfold List.kerase
  rw [List.eraseP_map]
  rfl

theorem insert_mapValues (t : Table κ ν) (k : κ) (v : ν) :
    (t.mapValues f).insert k (f v) = mapValues (t.insert k v) f := by
  have herase := congrArg AList.entries (erase_mapValues f t k)
  ext1
  show ⟨k, f v⟩ :: List.kerase k (t.mapValues f).entries = _
  rw [show List.kerase k (t.mapValues f).entries = _ from herase]
  rfl

omit [DecidableEq κ] in
/-- A conditional delete by what `f` keeps. -/
theorem retain_mapValues (t : Table κ ν) (p : κ → μ → Bool) :
    (t.mapValues f).retain p = mapValues (t.retain fun k v => p k (f v)) f := by
  ext1
  show (t.entries.map _).filter _ = (t.entries.filter _).map _
  rw [List.filter_map]
  rfl

end MapValues

/-- Tables with the same keys have as many rows. -/
theorem length_rows_eq {ν' : Type*} {t : Table κ ν} {t' : Table κ ν'}
    (h : ∀ k, (t.lookup k).isSome = (t'.lookup k).isSome) :
    t.rows.length = t'.rows.length := by
  have hread : ∀ k, (t.lookup k).map (fun _ => ()) = (t'.lookup k).map fun _ => () := by
    intro k
    have hkey := h k
    cases hrow : t.lookup k <;> cases hrow' : t'.lookup k <;> simp_all
  have hperm := (readRows_perm hread).length_eq
  unfold readRows at hperm
  rw [List.length_map, List.length_map] at hperm
  exact hperm

/-- A pass over distinct keys that rewrites the row under each of them: a row is
rewritten by the one element that has its key, as it was before the pass. -/
theorem lookup_foldl {β : Type*} {step : Table κ ν → β → Table κ ν} {key : β → κ}
    {f : β → ν → ν}
    (hstep : ∀ t b k, (step t b).lookup k =
      if k = key b then (t.lookup k).map (f b) else t.lookup k)
    {bs : List β} (hnodup : (bs.map key).Nodup) (t : Table κ ν) (k : κ) :
    (bs.foldl step t).lookup k =
      match bs.find? fun b => decide (key b = k) with
      | some b => (t.lookup k).map (f b)
      | none => t.lookup k := by
  induction bs generalizing t with
  | nil => rfl
  | cons b bs ih =>
      rw [List.map_cons, List.nodup_cons] at hnodup
      rw [List.foldl_cons, ih hnodup.2, hstep, List.find?_cons]
      by_cases hkey : key b = k
      · have hlater : (bs.find? fun b => decide (key b = k)) = none := by
          rw [List.find?_eq_none]
          intro b' hb' heq
          rw [decide_eq_true_eq] at heq
          exact hnodup.1 (hkey ▸ heq ▸ List.mem_map_of_mem hb')
        rw [hlater, if_pos hkey.symm, decide_eq_true hkey]
      · rw [if_neg (Ne.symm hkey), decide_eq_false hkey]

end Table

/-! ## Sorting by a key -/

section Descending

variable {α β ω : Type*} [LinearOrder ω]

/-- Sorts by a key, the greatest first. -/
def descending (key : α → ω) (l : List α) : List α :=
  l.mergeSort fun a b => decide (key b ≤ key a)

theorem descending_perm (key : α → ω) (l : List α) : (descending key l).Perm l :=
  List.mergeSort_perm l _

theorem pairwise_descending (key : α → ω) (l : List α) :
    (descending key l).Pairwise fun a b => key b ≤ key a := by
  have htrans : ∀ a b c : α, decide (key b ≤ key a) = true → decide (key c ≤ key b) = true →
      decide (key c ≤ key a) = true := by
    intro a b c hab hbc
    rw [decide_eq_true_eq] at hab hbc ⊢
    exact le_trans hbc hab
  have htotal : ∀ a b : α, (decide (key b ≤ key a) || decide (key a ≤ key b)) = true := by
    intro a b
    rw [Bool.or_eq_true, decide_eq_true_eq, decide_eq_true_eq]
    exact le_total (key b) (key a)
  exact (List.pairwise_mergeSort htrans htotal l).imp fun hle => of_decide_eq_true hle

/-- The order in which the elements come does not matter when no key is repeated. -/
theorem descending_eq_of_perm {key : α → ω} {l l' : List α} (hperm : l.Perm l')
    (hnodup : (l.map key).Nodup) : descending key l = descending key l' := by
  have hsame : (descending key l).Perm (descending key l') :=
    (descending_perm key l).trans (hperm.trans (descending_perm key l').symm)
  refine List.Perm.eq_of_pairwise ?_ (pairwise_descending key l) (pairwise_descending key l') hsame
  intro a b ha hb hba hab
  have hin : a ∈ l := (descending_perm key l).mem_iff.1 ha
  have hin' : b ∈ l := hperm.mem_iff.2 ((descending_perm key l').mem_iff.1 hb)
  exact List.inj_on_of_nodup_map hnodup hin hin' (le_antisymm hab hba)

/-- Sorting commutes with a map that keeps the keys. -/
theorem descending_map {key : α → ω} {key' : β → ω} {f : α → β} (l : List α)
    (hkey : ∀ a, key' (f a) = key a) :
    (descending key l).map f = descending key' (l.map f) := by
  unfold descending
  apply List.map_mergeSort
  intro a _ b _
  rw [hkey, hkey]

end Descending

end Zpay.Data
