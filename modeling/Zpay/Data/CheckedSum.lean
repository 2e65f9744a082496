import Mathlib.Algebra.BigOperators.Group.Finset.Basic
import Mathlib.Algebra.Order.Ring.Int
import Mathlib.Data.List.Pairwise

/-!
# Checked sums

A sum of `u64` amounts that fails when it does not fit, against the exact sum; and the sum
that counts what is listed more than once only once, against the plain one.

## Main results

* `checkedSum_eq_some`, `checkedSum_eq_none` — the checked sum is the exact one where it fits.
* `sumDistinct_le`, `sumDistinct_eq_iff` — when nothing is counted twice.
-/

namespace Zpay.Data

/-- `u64::checked_add`. -/
def checkedAdd (a b : UInt64) : Option UInt64 :=
  if a.toNat + b.toNat < 2 ^ 64 then some (a + b) else none

theorem checkedAdd_eq_some {a b c : UInt64} :
    checkedAdd a b = some c ↔ c.toNat = a.toNat + b.toNat := by
  unfold checkedAdd
  have hc := c.toNat_lt
  split
  · next hfits =>
      have hsum : (a + b).toNat = a.toNat + b.toNat := by
        rw [UInt64.toNat_add]
        exact Nat.mod_eq_of_lt hfits
      rw [Option.some.injEq, ← UInt64.toNat_inj, hsum]
      exact eq_comm
  · next hoverflow =>
      refine iff_of_false (by simp) ?_
      omega

section CheckedSum

variable {α : Type*} {amount : α → UInt64} {l : List α}

/-- `try_fold` with `checked_add`. -/
def checkedSum (amount : α → UInt64) (l : List α) : Option UInt64 :=
  l.foldlM (fun sum a => checkedAdd sum (amount a)) 0

theorem foldlM_checkedAdd {sum total : UInt64} :
    l.foldlM (fun sum a => checkedAdd sum (amount a)) sum = some total ↔
      total.toNat = sum.toNat + (l.map fun a => (amount a).toNat).sum := by
  induction l generalizing sum with
  | nil =>
      rw [List.foldlM_nil, List.map_nil, List.sum_nil, Nat.add_zero, UInt64.toNat_inj]
      exact Option.some_inj.trans eq_comm
  | cons a l ih =>
      rw [List.foldlM_cons, Option.bind_eq_bind, Option.bind_eq_some_iff, List.map_cons,
        List.sum_cons]
      constructor
      · rintro ⟨next, hnext, hrest⟩
        have hfirst := checkedAdd_eq_some.1 hnext
        have htotal := ih.1 hrest
        omega
      · intro htotal
        have hbound := total.toNat_lt
        have hfits : sum.toNat + (amount a).toNat < 2 ^ 64 := by omega
        have hnext : (UInt64.ofNat (sum.toNat + (amount a).toNat)).toNat =
            sum.toNat + (amount a).toNat := UInt64.toNat_ofNat_of_lt' hfits
        refine ⟨_, checkedAdd_eq_some.2 hnext, ih.2 ?_⟩
        rw [hnext]
        omega

theorem checkedSum_eq_some {total : UInt64} :
    checkedSum amount l = some total ↔
      total.toNat = (l.map fun a => (amount a).toNat).sum := by
  have hzero : (0 : UInt64).toNat = 0 := rfl
  unfold checkedSum
  rw [foldlM_checkedAdd, hzero, Nat.zero_add]

theorem checkedSum_eq_none :
    checkedSum amount l = none ↔ 2 ^ 64 ≤ (l.map fun a => (amount a).toNat).sum := by
  constructor
  · intro hnone
    by_contra hfits
    have htotal := checkedSum_eq_some.2
      (UInt64.toNat_ofNat_of_lt' (Nat.not_le.1 hfits) : (UInt64.ofNat _).toNat = _)
    rw [hnone] at htotal
    exact absurd htotal (by simp)
  · intro hlarge
    cases htotal : checkedSum amount l with
    | none => rfl
    | some total =>
        have hbound := total.toNat_lt
        rw [checkedSum_eq_some.1 htotal] at hbound
        omega

end CheckedSum

/-! ## Each key once -/

section Distinct

variable {α κ : Type*} [DecidableEq κ]

/-- What the first element with a key counts for. -/
def valueAt (key : α → κ) (value : α → Nat) (l : List α) (k : κ) : Nat :=
  ((l.find? fun a => decide (key a = k)).map value).getD 0

/-- The sum over the different keys of a list. -/
def sumDistinct (key : α → κ) (value : α → Nat) (l : List α) : Nat :=
  ∑ k ∈ (l.map key).toFinset, valueAt key value l k

variable {key : α → κ} {value : α → Nat} {a : α} {l : List α}

theorem valueAt_cons_self : valueAt key value (a :: l) (key a) = value a := by
  unfold valueAt
  rw [List.find?_cons_of_pos (by simp), Option.map_some, Option.getD_some]

/-- An element that agrees with those of its key changes no value. -/
theorem valueAt_cons_of_mem (hagree : ∀ b ∈ l, key b = key a → value b = value a) {k : κ}
    (hk : k ∈ l.map key) : valueAt key value (a :: l) k = valueAt key value l k := by
  by_cases hsame : key a = k
  · subst hsame
    rw [valueAt_cons_self]
    obtain ⟨b, hb, hkey⟩ := List.mem_map.1 hk
    unfold valueAt
    cases hfound : l.find? fun b => decide (key b = key a) with
    | none =>
        have hnot := List.find?_eq_none.1 hfound b hb
        exact absurd (decide_eq_true hkey) hnot
    | some c =>
        have hc := List.find?_some hfound
        exact (hagree c (List.mem_of_find?_eq_some hfound) (of_decide_eq_true hc)).symm
  · unfold valueAt
    rw [List.find?_cons_of_neg (by simp [hsame])]

theorem sumDistinct_cons (hagree : ∀ b ∈ l, key b = key a → value b = value a) :
    sumDistinct key value (a :: l) =
      if key a ∈ l.map key then sumDistinct key value l
      else value a + sumDistinct key value l := by
  have hrest : ∑ k ∈ (l.map key).toFinset, valueAt key value (a :: l) k =
      sumDistinct key value l :=
    Finset.sum_congr rfl fun k hk => valueAt_cons_of_mem hagree (List.mem_toFinset.1 hk)
  unfold sumDistinct at *
  rw [List.map_cons, List.toFinset_cons]
  split
  · next hmem => rw [Finset.insert_eq_of_mem (List.mem_toFinset.2 hmem), hrest]
  · next hnew =>
      rw [Finset.sum_insert (mt List.mem_toFinset.1 hnew), valueAt_cons_self, hrest]

/-- Counting each key once never makes more. -/
theorem sumDistinct_le (hagree : ∀ a ∈ l, ∀ b ∈ l, key a = key b → a = b) :
    sumDistinct key value l ≤ (l.map value).sum := by
  induction l with
  | nil => exact Nat.le_refl 0
  | cons a l ih =>
      have hhead : ∀ b ∈ l, key b = key a → value b = value a := by
        intro b hb hkey
        rw [hagree b (List.mem_cons_of_mem a hb) a List.mem_cons_self hkey]
      have htail := ih fun b hb c hc =>
        hagree b (List.mem_cons_of_mem a hb) c (List.mem_cons_of_mem a hc)
      rw [sumDistinct_cons hhead, List.map_cons, List.sum_cons]
      split
      · omega
      · omega

/-- Counting each key once makes as much exactly when what counts is listed once. -/
theorem sumDistinct_eq_iff (hagree : ∀ a ∈ l, ∀ b ∈ l, key a = key b → a = b) :
    (l.map value).sum = sumDistinct key value l ↔
      l.Pairwise fun a b => value a ≠ 0 → key a ≠ key b := by
  induction l with
  | nil => exact iff_of_true rfl List.Pairwise.nil
  | cons a l ih =>
      have hhead : ∀ b ∈ l, key b = key a → value b = value a := by
        intro b hb hkey
        rw [hagree b (List.mem_cons_of_mem a hb) a List.mem_cons_self hkey]
      have hagree' : ∀ b ∈ l, ∀ c ∈ l, key b = key c → b = c := fun b hb c hc =>
        hagree b (List.mem_cons_of_mem a hb) c (List.mem_cons_of_mem a hc)
      have hle : sumDistinct key value l ≤ (l.map value).sum := sumDistinct_le hagree'
      rw [sumDistinct_cons hhead, List.map_cons, List.sum_cons, List.pairwise_cons, ← ih hagree']
      split
      · next hmem =>
          obtain ⟨b, hb, hkey⟩ := List.mem_map.1 hmem
          constructor
          · intro hsum
            refine ⟨fun _ _ hpositive => ?_, by omega⟩
            exact absurd (show value a = 0 by omega) hpositive
          · rintro ⟨hlisted, hsum⟩
            have hzero : value a = 0 := by
              by_contra hpositive
              exact hlisted b hb hpositive hkey.symm
            omega
      · next hnew =>
          constructor
          · intro hsum
            refine ⟨fun b hb _ hkey => ?_, by omega⟩
            exact hnew (List.mem_map.2 ⟨b, hb, hkey.symm⟩)
          · rintro ⟨-, hsum⟩
            omega

end Distinct

end Zpay.Data
