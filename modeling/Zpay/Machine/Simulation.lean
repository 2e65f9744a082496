import Mathlib.Data.List.Forall2
import Zpay.Machine.Run

/-!
# Machines that answer

Two machines over the same operations, each answering every operation and moving
to a new state.  When a relation between their states is kept by every operation,
and related states answer alike, nobody who sees the answers alone can tell the
machines apart.

## Main results

* `outputs_related_along`, `outputs_related` — the simulation rule, for the answers along
  every sequence of operations.
* `outputs_related_timed`, `final_timed` — the same for operations that come at times, one
  not before the other.
* `final_bounded` — a bound that each operation may raise by one.
-/

namespace Zpay.Machine

variable {σ τ α ρ ρ' : Type*}

/-- The answers along a sequence of operations. -/
def outputs (perform : σ → α → ρ × σ) : σ → List α → List ρ
  | _, [] => []
  | s, a :: as => (perform s a).1 :: outputs perform (perform s a).2 as

/-- The state after a sequence of operations. -/
def final (perform : σ → α → ρ × σ) (s : σ) (as : List α) : σ :=
  as.foldl (fun s a => (perform s a).2) s

section Simulation

variable {perform : σ → α → ρ × σ} {perform' : τ → α → ρ' × τ}
variable {R : σ → τ → Prop} {S : ρ → ρ' → Prop}

/-- Each operation is one that the state it is applied to allows. -/
theorem outputs_related_along {ok : σ → α → Prop}
    (hperform : ∀ s t a, R s t → ok s a →
      S (perform s a).1 (perform' t a).1 ∧ R (perform s a).2 (perform' t a).2)
    {s : σ} {t : τ} (hst : R s t) {as : List α}
    (has : Along (fun s a => (perform s a).2) ok s as) :
    List.Forall₂ S (outputs perform s as) (outputs perform' t as) := by
  induction as generalizing s t with
  | nil => exact .nil
  | cons a as ih =>
      have hfirst := hperform s t a hst has.1
      exact .cons hfirst.1 (ih hfirst.2 has.2)

theorem outputs_related {ok : α → Prop}
    (hperform : ∀ s t a, R s t → ok a →
      S (perform s a).1 (perform' t a).1 ∧ R (perform s a).2 (perform' t a).2)
    {s : σ} {t : τ} (hst : R s t) {as : List α} (has : ∀ a ∈ as, ok a) :
    List.Forall₂ S (outputs perform s as) (outputs perform' t as) := by
  have halong : Along (fun s a => (perform s a).2) (fun _ a => ok a) s as := by
    clear hst
    induction as generalizing s with
    | nil => trivial
    | cons a as ih =>
        exact ⟨has a List.mem_cons_self, ih fun b hb => has b (List.mem_cons_of_mem a hb)⟩
  exact outputs_related_along hperform hst halong

end Simulation

/-! ## Operations with times -/

section Timed

variable {perform : σ → α → ρ × σ} {perform' : τ → α → ρ' × τ} {time : α → Nat}

/-- The operations come in the order of their times, none before `t`. -/
def InOrder (time : α → Nat) (t : Nat) : List α → Prop
  | [] => True
  | a :: as => t ≤ time a ∧ InOrder time (time a) as

instance decidableInOrder (time : α → Nat) : ∀ t as, Decidable (InOrder time t as)
  | _, [] => .isTrue trivial
  | t, a :: as =>
      haveI := decidableInOrder time (time a) as
      inferInstanceAs (Decidable (t ≤ time a ∧ InOrder time (time a) as))

/-- All but the last operation are in order, and none comes after it. -/
theorem InOrder.of_snoc {t : Nat} {as : List α} {last : α} (h : InOrder time t (as ++ [last])) :
    InOrder time t as ∧ (∀ a ∈ as, time a ≤ time last) ∧ t ≤ time last := by
  induction as generalizing t with
  | nil => exact ⟨trivial, fun _ h => absurd h (by simp), h.1⟩
  | cons a as ih =>
      obtain ⟨hordered, hbefore, hlast⟩ := ih h.2
      refine ⟨⟨h.1, hordered⟩, ?_, Nat.le_trans h.1 hlast⟩
      intro b hb
      rcases List.mem_cons.1 hb with rfl | hb
      · exact hlast
      · exact hbefore b hb

theorem outputs_related_timed {R : Nat → σ → τ → Prop} {S : ρ → ρ' → Prop}
    (hperform : ∀ t s u a, R t s u → t ≤ time a →
      S (perform s a).1 (perform' u a).1 ∧ R (time a) (perform s a).2 (perform' u a).2)
    {t : Nat} {s : σ} {u : τ} (hsu : R t s u) {as : List α} (has : InOrder time t as) :
    List.Forall₂ S (outputs perform s as) (outputs perform' u as) := by
  induction as generalizing t s u with
  | nil => exact .nil
  | cons a as ih =>
      have hfirst := hperform t s u a hsu has.1
      exact .cons hfirst.1 (ih hfirst.2 has.2)

/-- What every operation of a kind keeps until its own time holds until a time after the
last one. -/
theorem final_timed {P : Nat → σ → Prop} {ok : α → Prop}
    (hperform : ∀ t s a, P t s → ok a → t ≤ time a → P (time a) (perform s a).2)
    (hmono : ∀ t t' s, P t s → t ≤ t' → P t' s) {t t' : Nat} {s : σ} (hs : P t s) {as : List α}
    (has : InOrder time t as) (hok : ∀ a ∈ as, ok a) (hlast : ∀ a ∈ as, time a ≤ t')
    (hle : t ≤ t') : P t' (final perform s as) := by
  induction as generalizing t s with
  | nil => exact hmono t t' s hs hle
  | cons a as ih =>
      exact ih (hperform t s a hs (hok a List.mem_cons_self) has.1) has.2
        (fun b hb => hok b (List.mem_cons_of_mem a hb))
        (fun b hb => hlast b (List.mem_cons_of_mem a hb)) (hlast a List.mem_cons_self)

end Timed

/-- What holds to a degree that every operation raises by at most one holds, at the
end of a run, to the degree of its length. -/
theorem final_bounded {perform : σ → α → ρ × σ} {P : Nat → σ → Prop}
    (hperform : ∀ n s a, P n s → P (n + 1) (perform s a).2) {s : σ} {n : Nat} (hs : P n s)
    (as : List α) : P (n + as.length) (final perform s as) := by
  induction as generalizing s n with
  | nil => exact hs
  | cons a as ih =>
      have hrest := ih (hperform n s a hs)
      have hlength : n + 1 + as.length = n + (a :: as).length := by
        rw [List.length_cons]
        omega
      rw [hlength] at hrest
      exact hrest

end Zpay.Machine
