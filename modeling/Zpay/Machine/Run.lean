import Mathlib.Algebra.Order.Ring.Int
import Mathlib.Data.List.Basic

/-!
# Runs of a total labelled machine

A machine is nothing but a total step function `σ → α → σ`: the label carries
every choice the environment makes, and a label that is not enabled leaves the
state alone.  A run is then a list of labels, every interleaving of any number
of parties is one such list, and crashes, faults and clock ticks are labels
like any other.

Two predicates organise every proof about runs.  `Along step ok s as` says that
each step of the run is taken in a state that meets `ok`; it is how a condition
on a schedule is stated.  The invariant rules turn one step lemma into a
statement about whole runs.

## Main results

* `run_invariant`, `run_invariant_along` — an invariant kept by every step (by
  every step that meets a condition) holds wherever a run ends.
* `along_of_invariant` — what an invariant implies about one step holds of
  every step of a run.
* `always_iff_along`, `always_iff_along_of`, `always_and_along_iff`, `related_iff_along` —
  a step condition that is exact for one step is exact for whole runs.
* `related_between`, `exists_step_of_run`, `add_countAlong_le` — any two points of a run, the
  step that brings something about, and a count that a potential pays for.
* `run_purge` — the unwinding rule: labels that one side never notices can be
  deleted from a run.
-/

namespace Zpay.Machine

variable {σ α : Type*}

/-- The state a run of labels ends in. -/
def run (step : σ → α → σ) (s : σ) (as : List α) : σ := as.foldl step s

/-- Every step of the run is taken from a state that meets `ok`. -/
def Along (step : σ → α → σ) (ok : σ → α → Prop) : σ → List α → Prop
  | _, [] => True
  | s, a :: as => ok s a ∧ Along step ok (step s a) as

instance decidableAlong (step : σ → α → σ) (ok : σ → α → Prop)
    [∀ s a, Decidable (ok s a)] : ∀ s as, Decidable (Along step ok s as)
  | _, [] => .isTrue trivial
  | s, a :: as =>
      haveI := decidableAlong step ok (step s a) as
      inferInstanceAs (Decidable (ok s a ∧ Along step ok (step s a) as))

variable {step : σ → α → σ} {ok ok' : σ → α → Prop}

@[simp] theorem run_nil (s : σ) : run step s [] = s := rfl

@[simp] theorem run_cons (s : σ) (a : α) (as : List α) :
    run step s (a :: as) = run step (step s a) as := rfl

theorem run_append (s : σ) (as bs : List α) :
    run step s (as ++ bs) = run step (run step s as) bs :=
  List.foldl_append

theorem run_take_succ {s : σ} {as : List α} {n : Nat} {a : α} (h : as[n]? = some a) :
    run step s (as.take (n + 1)) = step (run step s (as.take n)) a := by
  rw [List.take_add_one, h, run_append]
  rfl

@[simp] theorem along_nil (s : σ) : Along step ok s [] := trivial

@[simp] theorem along_cons (s : σ) (a : α) (as : List α) :
    Along step ok s (a :: as) ↔ ok s a ∧ Along step ok (step s a) as := Iff.rfl

theorem along_trivial (s : σ) (as : List α) : Along step (fun _ _ => True) s as := by
  induction as generalizing s with
  | nil => trivial
  | cons a as ih => exact ⟨trivial, ih (step s a)⟩

/-- A condition along a run is a condition along both halves of it. -/
theorem along_append (s : σ) (as bs : List α) :
    Along step ok s (as ++ bs) ↔
      Along step ok s as ∧ Along step ok (run step s as) bs := by
  induction as generalizing s with
  | nil => simp
  | cons a as ih => simp [ih, and_assoc]

/-- Reading a step condition off a run at the step after a given prefix. -/
theorem Along.at_prefix {s : σ} {as bs : List α} {a : α}
    (h : Along step ok s (as ++ a :: bs)) : ok (run step s as) a :=
  ((along_append s as (a :: bs)).1 h).2.1

theorem Along.mono (himp : ∀ s a, ok s a → ok' s a) {s : σ} {as : List α}
    (h : Along step ok s as) : Along step ok' s as := by
  induction as generalizing s with
  | nil => trivial
  | cons a as ih => exact ⟨himp s a h.1, ih h.2⟩

theorem along_and (s : σ) (as : List α) :
    Along step (fun s a => ok s a ∧ ok' s a) s as ↔ Along step ok s as ∧ Along step ok' s as := by
  induction as generalizing s with
  | nil => simp
  | cons a as ih =>
      rw [along_cons, along_cons, along_cons, ih]
      exact and_and_and_comm

/-- Between two points of a run lies a run, whose steps meet the same condition. -/
theorem Along.between {s : σ} {as : List α} (h : Along step ok s as) {i j : Nat} (hij : i ≤ j) :
    ∃ bs, run step s (as.take j) = run step (run step s (as.take i)) bs ∧
      Along step ok (run step s (as.take i)) bs := by
  obtain ⟨n, rfl⟩ := Nat.exists_eq_add_of_le hij
  refine ⟨(as.drop i).take n, ?_, ?_⟩
  · rw [List.take_add, run_append]
  · have hsplit : as = as.take i ++ ((as.drop i).take n ++ (as.drop i).drop n) := by
      rw [List.take_append_drop, List.take_append_drop]
    rw [hsplit, along_append, along_append] at h
    exact h.2.1

/-! ## Invariant rules -/

/-- An invariant kept by every step that meets `ok` holds at the end of every
run whose steps all meet it. -/
theorem run_invariant_along {Inv : σ → Prop}
    (hstep : ∀ s a, Inv s → ok s a → Inv (step s a))
    {s : σ} {as : List α} (hs : Inv s) (has : Along step ok s as) :
    Inv (run step s as) := by
  induction as generalizing s with
  | nil => exact hs
  | cons a as ih => exact ih (hstep s a hs has.1) has.2

/-- An invariant kept by every step holds at the end of every run. -/
theorem run_invariant {Inv : σ → Prop} (hstep : ∀ s a, Inv s → Inv (step s a))
    {s : σ} (hs : Inv s) (as : List α) : Inv (run step s as) := by
  induction as generalizing s with
  | nil => exact hs
  | cons a as ih => exact ih (hstep s a hs)

/-- What an invariant implies about a step that meets `ok` holds of every step
of a run whose steps all meet it. -/
theorem along_of_invariant {Inv : σ → Prop}
    (hstep : ∀ s a, Inv s → ok s a → Inv (step s a))
    (himp : ∀ s a, Inv s → ok s a → ok' s a)
    {s : σ} {as : List α} (hs : Inv s) (has : Along step ok s as) :
    Along step ok' s as := by
  induction as generalizing s with
  | nil => trivial
  | cons a as ih =>
      exact ⟨himp s a hs has.1, ih (hstep s a hs has.1) has.2⟩

/-- Step conditions that agree wherever an invariant holds agree along runs, also when the
invariant is kept only by the steps that meet them. -/
theorem along_congr_while {Inv : σ → Prop} (hinv : ∀ s a, Inv s → ok s a → Inv (step s a))
    (hok : ∀ s a, Inv s → (ok s a ↔ ok' s a)) {s : σ} (hs : Inv s) (as : List α) :
    Along step ok s as ↔ Along step ok' s as := by
  induction as generalizing s with
  | nil => exact Iff.rfl
  | cons a as ih =>
      rw [along_cons, along_cons, ← hok s a hs]
      exact and_congr_right fun hmeets => ih (hinv s a hs hmeets)

/-- Step conditions that agree wherever an invariant holds agree along runs. -/
theorem along_congr {Inv : σ → Prop} (hinv : ∀ s a, Inv s → Inv (step s a))
    (hok : ∀ s a, Inv s → (ok s a ↔ ok' s a)) {s : σ} (hs : Inv s) (as : List α) :
    Along step ok s as ↔ Along step ok' s as :=
  along_congr_while (fun s a hs _ => hinv s a hs) hok hs as

/-- A preorder that every step of a run respects relates its two ends. -/
theorem run_related_along {Inv : σ → Prop} {R : σ → σ → Prop} (hrefl : ∀ s, R s s)
    (htrans : ∀ {s t u}, R s t → R t u → R s u) (hinv : ∀ s a, Inv s → Inv (step s a))
    (hstep : ∀ s a, Inv s → ok s a → R s (step s a))
    {s : σ} {as : List α} (hs : Inv s) (has : Along step ok s as) :
    R s (run step s as) := by
  induction as generalizing s with
  | nil => exact hrefl s
  | cons a as ih => exact htrans (hstep s a hs has.1) (ih (hinv s a hs) has.2)

/-- What every step from a state of the invariant respects relates any two points of a run. -/
theorem related_between {Inv : σ → Prop} {R : σ → σ → Prop} (hrefl : ∀ s, R s s)
    (htrans : ∀ {s t u}, R s t → R t u → R s u) (hinv : ∀ s a, Inv s → Inv (step s a))
    (hstep : ∀ s a, Inv s → R s (step s a)) {s : σ} (hs : Inv s) (as : List α) {i j : Nat}
    (hij : i ≤ j) : R (run step s (as.take i)) (run step s (as.take j)) := by
  obtain ⟨bs, hbs, hbetween⟩ := (along_trivial s as).between hij
  rw [hbs]
  exact run_related_along hrefl htrans hinv (fun s a hs _ => hstep s a hs)
    (run_invariant hinv hs (as.take i)) hbetween

/-- What holds at the end of a run and not at its start, some step brings about. -/
theorem exists_step_of_run {P : σ → Prop} {s : σ} {as : List α} (hs : ¬ P s)
    (h : P (run step s as)) :
    ∃ n a, as[n]? = some a ∧ ¬ P (run step s (as.take n)) ∧
      P (step (run step s (as.take n)) a) := by
  induction as generalizing s with
  | nil => exact absurd h hs
  | cons a as ih =>
      by_cases hnext : P (step s a)
      · exact ⟨0, a, rfl, hs, hnext⟩
      · obtain ⟨n, b, hb, hbefore, hafter⟩ := ih hnext h
        exact ⟨n + 1, b, hb, hbefore, hafter⟩

/-- A step condition that says of every step whether it keeps a property and
meets a demand says so of whole runs. -/
theorem always_and_along_iff {Inv P : σ → Prop} (hinv : ∀ s a, Inv s → Inv (step s a))
    (hstep : ∀ s a, Inv s → P s → (ok s a ↔ P (step s a) ∧ ok' s a))
    {s : σ} (hs : Inv s) (hP : P s) (as : List α) :
    ((∀ n, P (run step s (as.take n))) ∧ Along step ok' s as) ↔ Along step ok s as := by
  induction as generalizing s with
  | nil =>
      refine iff_of_true ⟨fun n => ?_, trivial⟩ trivial
      rw [List.take_nil]
      exact hP
  | cons a as ih =>
      rw [along_cons, along_cons, hstep s a hs hP]
      constructor
      · rintro ⟨halways, hmeets, hrest⟩
        have hnext : P (step s a) := halways 1
        have hlater : ∀ n, P (run step (step s a) (as.take n)) := fun n => halways (n + 1)
        exact ⟨⟨hnext, hmeets⟩, (ih (hinv s a hs) hnext).1 ⟨hlater, hrest⟩⟩
      · rintro ⟨⟨hnext, hmeets⟩, halong⟩
        obtain ⟨hlater, hrest⟩ := (ih (hinv s a hs) hnext).2 halong
        refine ⟨?_, hmeets, hrest⟩
        intro n
        cases n with
        | zero => exact hP
        | succ n => exact hlater n

/-- On runs whose steps all meet an assumption, a step condition that says of every such
step whether it keeps a property says of the whole run whether the property holds
throughout. -/
theorem always_iff_along_of {Inv P : σ → Prop} {asm : σ → α → Prop}
    (hinv : ∀ s a, Inv s → asm s a → Inv (step s a))
    (hstep : ∀ s a, Inv s → asm s a → P s → (ok s a ↔ P (step s a)))
    {s : σ} (hs : Inv s) (hP : P s) {as : List α} (has : Along step asm s as) :
    (∀ n, P (run step s (as.take n))) ↔ Along step ok s as := by
  induction as generalizing s with
  | nil =>
      refine iff_of_true (fun n => ?_) trivial
      rw [List.take_nil]
      exact hP
  | cons a as ih =>
      rw [along_cons, hstep s a hs has.1 hP]
      constructor
      · intro halways
        have hnext : P (step s a) := halways 1
        have hlater : ∀ n, P (run step (step s a) (as.take n)) := fun n => halways (n + 1)
        exact ⟨hnext, (ih (hinv s a hs has.1) hnext has.2).1 hlater⟩
      · rintro ⟨hnext, halong⟩ n
        have hlater := (ih (hinv s a hs has.1) hnext has.2).2 halong
        cases n with
        | zero => exact hP
        | succ n => exact hlater n

/-- A step condition that says of every step whether it keeps a property says of
a whole run whether the property holds throughout. -/
theorem always_iff_along {Inv P : σ → Prop} (hinv : ∀ s a, Inv s → Inv (step s a))
    (hstep : ∀ s a, Inv s → P s → (ok s a ↔ P (step s a)))
    {s : σ} (hs : Inv s) (hP : P s) (as : List α) :
    (∀ n, P (run step s (as.take n))) ↔ Along step ok s as :=
  always_iff_along_of (fun s a hs _ => hinv s a hs) (fun s a hs _ hP => hstep s a hs hP) hs hP
    (along_trivial s as)

/-- A preorder relates any two points of a run, in order, exactly when every step
of the run respects it. -/
theorem related_iff_along {R : σ → σ → Prop} (hrefl : ∀ s, R s s)
    (htrans : ∀ {s t u}, R s t → R t u → R s u) (s : σ) (as : List α) :
    (∀ i j, i ≤ j → R (run step s (as.take i)) (run step s (as.take j))) ↔
      Along step (fun s a => R s (step s a)) s as := by
  constructor
  · intro hrelated
    induction as generalizing s with
    | nil => trivial
    | cons a as ih =>
        constructor
        · exact hrelated 0 1 (Nat.zero_le 1)
        · exact ih (step s a) fun i j hij => hrelated (i + 1) (j + 1) (Nat.succ_le_succ hij)
  · intro halong i j hij
    obtain ⟨bs, hbs, hbetween⟩ := halong.between hij
    rw [hbs]
    have hinv : ∀ (t : σ) (a : α), True → True := fun _ _ _ => trivial
    exact run_related_along hrefl htrans hinv (fun _ _ _ hstep => hstep) trivial hbetween

/-! ## Counting -/

/-- How many steps of a run meet a condition. -/
def countAlong (step : σ → α → σ) (counts : σ → α → Bool) : σ → List α → Nat
  | _, [] => 0
  | s, a :: as => (if counts s a then 1 else 0) + countAlong step counts (step s a) as

/-- A potential that every step keeps, and every counted step raises, pays for the count. -/
theorem add_countAlong_le {Inv : σ → Prop} {counts : σ → α → Bool} {potential : σ → Nat}
    (hinv : ∀ s a, Inv s → Inv (step s a))
    (hstep : ∀ s a, Inv s →
      potential s + (if counts s a then 1 else 0) ≤ potential (step s a))
    {s : σ} (hs : Inv s) (as : List α) :
    potential s + countAlong step counts s as ≤ potential (run step s as) := by
  induction as generalizing s with
  | nil => exact Nat.le_refl _
  | cons a as ih =>
      have hfirst := hstep s a hs
      have hrest := ih (hinv s a hs)
      rw [countAlong, run_cons]
      omega

/-! ## Purging -/

/-- A relation that follows kept labels on both sides, and dropped ones on the
left, relates a run to the same run without the dropped labels. -/
theorem run_purge {R : σ → σ → Prop} {keep : α → Bool} {as : List α}
    (hkeep : ∀ a ∈ as, keep a = true → ∀ s t, R s t → R (step s a) (step t a))
    (hdrop : ∀ a ∈ as, keep a = false → ∀ s t, R s t → R (step s a) t)
    {s t : σ} (h : R s t) : R (run step s as) (run step t (as.filter keep)) := by
  induction as generalizing s t with
  | nil => exact h
  | cons a as ih =>
      have hrest : ∀ {s t : σ}, R s t → R (run step s as) (run step t (as.filter keep)) :=
        ih (fun b hb => hkeep b (List.mem_cons_of_mem a hb))
          (fun b hb => hdrop b (List.mem_cons_of_mem a hb))
      cases hcase : keep a with
      | true =>
          rw [List.filter_cons_of_pos hcase]
          exact hrest (hkeep a List.mem_cons_self hcase s t h)
      | false =>
          rw [List.filter_cons_of_neg (by rw [hcase]; decide)]
          exact hrest (hdrop a List.mem_cons_self hcase s t h)

/-! ## Fallible stores -/

/-- How one call to a store fails: not at all, before it takes effect, or after
it took effect but before the caller learned so. -/
inductive Fault
  | none
  | lost
  | unacknowledged
  deriving DecidableEq, Repr

/-- A store operation `op` on state `s`, subject to a fault reported as `e`. -/
def Fault.apply {ε ρ : Type*} (fault : Fault) (e : ε) (s : σ) (op : Except ε ρ × σ) :
    Except ε ρ × σ :=
  match fault with
  | .none => op
  | .lost => (.error e, s)
  | .unacknowledged => (.error e, op.2)

/-- What holds of the store before and after an operation holds after a faulty
one; after a lost one the operation does not matter. -/
theorem Fault.apply_keeps {ε ρ : Type*} (P : σ → Prop) {fault : Fault} {e : ε} {s : σ}
    {op : Except ε ρ × σ} (hs : P s) (hop : fault ≠ .lost → P op.2) :
    P (fault.apply e s op).2 := by
  cases fault with
  | none => exact hop (by decide)
  | lost => exact hs
  | unacknowledged => exact hop (by decide)

/-- Only an operation that met no fault answers with success. -/
theorem Fault.apply_eq_ok {ε ρ : Type*} {fault : Fault} {e : ε} {s : σ}
    {op : Except ε ρ × σ} {r : ρ} :
    (fault.apply e s op).1 = .ok r ↔ fault = .none ∧ op.1 = .ok r := by
  cases fault <;> simp [Fault.apply]

end Zpay.Machine
