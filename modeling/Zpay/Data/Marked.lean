import Mathlib.Data.List.Basic

/-!
# Marked elements of a list

Some elements of a list are marked.  Two of them are neighbours when nothing between them
is marked; every two marked elements have neighbours from the first one on, and a list that
is written as a marked element, an unmarked stretch and the next marked element has the
neighbours one sees.

## Main results

* `adjacent_segment` — the neighbours of a list that starts with a segment.
* `exists_adjacent` — the first neighbours between two marked elements.
-/

namespace Zpay.Data

variable {α : Type*} {mark : α → Prop} {a b : α} {body between : List α}

/-- Two marked elements of a list, and the unmarked ones between them. -/
structure Adjacent (mark : α → Prop) (l : List α) (a : α) (between : List α) (b : α) : Prop where
  first : mark a
  unmarked : ∀ x ∈ between, ¬ mark x
  second : mark b
  within : a :: (between ++ [b]) <:+: l

/-- The first marked element, and what comes before it. -/
theorem append_mark_inj {xs ys rest rest' : List α} (hxs : ∀ x ∈ xs, ¬ mark x)
    (hys : ∀ y ∈ ys, ¬ mark y) (ha : mark a) (hb : mark b)
    (h : xs ++ a :: rest = ys ++ b :: rest') : xs = ys ∧ a = b ∧ rest = rest' := by
  induction xs generalizing ys with
  | nil =>
      cases ys with
      | nil => exact ⟨rfl, List.cons.inj h⟩
      | cons y ys =>
          have hhead := (List.cons.inj h).1
          exact absurd (hhead ▸ ha) (hys y List.mem_cons_self)
  | cons x xs ih =>
      cases ys with
      | nil =>
          have hhead := (List.cons.inj h).1
          exact absurd (hhead ▸ hb) (hxs x List.mem_cons_self)
      | cons y ys =>
          obtain ⟨hhead, htail⟩ := List.cons.inj h
          obtain ⟨hsame, hmark, hrest⟩ := ih (fun z hz => hxs z (List.mem_cons_of_mem x hz))
            (fun z hz => hys z (List.mem_cons_of_mem y hz)) htail
          exact ⟨by rw [hhead, hsame], hmark, hrest⟩

/-- An unmarked stretch in front has no part in any neighbours. -/
theorem adjacent_unmarked_append {l : List α} (hbody : ∀ x ∈ body, ¬ mark x) :
    Adjacent mark (body ++ l) a between b ↔ Adjacent mark l a between b := by
  induction body with
  | nil => exact Iff.rfl
  | cons x body ih =>
      rw [← ih fun y hy => hbody y (List.mem_cons_of_mem x hy)]
      constructor
      · intro h
        refine ⟨h.first, h.unmarked, h.second, ?_⟩
        rcases List.infix_cons_iff.1 h.within with hstarts | hinside
        · rw [List.cons_prefix_cons] at hstarts
          exact absurd (hstarts.1 ▸ h.first) (hbody x List.mem_cons_self)
        · exact hinside
      · intro h
        exact ⟨h.first, h.unmarked, h.second, h.within.trans (List.suffix_cons x _).isInfix⟩

/-- The neighbours of a list that starts with a segment. -/
theorem adjacent_segment {x y : α} {l : List α} (hx : mark x) (hbody : ∀ z ∈ body, ¬ mark z)
    (hy : mark y) :
    Adjacent mark (x :: (body ++ y :: l)) a between b ↔
      (a = x ∧ between = body ∧ b = y) ∨ Adjacent mark (y :: l) a between b := by
  rw [← adjacent_unmarked_append (l := y :: l) hbody]
  constructor
  · intro h
    rcases List.infix_cons_iff.1 h.within with hstarts | hinside
    · left
      rw [List.cons_prefix_cons] at hstarts
      obtain ⟨hhead, rest, hrest⟩ := hstarts
      rw [List.append_assoc, List.singleton_append] at hrest
      obtain ⟨hsame, hmark, -⟩ := append_mark_inj h.unmarked hbody h.second hy hrest
      exact ⟨hhead, hsame, hmark⟩
    · exact Or.inr ⟨h.first, h.unmarked, h.second, hinside⟩
  · rintro (⟨rfl, rfl, rfl⟩ | h)
    · refine ⟨hx, hbody, hy, ?_⟩
      have hsplit : a :: (between ++ b :: l) = a :: (between ++ [b]) ++ l := by simp
      rw [hsplit]
      exact (List.prefix_append _ l).isInfix
    · exact ⟨h.first, h.unmarked, h.second, h.within.trans (List.suffix_cons x _).isInfix⟩

/-- A lone marked element has no neighbour. -/
theorem not_adjacent_singleton {x : α} : ¬ Adjacent mark [x] a between b := by
  intro h
  have hlength := h.within.length_le
  simp at hlength

/-- From a marked element to a later one: its neighbour is the later one, or lies before it. -/
theorem exists_adjacent {l : List α} (ha : mark a) (hb : mark b)
    (h : a :: (between ++ [b]) <:+: l) :
    Adjacent mark l a between b ∨ ∃ before c after, between = before ++ c :: after ∧
      Adjacent mark l a before c ∧ c :: (after ++ [b]) <:+: l := by
  by_cases hunmarked : ∀ x ∈ between, ¬ mark x
  · exact Or.inl ⟨ha, hunmarked, hb, h⟩
  · right
    simp only [not_forall, not_not] at hunmarked
    obtain ⟨marked, hmem, hmarked⟩ := hunmarked
    classical
    have hsome : (between.find? fun x => decide (mark x)).isSome = true :=
      List.find?_isSome.2 ⟨marked, hmem, decide_eq_true hmarked⟩
    obtain ⟨c, hfound⟩ := Option.isSome_iff_exists.1 hsome
    obtain ⟨hc, before, after, rfl, hbefore⟩ := List.find?_eq_some_iff_append.1 hfound
    have hsplit : a :: (before ++ c :: after ++ [b]) =
        a :: (before ++ [c]) ++ (after ++ [b]) := by simp
    refine ⟨before, c, after, rfl, ⟨ha, ?_, of_decide_eq_true hc, ?_⟩, ?_⟩
    · intro x hx
      simpa using hbefore x hx
    · rw [hsplit] at h
      exact (List.prefix_append _ _).isInfix.trans h
    · have hsuffix : c :: (after ++ [b]) <:+ a :: (before ++ c :: after ++ [b]) :=
        ⟨a :: before, by simp⟩
      exact hsuffix.isInfix.trans h

end Zpay.Data
