import Zpay.Machine.Run

/-!
# A chain with a settled tip

The canonical chain from the genesis block on, as the transaction ids of each
block.  Blocks are appended, and reorgs replace the blocks above a fork that lies
at or above the settled tip, which never goes back.  A transaction with an
expiry height is in no block above it.

## Main results

* `mined_of_move`, `mined_of_moves` — blocks at or below the settled tip stay.
* `windowClosed_iff` — a transaction is out of the chain and its expiry height
  reached exactly when no extension of the chain contains it.
-/

open Zpay.Machine

namespace Zpay.Runtime

variable {txExpiry : String → Option Nat}

/-- Every transaction of these blocks, the first at `height`, is within its
expiry height. -/
def mineable (txExpiry : String → Option Nat) : Nat → List (List String) → Bool
  | _, [] => true
  | height, block :: blocks =>
      block.all (fun tx => (txExpiry tx).all fun expiry => decide (height ≤ expiry)) &&
        mineable txExpiry (height + 1) blocks

theorem mineable_append (height : Nat) (blocks more : List (List String)) :
    mineable txExpiry height (blocks ++ more) =
      (mineable txExpiry height blocks && mineable txExpiry (height + blocks.length) more) := by
  induction blocks generalizing height with
  | nil => rfl
  | cons block blocks ih =>
      have hheight : height + 1 + blocks.length = height + (block :: blocks).length := by
        rw [List.length_cons]
        omega
      show (_ && mineable txExpiry (height + 1) (blocks ++ more)) = _
      rw [ih, hheight, ← Bool.and_assoc]
      rfl

theorem mineable_take {height : Nat} {blocks : List (List String)} (n : Nat)
    (h : mineable txExpiry height blocks = true) :
    mineable txExpiry height (blocks.take n) = true := by
  rw [← List.take_append_drop n blocks, mineable_append, Bool.and_eq_true] at h
  exact h.1

/-- A transaction is mined at or below its expiry height. -/
theorem le_expiry_of_mineable {height i : Nat} {blocks : List (List String)}
    {block : List String} {tx : String} {expiry : Nat}
    (h : mineable txExpiry height blocks = true) (hblock : blocks[i]? = some block)
    (htx : tx ∈ block) (hexpiry : txExpiry tx = some expiry) : height + i ≤ expiry := by
  induction blocks generalizing height i with
  | nil => exact absurd hblock (by simp)
  | cons first rest ih =>
      rw [mineable, Bool.and_eq_true] at h
      cases i with
      | zero =>
          rw [List.getElem?_cons_zero, Option.some.injEq] at hblock
          subst hblock
          have hall := List.all_eq_true.1 h.1 tx htx
          rw [hexpiry, Option.all_some, decide_eq_true_eq] at hall
          exact hall
      | succ i =>
          rw [List.getElem?_cons_succ] at hblock
          have hrest := ih h.2 hblock
          omega

/-! ## Chains -/

structure Chain (txExpiry : String → Option Nat) where
  blocks : List (List String)
  settledTip : Nat
  settled_lt : settledTip < blocks.length
  in_time : mineable txExpiry 0 blocks = true

namespace Chain

def visibleTip (chain : Chain txExpiry) : Nat := chain.blocks.length - 1

/-- The transaction is in the block at this height. -/
def Mined (chain : Chain txExpiry) (tx : String) (height : Nat) : Prop :=
  ∃ block, chain.blocks[height]? = some block ∧ tx ∈ block

def Includes (chain : Chain txExpiry) (tx : String) : Prop := ∃ height, chain.Mined tx height

instance (chain : Chain txExpiry) (tx : String) (height : Nat) :
    Decidable (chain.Mined tx height) :=
  decidable_of_iff ((chain.blocks[height]?).any fun block => block.contains tx) (by
    rw [Option.any_eq_true]
    simp only [Mined, List.contains_iff_mem])

instance (chain : Chain txExpiry) (tx : String) : Decidable (chain.Includes tx) :=
  decidable_of_iff (chain.blocks.any fun block => block.contains tx) (by
    rw [List.any_eq_true]
    constructor
    · rintro ⟨block, hblock, htx⟩
      obtain ⟨height, hheight⟩ := List.mem_iff_getElem?.1 hblock
      exact ⟨height, block, hheight, List.contains_iff_mem.1 htx⟩
    · rintro ⟨height, block, hheight, htx⟩
      exact ⟨block, List.mem_of_getElem? hheight, List.contains_iff_mem.2 htx⟩)

/-- What the network does to the chain; a move that does not apply is refused. -/
inductive Move
  | extend (block : List String)
  | reorg (forkHeight : Nat) (blocks : List (List String))
  | settle (height : Nat)
  deriving DecidableEq, Repr

def move (chain : Chain txExpiry) : Move → Option (Chain txExpiry)
  | .extend block =>
      if h : mineable txExpiry chain.blocks.length [block] = true then
        some
          { blocks := chain.blocks ++ [block]
            settledTip := chain.settledTip
            settled_lt := by
              rw [List.length_append]
              exact Nat.lt_add_right _ chain.settled_lt
            in_time := by rw [mineable_append, chain.in_time, Nat.zero_add, h]; rfl }
      else none
  | .reorg forkHeight blocks =>
      if h : (chain.settledTip ≤ forkHeight ∧ forkHeight < chain.visibleTip) ∧
          mineable txExpiry (forkHeight + 1) blocks = true then
        some
          { blocks := chain.blocks.take (forkHeight + 1) ++ blocks
            settledTip := chain.settledTip
            settled_lt := by
              have hfork := h.1
              rw [visibleTip] at hfork
              rw [List.length_append, List.length_take]
              omega
            in_time := by
              have hfork := h.1
              rw [visibleTip] at hfork
              have hlength : (chain.blocks.take (forkHeight + 1)).length = forkHeight + 1 := by
                rw [List.length_take]
                omega
              rw [mineable_append, mineable_take _ chain.in_time, hlength, Nat.zero_add, h.2]
              rfl }
      else none
  | .settle height =>
      if h : chain.settledTip ≤ height ∧ height < chain.blocks.length then
        some { chain with settledTip := height, settled_lt := h.2 }
      else none

/-- The chain after a move, refused or not. -/
def moved (chain : Chain txExpiry) (m : Move) : Chain txExpiry := (chain.move m).getD chain

variable {chain chain' : Chain txExpiry} {tx : String} {height expiry : Nat}

theorem le_visibleTip_of_mined (h : chain.Mined tx height) : height ≤ chain.visibleTip := by
  obtain ⟨block, hblock, -⟩ := h
  have hlt : height < chain.blocks.length := (List.getElem?_eq_some_iff.1 hblock).1
  rw [visibleTip]
  omega

/-- What each move makes of the blocks and the settled tip. -/
theorem move_cases {m : Move} (h : chain.move m = some chain') :
    (∃ block, m = .extend block ∧ chain'.blocks = chain.blocks ++ [block] ∧
      chain'.settledTip = chain.settledTip) ∨
    (∃ forkHeight blocks, m = .reorg forkHeight blocks ∧ chain.settledTip ≤ forkHeight ∧
      forkHeight < chain.visibleTip ∧
      chain'.blocks = chain.blocks.take (forkHeight + 1) ++ blocks ∧
      chain'.settledTip = chain.settledTip) ∨
    ∃ height, m = .settle height ∧ chain.settledTip ≤ height ∧
      chain'.blocks = chain.blocks ∧ chain'.settledTip = height := by
  cases m with
  | extend block =>
      rw [move] at h
      split at h
      · have heq := Option.some.inj h
        subst heq
        exact .inl ⟨block, rfl, rfl, rfl⟩
      · exact absurd h (by simp)
  | reorg forkHeight blocks =>
      rw [move] at h
      split at h
      · next hfits =>
          have heq := Option.some.inj h
          subst heq
          exact .inr (.inl ⟨forkHeight, blocks, rfl, hfits.1.1, hfits.1.2, rfl, rfl⟩)
      · exact absurd h (by simp)
  | settle height =>
      rw [move] at h
      split at h
      · next hfits =>
          have heq := Option.some.inj h
          subst heq
          exact .inr (.inr ⟨height, rfl, hfits.1, rfl, rfl⟩)
      · exact absurd h (by simp)

/-- The settled tip never goes back. -/
theorem settledTip_mono {m : Move} (h : chain.move m = some chain') :
    chain.settledTip ≤ chain'.settledTip := by
  rcases move_cases h with ⟨_, -, -, hsettled⟩ | ⟨_, _, -, -, -, -, hsettled⟩ |
    ⟨_, -, hle, -, hsettled⟩
  · omega
  · omega
  · omega

/-- Blocks at or below the settled tip stay. -/
theorem mined_of_move {m : Move} (h : chain.move m = some chain')
    (hheight : height ≤ chain.settledTip) (hmined : chain.Mined tx height) :
    chain'.Mined tx height := by
  obtain ⟨block, hblock, htx⟩ := hmined
  have hlt := chain.settled_lt
  refine ⟨block, ?_, htx⟩
  rcases move_cases h with ⟨_, -, hblocks, -⟩ | ⟨forkHeight, _, -, hle, hfork, hblocks, -⟩ |
    ⟨_, -, -, hblocks, -⟩
  · rw [hblocks, List.getElem?_append_left (by omega)]
    exact hblock
  · rw [visibleTip] at hfork
    have hshort : height < (chain.blocks.take (forkHeight + 1)).length := by
      rw [List.length_take]
      omega
    rw [hblocks, List.getElem?_append_left hshort, List.getElem?_take_of_lt (by omega)]
    exact hblock
  · rw [hblocks]
    exact hblock

/-- No sequence of moves takes a settled transaction out of the chain. -/
theorem mined_of_moves (hheight : height ≤ chain.settledTip) (hmined : chain.Mined tx height)
    (moves : List Move) : (run moved chain moves).Mined tx height := by
  have hstep : ∀ (c : Chain txExpiry) m, height ≤ c.settledTip ∧ c.Mined tx height →
      height ≤ (c.moved m).settledTip ∧ (c.moved m).Mined tx height := by
    intro c m h
    rw [moved]
    cases hmove : c.move m with
    | none => exact h
    | some c' => exact ⟨Nat.le_trans h.1 (settledTip_mono hmove), mined_of_move hmove h.1 h.2⟩
  exact (run_invariant hstep ⟨hheight, hmined⟩ moves).2

/-! ### Expiry windows -/

/-- The chain grows without a reorg. -/
def Extends (chain chain' : Chain txExpiry) : Prop := chain.blocks <+: chain'.blocks

/-- The transaction is not in the chain and its last height has been reached. -/
structure WindowClosed (chain : Chain txExpiry) (tx : String) (expiry : Nat) : Prop where
  absent : ¬ chain.Includes tx
  reached : expiry ≤ chain.visibleTip

theorem windowClosed_of_extends (hexpiry : txExpiry tx = some expiry)
    (h : chain.WindowClosed tx expiry) (hextends : chain.Extends chain') :
    chain'.WindowClosed tx expiry := by
  obtain ⟨more, hmore⟩ := hextends
  have hlength : chain'.blocks.length = chain.blocks.length + more.length := by
    rw [← hmore, List.length_append]
  have hreached := h.reached
  have hsettled := chain.settled_lt
  refine ⟨?_, ?_⟩
  · rintro ⟨height, block, hblock, htx⟩
    by_cases hold : height < chain.blocks.length
    · refine h.absent ⟨height, block, ?_, htx⟩
      rw [← hmore, List.getElem?_append_left hold] at hblock
      exact hblock
    · have hle := le_expiry_of_mineable chain'.in_time hblock htx hexpiry
      rw [visibleTip] at hreached
      omega
  · rw [visibleTip] at hreached ⊢
    omega

/-- No extension contains the transaction exactly when it is out of the chain
and its expiry height is reached. -/
theorem windowClosed_iff (hexpiry : txExpiry tx = some expiry) :
    chain.WindowClosed tx expiry ↔ ∀ chain', chain.Extends chain' → ¬ chain'.Includes tx := by
  constructor
  · intro h chain' hextends
    exact (windowClosed_of_extends hexpiry h hextends).absent
  · intro h
    refine ⟨h chain List.prefix_rfl, ?_⟩
    by_contra hearly
    have hsettled := chain.settled_lt
    have hfits : mineable txExpiry chain.blocks.length [[tx]] = true := by
      rw [visibleTip] at hearly
      simp only [mineable, List.all_cons, List.all_nil, hexpiry, Option.all_some,
        decide_eq_true_eq, Bool.and_true]
      omega
    have hmoved : ∃ next, chain.move (.extend [tx]) = some next ∧
        next.blocks = chain.blocks ++ [[tx]] := by
      rw [move, dif_pos hfits]
      exact ⟨_, rfl, rfl⟩
    obtain ⟨next, -, hblocks⟩ := hmoved
    refine h next ⟨[[tx]], hblocks.symm⟩ ⟨chain.blocks.length, [tx], ?_, List.mem_singleton_self tx⟩
    rw [hblocks, List.getElem?_append_right (Nat.le_refl _), Nat.sub_self]
    rfl

/-- Only a reorg opens a closed window again. -/
theorem windowClosed_of_move {m : Move} (hexpiry : txExpiry tx = some expiry)
    (h : chain.WindowClosed tx expiry) (hmove : chain.move m = some chain')
    (hreorg : ∀ forkHeight blocks, m ≠ .reorg forkHeight blocks) :
    chain'.WindowClosed tx expiry := by
  refine windowClosed_of_extends hexpiry h ?_
  rcases move_cases hmove with ⟨_, -, hblocks, -⟩ | ⟨forkHeight, blocks, hm, -⟩ |
    ⟨_, -, -, hblocks, -⟩
  · exact ⟨_, hblocks.symm⟩
  · exact absurd hm (hreorg forkHeight blocks)
  · exact ⟨[], by rw [hblocks, List.append_nil]⟩

end Chain

end Zpay.Runtime
