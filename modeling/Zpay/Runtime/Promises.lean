import Zpay.Lifecycle.Invariant
import Zpay.Runtime.Reconciler

/-!
# Promises of a view and a row

A lookup combines a view the process holds with a ledger row it reads now.  What
its answer promises about the chain is a relation between the three, and it can
only break when a view is taken in, when a row is written, or when the chain
moves.

## Main results

* `kept_step_iff` — the step condition under which a promise stays kept is exact.
* `wired_run` — no settled tip a process holds is above the chain's.
* `loaded_view_mem` — the views a lookup can go on with are the ones accounted for.
-/

open Zpay.Data Zpay.Core Zpay.Machine Zpay.Lifecycle

namespace Zpay.Runtime.System

variable {txExpiry : String → Option Nat} {C A V : Type} {d : Deployment C A V}
variable {s : System txExpiry} {e : Event} {paymentId : PaymentId}
variable {entry : SettlementLedgerEntry}

/-! ## What a step does to the rows and the views -/

/-- The step leaves a new row under the payment's id. -/
def Writes (s : System txExpiry) (e : Event) (paymentId : PaymentId)
    (entry : SettlementLedgerEntry) : Prop :=
  ∃ op, s.operation e = some op ∧
    (Records s.service paymentId op entry ∨
      ∃ old, s.service.ledger.lookup paymentId = some old ∧
        entry = op.rewrite s.service.now paymentId old ∧ entry ≠ old)

theorem row_of_step (h : (s.step d e).service.ledger.lookup paymentId = some entry) :
    s.service.ledger.lookup paymentId = some entry ∨ s.Writes e paymentId entry := by
  have hservice : (s.operation e).elim s.service (Lifecycle.step d s.service) =
      (s.step d e).service := rfl
  rw [← hservice] at h
  cases hop : s.operation e with
  | none =>
      rw [hop] at h
      exact .inl h
  | some op =>
      rw [hop, Option.elim_some] at h
      rcases ledger_step d s.service paymentId op with ⟨new, hrecords, hrow⟩ | hrow
      · rw [hrow, Option.some.injEq] at h
        subst h
        exact .inr ⟨op, hop, .inl hrecords⟩
      · rw [hrow, Option.map_eq_some_iff] at h
        obtain ⟨old, hold, heq⟩ := h
        by_cases hsame : entry = old
        · left
          rw [hold, hsame]
        · exact .inr ⟨op, hop, .inr ⟨old, hold, heq.symm, hsame⟩⟩

theorem row_of_writes (h : s.Writes e paymentId entry) :
    (s.step d e).service.ledger.lookup paymentId = some entry := by
  obtain ⟨op, hop, hwritten⟩ := h
  show ((s.operation e).elim s.service (Lifecycle.step d s.service)).ledger.lookup paymentId = _
  rw [hop, Option.elim_some]
  rcases hwritten with hrecords | ⟨old, hold, heq, hne⟩
  · exact ledger_of_records hrecords
  · rcases ledger_step d s.service paymentId op with ⟨_, ⟨_, _, _, _, rfl, -⟩, -⟩ | hrow
    · exact absurd heq hne
    · rw [hrow, hold, heq]
      rfl

/-- Operations that write no row. -/
theorem not_writes_of_refresh (hop : ∀ op, s.operation e = some op →
    op = .crash ∨ ∃ visible settled, op = .storeView visible settled) :
    ¬ s.Writes e paymentId entry := by
  rintro ⟨op, hop', hwritten⟩
  rcases hop op hop' with rfl | ⟨visible, settled, rfl⟩
  · rcases hwritten with ⟨_, _, _, _, heq, -⟩ | ⟨old, -, heq, hne⟩
    · exact absurd heq (by simp)
    · exact hne heq
  · rcases hwritten with ⟨_, _, _, _, heq, -⟩ | ⟨old, -, heq, hne⟩
    · exact absurd heq (by simp)
    · exact hne heq

/-- Rows are rewritten by the write of a fetched outcome and by a handled reorg. -/
theorem rewrite_of_operation (paymentId : PaymentId) {op : Lifecycle.Event}
    (h : s.operation e = some op) :
    (∃ p fault chainView row outcome rows, e = .poll p (.write fault) ∧ fault ≠ .lost ∧
      s.polls p = .fetched chainView row outcome rows ∧
      reconcileUnsettledRow row outcome = some op) ∨
    (∃ startHeight endHeight, op = .downgradeReorgedRange startHeight endHeight) ∨
    ∀ now, op.rewrite now paymentId = id := by
  cases performs_of_operation h with
  | service hservice =>
      right
      right
      intro now
      cases op with
      | recordConfirmation | downgradeOnReorg | downgradeReorgedRange =>
          exact absurd hservice (by simp [ofService])
      | _ => rfl
  | crash | refresh | delivery => exact .inr (.inr fun _ => rfl)
  | write hfault hphase hreconcile =>
      exact .inl ⟨_, _, _, _, _, _, rfl, hfault, hphase, hreconcile⟩
  | handleReorg => exact .inr (.inl ⟨_, _, rfl⟩)

/-- A step that takes in a view stores it, if anything. -/
theorem operation_of_takes {view : ChainStatusView} (h : s.takes e = some view) :
    ∀ op, s.operation e = some op → ∃ visible settled, op = .storeView visible settled ∧
      view = { visibleTipHeight := some visible, settledTipHeight := some settled } := by
  intro op hop
  unfold takes at h
  split at h
  · next p =>
      simp only [operation] at hop
      split at hop
      · next visible settled hphase =>
          rw [hphase] at h
          exact ⟨visible, settled, (Option.some.inj hop).symm, (Option.some.inj h).symm⟩
      · exact absurd hop (by simp)
  · simp only [operation] at hop
    cases hpending : s.pending with
    | none =>
        rw [hpending] at h
        exact absurd h (by simp)
    | some envelope =>
        rw [hpending] at h hop
        exact ⟨_, _, (Option.some.inj hop).symm, (Option.some.inj h).symm⟩
  · exact absurd h (by simp)

/-- A step other than a move leaves the chain alone. -/
theorem nextChain_of_not_move (h : ∀ m, e ≠ .chain m) : s.nextChain e = s.chain := by
  cases e with
  | chain m => exact absurd rfl (h m)
  | _ => rfl

theorem nextChain_of_takes {view : ChainStatusView} (h : s.takes e = some view) :
    s.nextChain e = s.chain := by
  refine nextChain_of_not_move ?_
  rintro m rfl
  exact absurd h (by simp [takes])

theorem nextChain_of_writes (h : s.Writes e paymentId entry) : s.nextChain e = s.chain := by
  obtain ⟨op, hop, -⟩ := h
  refine nextChain_of_not_move ?_
  rintro m rfl
  exact absurd hop (by simp [operation])

theorem mem_nextViews {view : ChainStatusView} (h : view ∈ s.nextViews e) :
    e = .crash ∧ view = ChainStatusCache.new.load ∨ s.takes e = some view ∨ view ∈ s.views := by
  unfold nextViews at h
  split at h
  · rw [List.mem_singleton] at h
    exact .inl ⟨rfl, h⟩
  · rw [List.mem_append, Option.mem_toList] at h
    exact .inr h

theorem mem_nextViews_of_takes {view : ChainStatusView} (h : s.takes e = some view) :
    view ∈ s.nextViews e := by
  unfold nextViews
  split
  · exact absurd h (by simp [takes])
  · rw [h]
    exact List.mem_cons_self

theorem nextViews_of_operation {view : ChainStatusView} (he : e ≠ .crash) (h : view ∈ s.views) :
    view ∈ s.nextViews e := by
  unfold nextViews
  split
  · exact absurd rfl he
  · exact List.mem_append_right _ h

/-! ## Promises -/

/-- What an answer promises about the chain, from the view and the row. -/
abbrev Promise (txExpiry : String → Option Nat) :=
  Chain txExpiry → ChainStatusView → SettlementLedgerEntry → Prop

/-- Every lookup that reads the ledger now keeps the promise. -/
def Kept (promise : Promise txExpiry) (s : System txExpiry) : Prop :=
  ∀ view ∈ s.views, ∀ paymentId entry, s.service.ledger.lookup paymentId = some entry →
    promise s.chain view entry

/-- The promise holds of a view that is taken in, of a row that is written, and
of a chain that has moved. -/
structure Justified (promise : Promise txExpiry) (s : System txExpiry) (e : Event) : Prop where
  taken : ∀ view, s.takes e = some view → ∀ paymentId entry,
    s.service.ledger.lookup paymentId = some entry → promise s.chain view entry
  written : ∀ paymentId entry, s.Writes e paymentId entry →
    ∀ view ∈ s.views, promise s.chain view entry
  moved : ∀ m, e = .chain m → ∀ view ∈ s.views, ∀ paymentId entry,
    s.service.ledger.lookup paymentId = some entry → promise (s.chain.moved m) view entry

variable {promise : Promise txExpiry}

/-- A promise that an unknown view never makes stays kept over a step exactly
when the step justifies it. -/
theorem kept_step_iff (d : Deployment C A V)
    (hunknown : ∀ chain entry, promise chain ChainStatusCache.new.load entry)
    (hkept : Kept promise s) (e : Event) :
    Justified promise s e ↔ Kept promise (s.step d e) := by
  constructor
  · intro hjustified view hview paymentId entry hentry
    show promise (s.nextChain e) view entry
    rcases mem_nextViews hview with ⟨-, rfl⟩ | htakes | hheld
    · exact hunknown _ _
    · have hunwritten : ¬ s.Writes e paymentId entry := by
        refine not_writes_of_refresh ?_
        intro op hop
        obtain ⟨visible, settled, heq, -⟩ := operation_of_takes htakes op hop
        exact .inr ⟨visible, settled, heq⟩
      rw [nextChain_of_takes htakes]
      exact hjustified.taken view htakes paymentId entry
        ((row_of_step hentry).resolve_right hunwritten)
    · by_cases hmove : ∃ m, e = .chain m
      · obtain ⟨m, rfl⟩ := hmove
        exact hjustified.moved m rfl view hheld paymentId entry hentry
      · have hchain : s.nextChain e = s.chain :=
          nextChain_of_not_move fun m heq => hmove ⟨m, heq⟩
        rw [hchain]
        rcases row_of_step hentry with hold | hwrites
        · exact hkept view hheld paymentId entry hold
        · exact hjustified.written paymentId entry hwrites view hheld
  · intro hafter
    refine ⟨?_, ?_, ?_⟩
    · intro view htakes paymentId entry hentry
      have hrow : (s.step d e).service.ledger.lookup paymentId = some entry := by
        show ((s.operation e).elim s.service (Lifecycle.step d s.service)).ledger.lookup _ = _
        cases hop : s.operation e with
        | none => exact hentry
        | some op =>
            obtain ⟨visible, settled, rfl, -⟩ := operation_of_takes htakes op hop
            exact hentry
      have hpromise := hafter view (mem_nextViews_of_takes htakes) paymentId entry hrow
      rw [← nextChain_of_takes htakes]
      exact hpromise
    · intro paymentId entry hwrites view hview
      have hcrash : e ≠ .crash := by
        rintro rfl
        refine not_writes_of_refresh ?_ hwrites
        intro op hop
        exact .inl (Option.some.inj hop).symm
      have hpromise := hafter view (nextViews_of_operation hcrash hview) paymentId entry
        (row_of_writes hwrites)
      rw [← nextChain_of_writes hwrites]
      exact hpromise
    · rintro m rfl view hview paymentId entry hentry
      have hheld : view ∈ s.nextViews (.chain m) := nextViews_of_operation (by simp) hview
      exact hafter view hheld paymentId entry hentry

/-! ## The views a process holds -/

structure Wired (s : System txExpiry) : Prop where
  /-- The settled tip of a held view is one the chain has had. -/
  views : ∀ view ∈ s.views, ∀ tip ∈ view.settledTipHeight, tip ≤ s.chain.settledTip
  asked : ∀ p view, s.polls p = .statusRead (some view) →
    ∀ tip ∈ view.settledTipHeight, tip ≤ s.chain.settledTip
  log : ∀ envelope ∈ s.log, envelope.settledTip ≤ s.chain.settledTip
  /-- The cached view and those of the polls under way are among the views. -/
  cached : s.service.chainStatus.load ∈ s.views
  held : ∀ p view, (s.polls p).chainView = some view → view ∈ s.views
  /-- A mined verdict counts at least the block it names. -/
  counted : ∀ p view row height count rows,
    s.polls p = .fetched view row (.mined height count) rows → 1 ≤ count

theorem wired_initial (chain : Chain txExpiry) (now : Nat) : Wired (initial chain now) where
  views view hview tip htip := by
    have heq : view = ChainStatusCache.new.load := List.mem_singleton.1 hview
    rw [heq] at htip
    exact absurd htip (by simp)
  asked _ _ h := absurd h (by simp [initial])
  log _ h := absurd h (by simp [initial])
  cached := List.mem_singleton_self _
  held _ _ h := absurd h (by simp [initial, PollPhase.chainView])
  counted _ _ _ _ _ _ h := absurd h (by simp [initial])

theorem settledTip_step (s : System txExpiry) (e : Event) :
    s.chain.settledTip ≤ (s.nextChain e).settledTip := by
  cases e with
  | chain m =>
      show _ ≤ (s.chain.moved m).settledTip
      rw [Chain.moved]
      cases hmove : s.chain.move m with
      | none => exact Nat.le_refl _
      | some chain => exact Chain.settledTip_mono hmove
  | _ => exact Nat.le_refl _

/-- How a poll gets to its next phase: it stays, it is answered truthfully, or it
goes on with a view it had or takes in. -/
theorem nextPoll_cases (s : System txExpiry) (p : Poller) (pollStep : PollStep) :
    s.nextPoll p pollStep = s.polls p ∨
    (∃ answer, s.nextPoll p pollStep = .statusRead answer ∧
      ∀ view ∈ answer, TellsTips s.chain view) ∨
    (∃ view, s.takes (.poll p pollStep) = some view ∧ s.nextPoll p pollStep = .refreshed view) ∨
    s.nextPoll p pollStep = .idle ∨
    ∃ view, (s.polls p).chainView = some view ∧
      ((∃ rows, s.nextPoll p pollStep = .sweeping view rows) ∨
        ∃ row outcome rows, s.nextPoll p pollStep = .fetched view row outcome rows ∧
          TellsPlace s.chain row.transactionId outcome) := by
  cases hphase : s.polls p with
  | idle =>
      cases pollStep with
      | chainStatus answer =>
          simp only [nextPoll, hphase]
          split
          · next htold => exact .inr (.inl ⟨answer, rfl, htold.2⟩)
          · exact .inl rfl
      | _ => exact .inl (by simp only [nextPoll, hphase])
  | statusRead answer =>
      cases pollStep with
      | refresh =>
          right
          right
          left
          refine ⟨answer.getD s.service.chainStatus.load, ?_, ?_⟩
          · simp only [takes, hphase]
          · simp only [nextPoll, hphase]
      | _ => exact .inl (by simp only [nextPoll, hphase])
  | refreshed view =>
      cases pollStep with
      | readRows answered =>
          cases answered with
          | true =>
              refine .inr (.inr (.inr (.inr ⟨view, rfl, .inl ?_⟩)))
              refine ⟨s.service.ledger.successKindTransactions, ?_⟩
              simp only [nextPoll, hphase]
          | false => exact .inr (.inr (.inr (.inl (by simp only [nextPoll, hphase]))))
      | _ => exact .inl (by simp only [nextPoll, hphase])
  | sweeping view rows =>
      cases pollStep with
      | nextRow answer =>
          cases rows with
          | nil => exact .inr (.inr (.inr (.inl (by simp only [nextPoll, hphase]))))
          | cons row rows =>
              refine .inr (.inr (.inr (.inr ⟨view, rfl, ?_⟩)))
              simp only [nextPoll, hphase]
              split
              · exact .inl ⟨_, rfl⟩
              · split
                · exact .inl ⟨_, rfl⟩
                · split
                  · next htold => exact .inr ⟨_, _, _, rfl, htold⟩
                  · exact .inl ⟨_, rfl⟩
      | _ => exact .inl (by simp only [nextPoll, hphase])
  | fetched view row outcome rows =>
      cases pollStep with
      | write fault =>
          refine .inr (.inr (.inr (.inr ⟨view, rfl, .inl ⟨rows, ?_⟩⟩)))
          simp only [nextPoll, hphase]
      | _ => exact .inl (by simp only [nextPoll, hphase])

theorem nextPolls_cases (s : System txExpiry) (e : Event) (p : Poller) :
    s.nextPolls e p = .idle ∨ s.nextPolls e p = s.polls p ∨
      ∃ pollStep, e = .poll p pollStep ∧ s.nextPolls e p = s.nextPoll p pollStep := by
  cases e with
  | crash => exact .inl rfl
  | poll p' pollStep =>
      by_cases hp : p = p'
      · subst hp
        exact .inr (.inr ⟨pollStep, rfl, if_pos rfl⟩)
      · exact .inr (.inl (if_neg hp))
  | _ => exact .inr (.inl rfl)

theorem asked_step (hwired : Wired s) {p : Poller} {view : ChainStatusView}
    (h : s.nextPolls e p = .statusRead (some view)) :
    ∀ tip ∈ view.settledTipHeight, tip ≤ s.chain.settledTip := by
  rcases nextPolls_cases s e p with hidle | hsame | ⟨pollStep, -, hnext⟩
  · exact absurd (h.symm.trans hidle) (by simp)
  · exact hwired.asked p view (hsame.symm.trans h)
  · rw [hnext] at h
    rcases nextPoll_cases s p pollStep with hstay | ⟨answer, hread, htold⟩ | ⟨_, -, hrefreshed⟩ |
      hidle | ⟨_, -, ⟨_, hsweeping⟩ | ⟨_, _, _, hfetched, -⟩⟩
    · exact hwired.asked p view (hstay.symm.trans h)
    · rw [hread, PollPhase.statusRead.injEq] at h
      intro tip htip
      exact Nat.le_of_eq ((htold view h).2 tip htip)
    · exact absurd (h.symm.trans hrefreshed) (by simp)
    · exact absurd (h.symm.trans hidle) (by simp)
    · exact absurd (h.symm.trans hsweeping) (by simp)
    · exact absurd (h.symm.trans hfetched) (by simp)

theorem held_step (hwired : Wired s) {p : Poller} {view : ChainStatusView}
    (h : (s.nextPolls e p).chainView = some view) : view ∈ s.nextViews e := by
  have hold : ∀ {held}, e ≠ .crash → (s.polls p).chainView = some held → held ∈ s.nextViews e :=
    fun hcrash hview => nextViews_of_operation hcrash (hwired.held p _ hview)
  by_cases hcrash : e = .crash
  · subst hcrash
    exact absurd h (by simp [nextPolls, PollPhase.chainView])
  · rcases nextPolls_cases s e p with hidle | hsame | ⟨pollStep, rfl, hnext⟩
    · rw [hidle] at h
      exact absurd h (by simp [PollPhase.chainView])
    · rw [hsame] at h
      exact hold hcrash h
    · rw [hnext] at h
      rcases nextPoll_cases s p pollStep with hstay | ⟨answer, hread, -⟩ |
        ⟨taken, htakes, hrefreshed⟩ | hidle | ⟨kept, hkept, ⟨_, hsweeping⟩ | ⟨_, _, _, hfetched, -⟩⟩
      · rw [hstay] at h
        exact hold hcrash h
      · rw [hread] at h
        exact absurd h (by simp [PollPhase.chainView])
      · rw [hrefreshed] at h
        rw [← Option.some.inj h]
        exact mem_nextViews_of_takes htakes
      · rw [hidle] at h
        exact absurd h (by simp [PollPhase.chainView])
      · rw [hsweeping] at h
        rw [← Option.some.inj h]
        exact hold hcrash hkept
      · rw [hfetched] at h
        rw [← Option.some.inj h]
        exact hold hcrash hkept

theorem counted_step (hwired : Wired s) {p : Poller} {view : ChainStatusView}
    {row : SuccessKindRow} {height : Nat} {count : UInt32} {rows : List SuccessKindRow}
    (h : s.nextPolls e p = .fetched view row (.mined height count) rows) : 1 ≤ count := by
  rcases nextPolls_cases s e p with hidle | hsame | ⟨pollStep, -, hnext⟩
  · exact absurd (h.symm.trans hidle) (by simp)
  · exact hwired.counted p view row height count rows (hsame.symm.trans h)
  · rw [hnext] at h
    rcases nextPoll_cases s p pollStep with hstay | ⟨_, hread, -⟩ | ⟨_, -, hrefreshed⟩ |
      hidle | ⟨_, -, ⟨_, hsweeping⟩ | ⟨row', outcome, _, hfetched, htold⟩⟩
    · exact hwired.counted p view row height count rows (hstay.symm.trans h)
    · exact absurd (h.symm.trans hread) (by simp)
    · exact absurd (h.symm.trans hrefreshed) (by simp)
    · exact absurd (h.symm.trans hidle) (by simp)
    · exact absurd (h.symm.trans hsweeping) (by simp)
    · rw [hfetched, PollPhase.fetched.injEq] at h
      rw [h.2.2.1] at htold
      obtain ⟨hmined, hcount⟩ := htold
      have hle := Chain.le_visibleTip_of_mined hmined
      rw [UInt32.le_iff_toNat_le, hcount]
      show 1 ≤ _
      omega

theorem log_step (hwired : Wired s) {envelope : Envelope} (h : envelope ∈ s.nextLog e) :
    envelope.settledTip ≤ (s.nextChain e).settledTip := by
  cases e with
  | chain m =>
      have htip : s.chain.settledTip ≤ (s.chain.moved m).settledTip := settledTip_step s (.chain m)
      show _ ≤ (s.chain.moved m).settledTip
      rw [nextLog] at h
      cases hmove : s.chain.move m with
      | none =>
          rw [hmove] at h
          exact Nat.le_trans (hwired.log envelope h) htip
      | some chain =>
          rw [hmove] at h
          rcases List.mem_append.1 h with hold | hnew
          · exact Nat.le_trans (hwired.log envelope hold) htip
          · rw [List.mem_singleton.1 hnew, Chain.moved, hmove]
            cases m <;> exact Nat.le_refl _
  | _ => exact hwired.log envelope h

/-- A view that is taken in has a settled tip the chain has had. -/
theorem takes_settled (hwired : Wired s) {view : ChainStatusView} (h : s.takes e = some view) :
    ∀ tip ∈ view.settledTipHeight, tip ≤ s.chain.settledTip := by
  unfold takes at h
  split at h
  · next p =>
      split at h
      · next answer hphase =>
          rw [Option.some.injEq] at h
          cases answer with
          | none =>
              rw [← h]
              exact hwired.views _ hwired.cached
          | some told =>
              rw [← h]
              exact hwired.asked p told hphase
      · exact absurd h (by simp)
  · obtain ⟨envelope, hpending, rfl⟩ := Option.map_eq_some_iff.1 h
    have hlog : envelope ∈ s.log := by
      unfold pending at hpending
      split at hpending
      · exact List.mem_of_getElem? hpending
      · exact absurd hpending (by simp)
    intro tip htip
    rw [← Option.some.inj htip]
    exact hwired.log envelope hlog
  · exact absurd h (by simp)

/-- The cache changes by a restart, or to a view that is taken in. -/
theorem refresh_of_operation {op : Lifecycle.Event} (h : s.operation e = some op)
    (he : e ≠ .crash) :
    op.refresh s.service.chainStatus = s.service.chainStatus ∨
      s.takes e = some (op.refresh s.service.chainStatus).load := by
  cases performs_of_operation h with
  | service hservice =>
      left
      cases op with
      | crash | storeView => exact absurd hservice (by simp [ofService])
      | _ => rfl
  | crash => exact absurd rfl he
  | refresh hphase =>
      right
      simp only [takes, hphase]
      rfl
  | write _ _ hreconcile =>
      left
      rcases reconcile_cases hreconcile with ⟨_, _, -, rfl⟩ | rfl | rfl
      · rfl
      · rfl
      · rfl
  | delivery hpending =>
      right
      simp only [takes, hpending]
      rfl
  | handleReorg => exact .inl rfl

theorem cached_step (d : Deployment C A V) (hwired : Wired s) :
    (s.step d e).service.chainStatus.load ∈ s.nextViews e := by
  show ((s.operation e).elim s.service (Lifecycle.step d s.service)).chainStatus.load ∈ _
  by_cases hcrash : e = .crash
  · subst hcrash
    exact List.mem_singleton_self _
  · cases hop : s.operation e with
    | none => exact nextViews_of_operation hcrash hwired.cached
    | some op =>
        rw [Option.elim_some, (clock_step d s.service op).2]
        rcases refresh_of_operation hop hcrash with hsame | htakes
        · rw [hsame]
          exact nextViews_of_operation hcrash hwired.cached
        · exact mem_nextViews_of_takes htakes

theorem wired_step (d : Deployment C A V) (hwired : Wired s) (e : Event) :
    Wired (s.step d e) where
  views view hview tip htip := by
    have htips := settledTip_step s e
    show tip ≤ (s.nextChain e).settledTip
    rcases mem_nextViews hview with ⟨-, rfl⟩ | htakes | hheld
    · exact absurd htip (by simp)
    · exact Nat.le_trans (takes_settled hwired htakes tip htip) htips
    · exact Nat.le_trans (hwired.views view hheld tip htip) htips
  asked _ _ h tip htip := Nat.le_trans (asked_step hwired h tip htip) (settledTip_step s e)
  log _ h := log_step hwired h
  cached := cached_step d hwired
  held _ _ h := held_step hwired h
  counted _ _ _ _ _ _ h := counted_step hwired h

theorem wired_run (d : Deployment C A V) (chain : Chain txExpiry) (now : Nat)
    (es : List Event) : Wired (run (step d) (initial chain now) es) := by
  have hstep : ∀ (t : System txExpiry) e, Wired t → Wired (step d t e) :=
    fun _ e hwired => wired_step d hwired e
  exact run_invariant hstep (wired_initial chain now) es

theorem views_of_run (d : Deployment C A V) {view : ChainStatusView} (hview : view ∈ s.views)
    {es : List Event} (hup : ∀ e ∈ es, e ≠ .crash) : view ∈ (run (step d) s es).views := by
  induction es generalizing s with
  | nil => exact hview
  | cons e es ih =>
      have hnext : view ∈ (s.step d e).views :=
        nextViews_of_operation (hup e List.mem_cons_self) hview
      exact ih hnext fun e' he' => hup e' (List.mem_cons_of_mem e he')

/-- A lookup that loaded the cached view and has not been cut off by a restart
goes on with one of the views. -/
theorem loaded_view_mem (d : Deployment C A V) (chain : Chain txExpiry) (now : Nat)
    (before since : List Event) (hup : ∀ e ∈ since, e ≠ .crash) :
    (run (step d) (initial chain now) before).service.chainStatus.load ∈
      (run (step d) (initial chain now) (before ++ since)).views := by
  rw [run_append]
  exact views_of_run d (wired_run d chain now before).cached hup

end Zpay.Runtime.System
