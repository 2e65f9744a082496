import Zpay.Wallet.Revocation

/-!
# How fresh a live answer is

A check that answers live looks at a cache stamped less than `max_staleness` ago, and the
stamp is taken when the drain ends.  The pages say what was revoked when the issuer
produced them.  What the issuer recorded while the last one was under way is in neither.

With an honest issuer that is all that can be missing, whatever drains overlap and
whichever of them stores its cursor last.

## Main results

* `inv_step` — every cursor of the store covers only what the store, or the drain, holds.
* `live_sound_iff` — live answers are fresh throughout a run exactly when no drain ends
  without what was recorded, at an earlier instant, behind its last page.
* `live_too_long` — a run in which one does.
-/

open Zpay.Data Zpay.Machine

namespace Zpay.Wallet.Revocation

/-- At the instant `maxStaleness` before `t`, the issuer had not revoked `jti`. -/
def UnrevokedBefore (maxStaleness : Nat) (log : List Recorded) (jti : String) (t : Nat) : Prop :=
  ∀ entry ∈ log, entry.jti = jti → t < entry.revokedAt + maxStaleness

structure LiveSound (config : Config) (s : State) : Prop where
  /-- Every live answer given so far is fresh. -/
  answered : ∀ c jti answeredAt, s.calls.lookup c = some (.answered jti .live answeredAt) →
    UnrevokedBefore config.maxStaleness s.issuer.log jti answeredAt
  /-- So is every one the cache gives as it stands, now or later. -/
  cached : ∀ jti t, s.now ≤ t → s.cache.outcome config.maxStaleness t jti = .live →
    UnrevokedBefore config.maxStaleness s.issuer.log jti t

/-- A step that ends a drain finds in the cache, or on the drain's pages, whatever the
issuer recorded at an earlier instant after it had produced the last page. -/
def endsCurrent (config : Config) (s : State) : Action → Bool
  | .receive c =>
      match s.calls.lookup c with
      | some (.receiving _ drain response recorded) =>
          match drain.takeResponse response with
          | .ok (.drained next) =>
              (s.issuer.log.drop recorded).all fun entry =>
                decide (config.maxStaleness = 0) || decide (s.now ≤ entry.revokedAt) ||
                  decide (entry.jti ∈ (s.cache.commit next s.now).revoked)
          | _ => true
      | _ => true
  | _ => true

/-! ## What a cursor covers -/

/-- What the issuer recorded up to the drain's cursor is in the cache or on its pages. -/
structure Covers (s : State) (drain : Drain) : Prop where
  handedOut : drain.cursor ≤ s.issuer.handedOut
  holds : ∀ entry ∈ s.issuer.log, entry.stamp ≤ drain.cursor →
    entry.jti ∈ (s.cache.commit drain s.now).revoked

def PhaseInv (config : Config) (s : State) : Phase → Prop
  | .fetching _ drain => Covers s drain
  | .receiving _ drain response recorded =>
      recorded ≤ s.issuer.log.length ∧
        ∀ page, fetchPage response = .ok page →
          Covers s (drain.extend page) ∧
            (page.truncated = false → ∀ entry ∈ s.issuer.log.take recorded,
              entry.jti ∈ (s.cache.commit (drain.extend page) s.now).revoked)
  | .answered _ outcome answeredAt =>
      answeredAt ≤ s.now ∧ (outcome = .live → 0 < config.maxStaleness)
  | _ => True

structure Inv (config : Config) (s : State) : Prop where
  refreshed : ∀ refreshedAt, s.cache.lastRefresh = some refreshedAt → refreshedAt ≤ s.now
  cached : Covers s s.cache.start
  calls : ∀ c phase, s.calls.lookup c = some phase → PhaseInv config s phase

/-- What one step may do to everything but the calls: time goes on, the cache grows, and
the issuer records past what it has handed out. -/
structure Grows (s s' : State) : Prop where
  now : s.now ≤ s'.now
  revoked : s.cache.revoked ⊆ s'.cache.revoked
  handedOut : s.issuer.handedOut ≤ s'.issuer.handedOut
  log : ∃ later, s'.issuer.log = s.issuer.log ++ later ∧
    ∀ entry ∈ later, s.issuer.handedOut < entry.stamp

section Growth

variable {config : Config} {s s' : State} {drain : Drain}

theorem mem_commit {cache : CacheState} {now : Nat} {jti : String} :
    jti ∈ (cache.commit drain now).revoked ↔ jti ∈ cache.revoked ∨ jti ∈ drain.discovered :=
  List.mem_append

theorem Grows.commit (h : Grows s s') {jti : String}
    (hjti : jti ∈ (s.cache.commit drain s.now).revoked) :
    jti ∈ (s'.cache.commit drain s'.now).revoked := by
  rw [mem_commit] at hjti ⊢
  exact hjti.imp_left (h.revoked ·)

theorem Covers.mono (h : Covers s drain) (hgrows : Grows s s') : Covers s' drain := by
  constructor
  · exact Int.le_trans h.handedOut hgrows.handedOut
  · intro entry hentry hstamp
    obtain ⟨later, hlog, hlater⟩ := hgrows.log
    rw [hlog, List.mem_append] at hentry
    cases hentry with
    | inl hearlier => exact hgrows.commit (h.holds entry hearlier hstamp)
    | inr hnew =>
        have hahead : s.issuer.handedOut < entry.stamp := hlater entry hnew
        have hbehind : drain.cursor ≤ s.issuer.handedOut := h.handedOut
        omega

theorem PhaseInv.mono {phase : Phase} (h : PhaseInv config s phase) (hgrows : Grows s s') :
    PhaseInv config s' phase := by
  cases phase with
  | fetching caller drain => exact Covers.mono h hgrows
  | receiving caller drain response recorded =>
      obtain ⟨hrecorded, hpages⟩ := h
      obtain ⟨later, hlog, _⟩ := hgrows.log
      constructor
      · rw [hlog, List.length_append]
        omega
      · intro page hpage
        obtain ⟨hcovers, hlast⟩ := hpages page hpage
        refine ⟨hcovers.mono hgrows, fun htruncated entry hentry => ?_⟩
        rw [hlog, List.take_append_of_le_length hrecorded] at hentry
        exact hgrows.commit (hlast htruncated entry hentry)
  | answered jti outcome answeredAt => exact ⟨Nat.le_trans h.1 hgrows.now, h.2⟩
  | starting caller => trivial
  | deciding jti => trivial
  | refreshed result => trivial

theorem Grows.refl (s : State) : Grows s s where
  now := Nat.le_refl _
  revoked := List.Subset.refl _
  handedOut := Int.le_refl _
  log := ⟨[], by rw [List.append_nil], by simp⟩

/-- A call moves on to a phase that is in order, and the rest grows. -/
theorem inv_move (h : Inv config s) (c : Nat) (phase : Phase) (hgrows : Grows s s')
    (hcalls : s'.calls = s.calls.insert c phase) (hphase : PhaseInv config s' phase)
    (hrefreshed : ∀ refreshedAt, s'.cache.lastRefresh = some refreshedAt → refreshedAt ≤ s'.now)
    (hcached : Covers s' s'.cache.start) : Inv config s' := by
  refine ⟨hrefreshed, hcached, fun c' phase' hphase' => ?_⟩
  rw [hcalls, Table.lookup_insert_eq] at hphase'
  split at hphase'
  · injection hphase' with heq
    rw [← heq]
    exact hphase
  · exact (h.calls c' phase' hphase').mono hgrows

theorem inv_setPhase (h : Inv config s) (c : Nat) {phase : Phase}
    (hphase : PhaseInv config s phase) : Inv config (s.setPhase c phase) := by
  have hgrows : Grows s (s.setPhase c phase) :=
    ⟨Nat.le_refl _, List.Subset.refl _, Int.le_refl _, [], by rw [List.append_nil]; rfl, by simp⟩
  exact inv_move h c phase hgrows rfl (hphase.mono hgrows) h.refreshed (h.cached.mono hgrows)

theorem phaseInv_resume (caller : Caller) (result : Except RevocationRefreshError Unit) :
    PhaseInv config s (caller.resume result) := by
  cases caller <;> trivial

end Growth

/-! ## One step -/

section Step

variable {config : Config} {limit : Nat} {s : State}

theorem mem_extend {drain : Drain} {page : RevocationPage} {jti : String}
    (h : jti ∈ (s.cache.commit drain s.now).revoked ∨
      jti ∈ page.revocations.map (·.jti)) :
    jti ∈ (s.cache.commit (drain.extend page) s.now).revoked := by
  rw [mem_commit] at h ⊢
  unfold Drain.extend
  rw [List.mem_append, ← or_assoc]
  exact h

/-- An honest page carries a drain on, up to all there is. -/
theorem phaseInv_respond {caller : Caller} {drain : Drain} {response : Response}
    (hcovers : Covers s drain)
    (hhonest : ∀ page, fetchPage response = .ok page →
      HonestPage limit s.issuer.log drain.cursor page)
    {s' : State} (hgrows : Grows s s') (hissuer : s'.issuer = s.issuer.respond response) :
    PhaseInv config s' (.receiving caller drain response s.issuer.log.length) := by
  have hlog : s'.issuer.log = s.issuer.log := by
    rw [hissuer]
    exact respond_log s.issuer response
  refine ⟨Nat.le_of_eq (congrArg List.length hlog.symm), fun page hpage => ⟨⟨?_, ?_⟩, ?_⟩⟩
  · rw [hissuer]
    unfold Issuer.respond
    rw [hpage]
    exact Int.le_max_right _ _
  · intro entry hentry hstamp
    rw [hlog] at hentry
    apply hgrows.commit
    apply mem_extend
    exact (honest_page_covers (hhonest page hpage) hentry hstamp).imp_left
      (hcovers.holds entry hentry)
  · intro hlast entry hentry
    rw [hlog] at hentry
    have hrecorded : entry ∈ s.issuer.log := List.mem_of_mem_take hentry
    apply hgrows.commit
    apply mem_extend
    exact (honest_page_lists (hhonest page hpage) hlast hrecorded).imp_left
      (hcovers.holds entry hrecorded)

theorem grows_respond (s : State) (c : Nat) (phase : Phase) (response : Response) :
    Grows s (State.setPhase { s with issuer := s.issuer.respond response } c phase) := by
  refine ⟨Nat.le_refl _, List.Subset.refl _, ?_, [], ?_, by simp⟩
  · show s.issuer.handedOut ≤ (s.issuer.respond response).handedOut
    unfold Issuer.respond
    split
    · exact Int.le_max_left _ _
    · exact Int.le_refl _
  · show (s.issuer.respond response).log = s.issuer.log ++ []
    rw [List.append_nil]
    exact respond_log s.issuer response

theorem grows_commit (s : State) (c : Nat) (phase : Phase) (drain : Drain) :
    Grows s (State.setPhase { s with cache := s.cache.commit drain s.now } c phase) :=
  ⟨Nat.le_refl _, fun _ hjti => mem_commit.2 (.inl hjti), Int.le_refl _, [],
    (List.append_nil _).symm, by simp⟩

/-- A finished drain leaves the store covering its own cursor, however far others were. -/
theorem covers_commit {drain : Drain} (h : Covers s drain) (c : Nat) (phase : Phase) :
    Covers (State.setPhase { s with cache := s.cache.commit drain s.now } c phase)
      (s.cache.commit drain s.now).start :=
  ⟨h.handedOut, fun entry hentry hstamp => mem_commit.2 (.inl (h.holds entry hentry hstamp))⟩

theorem inv_respondCall (h : Inv config s) (c : Nat) (response : Response)
    (hhonest : honest limit s (.respond c response) = true) :
    Inv config (s.respondCall c response) := by
  unfold State.respondCall
  split
  · next caller drain hphase =>
      have hpages : ∀ page, fetchPage response = .ok page →
          HonestPage limit s.issuer.log drain.cursor page := by
        intro page hpage
        simp only [honest, hphase, hpage] at hhonest
        exact of_decide_eq_true hhonest
      have hcovers : Covers s drain := h.calls c _ hphase
      have hgrows := grows_respond s c (.receiving caller drain response s.issuer.log.length)
        response
      exact inv_move h c _ hgrows rfl (phaseInv_respond hcovers hpages hgrows rfl) h.refreshed
        (h.cached.mono hgrows)
  · exact h

theorem inv_receiveCall (h : Inv config s) (c : Nat) : Inv config (s.receiveCall c) := by
  unfold State.receiveCall
  split
  · next caller drain response recorded hphase =>
      have hreceiving : PhaseInv config s (.receiving caller drain response recorded) :=
        h.calls c _ hphase
      split
      · exact inv_setPhase h c (phaseInv_resume caller _)
      · next next htake =>
          obtain ⟨page, hpage, hnext, _⟩ := take_response_more htake
          rw [hnext]
          exact inv_setPhase h c (hreceiving.2 page hpage).1
      · next next htake =>
          obtain ⟨page, hpage, _, hnext⟩ := take_response_drained htake
          have hcovers : Covers s next := hnext ▸ (hreceiving.2 page hpage).1
          refine inv_move h c _ (grows_commit s c _ next) rfl (phaseInv_resume caller _) ?_
            (covers_commit hcovers c _)
          intro refreshedAt hrefreshed
          exact Nat.le_of_eq (Option.some.inj hrefreshed).symm
  · exact h

theorem is_fresh_iff {cache : CacheState} {maxStaleness t : Nat} :
    cache.isFresh maxStaleness t = true ↔
      ∃ refreshedAt, cache.lastRefresh = some refreshedAt ∧ t - refreshedAt < maxStaleness := by
  unfold CacheState.isFresh
  cases cache.lastRefresh <;> simp

theorem outcome_live {cache : CacheState} {maxStaleness t : Nat} {jti : String} :
    cache.outcome maxStaleness t jti = .live ↔
      jti ∉ cache.revoked ∧ cache.isFresh maxStaleness t = true := by
  unfold CacheState.outcome
  split
  · next hrevoked => exact iff_of_false nofun fun h => h.1 hrevoked
  · next hunlisted =>
      split
      · next hfresh => exact iff_of_true rfl ⟨hunlisted, hfresh⟩
      · next hstale => exact iff_of_false nofun fun h => hstale h.2

theorem inv_decideCall (h : Inv config s) (c : Nat) : Inv config (s.decideCall config c) := by
  unfold State.decideCall
  split
  · next jti hphase =>
      apply inv_setPhase h
      refine ⟨Nat.le_refl _, fun hlive => ?_⟩
      obtain ⟨_, hfresh⟩ := outcome_live.1 hlive
      obtain ⟨refreshedAt, _, hage⟩ := is_fresh_iff.1 hfresh
      omega
  · exact h

/-- Every cursor, stored or under way, covers only what is held, as long as the issuer is
honest. -/
theorem inv_step (hissuer : config.issuerUrl.isNone = false) (h : Inv config s) (a : Action)
    (hhonest : honest limit s a = true) : Inv config (step config s a) := by
  cases a with
  | tick elapsed =>
      have hgrows : Grows s (step config s (.tick elapsed)) :=
        ⟨Nat.le_add_right _ _, List.Subset.refl _, Int.le_refl _, [],
          (List.append_nil _).symm, by simp⟩
      exact ⟨fun refreshedAt hat => Nat.le_trans (h.refreshed refreshedAt hat) hgrows.now,
        h.cached.mono hgrows, fun c phase hphase => (h.calls c phase hphase).mono hgrows⟩
  | revoke jti stamp =>
      have hahead : s.issuer.handedOut < stamp := of_decide_eq_true hhonest
      have hgrows : Grows s (step config s (.revoke jti stamp)) :=
        ⟨Nat.le_refl _, List.Subset.refl _, Int.le_refl _, [{ jti, stamp, revokedAt := s.now }],
          rfl, by simpa using hahead⟩
      exact ⟨h.refreshed, h.cached.mono hgrows,
        fun c phase hphase => (h.calls c phase hphase).mono hgrows⟩
  | check c jti =>
      show Inv config (s.checkCall config c jti)
      unfold State.checkCall
      split
      · exact h
      · rw [hissuer]
        apply inv_setPhase h
        cases s.cache.isFresh config.maxStaleness s.now <;> trivial
  | refresh c =>
      show Inv config (s.refreshCall config c)
      unfold State.refreshCall
      split
      · exact h
      · rw [hissuer]
        exact inv_setPhase h c trivial
  | begin c =>
      show Inv config (s.beginCall c)
      unfold State.beginCall
      split
      · exact inv_setPhase h c h.cached
      · exact h
  | respond c response => exact inv_respondCall h c response hhonest
  | receive c => exact inv_receiveCall h c
  | decide c => exact inv_decideCall h c

end Step

/-! ## Live answers -/

section Live

variable {config : Config} {limit : Nat} {s s' : State}

/-- A step that leaves the cache and the log alone gives no answer the cache would not. -/
theorem LiveSound.move (h : LiveSound config s) (hnow : s.now ≤ s'.now)
    (hcache : s'.cache = s.cache) (hlog : s'.issuer.log = s.issuer.log)
    (hcalls : ∀ c jti answeredAt,
      s'.calls.lookup c = some (.answered jti .live answeredAt) →
      s.calls.lookup c = some (.answered jti .live answeredAt) ∨
        (s.now ≤ answeredAt ∧
          s.cache.outcome config.maxStaleness answeredAt jti = .live)) :
    LiveSound config s' := by
  constructor
  · intro c jti answeredAt hanswered
    rw [hlog]
    cases hcalls c jti answeredAt hanswered with
    | inl hearlier => exact h.answered c jti answeredAt hearlier
    | inr hnew => exact h.cached jti answeredAt hnew.1 hnew.2
  · intro jti t ht hlive
    rw [hlog]
    rw [hcache] at hlive
    exact h.cached jti t (Nat.le_trans hnow ht) hlive

theorem LiveSound.setPhase (h : LiveSound config s) (c : Nat) {phase : Phase}
    (hphase : ∀ jti answeredAt, phase = .answered jti .live answeredAt →
      s.now ≤ answeredAt ∧ s.cache.outcome config.maxStaleness answeredAt jti = .live) :
    LiveSound config (s.setPhase c phase) := by
  have hcalls : ∀ c' jti answeredAt,
      (s.setPhase c phase).calls.lookup c' = some (.answered jti .live answeredAt) →
      s.calls.lookup c' = some (.answered jti .live answeredAt) ∨
        (s.now ≤ answeredAt ∧
          s.cache.outcome config.maxStaleness answeredAt jti = .live) := by
    intro c' jti answeredAt hanswered
    change (s.calls.insert c phase).lookup c' = _ at hanswered
    rw [Table.lookup_insert_eq] at hanswered
    split at hanswered
    · exact .inr (hphase jti answeredAt (Option.some.inj hanswered))
    · exact .inl hanswered
  exact h.move (Nat.le_refl _) rfl rfl hcalls

theorem resume_ne_answered (caller : Caller) (result : Except RevocationRefreshError Unit)
    {jti : String} {outcome : RevocationOutcome} {answeredAt : Nat} :
    caller.resume result ≠ .answered jti outcome answeredAt := by
  cases caller <;> exact nofun

/-- What is revoked now was not revoked `max_staleness` before any answer the cache still
gives. -/
theorem liveSound_revoke (hinv : Inv config s) (h : LiveSound config s) (jti : String)
    (stamp : Int) : LiveSound config (step config s (.revoke jti stamp)) := by
  constructor
  · intro c jti' answeredAt hanswered entry hentry hjti
    have hphase : PhaseInv config s (.answered jti' .live answeredAt) := hinv.calls c _ hanswered
    cases List.mem_append.1 hentry with
    | inl hearlier => exact h.answered c jti' answeredAt hanswered entry hearlier hjti
    | inr hnew =>
        rw [List.mem_singleton] at hnew
        have hpast : answeredAt ≤ s.now := hphase.1
        have hpositive : 0 < config.maxStaleness := hphase.2 rfl
        rw [hnew]
        show answeredAt < s.now + config.maxStaleness
        omega
  · intro jti' t ht hlive entry hentry hjti
    cases List.mem_append.1 hentry with
    | inl hearlier => exact h.cached jti' t ht hlive entry hearlier hjti
    | inr hnew =>
        rw [List.mem_singleton] at hnew
        obtain ⟨refreshedAt, hrefreshed, hage⟩ := is_fresh_iff.1 (outcome_live.1 hlive).2
        have hpast : refreshedAt ≤ s.now := hinv.refreshed refreshedAt hrefreshed
        rw [hnew]
        show t < s.now + config.maxStaleness
        omega

/-- A drain that misses nothing that was recorded, at an earlier instant, behind its last
page keeps live answers fresh. -/
theorem liveSound_of_current (hinv : Inv config s) (h : LiveSound config s) {c : Nat}
    {caller : Caller} {drain next : Drain} {response : Response} {recorded : Nat}
    (hphase : s.calls.lookup c = some (.receiving caller drain response recorded))
    (htake : drain.takeResponse response = .ok (.drained next))
    (hcurrent : ∀ entry ∈ s.issuer.log.drop recorded,
      (config.maxStaleness = 0 ∨ s.now ≤ entry.revokedAt) ∨
        entry.jti ∈ (s.cache.commit next s.now).revoked) :
    LiveSound config
      (State.setPhase { s with cache := s.cache.commit next s.now } c
        (caller.resume (.ok ()))) := by
  obtain ⟨page, hpage, hlast, hnext⟩ := take_response_drained htake
  have hreceiving : PhaseInv config s (.receiving caller drain response recorded) :=
    hinv.calls c _ hphase
  have hheld : ∀ entry ∈ s.issuer.log.take recorded,
      entry.jti ∈ (s.cache.commit next s.now).revoked := by
    rw [hnext]
    exact (hreceiving.2 page hpage).2 hlast
  constructor
  · intro c' jti answeredAt hanswered
    change (s.calls.insert c _).lookup c' = _ at hanswered
    rw [Table.lookup_insert_eq] at hanswered
    split at hanswered
    · exact absurd (Option.some.inj hanswered) (resume_ne_answered caller _)
    · exact h.answered c' jti answeredAt hanswered
  · intro jti t ht hlive entry hentry hjti
    obtain ⟨hunlisted, hfresh⟩ := outcome_live.1 hlive
    obtain ⟨refreshedAt, hrefreshed, hage⟩ := is_fresh_iff.1 hfresh
    have hstamp : s.now = refreshedAt := Option.some.inj hrefreshed
    change s.now ≤ t at ht
    change jti ∉ (s.cache.commit next s.now).revoked at hunlisted
    change entry ∈ s.issuer.log at hentry
    rw [← hjti] at hunlisted
    rw [← List.take_append_drop recorded s.issuer.log, List.mem_append] at hentry
    cases hentry with
    | inl hproduced => exact absurd (hheld entry hproduced) hunlisted
    | inr hbehind =>
        rcases hcurrent entry hbehind with hdue | hlisted
        · omega
        · exact absurd hlisted hunlisted

/-- What a drain misses is answered live at the latest fresh instant, which is late. -/
theorem current_of_liveSound {c : Nat} {phase : Phase} {next : Drain}
    (hsound : LiveSound config
      (State.setPhase { s with cache := s.cache.commit next s.now } c phase))
    {entry : Recorded} (hentry : entry ∈ s.issuer.log) :
    (config.maxStaleness = 0 ∨ s.now ≤ entry.revokedAt) ∨
      entry.jti ∈ (s.cache.commit next s.now).revoked := by
  apply Classical.byContradiction
  intro hmissed
  simp only [not_or] at hmissed
  obtain ⟨⟨hpositive, hearlier⟩, hunlisted⟩ := hmissed
  let t := max s.now (entry.revokedAt + config.maxStaleness)
  have hlive : (s.cache.commit next s.now).outcome config.maxStaleness t entry.jti = .live := by
    apply outcome_live.2
    refine ⟨hunlisted, is_fresh_iff.2 ⟨s.now, rfl, ?_⟩⟩
    omega
  have hunrevoked : t < entry.revokedAt + config.maxStaleness :=
    hsound.cached entry.jti t (Nat.le_max_left _ _) hlive entry hentry rfl
  omega

/-- A drain that ends keeps live answers fresh exactly when it misses nothing that was
recorded, at an earlier instant, behind its last page. -/
theorem liveSound_drained (hinv : Inv config s) (h : LiveSound config s) {c : Nat}
    {caller : Caller} {drain next : Drain} {response : Response} {recorded : Nat}
    (hphase : s.calls.lookup c = some (.receiving caller drain response recorded))
    (htake : drain.takeResponse response = .ok (.drained next)) :
    ((s.issuer.log.drop recorded).all fun entry =>
        decide (config.maxStaleness = 0) || decide (s.now ≤ entry.revokedAt) ||
          decide (entry.jti ∈ (s.cache.commit next s.now).revoked)) = true ↔
      LiveSound config
        (State.setPhase { s with cache := s.cache.commit next s.now } c
          (caller.resume (.ok ()))) := by
  simp only [List.all_eq_true, Bool.or_eq_true, decide_eq_true_eq]
  constructor
  · exact liveSound_of_current hinv h hphase htake
  · exact fun hsound entry hbehind => current_of_liveSound hsound (List.mem_of_mem_drop hbehind)

theorem liveSound_receiveCall (hinv : Inv config s) (h : LiveSound config s) (c : Nat) :
    endsCurrent config s (.receive c) = true ↔ LiveSound config (s.receiveCall c) := by
  unfold State.receiveCall
  split
  · next caller drain response recorded hphase =>
      split
      · next err htake =>
          simp only [endsCurrent, hphase, htake]
          exact iff_of_true trivial (h.setPhase c fun jti answeredAt hanswered =>
            absurd hanswered (resume_ne_answered caller _))
      · next next htake =>
          simp only [endsCurrent, hphase, htake]
          exact iff_of_true trivial (h.setPhase c nofun)
      · next next htake =>
          simp only [endsCurrent, hphase, htake]
          exact liveSound_drained hinv h hphase htake
  · next hother =>
      refine iff_of_true ?_ h
      dsimp only [endsCurrent]
      split
      · next caller drain response recorded hphase =>
          exact absurd hphase (hother caller drain response recorded)
      · rfl

theorem liveSound_step (hissuer : config.issuerUrl.isNone = false) (hinv : Inv config s)
    (h : LiveSound config s) (a : Action) :
    endsCurrent config s a = true ↔ LiveSound config (step config s a) := by
  cases a with
  | tick elapsed =>
      refine iff_of_true rfl (h.move (Nat.le_add_right _ _) rfl rfl ?_)
      exact fun c jti answeredAt hanswered => .inl hanswered
  | revoke jti stamp => exact iff_of_true rfl (liveSound_revoke hinv h jti stamp)
  | check c jti =>
      refine iff_of_true rfl ?_
      show LiveSound config (s.checkCall config c jti)
      unfold State.checkCall
      split
      · exact h
      · rw [hissuer]
        apply h.setPhase
        cases s.cache.isFresh config.maxStaleness s.now <;> exact nofun
  | refresh c =>
      refine iff_of_true rfl ?_
      show LiveSound config (s.refreshCall config c)
      unfold State.refreshCall
      split
      · exact h
      · rw [hissuer]
        exact h.setPhase c nofun
  | begin c =>
      refine iff_of_true rfl ?_
      show LiveSound config (s.beginCall c)
      unfold State.beginCall
      split
      · exact h.setPhase c nofun
      · exact h
  | respond c response =>
      refine iff_of_true rfl ?_
      show LiveSound config (s.respondCall c response)
      unfold State.respondCall
      split
      · next caller drain hphase =>
          have hresponded : LiveSound config { s with issuer := s.issuer.respond response } :=
            h.move (Nat.le_refl _) rfl (respond_log s.issuer response) fun c jti answeredAt => .inl
          exact hresponded.setPhase c nofun
      · exact h
  | receive c => exact liveSound_receiveCall hinv h c
  | decide c =>
      refine iff_of_true rfl ?_
      show LiveSound config (s.decideCall config c)
      unfold State.decideCall
      split
      · next jti hphase =>
          apply h.setPhase
          intro jti' answeredAt hanswered
          injection hanswered with hjti hlive hat
          rw [← hjti, ← hat]
          exact ⟨Nat.le_refl _, hlive⟩
      · exact h

end Live

/-! ## Whole runs -/

theorem inv_init (config : Config) : Inv config .init where
  refreshed := nofun
  cached := ⟨Int.le_refl _, by simp [State.init]⟩
  calls := by simp [State.init]

theorem liveSound_init (config : Config) : LiveSound config .init where
  answered := by simp [State.init]
  cached := by
    intro jti t _ _ entry hentry
    exact absurd hentry List.not_mem_nil

/-- With an honest issuer, live answers are fresh throughout a run exactly when every drain
ends with all that was recorded before it did. -/
theorem live_sound_iff (config : Config) (limit : Nat) (as : List Action)
    (hissuer : config.issuerUrl.isNone = false)
    (hhonest : Along (step config) (fun s a => honest limit s a = true) .init as) :
    (∀ n, LiveSound config (run (step config) .init (as.take n))) ↔
      Along (step config) (fun s a => endsCurrent config s a = true) .init as := by
  have hinv : ∀ s a, Inv config s → honest limit s a = true → Inv config (step config s a) :=
    fun s a hinv hmeets => inv_step hissuer hinv a hmeets
  have hstep : ∀ s a, Inv config s → honest limit s a = true → LiveSound config s →
      (endsCurrent config s a = true ↔ LiveSound config (step config s a)) :=
    fun s a hinv _ hsound => liveSound_step hissuer hinv hsound a
  exact always_iff_along_of hinv hstep (inv_init config) (liveSound_init config) hhonest

/-! ## A slow last page -/

def wired : Config where
  issuerUrl := some "https://issuer.example"
  maxStaleness := 5

def page (nextSince : Int) (jtis : List String) (truncated : Bool) : Response :=
  .answered 200 (.ok { nextSince, revocations := jtis.map (⟨·⟩), truncated })

/-- Two tokens are revoked before a drain of two pages, and one is not. -/
def drainOfTwo : List Action :=
  [.tick 7, .revoke "a" 3, .revoke "b" 4, .check 0 "c", .begin 0,
    .respond 0 (page 3 ["a"] true), .receive 0, .respond 0 (page 4 ["b"] false), .tick 2,
    .receive 0, .decide 0, .check 1 "b", .decide 1]

theorem live_sound_iff_drainOfTwo :
    Along (step wired) (fun s a => honest 1 s a = true) .init drainOfTwo ∧
      (run (step wired) .init drainOfTwo).calls.lookup 0 = some (.answered "c" .live 9) ∧
      ((∀ n, LiveSound wired (run (step wired) .init (drainOfTwo.take n))) ↔
        Along (step wired) (fun s a => endsCurrent wired s a = true) .init drainOfTwo) := by
  have hhonest : Along (step wired) (fun s a => honest 1 s a = true) .init drainOfTwo := by
    decide
  exact ⟨hhonest, rfl, live_sound_iff wired 1 drainOfTwo rfl hhonest⟩

/-- The only page is produced at 0, the token is revoked at 1, and the page arrives at 10. -/
def slowPage : List Action :=
  [.refresh 0, .begin 0, .respond 0 (page 0 [] false), .tick 1, .revoke "a" 1, .tick 9,
    .receive 0, .tick 4, .check 1 "a", .decide 1]

theorem live_too_long :
    ¬ ∀ (config : Config) (limit : Nat) (as : List Action), config.issuerUrl.isNone = false →
      Along (step config) (fun s a => honest limit s a = true) .init as →
      ∀ c jti answeredAt,
        (run (step config) .init as).calls.lookup c = some (.answered jti .live answeredAt) →
        UnrevokedBefore config.maxStaleness (run (step config) .init as).issuer.log jti
          answeredAt := by
  intro hfresh
  have hhonest : Along (step wired) (fun s a => honest 1 s a = true) .init slowPage := by
    decide
  have hlive : (run (step wired) .init slowPage).calls.lookup 1 =
      some (.answered "a" .live 14) := rfl
  have hlog : (run (step wired) .init slowPage).issuer.log =
      [{ jti := "a", stamp := 1, revokedAt := 1 }] := rfl
  have hunrevoked := hfresh wired 1 slowPage rfl hhonest 1 "a" 14 hlive
  rw [hlog] at hunrevoked
  have hrecent : 14 < 1 + 5 := hunrevoked _ List.mem_cons_self rfl
  exact absurd hrecent (by decide)

end Zpay.Wallet.Revocation
