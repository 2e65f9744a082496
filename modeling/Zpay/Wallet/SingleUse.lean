import Zpay.Wallet.SignGate

/-!
# At most one signature for an access token

Any number of granted sign requests over one ledger: each reserves its token,
then proposes, proves, signs and extracts, then commits or releases.  A request
may be dropped between any two steps, the process may crash, every ledger call
may fail before or after taking effect, and the clock advances at will.

The ledger row carries no owner.  Two branches of the source rest on the row
alone: the TTL reclaim hands a pending row to the next request whoever still
works under it, and a request whose extraction fails releases the row although
its wallet has signed.  `Guarded` says that neither is taken against a
signature or a live holder; it is what single use depends on.

## Main results

* `Inv.step` — the inductive invariant of guarded runs.
* `sign_at_most_once` — in every guarded run a token is signed at most once, and
  a reserve is answered `fresh` only to the one live holder of an unsigned token.
* `reclaim_after_failed_commit` — an unguarded run that signs twice.
-/

open Zpay.Data Zpay.Machine

namespace Zpay.Wallet.SingleUse

/-! ## The machine -/

/-- How far a request that was told `fresh` has come. -/
inductive Phase
  | reserved
  | proposed
  | proven
  | signed
  | extracted (response : SignPaymentResponse)
  | releasing
  deriving DecidableEq, Repr

variable {R M : Type}

/-- A request between its fresh reserve and its commit or release. -/
structure Call (R M : Type) where
  grant : SignGrant R M
  phase : Phase

/-- The wallet process and its ledger.  `signatures` and `returned` are the
history the property speaks of: which request had its wallet sign for which
token, and which of them answered with the signed payload. -/
structure State (R M : Type) where
  unixMs : Nat
  ledger : UsageLedger
  calls : Table Nat (Call R M)
  nextCall : Nat
  signatures : List (Nat × String)
  returned : List (Nat × String)

inductive Action (R M : Type)
  | tick (ms : Nat)
  | reserve (grant : SignGrant R M) (fault : Fault)
  | propose (id : Nat) (succeeds : Bool)
  | prove (id : Nat) (succeeds : Bool)
  | sign (id : Nat) (succeeds : Bool)
  | extract (id : Nat) (captured : Option SignPaymentResponse)
  | commit (id : Nat) (fault : Fault)
  | release (id : Nat) (fault : Fault)
  | drop (id : Nat)
  | crash

/-- A process that has just opened an empty ledger. -/
def initial (unixMs : Nat) : State R M where
  unixMs := unixMs
  ledger := ∅
  calls := ∅
  nextCall := 0
  signatures := []
  returned := []

/-- The error a faulty ledger statement reports. -/
def faultError : LedgerError := .statement "the statement was not acknowledged"

section Step

variable (codec : PayloadCodec)

/-- Moves a call on, when it stands where the step starts from. -/
def State.advance (s : State R M) (id : Nat) (source target : Phase) : State R M :=
  match s.calls.lookup id with
  | some call =>
      if call.phase = source then
        { s with calls := s.calls.insert id { call with phase := target } }
      else s
  | none => s

/-- What the ledger answers a reserve of `grant`, and the ledger after it. -/
def State.reserveOutcome (s : State R M) (grant : SignGrant R M) (fault : Fault) :
    Except LedgerError Reservation × UsageLedger :=
  fault.apply faultError s.ledger
    (reserveAt codec s.ledger grant.jti grant.intentHash (nowMs s.unixMs))

/-- A fresh reserve lets the request go on; any other answer ends it. -/
def State.reserve (s : State R M) (grant : SignGrant R M) (fault : Fault) : State R M :=
  let outcome := s.reserveOutcome codec grant fault
  match outcome.1 with
  | .ok .fresh =>
      { s with
        ledger := outcome.2
        calls := s.calls.insert s.nextCall { grant, phase := .reserved }
        nextCall := s.nextCall + 1 }
  | _ => { s with ledger := outcome.2 }

/-- `sign_pczt` succeeds. -/
def State.sign (s : State R M) (id : Nat) : State R M :=
  match s.calls.lookup id with
  | some call =>
      if call.phase = .proven then
        { s with
          calls := s.calls.insert id { call with phase := .signed }
          signatures := (id, call.grant.jti) :: s.signatures }
      else s
  | none => s

def State.commitOutcome (s : State R M) (grant : SignGrant R M)
    (response : SignPaymentResponse) (fault : Fault) : Except LedgerError Unit × UsageLedger :=
  fault.apply faultError s.ledger
    (Wallet.commit codec s.ledger grant.jti grant.intentHash response (nowMs s.unixMs))

/-- The request commits and answers with the signed payload, whatever the
ledger said. -/
def State.commit (s : State R M) (id : Nat) (fault : Fault) : State R M :=
  match s.calls.lookup id with
  | some { grant, phase := .extracted response } =>
      { s with
        ledger := (s.commitOutcome codec grant response fault).2
        calls := s.calls.erase id
        returned := (id, grant.jti) :: s.returned }
  | _ => s

/-- The request gives its reservation back and answers with an error. -/
def State.release (s : State R M) (id : Nat) (fault : Fault) : State R M :=
  match s.calls.lookup id with
  | some { grant, phase := .releasing } =>
      { s with
        ledger := (fault.apply faultError s.ledger (Wallet.release s.ledger grant.jti)).2
        calls := s.calls.erase id }
  | _ => s

def step (s : State R M) : Action R M → State R M
  | .tick ms => { s with unixMs := s.unixMs + ms }
  | .reserve grant fault => s.reserve codec grant fault
  | .propose id true => s.advance id .reserved .proposed
  | .propose id false => s.advance id .reserved .releasing
  | .prove id true => s.advance id .proposed .proven
  | .prove id false => s.advance id .proposed .releasing
  | .sign id true => s.sign id
  | .sign id false => s.advance id .proven .releasing
  | .extract id (some response) => s.advance id .signed (.extracted response)
  | .extract id none => s.advance id .signed .releasing
  | .commit id fault => s.commit codec id fault
  | .release id fault => s.release id fault
  | .drop id => { s with calls := s.calls.erase id }
  | .crash => { s with calls := ∅ }

end Step

/-! ## Single use -/

/-- How often the wallet signed for a token. -/
def State.signedCount (s : State R M) (jti : String) : Nat :=
  s.signatures.countP fun entry => entry.2 == jti

/-- A request told `fresh` for `jti` has neither committed nor released. -/
def State.Held (s : State R M) (jti : String) : Prop :=
  ∃ entry ∈ s.calls.rows, entry.2.grant.jti = jti

instance (s : State R M) (jti : String) : Decidable (s.Held jti) :=
  inferInstanceAs (Decidable (∃ entry ∈ s.calls.rows, entry.2.grant.jti = jti))

/-- The wallet signs for every token at most once. -/
def SignedOnce (s : State R M) : Prop := ∀ jti, s.signedCount jti ≤ 1

/-- A reserve is answered `fresh` only while no signature for the token was
returned and no other request holds it. -/
def FreshSound (codec : PayloadCodec) (s : State R M) : Action R M → Prop
  | .reserve grant fault =>
      (s.reserveOutcome codec grant fault).1 = .ok .fresh →
        (∀ entry ∈ s.returned, entry.2 ≠ grant.jti) ∧ ¬ s.Held grant.jti
  | _ => True

/-- The reserve would take over an expired pending row. -/
def State.Reclaims (s : State R M) (grant : SignGrant R M) : Prop :=
  (s.ledger.lookup grant.jti).any
    (fun row => row.reclaimable grant.intentHash (nowMs s.unixMs)) = true

/-- The call is about to give its reservation back although its wallet signed. -/
def State.ReleasesSigned (s : State R M) (id : Nat) : Prop :=
  (s.calls.lookup id).any
    (fun call => call.phase == .releasing && s.signatures.contains (id, call.grant.jti)) = true

/-- The two branches single use depends on: an expired row is taken over only
when its token is unsigned and nobody works under it, and a reservation is
given back only by a request whose wallet did not sign. -/
def Guarded (s : State R M) : Action R M → Prop
  | .reserve grant fault =>
      fault = .none → s.Reclaims grant → s.signedCount grant.jti = 0 ∧ ¬ s.Held grant.jti
  | .release id fault => fault ≠ .lost → ¬ s.ReleasesSigned id
  | _ => True

instance (s : State R M) (grant : SignGrant R M) : Decidable (s.Reclaims grant) :=
  inferInstanceAs (Decidable (_ = true))

instance (s : State R M) (id : Nat) : Decidable (s.ReleasesSigned id) :=
  inferInstanceAs (Decidable (_ = true))

instance decidableGuarded (s : State R M) : (a : Action R M) → Decidable (Guarded s a)
  | .reserve grant fault => inferInstanceAs (Decidable (fault = .none → s.Reclaims grant →
      s.signedCount grant.jti = 0 ∧ ¬ s.Held grant.jti))
  | .release id fault => inferInstanceAs (Decidable (fault ≠ .lost → ¬ s.ReleasesSigned id))
  | .tick _ | .propose _ _ | .prove _ _ | .sign _ _ | .extract _ _ | .commit _ _ | .drop _
  | .crash => .isTrue trivial

/-! ## The invariant of guarded runs -/

/-- Phases from which the wallet has not yet been asked to sign. -/
def Phase.beforeSign : Phase → Bool
  | .reserved | .proposed | .proven => true
  | .signed | .extracted _ | .releasing => false

/-- Phases reached only through a signature. -/
def Phase.afterSign : Phase → Bool
  | .signed | .extracted _ => true
  | .reserved | .proposed | .proven | .releasing => false

/-- A token with a live holder or a signature has a row; it has one holder at
most, and every signature under a held token is the holder's own. -/
structure Inv (s : State R M) : Prop where
  call_lt : ∀ {id call}, s.calls.lookup id = some call → id < s.nextCall
  signature_lt : ∀ {id jti}, (id, jti) ∈ s.signatures → id < s.nextCall
  unique : ∀ {i j c d}, s.calls.lookup i = some c → s.calls.lookup j = some d →
    c.grant.jti = d.grant.jti → i = j
  held_row : ∀ {id call}, s.calls.lookup id = some call →
    ∃ row, s.ledger.lookup call.grant.jti = some row
  signed_row : ∀ {id jti}, (id, jti) ∈ s.signatures → ∃ row, s.ledger.lookup jti = some row
  own_signature : ∀ {id call}, s.calls.lookup id = some call →
    ∀ {k}, (k, call.grant.jti) ∈ s.signatures → k = id
  unsigned : ∀ {id call}, s.calls.lookup id = some call → call.phase.beforeSign = true →
    (id, call.grant.jti) ∉ s.signatures
  signed : ∀ {id call}, s.calls.lookup id = some call → call.phase.afterSign = true →
    (id, call.grant.jti) ∈ s.signatures
  once : SignedOnce s
  returned_signed : ∀ {entry}, entry ∈ s.returned → entry ∈ s.signatures

theorem signedCount_eq_zero {s : State R M} {jti : String} :
    s.signedCount jti = 0 ↔ ∀ id, (id, jti) ∉ s.signatures := by
  unfold State.signedCount
  rw [List.countP_eq_zero]
  constructor
  · intro hnone id hmem
    exact hnone (id, jti) hmem (by simp)
  · rintro hnone ⟨id, other⟩ hmem heq
    have hother : other = jti := by simpa using heq
    exact hnone id (hother ▸ hmem)

theorem held_iff {s : State R M} {jti : String} :
    s.Held jti ↔ ∃ id call, s.calls.lookup id = some call ∧ call.grant.jti = jti := by
  constructor
  · rintro ⟨⟨id, call⟩, hmem, hjti⟩
    exact ⟨id, call, (Table.mem_rows _ _ _).1 hmem, hjti⟩
  · rintro ⟨id, call, hcall, hjti⟩
    exact ⟨(id, call), (Table.mem_rows _ _ _).2 hcall, hjti⟩

theorem inv_initial (unixMs : Nat) : Inv (initial unixMs : State R M) where
  call_lt := by simp [initial]
  signature_lt := by simp [initial]
  unique := by simp [initial]
  held_row := by simp [initial]
  signed_row := by simp [initial]
  own_signature := by simp [initial]
  unsigned := by simp [initial]
  signed := by simp [initial]
  once := by simp [SignedOnce, State.signedCount, initial]
  returned_signed := by simp [initial]

/-! ### What changes at once -/

section Preserved

variable {s : State R M}

/-- The ledger may change as long as no row disappears. -/
theorem Inv.withLedger (hs : Inv s) (ledger : UsageLedger)
    (hkeeps : ∀ jti row, s.ledger.lookup jti = some row →
      ∃ row', ledger.lookup jti = some row') :
    Inv { s with ledger := ledger } := by
  refine { hs with held_row := ?_, signed_row := ?_ }
  · intro id call hcall
    obtain ⟨row, hrow⟩ := hs.held_row hcall
    exact hkeeps _ row hrow
  · intro id jti hsigned
    obtain ⟨row, hrow⟩ := hs.signed_row hsigned
    exact hkeeps _ row hrow

/-- Calls may end. -/
theorem Inv.withCalls (hs : Inv s) (calls : Table Nat (Call R M))
    (hsub : ∀ {id call}, calls.lookup id = some call → s.calls.lookup id = some call) :
    Inv { s with calls := calls } where
  call_lt hcall := hs.call_lt (hsub hcall)
  signature_lt := hs.signature_lt
  unique hi hj := hs.unique (hsub hi) (hsub hj)
  held_row hcall := hs.held_row (hsub hcall)
  signed_row := hs.signed_row
  own_signature hcall := hs.own_signature (hsub hcall)
  unsigned hcall := hs.unsigned (hsub hcall)
  signed hcall := hs.signed (hsub hcall)
  once := hs.once
  returned_signed := hs.returned_signed

theorem lookup_erase_some {calls : Table Nat (Call R M)} {id j : Nat} {call : Call R M}
    (h : (calls.erase id).lookup j = some call) : calls.lookup j = some call := by
  rw [Table.lookup_erase_eq] at h
  split at h
  · cases h
  · exact h

/-- A row under the calls after one of them moved on: the moved call under its
id, and nothing new elsewhere. -/
theorem lookup_rephase {calls : Table Nat (Call R M)} {id j : Nat} {call d : Call R M}
    {phase : Phase} (h : (calls.insert id { call with phase := phase }).lookup j = some d) :
    (j = id ∧ d = { call with phase := phase }) ∨ (j ≠ id ∧ calls.lookup j = some d) := by
  rw [Table.lookup_insert_eq] at h
  split at h
  · next heq => exact .inl ⟨heq, (Option.some.inj h).symm⟩
  · next hne => exact .inr ⟨hne, h⟩

/-- A call may move on, as long as its new phase says no more about its
signature than is known. -/
theorem Inv.rephase (hs : Inv s) (phase : Phase) {id : Nat} {call : Call R M}
    (hcall : s.calls.lookup id = some call)
    (hbefore : phase.beforeSign = true → (id, call.grant.jti) ∉ s.signatures)
    (hafter : phase.afterSign = true → (id, call.grant.jti) ∈ s.signatures) :
    Inv { s with calls := s.calls.insert id { call with phase := phase } } := by
  -- every entry of the new table has the grant of an entry of the old one
  have hold : ∀ {j d}, (s.calls.insert id { call with phase := phase }).lookup j = some d →
      ∃ d', s.calls.lookup j = some d' ∧ d'.grant = d.grant := by
    intro j d hd
    rcases lookup_rephase hd with ⟨hj, hd'⟩ | ⟨_, hd'⟩
    · exact ⟨call, hj ▸ hcall, by rw [hd']⟩
    · exact ⟨d, hd', rfl⟩
  refine { hs with
    call_lt := ?_, unique := ?_, held_row := ?_, own_signature := ?_
    unsigned := ?_, signed := ?_ }
  · intro j d hd
    obtain ⟨d', hd', _⟩ := hold hd
    exact hs.call_lt hd'
  · intro i j c d hi hj hjti
    obtain ⟨c', hc', hcg⟩ := hold hi
    obtain ⟨d', hd', hdg⟩ := hold hj
    exact hs.unique hc' hd' (by rw [hcg, hdg, hjti])
  · intro j d hd
    obtain ⟨d', hd', hdg⟩ := hold hd
    exact hdg ▸ hs.held_row hd'
  · intro j d hd k hk
    obtain ⟨d', hd', hdg⟩ := hold hd
    exact hs.own_signature hd' (by rw [hdg]; exact hk)
  · intro j d hd hphase
    rcases lookup_rephase hd with ⟨hj, hd'⟩ | ⟨_, hd'⟩
    · subst hj hd'
      exact hbefore hphase
    · exact hs.unsigned hd' hphase
  · intro j d hd hphase
    rcases lookup_rephase hd with ⟨hj, hd'⟩ | ⟨_, hd'⟩
    · subst hj hd'
      exact hafter hphase
    · exact hs.signed hd' hphase

/-- Moving between two phases on the same side of the signature, or giving up. -/
theorem Inv.advance (hs : Inv s) (id : Nat) {source target : Phase}
    (hbefore : target.beforeSign = true → source.beforeSign = true)
    (hafter : target.afterSign = true → source.afterSign = true) :
    Inv (s.advance id source target) := by
  unfold State.advance
  split
  · next call hcall =>
      split
      · next hphase =>
          refine hs.rephase target hcall (fun h => hs.unsigned hcall ?_)
            (fun h => hs.signed hcall ?_)
          · rw [hphase]
            exact hbefore h
          · rw [hphase]
            exact hafter h
      · exact hs
  · exact hs

/-- A live call past its unsigned phases may sign for a token nobody signed
for. -/
theorem Inv.addSignature (hs : Inv s) {id : Nat} {call : Call R M}
    (hcall : s.calls.lookup id = some call) (hphase : call.phase.beforeSign = false)
    (hunsigned : ∀ k, (k, call.grant.jti) ∉ s.signatures) :
    Inv { s with signatures := (id, call.grant.jti) :: s.signatures } := by
  refine { hs with
    signature_lt := ?_, signed_row := ?_, own_signature := ?_, unsigned := ?_
    signed := fun hd hd' => List.mem_cons_of_mem _ (hs.signed hd hd')
    once := ?_
    returned_signed := fun hentry => List.mem_cons_of_mem _ (hs.returned_signed hentry) }
  · intro k jti hk
    rcases List.mem_cons.1 hk with heq | hold
    · obtain ⟨rfl, rfl⟩ := Prod.mk.inj heq
      exact hs.call_lt hcall
    · exact hs.signature_lt hold
  · intro k jti hk
    rcases List.mem_cons.1 hk with heq | hold
    · obtain ⟨rfl, rfl⟩ := Prod.mk.inj heq
      exact hs.held_row hcall
    · exact hs.signed_row hold
  · intro j d hd k hk
    rcases List.mem_cons.1 hk with heq | hold
    · obtain ⟨rfl, hjti⟩ := Prod.mk.inj heq
      exact (hs.unique hd hcall hjti).symm
    · exact hs.own_signature hd hold
  · intro j d hd hbefore hk
    rcases List.mem_cons.1 hk with heq | hold
    · obtain ⟨rfl, -⟩ := Prod.mk.inj heq
      rw [Option.some.inj (hd.symm.trans hcall), hphase] at hbefore
      cases hbefore
    · exact hs.unsigned hd hbefore hold
  · intro jti
    have hcount : ({ s with signatures := (id, call.grant.jti) :: s.signatures } :
        State R M).signedCount jti
          = s.signedCount jti + if call.grant.jti = jti then 1 else 0 := by
      simp [State.signedCount, List.countP_cons]
    rw [hcount]
    split
    · next hjti =>
        have hzero : s.signedCount jti = 0 := signedCount_eq_zero.2 (hjti ▸ hunsigned)
        omega
    · exact hs.once jti

/-! ### One step -/

/-- A holder that has not signed is the only one to sign under its token. -/
theorem Inv.sign (hs : Inv s) (id : Nat) : Inv (s.sign id) := by
  unfold State.sign
  split
  · next call hcall =>
      split
      · next hphase =>
          have hunsigned : ∀ k, (k, call.grant.jti) ∉ s.signatures := by
            intro k hk
            have hown := hs.own_signature hcall hk
            subst hown
            exact hs.unsigned hcall (by rw [hphase]; rfl) hk
          -- the phase in between claims nothing, so the signature can be added
          have hbetween := hs.rephase .releasing hcall nofun nofun
          have hadded := hbetween.addSignature (AList.lookup_insert s.calls) rfl hunsigned
          have hmoved := hadded.rephase .signed (AList.lookup_insert s.calls) nofun
            fun _ => List.mem_cons_self
          simpa only [AList.insert_insert] using hmoved
      · exact hs
  · exact hs

/-- No reserve makes a row disappear. -/
theorem reserveOutcome_keeps (codec : PayloadCodec) (grant : SignGrant R M) (fault : Fault)
    {jti : String} {row : LedgerRow} (hrow : s.ledger.lookup jti = some row) :
    ∃ row', (s.reserveOutcome codec grant fault).2.lookup jti = some row' := by
  refine Fault.apply_keeps (fun ledger : UsageLedger => ∃ row', ledger.lookup jti = some row')
    ⟨row, hrow⟩ fun _ => ?_
  by_cases hjti : jti = grant.jti
  · subst hjti
    obtain ⟨row', hrow', -⟩ :=
      reserve_keeps codec s.ledger grant.jti grant.intentHash (nowMs s.unixMs)
    exact ⟨row', hrow'⟩
  · rw [reserve_frame hjti]
    exact ⟨row, hrow⟩

/-- A guarded reserve answered `fresh` found its token unsigned and unheld, and
leaves a row under it. -/
theorem Inv.fresh (hs : Inv s) {codec : PayloadCodec} {grant : SignGrant R M} {fault : Fault}
    (hguard : Guarded s (.reserve grant fault))
    (hfresh : (s.reserveOutcome codec grant fault).1 = .ok .fresh) :
    s.signedCount grant.jti = 0 ∧ ¬ s.Held grant.jti ∧
      ∃ row, (s.reserveOutcome codec grant fault).2.lookup grant.jti = some row := by
  obtain ⟨hfault, hanswer⟩ := Fault.apply_eq_ok.1 hfresh
  have hrow : ∃ row, (s.reserveOutcome codec grant fault).2.lookup grant.jti = some row := by
    subst hfault
    obtain ⟨row, hrow, -⟩ :=
      reserve_keeps codec s.ledger grant.jti grant.intentHash (nowMs s.unixMs)
    exact ⟨row, hrow⟩
  rcases reserve_fresh.1 hanswer with hnone | hreclaims
  · refine ⟨?_, ?_, hrow⟩
    · rw [signedCount_eq_zero]
      intro id hsigned
      obtain ⟨row, hsome⟩ := hs.signed_row hsigned
      rw [hnone] at hsome
      cases hsome
    · rw [held_iff]
      rintro ⟨id, call, hcall, hjti⟩
      obtain ⟨row, hsome⟩ := hs.held_row hcall
      rw [hjti, hnone] at hsome
      cases hsome
  · obtain ⟨hcount, hheld⟩ := hguard hfault ((Option.any_eq_true _ _).2 hreclaims)
    exact ⟨hcount, hheld, hrow⟩

/-- A new call on an unsigned, unheld token with a row. -/
theorem Inv.admit (hs : Inv s) {grant : SignGrant R M}
    (hcount : s.signedCount grant.jti = 0) (hheld : ¬ s.Held grant.jti)
    (hrow : ∃ row, s.ledger.lookup grant.jti = some row) :
    Inv { s with
      calls := s.calls.insert s.nextCall { grant, phase := .reserved }
      nextCall := s.nextCall + 1 } := by
  have hunsigned := signedCount_eq_zero.1 hcount
  have hnone : ∀ j d, s.calls.lookup j = some d → d.grant.jti ≠ grant.jti := by
    intro j d hd hjti
    exact hheld (held_iff.2 ⟨j, d, hd, hjti⟩)
  have hcases : ∀ {j d}, (s.calls.insert s.nextCall
      { grant, phase := .reserved }).lookup j = some d →
      (j = s.nextCall ∧ d = { grant, phase := .reserved }) ∨ s.calls.lookup j = some d := by
    intro j d hd
    rw [Table.lookup_insert_eq] at hd
    split at hd
    · next heq => exact .inl ⟨heq, (Option.some.inj hd).symm⟩
    · exact .inr hd
  refine { hs with
    call_lt := ?_, signature_lt := fun h => Nat.lt_succ_of_lt (hs.signature_lt h)
    unique := ?_, held_row := ?_, own_signature := ?_, unsigned := ?_, signed := ?_ }
  · intro j d hd
    rcases hcases hd with ⟨rfl, -⟩ | hd
    · exact Nat.lt_succ_self _
    · exact Nat.lt_succ_of_lt (hs.call_lt hd)
  · intro i j c d hi hj hjti
    rcases hcases hi with ⟨rfl, rfl⟩ | hi <;> rcases hcases hj with ⟨rfl, rfl⟩ | hj
    · rfl
    · exact absurd hjti.symm (hnone j d hj)
    · exact absurd hjti (hnone i c hi)
    · exact hs.unique hi hj hjti
  · intro j d hd
    rcases hcases hd with ⟨-, rfl⟩ | hd
    · exact hrow
    · exact hs.held_row hd
  · intro j d hd k hk
    rcases hcases hd with ⟨-, rfl⟩ | hd
    · exact absurd hk (hunsigned k)
    · exact hs.own_signature hd hk
  · intro j d hd hbefore
    rcases hcases hd with ⟨-, rfl⟩ | hd
    · exact hunsigned j
    · exact hs.unsigned hd hbefore
  · intro j d hd hafter
    rcases hcases hd with ⟨-, rfl⟩ | hd
    · cases hafter
    · exact hs.signed hd hafter

theorem Inv.reserve (hs : Inv s) {codec : PayloadCodec} {grant : SignGrant R M} {fault : Fault}
    (hguard : Guarded s (.reserve grant fault)) : Inv (s.reserve codec grant fault) := by
  have hledger : Inv { s with ledger := (s.reserveOutcome codec grant fault).2 } :=
    hs.withLedger _ fun jti row hrow => reserveOutcome_keeps codec grant fault hrow
  unfold State.reserve
  dsimp only
  split
  · next hfresh =>
      obtain ⟨hcount, hheld, hrow⟩ := hs.fresh hguard hfresh
      exact hledger.admit hcount hheld hrow
  · exact hledger

/-- No commit makes a row disappear. -/
theorem commitOutcome_keeps (codec : PayloadCodec) (grant : SignGrant R M)
    (response : SignPaymentResponse) (fault : Fault) {jti : String} {row : LedgerRow}
    (hrow : s.ledger.lookup jti = some row) :
    ∃ row', (s.commitOutcome codec grant response fault).2.lookup jti = some row' := by
  refine Fault.apply_keeps (fun ledger : UsageLedger => ∃ row', ledger.lookup jti = some row')
    ⟨row, hrow⟩ fun _ => ?_
  by_cases hjti : jti = grant.jti
  · subst hjti
    exact commit_keeps hrow
  · rw [commit_frame hjti]
    exact ⟨row, hrow⟩

/-- A commit follows a signature of the same request. -/
theorem Inv.commit (hs : Inv s) (codec : PayloadCodec) (id : Nat) (fault : Fault) :
    Inv (s.commit codec id fault) := by
  unfold State.commit
  split
  · next grant response hcall =>
      have hsigned : (id, grant.jti) ∈ s.signatures := hs.signed hcall rfl
      have hledger := hs.withLedger _ fun jti row hrow =>
        commitOutcome_keeps codec grant response fault hrow
      have hended := hledger.withCalls (s.calls.erase id) lookup_erase_some
      refine { hended with returned_signed := ?_ }
      intro entry hentry
      rcases List.mem_cons.1 hentry with heq | hold
      · exact heq ▸ hsigned
      · exact hs.returned_signed hold
  · exact hs

/-- A guarded release gives back a token nobody signed for and nobody else
holds, so its row may go. -/
theorem Inv.release (hs : Inv s) {id : Nat} {fault : Fault}
    (hguard : Guarded s (.release id fault)) : Inv (s.release id fault) := by
  unfold State.release
  split
  · next grant hcall =>
      have hended := hs.withCalls (s.calls.erase id) lookup_erase_some
      refine Fault.apply_keeps (fun ledger : UsageLedger =>
        Inv { s with ledger := ledger, calls := s.calls.erase id }) hended fun hfault => ?_
      have hunsigned : ∀ k, (k, grant.jti) ∉ s.signatures := by
        intro k hk
        have hown := hs.own_signature hcall hk
        subst hown
        exact hguard hfault (by simp [State.ReleasesSigned, hcall, hk])
      have hothers : ∀ {j d}, (s.calls.erase id).lookup j = some d →
          d.grant.jti ≠ grant.jti := by
        intro j d hd hjti
        have hj : j = id := hs.unique (lookup_erase_some hd) hcall hjti
        rw [hj, AList.lookup_erase] at hd
        cases hd
      refine { hended with held_row := ?_, signed_row := ?_ }
      · intro j d hd
        rw [release_frame (hothers hd)]
        exact hended.held_row hd
      · intro k jti hk
        have hne : jti ≠ grant.jti := by
          rintro rfl
          exact hunsigned k hk
        rw [release_frame hne]
        exact hended.signed_row hk
  · exact hs

/-- The invariant is kept by every guarded step. -/
theorem Inv.step (codec : PayloadCodec) (hs : Inv s) (a : Action R M) (hguard : Guarded s a) :
    Inv (step codec s a) := by
  cases a with
  | tick ms => exact { hs with }
  | reserve grant fault => exact hs.reserve hguard
  | propose id succeeds => cases succeeds <;> exact hs.advance id (by decide) (by decide)
  | prove id succeeds => cases succeeds <;> exact hs.advance id (by decide) (by decide)
  | sign id succeeds =>
      cases succeeds
      · exact hs.advance id (by decide) (by decide)
      · exact hs.sign id
  | extract id captured =>
      cases captured
      · exact hs.advance id (by decide) (by decide)
      · exact hs.advance id nofun fun _ => rfl
  | commit id fault => exact hs.commit codec id fault
  | release id fault => exact hs.release hguard
  | drop id => exact hs.withCalls _ lookup_erase_some
  | crash => exact hs.withCalls _ (by simp)

end Preserved

/-! ## Main results -/

def sampleResponse : SignPaymentResponse where
  signedPayload :=
    { format := "pczt-v2-extractable", bytes := "AA", txId := "00",
      fee := { currency := "ZEC", value := "10000", unit := "base" }, expiresAt := 4047100 }

/-- What the invariant says about a guarded step. -/
theorem Inv.freshSound {codec : PayloadCodec} {s : State R M} {a : Action R M} (hs : Inv s)
    (hguard : Guarded s a) : FreshSound codec s a := by
  cases a with
  | reserve grant fault =>
      intro hfresh
      obtain ⟨hcount, hheld, -⟩ := hs.fresh hguard hfresh
      refine ⟨?_, hheld⟩
      rintro ⟨id, jti⟩ hreturned rfl
      exact signedCount_eq_zero.1 hcount id (hs.returned_signed hreturned)
  | _ => trivial

/-- In every run that takes neither the TTL reclaim nor the release against a
signature or a live holder, the wallet signs for every token at most once, and a
reserve is answered `fresh` only on a token that no request has returned a
signature for and no other request holds. -/
theorem sign_at_most_once (codec : PayloadCodec) (unixMs : Nat) (as : List (Action R M))
    (hguarded : Along (step codec) Guarded (initial unixMs) as) :
    Along (step codec) (FreshSound codec) (initial unixMs) as ∧
      SignedOnce (run (step codec) (initial unixMs) as) := by
  have hinv : Inv (initial unixMs : State R M) := inv_initial unixMs
  constructor
  · exact along_of_invariant (fun s a hs hg => hs.step codec a hg)
      (fun s a hs hg => hs.freshSound hg) hinv hguarded
  · exact (run_invariant_along (fun s a hs hg => hs.step codec a hg) hinv hguarded).once

/-- One request signs and commits, a later one with the token is answered from
the ledger: a guarded run. -/
theorem sign_at_most_once_sample :
    Along (step sampleCodec) (FreshSound sampleCodec) (initial 0)
      [.reserve (sampleGrant "a") .none, .propose 0 true, .prove 0 true, .sign 0 true,
       .extract 0 (some sampleResponse), .commit 0 .none, .tick 200000,
       .reserve (sampleGrant "b") .none] ∧
    SignedOnce (run (step sampleCodec) (initial 0)
      [.reserve (sampleGrant "a") .none, .propose 0 true, .prove 0 true, .sign 0 true,
       .extract 0 (some sampleResponse), .commit 0 .none, .tick 200000,
       .reserve (sampleGrant "b") .none]) :=
  sign_at_most_once sampleCodec 0 _ (by decide)

/-- The commit of a signed payload is lost, the row stays pending, and the
reserve after the TTL is answered `fresh`: the token is signed twice. -/
theorem reclaim_after_failed_commit :
    ¬ ∀ as : List (Action String String),
      Along (step sampleCodec) (FreshSound sampleCodec) (initial 0) as ∧
        SignedOnce (run (step sampleCodec) (initial 0) as) := by
  intro h
  have hrun := h [.reserve (sampleGrant "a") .none, .propose 0 true, .prove 0 true,
    .sign 0 true, .extract 0 (some sampleResponse), .commit 0 .lost, .tick 120000,
    .reserve (sampleGrant "a") .none, .propose 1 true, .prove 1 true, .sign 1 true]
  exact absurd (hrun.2 "jti-1") (by decide)

end Zpay.Wallet.SingleUse
