import Zpay.Core.Submit
import Zpay.X402.Handlers

/-!
# What a named payment binds

`x402_settle_handler` with its stores: the row the extension names is read before the
broadcast and written after it, in the two writes the native route makes.

An extension that is a JSON string binds: the handler broadcasts for the row it names or
not at all.  One that is any other JSON value is read as if it were absent, and then the
handler broadcasts for no row.

## Main results

* `x402_settle_run_handler` — the handler of the gates, with these stores' answers.
* `present_id_binds_iff` — a present extension binds exactly when it is a string, or the
  request is refused for another reason.
-/

open Zpay.Data Zpay.Core Zpay.Machine

namespace Zpay.X402

/-! ## The handler and its stores -/

/-- What a call meets outside the stores. -/
structure X402World where
  nowUnixSeconds : Nat
  chainNetwork : Network
  submit : List UInt8 → Except String SubmitOutcome

/-- The answer, what the call left in the stores, and what it handed to the submitter. -/
structure X402Run (σ : Type) where
  response : SettleResponse
  stores : Stores σ
  submitted : List (List UInt8)

section Handler

variable {C A V σ : Type} (library : PcztLibrary C A V) (b : PreparedTxBackend σ)
variable (faults : StoreFaults) (world : X402World)

/-- The lifecycle record of a broadcast: nothing when no payment is named. -/
def recordLifecycle (prepared : Option PreparedSettlement) (outcome : PcztSettlementOutcome)
    (stores : Stores σ) : Except StoreError Unit × Except StoreError Unit × Stores σ :=
  match prepared with
  | none => (.ok (), .ok (), stores)
  | some row =>
      ((faults.recordEntry stores.ledger row.paymentId
          (row.ledgerEntry outcome.broadcastOutcome
            (currentUnixSeconds world.nowUnixSeconds))).1,
        (faults.removeRow b stores.prepared row.paymentId).1.map fun _ => (),
        (writeSettlement b faults row outcome.broadcastOutcome
          (currentUnixSeconds world.nowUnixSeconds) stores).2)

def x402SettleRun (request : FacilitatorRequest) (stores : Stores σ) : X402Run σ :=
  match x402SettleGates library (faults.find b stores) request with
  | .error reason =>
      { response := x402SettleFailureResponse request reason, stores, submitted := [] }
  | .ok (settlement, prepared, verified) =>
      match broadcastVerifiedPcztSettlement world.chainNetwork world.submit settlement
        verified with
      | (.error err, submitted) =>
          { response := x402SettleFailureResponse request err.reasonCode, stores, submitted }
      | (.ok outcome, submitted) =>
          let (recorded, removed, stores) :=
            recordLifecycle b faults world prepared outcome stores
          { response := x402SettleSuccessResponse request outcome
              (x402SettleResponseExtensions request prepared outcome recorded removed)
            stores
            submitted }

end Handler

/-! ## A present extension -/

/-- The lifecycle record the response reports as failed. -/
def LifecycleFailed (response : SettleResponse) : Prop :=
  ∃ reason, response.extensions.get "zpayLifecycleRecord" =
    some (.object (.ofList [("status", .string "failed"), ("reason", .string reason)]))

section Binds

variable {C A V σ : Type} (library : PcztLibrary C A V) (b : PreparedTxBackend σ)
variable (faults : StoreFaults) (world : X402World) (request : FacilitatorRequest)
variable (stores : Stores σ)

/-- The broadcast of a payment's outcome: the ledger row is the entry of the prepared
row, which is removed after a success and left after a failure. -/
def RecordedAs (paymentId : PaymentId) (prepared : PreparedTxEntry)
    (outcome : BroadcastOutcome) (after : Stores σ) : Prop :=
  after.ledger.lookup paymentId = some ((prepared.settlement paymentId).ledgerEntry outcome
    (currentUnixSeconds world.nowUnixSeconds)) ∧
  (b.findByPaymentId after.prepared paymentId = none ↔ outcome.isSuccess = true)

/-- The call fails before the submitter, or the extension names a prepared row that the
settlement agrees with, and the outcome is recorded against it. -/
def PresentIdBinds : Prop :=
  let run := x402SettleRun library b faults world request stores
  run.submitted = [] ∨
    ∃ paymentId prepared settlement verified,
      zpayPaymentId request.paymentRequirements = .ok (some paymentId) ∧
      b.findByPaymentId stores.prepared paymentId = some prepared ∧
      settlementRequest request = .ok settlement ∧
      prepared.network = settlement.network ∧ prepared.amountZat = settlement.amountZat ∧
      prepared.recipientUnifiedAddress = settlement.payTo ∧
      verifyPcztSettlement library settlement = .ok verified ∧
      prepared.preparation.expiryHeight = verified.expiryHeight ∧
      run.submitted = [verified.rawTxBytes] ∧
      (∀ submitOutcome, world.submit verified.rawTxBytes = .ok submitOutcome →
        LifecycleFailed run.response ∨
          RecordedAs b world paymentId prepared (.fromSubmitOutcome submitOutcome) run.stores) ∧
      SameElsewhere b paymentId stores run.stores

/-- What settle asks of a request whose extension it does not read. -/
def PassesUnnamed : Prop :=
  x402RequestInvalidReason request = none ∧
    ∃ settlement verified, settlementRequest request = .ok settlement ∧
      verifyPcztSettlement library settlement = .ok verified ∧
      world.chainNetwork = zallyNetworkFor settlement.network

end Binds

section Runs

variable {C A V σ : Type} {library : PcztLibrary C A V} {b : PreparedTxBackend σ}
variable {faults : StoreFaults} {world : X402World} {request : FacilitatorRequest}
variable {stores : Stores σ}

/-- The handler answers and submits as the handler of the gates does when the stores
answer it what these stores answer. -/
theorem x402_settle_run_handler (library : PcztLibrary C A V) (b : PreparedTxBackend σ)
    (faults : StoreFaults) (world : X402World) (request : FacilitatorRequest)
    (stores : Stores σ) :
    ∃ recorded removed,
      let handled := x402SettleHandler library
        { chainNetwork := world.chainNetwork, submit := world.submit,
          lookup := faults.find b stores, recorded, removed } request
      (x402SettleRun library b faults world request stores).response = handled.response ∧
      (x402SettleRun library b faults world request stores).submitted = handled.submitted := by
  unfold x402SettleRun x402SettleHandler
  cases hgates : x402SettleGates library (faults.find b stores) request with
  | error reason => exact ⟨.ok (), .ok (), by simp only [hgates], by simp only [hgates]⟩
  | ok passed =>
      obtain ⟨settlement, prepared, verified⟩ := passed
      simp only [hgates]
      cases hbroadcast : broadcastVerifiedPcztSettlement world.chainNetwork world.submit
          settlement verified with
      | mk answer submitted =>
          cases answer with
          | error err => exact ⟨.ok (), .ok (), rfl, rfl⟩
          | ok outcome =>
              exact ⟨(recordLifecycle b faults world prepared outcome stores).1,
                (recordLifecycle b faults world prepared outcome stores).2.1, rfl, rfl⟩

/-- The submitter is reached past the gates, on the requested network. -/
theorem x402_settle_run_submits :
    (x402SettleRun library b faults world request stores).submitted ≠ [] ↔
      ∃ settlement prepared verified,
        x402SettleGates library (faults.find b stores) request =
          .ok (settlement, prepared, verified) ∧
        world.chainNetwork = zallyNetworkFor settlement.network := by
  obtain ⟨recorded, removed, -, hsubmitted⟩ :=
    x402_settle_run_handler library b faults world request stores
  rw [hsubmitted]
  exact x402_settle_submitted_ne_nil

/-- A request that reaches the submitter passes what settle asks of any request. -/
theorem passes_unnamed_of_submits
    (h : (x402SettleRun library b faults world request stores).submitted ≠ []) :
    PassesUnnamed library world request := by
  obtain ⟨settlement, prepared, verified, hgates, hnetwork⟩ := x402_settle_run_submits.1 h
  obtain ⟨hvalid, hsettlement, -, hverified, -⟩ := x402_settle_gates_ok.1 hgates
  exact ⟨hvalid, settlement, verified, hsettlement, hverified, hnetwork⟩

/-- Without a name, that is all settle asks. -/
theorem submits_of_unnamed (hunnamed : zpayPaymentId request.paymentRequirements = .ok none)
    (h : PassesUnnamed library world request) :
    (x402SettleRun library b faults world request stores).submitted ≠ [] := by
  obtain ⟨hvalid, settlement, verified, hsettlement, hverified, hnetwork⟩ := h
  refine x402_settle_run_submits.2 ⟨settlement, none, verified, ?_, hnetwork⟩
  exact x402_settle_gates_ok.2
    ⟨hvalid, hsettlement, find_prepared_of_unnamed hunnamed, hverified, by simp⟩

/-- The record succeeds when both writes do. -/
theorem record_prepared_ok {row : PreparedSettlement} {outcome : PcztSettlementOutcome}
    {now : Nat} :
    recordPreparedX402Settlement outcome
      (faults.recordEntry stores.ledger row.paymentId
        (row.ledgerEntry outcome.broadcastOutcome now)).1
      ((faults.removeRow b stores.prepared row.paymentId).1.map fun _ => ()) = .ok () ↔
    (writeSettlement b faults row outcome.broadcastOutcome now stores).1 = .ok () := by
  unfold recordPreparedX402Settlement
  rcases write_settlement_cases (b := b) faults row outcome.broadcastOutcome now stores with
    ⟨err, hrecorded, heq⟩ | ⟨hrecorded, ⟨err, hsuccess, hremoved, heq⟩ |
      ⟨removed, hsuccess, hremoved, heq⟩ | ⟨hfailure, heq⟩⟩
  · simp [hrecorded, heq]
  · simp [hrecorded, heq, hsuccess, hremoved, Except.map]
  · simp [hrecorded, heq, hsuccess, hremoved, Except.map]
  · simp [hrecorded, heq, hfailure]

/-- What a call that reaches the submitter with a named row does: the writes for that
row, once the chain plane has answered. -/
theorem x402_settle_run_of_named {settlement : PcztSettlementRequest}
    {row : PreparedSettlement} {verified : VerifiedPcztSettlement}
    (hgates : x402SettleGates library (faults.find b stores) request =
      .ok (settlement, some row, verified))
    (hnetwork : world.chainNetwork = zallyNetworkFor settlement.network) :
    let run := x402SettleRun library b faults world request stores
    run.submitted = [verified.rawTxBytes] ∧
    (run.stores = stores ∨ ∃ outcome, run.stores = (writeSettlement b faults row outcome
      (currentUnixSeconds world.nowUnixSeconds) stores).2) ∧
    ∀ submitOutcome, world.submit verified.rawTxBytes = .ok submitOutcome →
      let written := writeSettlement b faults row (.fromSubmitOutcome submitOutcome)
        (currentUnixSeconds world.nowUnixSeconds) stores
      run.stores = written.2 ∧ (written.1 = .ok () ∨ LifecycleFailed run.response) := by
  intro run
  have hrun : run = x402SettleRun library b faults world request stores := rfl
  unfold x402SettleRun at hrun
  rw [hgates] at hrun
  simp only [broadcastVerifiedPcztSettlement, ne_eq, hnetwork, not_true_eq_false, if_false] at hrun
  cases hsubmit : world.submit verified.rawTxBytes with
  | error reason =>
      rw [hsubmit] at hrun
      rw [hrun]
      exact ⟨rfl, .inl rfl, fun _ h => absurd h (by simp)⟩
  | ok submitOutcome =>
      rw [hsubmit] at hrun
      rw [hrun]
      refine ⟨rfl, .inr ⟨_, rfl⟩, fun submitOutcome' hsame => ?_⟩
      cases hsame
      refine ⟨rfl, ?_⟩
      let outcome : PcztSettlementOutcome :=
        { broadcastOutcome := .fromSubmitOutcome submitOutcome
          transactionId := verified.transactionId
          expiryHeight := verified.expiryHeight }
      cases hrecord : recordPreparedX402Settlement outcome
          (recordLifecycle b faults world (some row) outcome stores).1
          (recordLifecycle b faults world (some row) outcome stores).2.1 with
      | ok _ => exact .inl (record_prepared_ok.1 hrecord)
      | error reason =>
          refine .inr ⟨reason, ?_⟩
          show (x402SettleResponseExtensions request (some row) outcome
            (recordLifecycle b faults world (some row) outcome stores).1
            (recordLifecycle b faults world (some row) outcome stores).2.1).get
              "zpayLifecycleRecord" = _
          unfold x402SettleResponseExtensions
          simp only [hrecord]
          exact Fields.get_insert_self _ _ _

/-- A call with a named payment binds it. -/
theorem present_id_binds_of_named (lawful : b.Lawful) {paymentId : PaymentId}
    (hnamed : zpayPaymentId request.paymentRequirements = .ok (some paymentId)) :
    PresentIdBinds library b faults world request stores := by
  by_cases hsubmitted : (x402SettleRun library b faults world request stores).submitted = []
  · exact .inl hsubmitted
  obtain ⟨settlement, prepared, verified, hgates, hnetwork⟩ :=
    x402_settle_run_submits.1 hsubmitted
  obtain ⟨-, hsettlement, hfound, hverified, hexpiry⟩ := x402_settle_gates_ok.1 hgates
  obtain ⟨entry, hentry, ⟨hnetwork', hamount, hrecipient⟩, rfl⟩ :=
    (find_prepared_of_named hnamed).1 hfound
  obtain ⟨hsent, hstores, hrecorded⟩ := x402_settle_run_of_named hgates hnetwork
  refine .inr ⟨paymentId, entry, settlement, verified, hnamed, (store_find_eq_ok.1 hentry).2,
    hsettlement, hnetwork', hamount, hrecipient, hverified, (hexpiry _ rfl).symm, hsent, ?_, ?_⟩
  · intro submitOutcome hsubmit
    obtain ⟨hwritten, hok | hfailed⟩ := hrecorded submitOutcome hsubmit
    · obtain ⟨hledger, hsuccess, hfailure⟩ := write_settlement_ok lawful hok
      refine .inr ?_
      rw [RecordedAs, hwritten]
      refine ⟨hledger, ?_, hsuccess⟩
      intro hnone
      by_contra hno
      rw [hfailure (Bool.eq_false_iff.2 hno), (store_find_eq_ok.1 hentry).2] at hnone
      exact absurd hnone (by simp)
    · exact .inl hfailed
  · rcases hstores with hsame | ⟨outcome, hwritten⟩
    · rw [hsame]
      exact same_elsewhere_refl _ _
    · rw [hwritten]
      exact write_settlement_frame lawful faults (entry.settlement paymentId) outcome _ stores

end Runs

/-! ## Exactly when -/

section Exactly

variable {C A V σ : Type} {library : PcztLibrary C A V} {b : PreparedTxBackend σ}
variable {faults : StoreFaults} {world : X402World} {request : FacilitatorRequest}
variable {stores : Stores σ} {value : Value}

/-- An extension that is a string is read. -/
theorem zpay_payment_id_of_string {requirements : PaymentRequirements}
    (hpresent : requirements.extra.get zpayPaymentIdExtension = some value)
    (hstring : value.asStr.isSome = true) : zpayPaymentId requirements ≠ .ok none := by
  obtain ⟨rawPaymentId, hraw⟩ := Option.isSome_iff_exists.1 hstring
  unfold zpayPaymentId Fields.getStr
  rw [hpresent, Option.bind_some, hraw]
  simp only
  cases PaymentId.fromStr rawPaymentId <;> simp [Except.map, Except.mapError]

/-- One that is not counts as none. -/
theorem zpay_payment_id_of_other {requirements : PaymentRequirements}
    (hpresent : requirements.extra.get zpayPaymentIdExtension = some value)
    (hother : value.asStr.isSome = false) : zpayPaymentId requirements = .ok none := by
  have hnone : value.asStr = none := by
    rw [← Option.not_isSome_iff_eq_none, hother]
    decide
  unfold zpayPaymentId Fields.getStr
  rw [hpresent, Option.bind_some, hnone]

/-- A broadcast for no row binds nothing. -/
theorem not_present_id_binds_of_unnamed
    (hunnamed : zpayPaymentId request.paymentRequirements = .ok none)
    (hpasses : PassesUnnamed library world request) :
    ¬ PresentIdBinds library b faults world request stores := by
  rintro (hnone | ⟨paymentId, prepared, settlement, verified, hnamed, -⟩)
  · exact submits_of_unnamed hunnamed hpasses hnone
  · rw [hunnamed] at hnamed
    exact absurd hnamed (by simp)

/-- A present extension binds exactly when it is a string, or settle refuses the request
whatever the extension says. -/
theorem present_id_binds_iff (library : PcztLibrary C A V) (b : PreparedTxBackend σ)
    (lawful : b.Lawful) (faults : StoreFaults) (world : X402World)
    (request : FacilitatorRequest) (stores : Stores σ) (value : Value)
    (hpresent : request.paymentRequirements.extra.get zpayPaymentIdExtension = some value) :
    PresentIdBinds library b faults world request stores ↔
      value.asStr.isSome = true ∨ ¬ PassesUnnamed library world request := by
  constructor
  · intro hbinds
    by_contra hneither
    rw [not_or, not_not] at hneither
    have hunnamed := zpay_payment_id_of_other hpresent (Bool.eq_false_iff.2 hneither.1)
    exact not_present_id_binds_of_unnamed hunnamed hneither.2 hbinds
  · intro hbound
    by_cases hsubmitted : (x402SettleRun library b faults world request stores).submitted = []
    · exact .inl hsubmitted
    have hpasses := passes_unnamed_of_submits hsubmitted
    have hstring : value.asStr.isSome = true := hbound.resolve_right (not_not.2 hpasses)
    obtain ⟨-, -, named, hnamed⟩ := x402_request_invalid_reason_eq_none hpasses.1
    cases named with
    | none => exact absurd hnamed (zpay_payment_id_of_string hpresent hstring)
    | some paymentId => exact present_id_binds_of_named lawful hnamed

end Exactly

/-! ### An id that is not a string -/

/-- The sample request with another extension. -/
def requestNaming (value : Value) : FacilitatorRequest :=
  let requirements := { sampleRequirements with extra := .ofList [("zpayPaymentId", value)] }
  { sampleFacilitatorRequest with
    paymentPayload := { sampleFacilitatorRequest.paymentPayload with accepted := requirements }
    paymentRequirements := requirements }

/-- A testnet chain plane that accepts everything. -/
def acceptingWorld : X402World where
  nowUnixSeconds := 0
  chainNetwork := .testnet
  submit _ := .ok (.accepted "00")

def emptyStores : Stores PreparedTxStore where
  prepared := (libsqlPrepared sampleSqlTexts).empty
  ledger := ∅

/-- The request that names the payment `pay_1`, whose row is prepared, is broadcast and
settled for it. -/
theorem present_id_binds_iff_sample :
    let request := requestNaming (.string "pay_1")
    let run := x402SettleRun samplePcztLibrary (libsqlPrepared sampleSqlTexts) noFaults
      acceptingWorld request settleSampleStores
    run.submitted = [[1]] ∧
      run.stores.ledger.lookup ⟨"pay_1"⟩ = some ((settleSample.settlement ⟨"pay_1"⟩).ledgerEntry
        (.accepted "00") 0) ∧
      (PresentIdBinds samplePcztLibrary (libsqlPrepared sampleSqlTexts) noFaults acceptingWorld
          request settleSampleStores ↔
        (Value.string "pay_1").asStr.isSome = true ∨
          ¬ PassesUnnamed samplePcztLibrary acceptingWorld request) := by
  intro request run
  refine ⟨by decide, by decide, ?_⟩
  exact present_id_binds_iff samplePcztLibrary (libsqlPrepared sampleSqlTexts)
    (libsqlLawful sampleSqlTexts) noFaults acceptingWorld request settleSampleStores
    (.string "pay_1") rfl

/-- A number in place of the id is settled for no row. -/
theorem numbered_payment_unbound :
    ¬ ∀ request value,
      request.paymentRequirements.extra.get zpayPaymentIdExtension = some value →
      PresentIdBinds samplePcztLibrary (libsqlPrepared sampleSqlTexts) noFaults acceptingWorld
        request emptyStores := by
  intro h
  have hbinds := h (requestNaming (.number (.posInt 1))) (.number (.posInt 1)) rfl
  have hpasses : PassesUnnamed samplePcztLibrary acceptingWorld
      (requestNaming (.number (.posInt 1))) :=
    ⟨by decide, _, _, rfl, rfl, rfl⟩
  exact not_present_id_binds_of_unnamed rfl hpasses hbinds

end Zpay.X402
