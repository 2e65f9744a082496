import Mathlib.Algebra.BigOperators.Group.List.Basic
import Zpay.Core.Types
import Zpay.Data.Guard

/-!
# Exact verification of a PCZT

`verify_pczt_settlement` reads the labels, recipients and values a PCZT carries
beside its outputs, sums what is labelled for `pay_to`, compares the sum with
the required amount, and extracts the transaction.  The transaction carries the
note commitments; the metadata the check reads is not part of it.

Parsing, address decoding, receiver correspondence and extraction are the
structure `PcztLibrary`.  Of the extractor one thing is assumed
(`NoteView.Carries`): the transaction it builds has the commitments of the PCZT
it was given.

## Main results

* `match_outputs_ok` — what one pool's pass accepts, and what it adds up.
* `verify_pczt_settlement_ok` — everything a verified PCZT has passed.
* `verified_pays_iff_balanced` — a verified PCZT pays `pay_to` the required amount
  exactly when the value its commitments hold for `pay_to` outside the labelled
  outputs makes up what the labels overstate.
* `verified_pays_of_honest` — in particular when the labels open the commitments
  and nothing unlabelled goes to `pay_to`.
* `matched_pczt_amount_zat_exact` — exactly which label sets are accepted, and for
  how much, in whatever order the outputs come.
-/

open Zpay.Data

namespace Zpay.Core

/-! ## PCZTs and the library that reads them -/

/-- A shielded output: the Sapling outputs, and the outputs of the Orchard and
Ironwood actions. -/
structure ShieldedOutput (C : Type) where
  userAddress : Option String
  recipient : Option (List UInt8)
  value : Option UInt64
  commitment : C

structure TransparentOutput where
  userAddress : Option String

/-- The parts of a parsed PCZT the verifier reads. -/
structure Pczt (C : Type) where
  expiryHeight : UInt32
  sapling : List (ShieldedOutput C)
  orchard : List (ShieldedOutput C)
  ironwood : List (ShieldedOutput C)
  transparent : List TransparentOutput

def Pczt.shielded {C : Type} (pczt : Pczt C) : List (ShieldedOutput C) :=
  pczt.sapling ++ pczt.orchard ++ pczt.ironwood

/-- Broadcast-ready bytes and the id of the transaction, in RPC hex form. -/
structure ExtractedTransaction where
  rawBytes : List UInt8
  txId : String
  deriving DecidableEq, Repr

/-- The calls into `zally_pczt`, `zcash_keys` and the pool crates: `A` are
decoded addresses and `V` receivers. -/
structure PcztLibrary (C A V : Type) where
  parse : Network → List UInt8 → Except String (Pczt C)
  extract : Network → List UInt8 → Except String ExtractedTransaction
  decodeAddress : Network → String → Option A
  saplingReceiver : List UInt8 → Option V
  orchardReceiver : List UInt8 → Option V
  corresponds : V → A → Bool

/-! ## Requests and errors -/

/-- Input to `verify_pczt_settlement`. -/
structure PcztSettlementRequest where
  network : PaymentNetwork
  amountZat : UInt64
  payTo : String
  pcztBytes : List UInt8
  deriving DecidableEq, Repr

/-- Verified material ready for broadcast. -/
structure VerifiedPcztSettlement where
  rawTxBytes : List UInt8
  transactionId : String
  expiryHeight : UInt32
  deriving DecidableEq, Repr

/-- Errors of verifying or settling an exact PCZT. -/
inductive PcztSettlementError
  | pcztMalformed (reason : String)
  | pcztNetworkMismatch (expectedCoinType pcztCoinType : UInt32)
  | chainNetworkMismatch (requestedNetwork : PaymentNetwork) (chainNetwork : Network)
  | payToMalformed
  | paymentAddressMismatch
  | paymentAmountMissing (pool : String)
  | paymentAmountMismatch (requiredAmountZat matchedAmountZat : UInt64)
  | paymentAmountOverflow
  | paymentNotVerifiable (reason : String)
  | pcztNotExtractable (reason : String)
  | chainUnavailable (reason : String)
  deriving DecidableEq, Repr

/-- Machine-readable failure reason. -/
def PcztSettlementError.reasonCode : PcztSettlementError → String
  | .pcztMalformed _ => "zcash_exact_pczt_malformed"
  | .pcztNetworkMismatch _ _ | .chainNetworkMismatch _ _ => "zcash_exact_network_mismatch"
  | .payToMalformed => "zcash_exact_pay_to_invalid"
  | .paymentAddressMismatch => "zcash_exact_pay_to_mismatch"
  | .paymentAmountMissing _ | .paymentAmountMismatch _ _ | .paymentAmountOverflow =>
      "zcash_exact_amount_mismatch"
  | .paymentNotVerifiable _ => "zcash_exact_pczt_not_verifiable"
  | .pcztNotExtractable _ => "zcash_exact_pczt_not_extractable"
  | .chainUnavailable _ => "chain_unavailable"

/-! ## The verifier -/

section Verifier

variable {C A V : Type} (library : PcztLibrary C A V)

def addMatchedAmountZat (currentAmountZat additionalAmountZat : UInt64) :
    Except PcztSettlementError UInt64 :=
  if currentAmountZat.toNat + additionalAmountZat.toNat < 2 ^ 64 then
    .ok (currentAmountZat + additionalAmountZat)
  else .error .paymentAmountOverflow

/-- One output of one pool: an unlabelled output is skipped, a labelled one must
name `pay_to` and show recipient bytes and a value. -/
def matchOutput (pool : String) (receiver : List UInt8 → Option V) (payToLabel : String)
    (payTo : A) (matchedAmountZat : UInt64) (output : ShieldedOutput C) :
    Except PcztSettlementError UInt64 :=
  match output.userAddress with
  | none => .ok matchedAmountZat
  | some label => do
      ensure (label = payToLabel) .paymentAddressMismatch
      let recipient ← okOr output.recipient
        (.paymentNotVerifiable (pool ++ " output omitted recipient bytes"))
      let amountZat ← okOr output.value (.paymentAmountMissing pool)
      let paymentAddress ← okOr (receiver recipient)
        (.paymentNotVerifiable (pool ++ " output recipient bytes are invalid"))
      ensure (library.corresponds paymentAddress payTo = true) .paymentAddressMismatch
      addMatchedAmountZat matchedAmountZat amountZat

/-- The pass over one pool. -/
def matchOutputs (pool : String) (receiver : List UInt8 → Option V) (payToLabel : String)
    (payTo : A) (outputs : List (ShieldedOutput C)) (matchedAmountZat : UInt64) :
    Except PcztSettlementError UInt64 :=
  outputs.foldlM (matchOutput library pool receiver payToLabel payTo) matchedAmountZat

def matchOrchardBundleAmountZat (bundle : List (ShieldedOutput C)) (pool : String)
    (payToLabel : String) (payTo : A) (matchedAmountZat : UInt64) :
    Except PcztSettlementError UInt64 :=
  matchOutputs library pool library.orchardReceiver payToLabel payTo bundle matchedAmountZat

/-- Transparent labelled outputs fail closed. -/
def rejectTransparentLabels (outputs : List TransparentOutput) :
    Except PcztSettlementError Unit :=
  ensure (∀ output ∈ outputs, output.userAddress = none)
    (.paymentNotVerifiable
      "transparent labelled outputs are not accepted by zcash exact yet")

def matchedPcztAmountZat (parsedPczt : Pczt C) (request : PcztSettlementRequest) :
    Except PcztSettlementError UInt64 := do
  let payTo ← okOr (library.decodeAddress (zallyNetworkFor request.network) request.payTo)
    .payToMalformed
  let matched ← matchOutputs library "sapling" library.saplingReceiver request.payTo payTo
    parsedPczt.sapling 0
  let matched ← matchOrchardBundleAmountZat library parsedPczt.orchard "orchard"
    request.payTo payTo matched
  let matched ← matchOrchardBundleAmountZat library parsedPczt.ironwood "ironwood"
    request.payTo payTo matched
  rejectTransparentLabels parsedPczt.transparent
  return matched

/-- Verify an exact PCZT and extract broadcast-ready transaction bytes. -/
def verifyPcztSettlement (request : PcztSettlementRequest) :
    Except PcztSettlementError VerifiedPcztSettlement := do
  let pcztNetwork := zallyNetworkFor request.network
  let parsedPczt ← (library.parse pcztNetwork request.pcztBytes).mapError .pcztMalformed
  let matchedAmountZat ← matchedPcztAmountZat library parsedPczt request
  ensure (matchedAmountZat = request.amountZat)
    (.paymentAmountMismatch request.amountZat matchedAmountZat)
  let extracted ← (library.extract pcztNetwork request.pcztBytes).mapError
    .pcztNotExtractable
  return {
    rawTxBytes := extracted.rawBytes
    transactionId := extracted.txId
    expiryHeight := parsedPczt.expiryHeight }

/-- Output of a PCZT broadcast. -/
structure PcztSettlementOutcome where
  broadcastOutcome : BroadcastOutcome
  transactionId : String
  expiryHeight : UInt32
  deriving DecidableEq, Repr

/-- Broadcast a verified exact PCZT; `submit` is the chain plane's answer, and
the second part of the result is the transactions handed to it. -/
def broadcastVerifiedPcztSettlement (chainNetwork : Network)
    (submit : List UInt8 → Except String SubmitOutcome) (request : PcztSettlementRequest)
    (verified : VerifiedPcztSettlement) :
    Except PcztSettlementError PcztSettlementOutcome × List (List UInt8) :=
  if chainNetwork ≠ zallyNetworkFor request.network then
    (.error (.chainNetworkMismatch request.network chainNetwork), [])
  else
    (((submit verified.rawTxBytes).mapError .chainUnavailable).map fun submitOutcome =>
      { broadcastOutcome := .fromSubmitOutcome submitOutcome
        transactionId := verified.transactionId
        expiryHeight := verified.expiryHeight },
      [verified.rawTxBytes])

end Verifier

/-! ## What a verified PCZT has passed -/

section Passed

variable {C A V : Type} {library : PcztLibrary C A V}

/-- What an output adds to the matched amount: its declared value, when it is
labelled. -/
def ShieldedOutput.declared (output : ShieldedOutput C) : Nat :=
  match output.userAddress with
  | none => 0
  | some _ => (output.value.getD 0).toNat

/-- A labelled output the verifier accepts names `pay_to`, and its recipient
bytes are a receiver of `pay_to`. -/
def ShieldedOutput.Matches (library : PcztLibrary C A V) (receiver : List UInt8 → Option V)
    (payToLabel : String) (payTo : A) (output : ShieldedOutput C) : Prop :=
  output.userAddress = some payToLabel ∧ output.value.isSome = true ∧
    ∃ recipient address, output.recipient = some recipient ∧
      receiver recipient = some address ∧ library.corresponds address payTo = true

theorem add_matched_amount_zat_ok {a b c : UInt64} :
    addMatchedAmountZat a b = .ok c ↔ c.toNat = a.toNat + b.toNat := by
  unfold addMatchedAmountZat
  have hc := c.toNat_lt
  split
  · next hfits =>
      have hsum : (a + b).toNat = a.toNat + b.toNat := by
        rw [UInt64.toNat_add]
        exact Nat.mod_eq_of_lt hfits
      rw [Except.ok.injEq, ← UInt64.toNat_inj, hsum]
      omega
  · next hoverflow =>
      simp only [reduceCtorEq, false_iff]
      omega

theorem match_output_ok {pool : String} {receiver : List UInt8 → Option V}
    {payToLabel : String} {payTo : A} {acc acc' : UInt64} {output : ShieldedOutput C} :
    matchOutput library pool receiver payToLabel payTo acc output = .ok acc' ↔
      (output.userAddress = none ∨ output.Matches library receiver payToLabel payTo) ∧
      acc'.toNat = acc.toNat + output.declared := by
  unfold matchOutput ShieldedOutput.declared ShieldedOutput.Matches
  cases hlabel : output.userAddress with
  | none =>
      simp only [Except.ok.injEq, true_or, true_and, Nat.add_zero]
      rw [← UInt64.toNat_inj, eq_comm]
  | some label =>
      simp only [bind_eq_ok, ensure_eq_ok, okOr_eq_ok, add_matched_amount_zat_ok,
        reduceCtorEq, false_or, Option.some.injEq]
      constructor
      · rintro ⟨_, rfl, recipient, hrecipient, amount, hamount, address, haddress, _,
          hcorresponds, hsum⟩
        refine ⟨⟨rfl, by simp [hamount], recipient, address, hrecipient, haddress,
          hcorresponds⟩, ?_⟩
        simpa [hamount] using hsum
      · rintro ⟨⟨rfl, hsome, recipient, address, hrecipient, haddress, hcorresponds⟩, hsum⟩
        obtain ⟨amount, hamount⟩ := Option.isSome_iff_exists.1 hsome
        refine ⟨(), rfl, recipient, hrecipient, amount, hamount, address, haddress, (),
          hcorresponds, ?_⟩
        simpa [hamount] using hsum

/-- One pool's pass accepts when every labelled output matches and the running
sum fits, and it adds the declared values. -/
theorem match_outputs_ok {pool : String} {receiver : List UInt8 → Option V}
    {payToLabel : String} {payTo : A} {outputs : List (ShieldedOutput C)}
    {acc acc' : UInt64} :
    matchOutputs library pool receiver payToLabel payTo outputs acc = .ok acc' ↔
      (∀ output ∈ outputs, output.userAddress = none ∨
        output.Matches library receiver payToLabel payTo) ∧
      acc'.toNat = acc.toNat + (outputs.map ShieldedOutput.declared).sum := by
  unfold matchOutputs
  induction outputs generalizing acc with
  | nil =>
      simp only [List.foldlM_nil, pure_eq_ok, List.not_mem_nil, false_implies, implies_true,
        true_and, List.map_nil, List.sum_nil, Nat.add_zero]
      rw [← UInt64.toNat_inj, eq_comm]
  | cons output outputs ih =>
      simp only [List.foldlM_cons, bind_eq_ok, match_output_ok, ih, List.mem_cons,
        forall_eq_or_imp, List.map_cons, List.sum_cons]
      constructor
      · rintro ⟨mid, ⟨hfirst, hmid⟩, hrest, hsum⟩
        exact ⟨⟨hfirst, hrest⟩, by omega⟩
      · rintro ⟨⟨hfirst, hrest⟩, hsum⟩
        have hacc' := acc'.toNat_lt
        have hfits : acc.toNat + output.declared < 2 ^ 64 := by omega
        refine ⟨UInt64.ofNat (acc.toNat + output.declared), ⟨hfirst, ?_⟩, hrest, ?_⟩
        · exact UInt64.toNat_ofNat_of_lt' hfits
        · rw [UInt64.toNat_ofNat_of_lt' hfits]
          omega

private theorem exists_toNat_eq {n : Nat} (hn : n < 2 ^ 64) : ∃ v : UInt64, v.toNat = n :=
  ⟨.ofNat n, UInt64.toNat_ofNat_of_lt' hn⟩

/-- The matched amount exists exactly when `pay_to` decodes, every labelled
shielded output matches, no transparent output is labelled, and the declared
values fit; it is their sum. -/
theorem matched_pczt_amount_zat_ok {pczt : Pczt C} {request : PcztSettlementRequest}
    {matched : UInt64} :
    matchedPcztAmountZat library pczt request = .ok matched ↔
      ∃ payTo, library.decodeAddress (zallyNetworkFor request.network) request.payTo
          = some payTo ∧
        (∀ output ∈ pczt.sapling, output.userAddress = none ∨
          output.Matches library library.saplingReceiver request.payTo payTo) ∧
        (∀ output ∈ pczt.orchard ++ pczt.ironwood, output.userAddress = none ∨
          output.Matches library library.orchardReceiver request.payTo payTo) ∧
        (∀ output ∈ pczt.transparent, output.userAddress = none) ∧
        matched.toNat = (pczt.shielded.map ShieldedOutput.declared).sum := by
  simp only [matchedPcztAmountZat, matchOrchardBundleAmountZat, rejectTransparentLabels,
    bind_eq_ok, okOr_eq_ok, ensure_eq_ok, match_outputs_ok, pure_eq_ok, List.forall_mem_append,
    Pczt.shielded, List.map_append, List.sum_append]
  constructor
  · rintro ⟨payTo, hpayTo, m₁, ⟨hsapling, h₁⟩, m₂, ⟨horchard, h₂⟩, m₃, ⟨hironwood, h₃⟩, _,
      htransparent, rfl⟩
    refine ⟨payTo, hpayTo, hsapling, ⟨horchard, hironwood⟩, htransparent, ?_⟩
    rw [h₃, h₂, h₁, UInt64.toNat_zero, Nat.zero_add]
  · rintro ⟨payTo, hpayTo, hsapling, ⟨horchard, hironwood⟩, htransparent, hsum⟩
    have hbound := matched.toNat_lt
    obtain ⟨m₁, h₁⟩ : ∃ m₁ : UInt64,
        m₁.toNat = (pczt.sapling.map ShieldedOutput.declared).sum :=
      exists_toNat_eq (by omega)
    obtain ⟨m₂, h₂⟩ : ∃ m₂ : UInt64,
        m₂.toNat = m₁.toNat + (pczt.orchard.map ShieldedOutput.declared).sum :=
      exists_toNat_eq (by omega)
    refine ⟨payTo, hpayTo, m₁, ⟨hsapling, ?_⟩, m₂, ⟨horchard, h₂⟩, matched,
      ⟨hironwood, ?_⟩, (), htransparent, rfl⟩
    · rw [h₁, UInt64.toNat_zero, Nat.zero_add]
    · rw [hsum, h₂, h₁]

/-- What a verified PCZT has passed. -/
theorem verify_pczt_settlement_ok {request : PcztSettlementRequest}
    {verified : VerifiedPcztSettlement}
    (h : verifyPcztSettlement library request = .ok verified) :
    ∃ pczt, library.parse (zallyNetworkFor request.network) request.pcztBytes = .ok pczt ∧
      matchedPcztAmountZat library pczt request = .ok request.amountZat ∧
      library.extract (zallyNetworkFor request.network) request.pcztBytes =
        .ok { rawBytes := verified.rawTxBytes, txId := verified.transactionId } ∧
      verified.expiryHeight = pczt.expiryHeight := by
  simp only [verifyPcztSettlement, bind_eq_ok, mapError_eq_ok, ensure_eq_ok, pure_eq_ok] at h
  obtain ⟨pczt, hparsed, matched, hmatched, _, hamount, extracted, hextracted, rfl⟩ := h
  exact ⟨pczt, hparsed, hamount ▸ hmatched, hextracted, rfl⟩

end Passed

/-! ## What the transaction pays -/

section Notes

variable {C A V : Type}

/-- The chain's side of a PCZT: the note commitments a transaction carries, and
the receiver and value a commitment binds. -/
structure NoteView (C V : Type) where
  commitments : List UInt8 → List C
  opens : C → V × UInt64

/-- The extractor builds the transaction from the effecting fields: its
commitments are those of the PCZT. -/
def NoteView.Carries (view : NoteView C V) (library : PcztLibrary C A V) : Prop :=
  ∀ {network bytes pczt tx}, library.parse network bytes = .ok pczt →
    library.extract network bytes = .ok tx →
    (view.commitments tx.rawBytes).Perm (pczt.shielded.map ShieldedOutput.commitment)

section Value

variable (view : NoteView C V) (library : PcztLibrary C A V)
variable (request : PcztSettlementRequest)

/-- The value a commitment holds for the request's `pay_to`. -/
def NoteView.valueFor (commitment : C) : Nat :=
  match library.decodeAddress (zallyNetworkFor request.network) request.payTo with
  | some payTo =>
      if library.corresponds (view.opens commitment).1 payTo = true then
        (view.opens commitment).2.toNat
      else 0
  | none => 0

/-- The total value of the shielded notes of a transaction that belong to the
request's `pay_to`. -/
def NoteView.paidTo (rawTxBytes : List UInt8) : Nat :=
  ((view.commitments rawTxBytes).map (view.valueFor library request)).sum

/-- What the labelled outputs really hold for `pay_to`. -/
def NoteView.labelledValue (pczt : Pczt C) : Nat :=
  ((pczt.shielded.filter fun output => output.userAddress.isSome).map
    fun output => view.valueFor library request output.commitment).sum

/-- What goes to `pay_to` without a label. -/
def NoteView.unlabelledValue (pczt : Pczt C) : Nat :=
  ((pczt.shielded.filter fun output => !output.userAddress.isSome).map
    fun output => view.valueFor library request output.commitment).sum

/-- What the labels declare. -/
def Pczt.declaredValue (pczt : Pczt C) : Nat :=
  ((pczt.shielded.filter fun output => output.userAddress.isSome).map
    ShieldedOutput.declared).sum

/-- The labels declare more than their commitments hold for `pay_to` by
exactly what goes to `pay_to` without a label. -/
def NoteView.Balanced (pczt : Pczt C) : Prop :=
  view.unlabelledValue library request pczt + view.labelledValue library request pczt =
    pczt.declaredValue

/-- The labels tell the truth and nothing goes to `pay_to` without one. -/
structure NoteView.Honest (pczt : Pczt C) : Prop where
  labelled : ∀ output ∈ pczt.shielded, output.userAddress.isSome = true →
    view.valueFor library request output.commitment = output.declared
  unlabelled : ∀ output ∈ pczt.shielded, output.userAddress = none →
    view.valueFor library request output.commitment = 0

end Value

variable {view : NoteView C V} {library : PcztLibrary C A V}

private theorem sum_filter_add_sum_filter_not {α : Type} (p : α → Bool) (f : α → Nat)
    (l : List α) :
    ((l.filter fun a => !p a).map f).sum + ((l.filter p).map f).sum = (l.map f).sum := by
  induction l with
  | nil => rfl
  | cons a l ih =>
      cases hp : p a with
      | false =>
          simp only [List.filter_cons, hp, Bool.not_false, if_true, Bool.false_eq_true,
            if_false, List.map_cons, List.sum_cons]
          omega
      | true =>
          simp only [List.filter_cons, hp, Bool.not_true, if_true, Bool.false_eq_true,
            if_false, List.map_cons, List.sum_cons]
          omega

/-- A transaction pays `pay_to` what its labelled and its unlabelled outputs hold
for it. -/
theorem NoteView.paidTo_eq (hcarries : view.Carries library) {network : Network}
    {bytes : List UInt8} {pczt : Pczt C} {tx : ExtractedTransaction}
    (request : PcztSettlementRequest)
    (hparsed : library.parse network bytes = .ok pczt)
    (hextracted : library.extract network bytes = .ok tx) :
    view.paidTo library request tx.rawBytes =
      view.unlabelledValue library request pczt + view.labelledValue library request pczt := by
  have hperm := (hcarries hparsed hextracted).map (view.valueFor library request)
  rw [NoteView.paidTo, hperm.sum_eq, List.map_map, NoteView.unlabelledValue,
    NoteView.labelledValue, sum_filter_add_sum_filter_not]
  rfl

/-- Unlabelled outputs declare nothing. -/
theorem Pczt.declaredValue_eq (pczt : Pczt C) :
    pczt.declaredValue = (pczt.shielded.map ShieldedOutput.declared).sum := by
  have hsplit := sum_filter_add_sum_filter_not
    (fun output : ShieldedOutput C => output.userAddress.isSome) ShieldedOutput.declared
    pczt.shielded
  have hzero : ((pczt.shielded.filter fun output => !output.userAddress.isSome).map
      ShieldedOutput.declared).sum = 0 := by
    refine List.sum_eq_zero ?_
    intro value hvalue
    obtain ⟨output, houtput, rfl⟩ := List.mem_map.1 hvalue
    have hlabel := (List.mem_filter.1 houtput).2
    cases haddress : output.userAddress with
    | none => simp [ShieldedOutput.declared, haddress]
    | some label => simp [haddress] at hlabel
  rw [Pczt.declaredValue]
  omega

/-- A verified PCZT pays `pay_to` exactly the required amount if and only if its
labels and commitments balance. -/
theorem verified_pays_iff_balanced (hcarries : view.Carries library)
    {request : PcztSettlementRequest} {verified : VerifiedPcztSettlement}
    (h : verifyPcztSettlement library request = .ok verified) {pczt : Pczt C}
    (hparsed : library.parse (zallyNetworkFor request.network) request.pcztBytes = .ok pczt) :
    view.paidTo library request verified.rawTxBytes = request.amountZat.toNat ↔
      view.Balanced library request pczt := by
  obtain ⟨pczt', hparsed', hmatched, hextracted, -⟩ := verify_pczt_settlement_ok h
  have hpczt : pczt = pczt' := Except.ok.inj (hparsed.symm.trans hparsed')
  subst hpczt
  obtain ⟨_, -, -, -, -, hsum⟩ := matched_pczt_amount_zat_ok.1 hmatched
  have hpaid := NoteView.paidTo_eq hcarries request hparsed hextracted
  rw [NoteView.Balanced, hpaid, Pczt.declaredValue_eq, hsum]

/-- Honest labels balance. -/
theorem NoteView.Honest.balanced {request : PcztSettlementRequest} {pczt : Pczt C}
    (hhonest : view.Honest library request pczt) : view.Balanced library request pczt := by
  have hlabelled : view.labelledValue library request pczt = pczt.declaredValue := by
    unfold NoteView.labelledValue Pczt.declaredValue
    congr 1
    refine List.map_congr_left ?_
    intro output houtput
    obtain ⟨hmem, hlabel⟩ := List.mem_filter.1 houtput
    exact hhonest.labelled output hmem hlabel
  have hunlabelled : view.unlabelledValue library request pczt = 0 := by
    refine List.sum_eq_zero ?_
    intro value hvalue
    obtain ⟨output, houtput, rfl⟩ := List.mem_map.1 hvalue
    obtain ⟨hmem, hlabel⟩ := List.mem_filter.1 houtput
    refine hhonest.unlabelled output hmem ?_
    simpa using hlabel
  rw [NoteView.Balanced, hlabelled, hunlabelled, Nat.zero_add]

/-- A verified PCZT whose labels are honest pays `pay_to` exactly the required
amount. -/
theorem verified_pays_of_honest (hcarries : view.Carries library)
    {request : PcztSettlementRequest} {verified : VerifiedPcztSettlement}
    (h : verifyPcztSettlement library request = .ok verified) {pczt : Pczt C}
    (hparsed : library.parse (zallyNetworkFor request.network) request.pcztBytes = .ok pczt)
    (hhonest : view.Honest library request pczt) :
    view.paidTo library request verified.rawTxBytes = request.amountZat.toNat := by
  obtain ⟨pczt', hparsed', hmatched, hextracted, -⟩ := verify_pczt_settlement_ok h
  have hpczt : pczt = pczt' := Except.ok.inj (hparsed.symm.trans hparsed')
  subst hpczt
  obtain ⟨_, -, -, -, -, hsum⟩ := matched_pczt_amount_zat_ok.1 hmatched
  rw [NoteView.paidTo_eq hcarries request hparsed hextracted, hhonest.balanced,
    Pczt.declaredValue_eq, hsum]

end Notes

/-! ## The order of outputs -/

section Order

variable {C A V : Type} {library : PcztLibrary C A V}

/-- Two PCZTs that differ in the order of the outputs within a pool only. -/
structure Pczt.Reordered (pczt pczt' : Pczt C) : Prop where
  sapling : pczt.sapling.Perm pczt'.sapling
  orchard : pczt.orchard.Perm pczt'.orchard
  ironwood : pczt.ironwood.Perm pczt'.ironwood
  transparent : pczt.transparent.Perm pczt'.transparent

theorem Pczt.Reordered.symm {pczt pczt' : Pczt C} (h : pczt.Reordered pczt') :
    pczt'.Reordered pczt where
  sapling := h.sapling.symm
  orchard := h.orchard.symm
  ironwood := h.ironwood.symm
  transparent := h.transparent.symm

/-- What the verifier accepts it accepts in any order, for the same amount: the
conditions are about members, and a sum of naturals does not depend on the order. -/
theorem matched_pczt_amount_zat_reordered {pczt pczt' : Pczt C}
    {request : PcztSettlementRequest} {matched : UInt64} (h : pczt.Reordered pczt')
    (hmatched : matchedPcztAmountZat library pczt request = .ok matched) :
    matchedPcztAmountZat library pczt' request = .ok matched := by
  obtain ⟨payTo, hpayTo, hsapling, horchard, htransparent, hsum⟩ :=
    matched_pczt_amount_zat_ok.1 hmatched
  have hactions : (pczt.orchard ++ pczt.ironwood).Perm (pczt'.orchard ++ pczt'.ironwood) :=
    h.orchard.append h.ironwood
  have hshielded : pczt.shielded.Perm pczt'.shielded :=
    (h.sapling.append h.orchard).append h.ironwood
  refine matched_pczt_amount_zat_ok.2 ⟨payTo, hpayTo, ?_, ?_, ?_, ?_⟩
  · intro output houtput
    exact hsapling output (h.sapling.mem_iff.2 houtput)
  · intro output houtput
    exact horchard output (hactions.mem_iff.2 houtput)
  · intro output houtput
    exact htransparent output (h.transparent.mem_iff.2 houtput)
  · rw [hsum]
    exact (hshielded.map ShieldedOutput.declared).sum_eq

/-- The matched amount exists exactly when `pay_to` decodes, no transparent output
is labelled, every labelled shielded output matches `pay_to` in its pool and the
labelled values add up to less than `2 ^ 64`; it is their sum, and reordering the
outputs of the pools changes nothing. -/
theorem matched_pczt_amount_zat_exact (library : PcztLibrary C A V) (pczt : Pczt C)
    (request : PcztSettlementRequest) :
    (∀ matched, matchedPcztAmountZat library pczt request = .ok matched ↔
      ∃ payTo, library.decodeAddress (zallyNetworkFor request.network) request.payTo
          = some payTo ∧
        (∀ output ∈ pczt.transparent, output.userAddress = none) ∧
        (∀ output ∈ pczt.sapling, output.userAddress ≠ none →
          output.Matches library library.saplingReceiver request.payTo payTo) ∧
        (∀ output ∈ pczt.orchard, output.userAddress ≠ none →
          output.Matches library library.orchardReceiver request.payTo payTo) ∧
        (∀ output ∈ pczt.ironwood, output.userAddress ≠ none →
          output.Matches library library.orchardReceiver request.payTo payTo) ∧
        pczt.declaredValue < 2 ^ 64 ∧ matched.toNat = pczt.declaredValue) ∧
    ∀ pczt', pczt.Reordered pczt' → ∀ matched,
      matchedPcztAmountZat library pczt request = .ok matched ↔
        matchedPcztAmountZat library pczt' request = .ok matched := by
  refine ⟨fun matched => ?_, fun pczt' hreordered matched => ?_⟩
  · rw [matched_pczt_amount_zat_ok, ← Pczt.declaredValue_eq]
    simp only [List.forall_mem_append, ← or_iff_not_imp_left]
    constructor
    · rintro ⟨payTo, hpayTo, hsapling, ⟨horchard, hironwood⟩, htransparent, hsum⟩
      have hfits : pczt.declaredValue < 2 ^ 64 := hsum ▸ matched.toNat_lt
      exact ⟨payTo, hpayTo, htransparent, hsapling, horchard, hironwood, hfits, hsum⟩
    · rintro ⟨payTo, hpayTo, htransparent, hsapling, horchard, hironwood, -, hsum⟩
      exact ⟨payTo, hpayTo, hsapling, ⟨horchard, hironwood⟩, htransparent, hsum⟩
  · constructor
    · exact matched_pczt_amount_zat_reordered hreordered
    · exact matched_pczt_amount_zat_reordered hreordered.symm

end Order

/-! ### A PCZT whose label lies -/

/-- One Orchard output labelled with a payment of 5 to `utest1q`; its commitment
holds the payment, or the same value for somebody else. -/
def samplePczt (honest : Bool) : Pczt (Nat × UInt64) where
  expiryHeight := 4047100
  sapling := []
  orchard :=
    [{ userAddress := some "utest1q", recipient := some [7], value := some 5,
       commitment := if honest then (7, 5) else (8, 5) }]
  ironwood := []
  transparent := []

/-- The first byte of a PCZT says whether it is honest; receivers and addresses
are numbers. -/
def samplePcztLibrary : PcztLibrary (Nat × UInt64) Nat Nat where
  parse _ bytes := .ok (samplePczt (bytes.head? == some 1))
  extract _ bytes := .ok { rawBytes := bytes, txId := "00" }
  decodeAddress _ label := if label = "utest1q" then some 7 else none
  saplingReceiver _ := none
  orchardReceiver bytes := bytes.head?.map UInt8.toNat
  corresponds receiver address := receiver == address

def sampleNoteView : NoteView (Nat × UInt64) Nat where
  commitments bytes :=
    (samplePczt (bytes.head? == some 1)).shielded.map ShieldedOutput.commitment
  opens commitment := commitment

theorem sampleNoteView_carries : sampleNoteView.Carries samplePcztLibrary := by
  intro network bytes pczt tx hparsed hextracted
  have hpczt := Except.ok.inj hparsed
  have htx := Except.ok.inj hextracted
  subst hpczt htx
  exact List.Perm.refl _

def samplePcztRequest (bytes : List UInt8) : PcztSettlementRequest where
  network := .testnet
  amountZat := 5
  payTo := "utest1q"
  pcztBytes := bytes

/-- The honest sample verifies, balances and pays 5. -/
theorem verified_pays_iff_balanced_sample :
    sampleNoteView.paidTo samplePcztLibrary (samplePcztRequest [1]) [1] = 5 ↔
      sampleNoteView.Balanced samplePcztLibrary (samplePcztRequest [1]) (samplePczt true) :=
  have hverified : verifyPcztSettlement samplePcztLibrary (samplePcztRequest [1]) =
      .ok { rawTxBytes := [1], transactionId := "00", expiryHeight := 4047100 } := rfl
  verified_pays_iff_balanced sampleNoteView_carries hverified rfl

/-- The lying sample verifies for 5 and pays `pay_to` nothing. -/
theorem verified_pczt_pays_nothing :
    sampleNoteView.Carries samplePcztLibrary ∧
    ¬ ∀ request verified, verifyPcztSettlement samplePcztLibrary request = .ok verified →
      sampleNoteView.paidTo samplePcztLibrary request verified.rawTxBytes
        = request.amountZat.toNat := by
  refine ⟨sampleNoteView_carries, fun h => ?_⟩
  have hpays := h (samplePcztRequest [0])
    { rawTxBytes := [0], transactionId := "00", expiryHeight := 4047100 } rfl
  exact absurd hpays (by decide)

end Zpay.Core
