import Zpay.Core.Types
import Zpay.Data.CheckedSum
import Zpay.Data.Encoding
import Zpay.Data.Guard

/-!
# Verifying a payment disclosure

`verify`: the disclosure is parsed, the transaction it is about is fetched, the disclosure is
checked against it, and only then the disclosed outputs are compared with what the merchant
expected.  Each of the earlier steps may end the request with a response in which nothing was
compared.

Parsing, address decoding and the texts of the hex errors are the structure
`DisclosureLibrary`; the verifier and the fetcher are the caller's.

## Main results

* `verify_ok` — a response compared nothing, or everything of an authenticated disclosure.
* `verify_axes_consistent` — what each axis of a response says.
* `disclosed_value_counts_once_iff` — when no output is counted twice.
-/

open Zpay.Data

namespace Zpay.Core

/-! ## Requests and responses -/

structure VerifyRequest where
  txid : String
  expectedAmountZat : UInt64
  expectedPayTo : String
  expectedDisclosureMessageHex : String
  disclosurePayloadHex : String
  deriving DecidableEq, Repr

inductive CryptographicVerdict
  | valid
  | invalidSignature
  | malformed
  | inconclusive
  deriving DecidableEq, Repr

inductive InconclusiveReason
  | unsupportedPool
  | unknownVersion
  | prevoutUnresolved
  | transactionUnavailable
  deriving DecidableEq, Repr

inductive ChainPresence
  | mined
  | notFound
  | oracleUnavailable
  deriving DecidableEq, Repr

inductive AmountReconciliation
  | match
  | mismatch
  | notChecked
  deriving DecidableEq, Repr

inductive RecipientReconciliation
  | match
  | mismatch
  | notChecked
  deriving DecidableEq, Repr

inductive MessageReconciliation
  | match
  | mismatch
  | notChecked
  deriving DecidableEq, Repr

structure VerifyResponse where
  cryptographicVerdict : CryptographicVerdict
  inconclusiveReason : Option InconclusiveReason
  chainPresence : ChainPresence
  amountReconciliation : AmountReconciliation
  recipientReconciliation : RecipientReconciliation
  messageReconciliation : MessageReconciliation
  transactionId : Option String
  paymentId : Option String
  disclosedValueZat : Option UInt64
  deriving DecidableEq, Repr

inductive VerifyError
  | payloadInvalid (reason : String)
  | expectedPayToInvalid
  | expectedDisclosureMessageInvalid (reason : String)
  deriving DecidableEq, Repr

/-! ## Disclosures and transactions -/

/-- The profiles that are known; the source's enumeration is open. -/
inductive PaymentDisclosureProfile
  | zip311Draft1
  | zallyIronwood
  | other
  deriving DecidableEq, Repr

/-- A parsed disclosure, with its spends and outputs in `E`. -/
structure PaymentDisclosure (E : Type) where
  profile : PaymentDisclosureProfile
  transactionId : Vector UInt8 32
  message : List UInt8
  evidence : E

inductive PaymentDisclosureCodecError
  | profileUnsupported
  | other
  deriving DecidableEq, Repr

structure DisclosedTransaction where
  txid : Vector UInt8 32
  rawTransactionBytes : List UInt8
  minedHeight : UInt32
  deriving DecidableEq, Repr

inductive FetchError
  | notFound
  | unavailable (reason : String)
  deriving DecidableEq, Repr

/-- `PaymentDisclosureVerificationError`; `other` is the open end of the enumeration. -/
inductive DisclosureVerificationError
  | ironwoodSpendAuthorityInvalid
  | ironwoodOutputRecoveryFailed
  | spendAuthorityInvalid
  | outputRecoveryFailed
  | transactionMalformed
  | transactionTrailingBytes
  | transactionIdMismatch
  | ironwoodBundleMissing
  | ironwoodActionIndexOutOfBounds
  | saplingBundleMissing
  | spendIndexOutOfBounds
  | outputIndexOutOfBounds
  | spendCommitmentMalformed
  | randomizedVerificationKeyMalformed
  | spendProofMalformed
  | other
  deriving DecidableEq, Repr

def DisclosureVerificationError.verdict : DisclosureVerificationError → CryptographicVerdict
  | .ironwoodSpendAuthorityInvalid | .ironwoodOutputRecoveryFailed | .spendAuthorityInvalid
  | .outputRecoveryFailed => .invalidSignature
  | .transactionMalformed | .transactionTrailingBytes | .transactionIdMismatch
  | .ironwoodBundleMissing | .ironwoodActionIndexOutOfBounds | .saplingBundleMissing
  | .spendIndexOutOfBounds | .outputIndexOutOfBounds | .spendCommitmentMalformed
  | .randomizedVerificationKeyMalformed | .spendProofMalformed | .other => .malformed

/-- Authenticated facts of one disclosed output. -/
structure VerifiedOutput where
  index : UInt32
  recipientBytes : Vector UInt8 43
  amountZat : UInt64
  deriving DecidableEq, Repr

abbrev VerifiedSaplingOutput := VerifiedOutput

abbrev VerifiedIronwoodOutput := VerifiedOutput

structure VerifiedPaymentDisclosure where
  saplingOutputs : List VerifiedSaplingOutput
  ironwoodOutputs : List VerifiedIronwoodOutput
  deriving DecidableEq, Repr

/-- The receivers of a unified address, as bytes. -/
structure UnifiedAddress where
  sapling : Option (Vector UInt8 43)
  orchard : Option (Vector UInt8 43)
  deriving DecidableEq, Repr

inductive ParsedZcashAddress
  | unified (address : UnifiedAddress)
  | other
  deriving DecidableEq, Repr

/-- The calls into `zcash_payment_disclosure` and `zcash_keys`, and the texts of `hex`. -/
structure DisclosureLibrary (E : Type) where
  fromBytes : List UInt8 → Except PaymentDisclosureCodecError (PaymentDisclosure E)
  decodeAddress : Network → String → Option ParsedZcashAddress
  hexErrorText : String → String

abbrev PaymentDisclosureVerifier (E : Type) :=
  PaymentDisclosure E → DisclosedTransaction →
    Except DisclosureVerificationError VerifiedPaymentDisclosure

abbrev DisclosureFetcher := Vector UInt8 32 → Except FetchError DisclosedTransaction

/-! ## Reconciliation -/

structure PaymentReconciliation where
  amount : AmountReconciliation
  recipient : RecipientReconciliation
  disclosedValueZat : Option UInt64
  deriving DecidableEq, Repr

inductive ExpectedShieldedRecipient
  | sapling (recipientBytes : Vector UInt8 43)
  | ironwood (recipientBytes : Vector UInt8 43)
  deriving DecidableEq, Repr

def uncheckedPaymentReconciliation : PaymentReconciliation where
  amount := .notChecked
  recipient := .notChecked
  disclosedValueZat := none

/-- The outputs of one pool, against what was expected. -/
def reconcileOutputs (outputs : List VerifiedOutput) (expectedAmountZat : UInt64)
    (expectedRecipientBytes : Vector UInt8 43) : Option PaymentReconciliation :=
  if outputs = [] then some uncheckedPaymentReconciliation
  else do
    let disclosedValueZat ← checkedSum VerifiedOutput.amountZat outputs
    let recipientMatches :=
      outputs.all fun output => decide (output.recipientBytes = expectedRecipientBytes)
    some
      { amount := if disclosedValueZat = expectedAmountZat then .match else .mismatch
        recipient := if recipientMatches then .match else .mismatch
        disclosedValueZat := some disclosedValueZat }

def computePaymentReconciliation (authenticatedDisclosure : VerifiedPaymentDisclosure)
    (expectedAmountZat : UInt64) (expectedRecipient : ExpectedShieldedRecipient) :
    Option PaymentReconciliation :=
  match expectedRecipient with
  | .sapling expectedRecipientBytes =>
      reconcileOutputs authenticatedDisclosure.saplingOutputs expectedAmountZat
        expectedRecipientBytes
  | .ironwood expectedRecipientBytes =>
      reconcileOutputs authenticatedDisclosure.ironwoodOutputs expectedAmountZat
        expectedRecipientBytes

/-! ## The driver -/

def rpcTransactionIdBytes (transactionId : Vector UInt8 32) : Vector UInt8 32 :=
  transactionId.reverse

/-- The requested id without its prefix. -/
def trimmedTxid (requestTxidHex : String) : String :=
  ((Text.stripPrefix "0x" requestTxidHex).or (Text.stripPrefix "0X" requestTxidHex)).getD
    requestTxidHex

def requestTxidMatches (requestTxidHex : String) (parsedTxid : Vector UInt8 32) : Bool :=
  match decodeHexChars (trimmedTxid requestTxidHex).toList with
  | none => false
  | some bytes => decide (bytes = parsedTxid.toList)

def chainPresenceFor : FetchError → ChainPresence
  | .notFound => .notFound
  | .unavailable _ => .oracleUnavailable

def shortCircuitMalformed (transactionId : Option String) : VerifyResponse where
  cryptographicVerdict := .malformed
  inconclusiveReason := none
  chainPresence := .oracleUnavailable
  amountReconciliation := .notChecked
  recipientReconciliation := .notChecked
  messageReconciliation := .notChecked
  transactionId := transactionId
  paymentId := none
  disclosedValueZat := none

def shortCircuitInconclusive (reason : InconclusiveReason) (transactionId : Option String)
    (chainPresence : ChainPresence) : VerifyResponse where
  cryptographicVerdict := .inconclusive
  inconclusiveReason := some reason
  chainPresence := chainPresence
  amountReconciliation := .notChecked
  recipientReconciliation := .notChecked
  messageReconciliation := .notChecked
  transactionId := transactionId
  paymentId := none
  disclosedValueZat := none

def verificationFailureResponse (error : DisclosureVerificationError) (rpcTxidHex : String) :
    VerifyResponse where
  cryptographicVerdict := error.verdict
  inconclusiveReason := none
  chainPresence := .mined
  amountReconciliation := .notChecked
  recipientReconciliation := .notChecked
  messageReconciliation := .notChecked
  transactionId := some rpcTxidHex
  paymentId := none
  disclosedValueZat := none

/-- The response once everything is compared. -/
def reconciledResponse (reconciliation : PaymentReconciliation) (messageMatches : Bool)
    (rpcTxidHex : String) : VerifyResponse where
  cryptographicVerdict := .valid
  inconclusiveReason := none
  chainPresence := .mined
  amountReconciliation := reconciliation.amount
  recipientReconciliation := reconciliation.recipient
  messageReconciliation := if messageMatches then .match else .mismatch
  transactionId := some rpcTxidHex
  paymentId := none
  disclosedValueZat := reconciliation.disclosedValueZat

section Driver

variable {E : Type} (library : DisclosureLibrary E)

def hexDecode (text : String) : Except String (List UInt8) :=
  okOr (decodeHexChars text.toList) (library.hexErrorText text)

def expectedShieldedRecipient (network : Network) (expectedPayTo : String)
    (profile : PaymentDisclosureProfile) : Except VerifyError ExpectedShieldedRecipient :=
  match library.decodeAddress network expectedPayTo with
  | some (.unified unifiedAddress) =>
      match profile with
      | .zip311Draft1 =>
          okOr (unifiedAddress.sapling.map ExpectedShieldedRecipient.sapling) .expectedPayToInvalid
      | .zallyIronwood =>
          okOr (unifiedAddress.orchard.map ExpectedShieldedRecipient.ironwood)
            .expectedPayToInvalid
      | .other => .error .expectedPayToInvalid
  | some .other | none => .error .expectedPayToInvalid

/-- What follows once the disclosure is parsed and its id is the one that was asked about. -/
def verifyFetched (request : VerifyRequest) (verifier : PaymentDisclosureVerifier E)
    (fetcher : DisclosureFetcher) (expectedDisclosureMessage : List UInt8)
    (disclosure : PaymentDisclosure E) (expectedRecipient : ExpectedShieldedRecipient) :
    VerifyResponse :=
  let rpcTxid := rpcTransactionIdBytes disclosure.transactionId
  let rpcTxidHex := encodeHex rpcTxid.toList
  match fetcher rpcTxid with
  | .error error =>
      shortCircuitInconclusive .transactionUnavailable (some rpcTxidHex) (chainPresenceFor error)
  | .ok transaction =>
      if transaction.txid ≠ rpcTxid then shortCircuitMalformed (some rpcTxidHex)
      else
        match verifier disclosure transaction with
        | .error error => verificationFailureResponse error rpcTxidHex
        | .ok authenticatedDisclosure =>
            match computePaymentReconciliation authenticatedDisclosure request.expectedAmountZat
                expectedRecipient with
            | none => shortCircuitMalformed (some rpcTxidHex)
            | some reconciliation =>
                reconciledResponse reconciliation
                  (decide (disclosure.message = expectedDisclosureMessage)) rpcTxidHex

def verify (request : VerifyRequest) (network : Network) (verifier : PaymentDisclosureVerifier E)
    (fetcher : DisclosureFetcher) : Except VerifyError VerifyResponse := do
  let expectedDisclosureMessage ← (hexDecode library request.expectedDisclosureMessageHex).mapError
    .expectedDisclosureMessageInvalid
  let disclosureBytes ← (hexDecode library request.disclosurePayloadHex).mapError .payloadInvalid
  match library.fromBytes disclosureBytes with
  | .error .profileUnsupported =>
      return shortCircuitInconclusive .unknownVersion none .oracleUnavailable
  | .error .other => return shortCircuitMalformed none
  | .ok disclosure =>
      let expectedRecipient ← expectedShieldedRecipient library network request.expectedPayTo
        disclosure.profile
      let rpcTxid := rpcTransactionIdBytes disclosure.transactionId
      if requestTxidMatches request.txid rpcTxid = false then
        return shortCircuitMalformed (some (encodeHex rpcTxid.toList))
      else
        return verifyFetched request verifier fetcher expectedDisclosureMessage disclosure
          expectedRecipient

end Driver

/-! ## The outputs of a pool -/

/-- The outputs of the pool that a profile discloses. -/
def VerifiedPaymentDisclosure.outputsOf (facts : VerifiedPaymentDisclosure) :
    PaymentDisclosureProfile → List VerifiedOutput
  | .zip311Draft1 => facts.saplingOutputs
  | .zallyIronwood => facts.ironwoodOutputs
  | .other => []

/-- The receiver of that pool. -/
def UnifiedAddress.receiverOf (address : UnifiedAddress) :
    PaymentDisclosureProfile → Option (Vector UInt8 43)
  | .zip311Draft1 => address.sapling
  | .zallyIronwood => address.orchard
  | .other => none

def recipientOf : PaymentDisclosureProfile → Vector UInt8 43 → Option ExpectedShieldedRecipient
  | .zip311Draft1, receiver => some (.sapling receiver)
  | .zallyIronwood, receiver => some (.ironwood receiver)
  | .other, _ => none

/-- The exact sum of some outputs. -/
def sumZat (outputs : List VerifiedOutput) : Nat :=
  (outputs.map fun output => output.amountZat.toNat).sum

section Reconciliation

variable {outputs : List VerifiedOutput} {expectedAmountZat : UInt64}
  {receiver : Vector UInt8 43} {reconciliation : PaymentReconciliation}
  {profile : PaymentDisclosureProfile} {recipient : ExpectedShieldedRecipient}

theorem compute_payment_reconciliation_of_recipient (facts : VerifiedPaymentDisclosure)
    (h : recipientOf profile receiver = some recipient) :
    computePaymentReconciliation facts expectedAmountZat recipient =
      reconcileOutputs (facts.outputsOf profile) expectedAmountZat receiver := by
  cases profile with
  | zip311Draft1 =>
      obtain rfl := Option.some.inj h
      rfl
  | zallyIronwood =>
      obtain rfl := Option.some.inj h
      rfl
  | other => exact absurd h (by simp [recipientOf])

theorem expected_shielded_recipient_ok {E : Type} {library : DisclosureLibrary E}
    {network : Network} {expectedPayTo : String} :
    expectedShieldedRecipient library network expectedPayTo profile = .ok recipient ↔
      ∃ address, library.decodeAddress network expectedPayTo = some (.unified address) ∧
        ∃ receiver, address.receiverOf profile = some receiver ∧
          recipientOf profile receiver = some recipient := by
  unfold expectedShieldedRecipient
  cases hdecoded : library.decodeAddress network expectedPayTo with
  | none => simp
  | some parsed =>
      cases parsed with
      | other => simp
      | unified address =>
          cases profile <;> simp [UnifiedAddress.receiverOf, recipientOf]

/-- Nothing is reported of outputs whose sum does not fit. -/
theorem reconcile_outputs_none :
    reconcileOutputs outputs expectedAmountZat receiver = none ↔ 2 ^ 64 ≤ sumZat outputs := by
  unfold reconcileOutputs
  by_cases hempty : outputs = []
  · subst hempty
    exact iff_of_false (by simp) (by simp [sumZat])
  · rw [if_neg hempty]
    unfold sumZat
    rw [← checkedSum_eq_none]
    cases checkedSum VerifiedOutput.amountZat outputs <;> simp

/-- What is reported of outputs: nothing was compared when there are none, and otherwise the
sum and every recipient. -/
theorem reconcile_outputs_some
    (h : reconcileOutputs outputs expectedAmountZat receiver = some reconciliation) :
    (reconciliation.amount = .match ↔
        outputs ≠ [] ∧ sumZat outputs = expectedAmountZat.toNat) ∧
      (reconciliation.recipient = .match ↔
        outputs ≠ [] ∧ ∀ output ∈ outputs, output.recipientBytes = receiver) ∧
      reconciliation.disclosedValueZat.map UInt64.toNat =
        if outputs = [] then none else some (sumZat outputs) := by
  unfold reconcileOutputs at h
  by_cases hempty : outputs = []
  · rw [if_pos hempty] at h
    obtain rfl := Option.some.inj h
    rw [if_pos hempty]
    exact ⟨iff_of_false (by simp [uncheckedPaymentReconciliation]) fun hmatch => hmatch.1 hempty,
      iff_of_false (by simp [uncheckedPaymentReconciliation]) fun hmatch => hmatch.1 hempty, rfl⟩
  · rw [if_neg hempty, Option.bind_eq_bind, Option.bind_eq_some_iff] at h
    obtain ⟨disclosed, hdisclosed, h⟩ := h
    have hsum : disclosed.toNat = sumZat outputs := checkedSum_eq_some.1 hdisclosed
    obtain rfl := Option.some.inj h
    rw [if_neg hempty]
    refine ⟨?_, ?_, congrArg some hsum⟩
    · rw [← hsum, UInt64.toNat_inj]
      by_cases hexpected : disclosed = expectedAmountZat
      · exact iff_of_true (if_pos hexpected) ⟨hempty, hexpected⟩
      · exact iff_of_false (by simp [hexpected]) fun hmatch => hexpected hmatch.2
    · by_cases hall : ∀ output ∈ outputs, output.recipientBytes = receiver
      · exact iff_of_true (if_pos (by simpa using hall)) ⟨hempty, hall⟩
      · exact iff_of_false (by simpa using hall) fun hmatch => hall hmatch.2

end Reconciliation

/-! ## What a response says -/

/-- Nothing was compared. -/
def VerifyResponse.Unchecked (response : VerifyResponse) : Prop :=
  response.amountReconciliation = .notChecked ∧ response.recipientReconciliation = .notChecked ∧
    response.messageReconciliation = .notChecked

/-- Nothing was compared, because the disclosure is not known to be valid. -/
structure VerifyResponse.Refused (response : VerifyResponse) : Prop where
  notValid : response.cryptographicVerdict ≠ .valid
  unchecked : response.Unchecked
  undisclosed : response.disclosedValueZat = none

/-- A disclosure with what it was checked against. -/
structure Receipt (E : Type) where
  disclosure : PaymentDisclosure E
  transaction : DisclosedTransaction
  facts : VerifiedPaymentDisclosure
  receiver : Vector UInt8 43
  message : List UInt8

def Receipt.outputs {E : Type} (receipt : Receipt E) : List VerifiedOutput :=
  receipt.facts.outputsOf receipt.disclosure.profile

/-- The disclosure is the one that was sent, of the transaction that was asked about and
fetched, and the verifier accepts it. -/
structure Authenticated {E : Type} (library : DisclosureLibrary E) (request : VerifyRequest)
    (network : Network) (verifier : PaymentDisclosureVerifier E) (fetcher : DisclosureFetcher)
    (receipt : Receipt E) : Prop where
  parsed : ∃ bytes, decodeHexChars request.disclosurePayloadHex.toList = some bytes ∧
    library.fromBytes bytes = .ok receipt.disclosure
  requested : decodeHexChars (trimmedTxid request.txid).toList =
    some (rpcTransactionIdBytes receipt.disclosure.transactionId).toList
  fetched : fetcher (rpcTransactionIdBytes receipt.disclosure.transactionId) =
    .ok receipt.transaction
  txid : receipt.transaction.txid = rpcTransactionIdBytes receipt.disclosure.transactionId
  accepted : verifier receipt.disclosure receipt.transaction = .ok receipt.facts
  receiver : ∃ address, library.decodeAddress network request.expectedPayTo =
      some (.unified address) ∧
    address.receiverOf receipt.disclosure.profile = some receipt.receiver
  message : decodeHexChars request.expectedDisclosureMessageHex.toList = some receipt.message

/-- Each axis says what the receipt and the request do. -/
structure AxesAgree {E : Type} (request : VerifyRequest) (receipt : Receipt E)
    (response : VerifyResponse) : Prop where
  amount : response.amountReconciliation = .match ↔
    receipt.outputs ≠ [] ∧ sumZat receipt.outputs = request.expectedAmountZat.toNat
  disclosed : response.disclosedValueZat.map UInt64.toNat =
    if receipt.outputs = [] then none else some (sumZat receipt.outputs)
  recipient : response.recipientReconciliation = .match ↔
    receipt.outputs ≠ [] ∧ ∀ output ∈ receipt.outputs, output.recipientBytes = receipt.receiver
  message : response.messageReconciliation = .match ↔
    receipt.disclosure.message = receipt.message

section Responses

variable {E : Type} {library : DisclosureLibrary E} {request : VerifyRequest} {network : Network}
  {verifier : PaymentDisclosureVerifier E} {fetcher : DisclosureFetcher} {receipt : Receipt E}
  {response : VerifyResponse}

theorem request_txid_matches_iff {requestTxidHex : String} {parsedTxid : Vector UInt8 32} :
    requestTxidMatches requestTxidHex parsedTxid = true ↔
      decodeHexChars (trimmedTxid requestTxidHex).toList = some parsedTxid.toList := by
  unfold requestTxidMatches
  cases decodeHexChars (trimmedTxid requestTxidHex).toList with
  | none => simp
  | some bytes => rw [decide_eq_true_iff, Option.some.injEq]

theorem error_verdict_ne_valid (error : DisclosureVerificationError) :
    error.verdict ≠ .valid := by
  cases error <;> decide

/-- The response to an authenticated disclosure. -/
def responseTo (request : VerifyRequest) (receipt : Receipt E) : VerifyResponse :=
  let rpcTxidHex := encodeHex (rpcTransactionIdBytes receipt.disclosure.transactionId).toList
  match reconcileOutputs receipt.outputs request.expectedAmountZat receipt.receiver with
  | none => shortCircuitMalformed (some rpcTxidHex)
  | some reconciliation =>
      reconciledResponse reconciliation (decide (receipt.disclosure.message = receipt.message))
        rpcTxidHex

theorem exists_recipient_of {address : UnifiedAddress} {profile : PaymentDisclosureProfile}
    {receiver : Vector UInt8 43} (h : address.receiverOf profile = some receiver) :
    ∃ recipient, recipientOf profile receiver = some recipient := by
  cases profile with
  | zip311Draft1 => exact ⟨_, rfl⟩
  | zallyIronwood => exact ⟨_, rfl⟩
  | other => exact absurd h (by simp [UnifiedAddress.receiverOf])

theorem verify_fetched_of_accepted (request : VerifyRequest) (receipt : Receipt E)
    {recipient : ExpectedShieldedRecipient}
    (hfetched : fetcher (rpcTransactionIdBytes receipt.disclosure.transactionId) =
      .ok receipt.transaction)
    (htxid : receipt.transaction.txid = rpcTransactionIdBytes receipt.disclosure.transactionId)
    (haccepted : verifier receipt.disclosure receipt.transaction = .ok receipt.facts)
    (hrecipient : recipientOf receipt.disclosure.profile receipt.receiver = some recipient) :
    verifyFetched request verifier fetcher receipt.message receipt.disclosure recipient =
      responseTo request receipt := by
  unfold verifyFetched responseTo
  simp only [hfetched]
  rw [if_neg (not_not.2 htxid)]
  simp only [haccepted]
  rw [compute_payment_reconciliation_of_recipient receipt.facts hrecipient]
  rfl

theorem verify_of_authenticated
    (h : Authenticated library request network verifier fetcher receipt) :
    verify library request network verifier fetcher = .ok (responseTo request receipt) := by
  obtain ⟨bytes, hbytes, hparsed⟩ := h.parsed
  obtain ⟨address, haddress, hreceiver⟩ := h.receiver
  obtain ⟨recipient, hrecipient⟩ := exists_recipient_of hreceiver
  have hexpected := expected_shielded_recipient_ok.2
    ⟨address, haddress, receipt.receiver, hreceiver, hrecipient⟩
  have hmatches := request_txid_matches_iff.2 h.requested
  have hfetched := verify_fetched_of_accepted request receipt h.fetched h.txid h.accepted hrecipient
  simp only [verify, hexDecode, h.message, hbytes, okOr, Except.mapError, hparsed, hexpected,
    hmatches, hfetched, bind, Except.bind, pure, Except.pure, Bool.true_eq_false, if_false]

theorem refused_malformed (id : Option String) : (shortCircuitMalformed id).Refused :=
  ⟨by simp [shortCircuitMalformed], ⟨rfl, rfl, rfl⟩, rfl⟩

theorem refused_inconclusive (reason : InconclusiveReason) (id : Option String)
    (presence : ChainPresence) : (shortCircuitInconclusive reason id presence).Refused :=
  ⟨by simp [shortCircuitInconclusive], ⟨rfl, rfl, rfl⟩, rfl⟩

theorem refused_verification (error : DisclosureVerificationError) (rpcTxidHex : String) :
    (verificationFailureResponse error rpcTxidHex).Refused :=
  ⟨error_verdict_ne_valid error, ⟨rfl, rfl, rfl⟩, rfl⟩

/-- Once the id is the one asked about, the request is refused, or the transaction is fetched
and the verifier accepts. -/
theorem verify_fetched_cases (request : VerifyRequest) (verifier : PaymentDisclosureVerifier E)
    (fetcher : DisclosureFetcher) (message : List UInt8) {disclosure : PaymentDisclosure E}
    {receiver : Vector UInt8 43} {recipient : ExpectedShieldedRecipient}
    (hrecipient : recipientOf disclosure.profile receiver = some recipient) :
    (verifyFetched request verifier fetcher message disclosure recipient).Refused ∨
      ∃ transaction facts,
        fetcher (rpcTransactionIdBytes disclosure.transactionId) = .ok transaction ∧
        transaction.txid = rpcTransactionIdBytes disclosure.transactionId ∧
        verifier disclosure transaction = .ok facts ∧
        verifyFetched request verifier fetcher message disclosure recipient =
          responseTo request ⟨disclosure, transaction, facts, receiver, message⟩ := by
  cases hfetched : fetcher (rpcTransactionIdBytes disclosure.transactionId) with
  | error error =>
      left
      unfold verifyFetched
      simp only [hfetched]
      exact refused_inconclusive _ _ _
  | ok transaction =>
      by_cases htxid : transaction.txid = rpcTransactionIdBytes disclosure.transactionId
      · cases haccepted : verifier disclosure transaction with
        | error error =>
            left
            unfold verifyFetched
            simp only [hfetched, haccepted]
            rw [if_neg (not_not.2 htxid)]
            exact refused_verification error _
        | ok facts =>
            refine Or.inr ⟨transaction, facts, rfl, htxid, haccepted, ?_⟩
            exact verify_fetched_of_accepted request
              ⟨disclosure, transaction, facts, receiver, message⟩ hfetched htxid haccepted
              hrecipient
      · left
        unfold verifyFetched
        simp only [hfetched]
        rw [if_pos htxid]
        exact refused_malformed _

/-- A response compared nothing, or is that to an authenticated disclosure. -/
theorem verify_ok (h : verify library request network verifier fetcher = .ok response) :
    response.Refused ∨
      ∃ receipt, Authenticated library request network verifier fetcher receipt ∧
        response = responseTo request receipt := by
  unfold verify hexDecode at h
  simp only [bind_eq_ok, mapError_eq_ok, okOr_eq_ok] at h
  obtain ⟨message, hmessage, bytes, hbytes, h⟩ := h
  cases hparsed : library.fromBytes bytes with
  | error error =>
      rw [hparsed] at h
      cases error with
      | profileUnsupported =>
          rw [pure_eq_ok] at h
          exact Or.inl (h ▸ refused_inconclusive _ _ _)
      | other =>
          rw [pure_eq_ok] at h
          exact Or.inl (h ▸ refused_malformed _)
  | ok disclosure =>
      rw [hparsed] at h
      simp only [bind_eq_ok] at h
      obtain ⟨recipient, hexpected, h⟩ := h
      obtain ⟨address, haddress, receiver, hreceiver, hrecipient⟩ :=
        expected_shielded_recipient_ok.1 hexpected
      by_cases hmatches : requestTxidMatches request.txid
          (rpcTransactionIdBytes disclosure.transactionId) = false
      · rw [if_pos hmatches, pure_eq_ok] at h
        exact Or.inl (h ▸ refused_malformed _)
      · rw [if_neg hmatches, pure_eq_ok] at h
        subst h
        rcases verify_fetched_cases request verifier fetcher message hrecipient with
          hrefused | ⟨transaction, facts, hfetched, htxid, haccepted, hresponse⟩
        · exact Or.inl hrefused
        · refine Or.inr ⟨⟨disclosure, transaction, facts, receiver, message⟩, ?_, hresponse⟩
          exact
            { parsed := ⟨bytes, hbytes, hparsed⟩
              requested := request_txid_matches_iff.1 (Bool.not_eq_false _ ▸ hmatches)
              fetched := hfetched
              txid := htxid
              accepted := haccepted
              receiver := ⟨address, haddress, hreceiver⟩
              message := hmessage }

/-- A response to an authenticated disclosure: nothing of it is reported when the sum does not
fit, and otherwise every axis. -/
theorem response_to_cases (request : VerifyRequest) (receipt : Receipt E) :
    (2 ^ 64 ≤ sumZat receipt.outputs ∧ (responseTo request receipt).Refused ∧
        (responseTo request receipt).cryptographicVerdict = .malformed) ∨
      (sumZat receipt.outputs < 2 ^ 64 ∧
        (responseTo request receipt).cryptographicVerdict = .valid ∧
        (responseTo request receipt).chainPresence = .mined ∧
        AxesAgree request receipt (responseTo request receipt)) := by
  unfold responseTo
  cases hreconciled : reconcileOutputs receipt.outputs request.expectedAmountZat
      receipt.receiver with
  | none =>
      exact Or.inl ⟨reconcile_outputs_none.1 hreconciled, refused_malformed _, rfl⟩
  | some reconciliation =>
      have hfits : ¬ 2 ^ 64 ≤ sumZat receipt.outputs := by
        rw [← reconcile_outputs_none, hreconciled]
        simp
      obtain ⟨hamount, hrecipient, hdisclosed⟩ := reconcile_outputs_some hreconciled
      refine Or.inr ⟨Nat.not_le.1 hfits, rfl, rfl, ?_⟩
      exact
        { amount := hamount
          disclosed := hdisclosed
          recipient := hrecipient
          message := by
            show (if decide _ = true then _ else _) = _ ↔ _
            by_cases hsame : receipt.disclosure.message = receipt.message
            · exact iff_of_true (if_pos (decide_eq_true hsame)) hsame
            · exact iff_of_false (by simp [hsame]) hsame }

/-- The axes of a response.  One that compared anything is about a disclosure that the
verifier accepted for the mined transaction that was asked about, and each axis says what that
disclosure and the request do; a response whose verdict is not valid compared nothing; and a
sum that does not fit is malformed. -/
theorem verify_axes_consistent (library : DisclosureLibrary E) (request : VerifyRequest)
    (network : Network) (verifier : PaymentDisclosureVerifier E) (fetcher : DisclosureFetcher)
    (response : VerifyResponse)
    (h : verify library request network verifier fetcher = .ok response) :
    (¬ response.Unchecked →
      response.cryptographicVerdict = .valid ∧ response.chainPresence = .mined ∧
        ∃ receipt, Authenticated library request network verifier fetcher receipt ∧
          AxesAgree request receipt response) ∧
    (response.cryptographicVerdict ≠ .valid →
      response.Unchecked ∧ response.disclosedValueZat = none) ∧
    ∀ receipt, Authenticated library request network verifier fetcher receipt →
      2 ^ 64 ≤ sumZat receipt.outputs → response.cryptographicVerdict = .malformed := by
  refine ⟨?_, ?_, ?_⟩
  · intro hchecked
    rcases verify_ok h with hrefused | ⟨receipt, hauthenticated, rfl⟩
    · exact absurd hrefused.unchecked hchecked
    · rcases response_to_cases request receipt with
        ⟨-, hrefused, -⟩ | ⟨-, hvalid, hmined, haxes⟩
      · exact absurd hrefused.unchecked hchecked
      · exact ⟨hvalid, hmined, receipt, hauthenticated, haxes⟩
  · intro hnotValid
    rcases verify_ok h with hrefused | ⟨receipt, -, rfl⟩
    · exact ⟨hrefused.unchecked, hrefused.undisclosed⟩
    · rcases response_to_cases request receipt with ⟨-, hrefused, -⟩ | ⟨-, hvalid, -⟩
      · exact ⟨hrefused.unchecked, hrefused.undisclosed⟩
      · exact absurd hvalid hnotValid
  · intro receipt hauthenticated hlarge
    rw [verify_of_authenticated hauthenticated] at h
    obtain rfl := Except.ok.inj h
    rcases response_to_cases request receipt with ⟨-, -, hmalformed⟩ | ⟨hfits, -⟩
    · exact hmalformed
    · omega

end Responses

/-! ### A disclosure of no output -/

/-- A disclosure as a profile byte, an id and the message. -/
def sampleLibrary : DisclosureLibrary Unit where
  fromBytes
    | 1 :: rest =>
        if h : 32 ≤ rest.length then
          .ok
            { profile := .zip311Draft1
              transactionId := ⟨(rest.take 32).toArray, by simp [h]⟩
              message := rest.drop 32
              evidence := () }
        else .error .other
    | _ => .error .profileUnsupported
  decodeAddress network address :=
    if network = .testnet ∧ address = "utest1payee" then
      some (.unified { sapling := some (.replicate 43 7), orchard := none })
    else none
  hexErrorText _ := "Odd number of digits"

def sampleFetcher : DisclosureFetcher := fun txid =>
  .ok { txid, rawTransactionBytes := [1, 2, 3], minedHeight := 42 }

/-- A verifier that accepts everything with the same outputs. -/
def sampleVerifier (outputs : List VerifiedOutput) : PaymentDisclosureVerifier Unit :=
  fun _ _ => .ok { saplingOutputs := outputs, ironwoodOutputs := [] }

def sampleVerifyRequest : VerifyRequest where
  txid := "1111111111111111111111111111111111111111111111111111111111111111"
  expectedAmountZat := 5
  expectedPayTo := "utest1payee"
  expectedDisclosureMessageHex := "6869"
  disclosurePayloadHex := "0111111111111111111111111111111111111111111111111111111111111111116869"

/-- The message is compared, and the recipient is not although no output pays another one. -/
theorem no_output_no_recipient :
    ∃ response, verify sampleLibrary sampleVerifyRequest .testnet (sampleVerifier [])
        sampleFetcher = .ok response ∧
      response.messageReconciliation = .match ∧
      ¬ (response.recipientReconciliation = .match ↔
        ∀ output ∈ VerifiedPaymentDisclosure.outputsOf ⟨[], []⟩ .zip311Draft1,
          output.recipientBytes = .replicate 43 7) := by
  refine ⟨reconciledResponse uncheckedPaymentReconciliation true sampleVerifyRequest.txid,
    by decide +kernel, rfl, ?_⟩
  intro hrecipient
  have hmatch := hrecipient.2 fun _ h => absurd h (by simp [VerifiedPaymentDisclosure.outputsOf])
  exact absurd hmatch (by decide)

theorem verify_axes_consistent_sample :
    ∃ receipt, Authenticated sampleLibrary sampleVerifyRequest .testnet
        (sampleVerifier [⟨0, .replicate 43 7, 5⟩]) sampleFetcher receipt ∧
      AxesAgree sampleVerifyRequest receipt
        (reconciledResponse ⟨.match, .match, some 5⟩ true sampleVerifyRequest.txid) :=
  ((verify_axes_consistent sampleLibrary sampleVerifyRequest .testnet
    (sampleVerifier [⟨0, .replicate 43 7, 5⟩]) sampleFetcher
    (reconciledResponse ⟨.match, .match, some 5⟩ true sampleVerifyRequest.txid)
    (by decide +kernel)).1 (by simp [VerifyResponse.Unchecked, reconciledResponse])).2.2

/-! ## Outputs that are listed twice -/

/-- The outputs that a recipient is compared with. -/
def ExpectedShieldedRecipient.outputsIn (facts : VerifiedPaymentDisclosure) :
    ExpectedShieldedRecipient → List VerifiedOutput
  | .sapling _ => facts.saplingOutputs
  | .ironwood _ => facts.ironwoodOutputs

/-- The sum over the different outputs of the transaction. -/
def distinctZat (outputs : List VerifiedOutput) : Nat :=
  sumDistinct VerifiedOutput.index (fun output => output.amountZat.toNat) outputs

/-- What is reported counts every output of the transaction once: nothing of a list without
outputs, and nothing when even that sum does not fit. -/
def CountsOnce (outputs : List VerifiedOutput) (expectedAmountZat : UInt64) :
    Option PaymentReconciliation → Prop
  | none => 2 ^ 64 ≤ distinctZat outputs
  | some reconciliation =>
      if outputs = [] then
        reconciliation.disclosedValueZat = none ∧ reconciliation.amount = .notChecked
      else
        reconciliation.disclosedValueZat.map UInt64.toNat = some (distinctZat outputs) ∧
          (reconciliation.amount = .match ↔ distinctZat outputs = expectedAmountZat.toNat)

theorem reconcile_outputs_counts_once_iff {outputs : List VerifiedOutput}
    {expectedAmountZat : UInt64} {receiver : Vector UInt8 43}
    (hfacts : ∀ a ∈ outputs, ∀ b ∈ outputs, a.index = b.index → a = b) :
    CountsOnce outputs expectedAmountZat
        (reconcileOutputs outputs expectedAmountZat receiver) ↔
      (outputs.Pairwise fun a b => a.amountZat ≠ 0 → a.index ≠ b.index) ∨
        2 ^ 64 ≤ distinctZat outputs := by
  have hzero : ∀ a : UInt64, a ≠ 0 ↔ a.toNat ≠ 0 := by
    intro a
    exact not_congr UInt64.toNat_inj.symm
  have honce : sumZat outputs = distinctZat outputs ↔
      outputs.Pairwise fun a b => a.amountZat ≠ 0 → a.index ≠ b.index := by
    simp only [hzero]
    exact sumDistinct_eq_iff hfacts
  have hle : distinctZat outputs ≤ sumZat outputs := sumDistinct_le hfacts
  rw [← honce]
  cases hreconciled : reconcileOutputs outputs expectedAmountZat receiver with
  | none =>
      have hlarge := reconcile_outputs_none.1 hreconciled
      show 2 ^ 64 ≤ distinctZat outputs ↔ _
      omega
  | some reconciliation =>
      have hfits : ¬ 2 ^ 64 ≤ sumZat outputs := by
        rw [← reconcile_outputs_none, hreconciled]
        simp
      obtain ⟨hamount, -, hdisclosed⟩ := reconcile_outputs_some hreconciled
      show (if outputs = [] then _ else _) ↔ _
      by_cases hempty : outputs = []
      · subst hempty
        rw [if_pos rfl]
        rw [reconcileOutputs, if_pos rfl] at hreconciled
        obtain rfl := Option.some.inj hreconciled
        exact iff_of_true ⟨rfl, rfl⟩ (Or.inl rfl)
      · rw [if_neg hempty] at hdisclosed ⊢
        rw [hdisclosed, Option.some.injEq, hamount]
        constructor
        · intro hcounts
          exact Or.inl hcounts.1
        · rintro (hsame | hlarge)
          · rw [hsame]
            exact ⟨rfl, and_iff_right hempty⟩
          · omega

/-- No output counts twice exactly when none of a positive amount is listed twice, unless the
sum is too large however it is counted. -/
theorem disclosed_value_counts_once_iff (facts : VerifiedPaymentDisclosure)
    (expectedAmountZat : UInt64) (recipient : ExpectedShieldedRecipient)
    (hfacts : ∀ a ∈ recipient.outputsIn facts, ∀ b ∈ recipient.outputsIn facts,
      a.index = b.index → a = b) :
    CountsOnce (recipient.outputsIn facts) expectedAmountZat
        (computePaymentReconciliation facts expectedAmountZat recipient) ↔
      ((recipient.outputsIn facts).Pairwise fun a b => a.amountZat ≠ 0 → a.index ≠ b.index) ∨
        2 ^ 64 ≤ distinctZat (recipient.outputsIn facts) := by
  cases recipient with
  | sapling receiver => exact reconcile_outputs_counts_once_iff hfacts
  | ironwood receiver => exact reconcile_outputs_counts_once_iff hfacts

/-- One output of 5 zat, listed twice, makes up the 10 zat that were expected. -/
theorem repeated_output_counted_twice :
    computePaymentReconciliation ⟨[⟨0, .replicate 43 7, 5⟩, ⟨0, .replicate 43 7, 5⟩], []⟩ 10
        (.sapling (.replicate 43 7)) = some ⟨.match, .match, some 10⟩ ∧
      ¬ CountsOnce [⟨0, .replicate 43 7, 5⟩, ⟨0, .replicate 43 7, 5⟩] 10
        (some ⟨.match, .match, some 10⟩) := by
  refine ⟨by decide, ?_⟩
  rintro ⟨hdisclosed, -⟩
  exact absurd hdisclosed (by decide)

theorem disclosed_value_counts_once_iff_sample :
    CountsOnce [⟨0, .replicate 43 7, 5⟩, ⟨1, .replicate 43 7, 7⟩] 12
      (computePaymentReconciliation ⟨[⟨0, .replicate 43 7, 5⟩, ⟨1, .replicate 43 7, 7⟩], []⟩ 12
        (.sapling (.replicate 43 7))) := by
  refine (disclosed_value_counts_once_iff
    ⟨[⟨0, .replicate 43 7, 5⟩, ⟨1, .replicate 43 7, 7⟩], []⟩ 12 (.sapling (.replicate 43 7))
    (by decide)).2 (Or.inl ?_)
  simp [ExpectedShieldedRecipient.outputsIn]

end Zpay.Core
