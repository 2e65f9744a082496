import Mathlib.Data.Set.Function
import Zpay.Core.Prepare
import Zpay.Data.Separated

/-!
# What the protocol memo binds

`compose_binding_memo` hashes the payee, the scheme, the network, the resource and the
nonce into one digest, the resource alone into a second one, and appends the evidence
hash.  The fields of the first pre-image are joined by zero bytes and not escaped, so
by itself it does not say where the resource ends and the nonce begins; the second
digest does.

SHA-256 is a parameter.  It cannot be injective, having 32 bytes to say what it was
given; what is assumed is that it has no collision among the pre-images in question.

## Main results

* `challenge_preimage_inj` — what the challenge pre-image determines.
* `challenge_preimage_determines_iff` — which pairs of resource and nonce it tells apart.
* `compose_binding_memo_binds` — the memo determines every input.
-/

open Zpay.Data

namespace Zpay.Core

/-! ## Inputs -/

/-- The arguments of `compose_binding_memo`. -/
@[ext]
structure BindingInputs where
  payeeId : PayeeId
  scheme : PaymentScheme
  network : PaymentNetwork
  resourceUri : String
  nonce : String
  evidencePack : Option (Vector UInt8 32)
  deriving DecidableEq

namespace BindingInputs

variable (sha256 : List UInt8 → Vector UInt8 32) (inputs : BindingInputs)

def challenge : List UInt8 :=
  challengePreimage inputs.payeeId inputs.scheme inputs.network inputs.resourceUri inputs.nonce

def resource : List UInt8 := resourcePreimage inputs.resourceUri

def memo : List UInt8 :=
  composeBindingMemo (fun bytes => (sha256 bytes).toList) inputs.payeeId inputs.scheme
    inputs.network inputs.resourceUri inputs.nonce (inputs.evidencePack.map Vector.toList)

end BindingInputs

/-! ## The pre-images -/

section Preimages

variable {payeeId payeeId' : PayeeId} {scheme scheme' : PaymentScheme}
  {network network' : PaymentNetwork} {resourceUri resourceUri' nonce nonce' : String}

theorem networkByte_injective : Function.Injective networkByte := by
  intro a b hab
  cases a <;> cases b <;> first | rfl | exact absurd hab (by decide)

/-- The pre-image with the two last fields and the zero byte between them as one text. -/
theorem challenge_preimage_eq :
    challengePreimage payeeId scheme network resourceUri nonce =
      domainTagChallenge ++ 0 :: (payeeId.value.toUTF8.toList ++ 0 :: schemeByte scheme :: 0 ::
        networkByte network :: 0 :: (resourceUri ++ "\x00" ++ nonce).toUTF8.toList) := by
  unfold challengePreimage
  rw [bytes_append, bytes_append, bytes_nul]
  simp only [List.append_assoc, List.cons_append, List.nil_append]

/-- Everything before the resource is determined, and the two last fields up to where
one ends. -/
theorem challenge_preimage_inj (hpayee : '\x00' ∉ payeeId.value.toList)
    (hpayee' : '\x00' ∉ payeeId'.value.toList)
    (h : challengePreimage payeeId scheme network resourceUri nonce =
      challengePreimage payeeId' scheme' network' resourceUri' nonce') :
    payeeId = payeeId' ∧ scheme = scheme' ∧ network = network' ∧
      resourceUri ++ "\x00" ++ nonce = resourceUri' ++ "\x00" ++ nonce' := by
  rw [challenge_preimage_eq, challenge_preimage_eq] at h
  obtain ⟨-, hfields⟩ := List.cons.inj (List.append_cancel_left h)
  obtain ⟨hid, hrest⟩ := append_sep_inj (mt zero_mem_bytes.1 hpayee)
    (mt zero_mem_bytes.1 hpayee') hfields
  obtain ⟨-, hrest⟩ := List.cons.inj hrest
  obtain ⟨-, hrest⟩ := List.cons.inj hrest
  obtain ⟨hnetwork, hrest⟩ := List.cons.inj hrest
  obtain ⟨-, htext⟩ := List.cons.inj hrest
  refine ⟨?_, rfl, networkByte_injective hnetwork, bytes_inj.1 htext⟩
  cases payeeId
  cases payeeId'
  exact congrArg PayeeId.mk (bytes_inj.1 hid)

theorem resource_preimage_inj (h : resourcePreimage resourceUri = resourcePreimage resourceUri') :
    resourceUri = resourceUri' :=
  bytes_inj.1 (List.append_cancel_left h)

/-- The two domain tags differ in their ninth byte. -/
theorem challenge_ne_resource :
    challengePreimage payeeId scheme network resourceUri nonce ≠
      resourcePreimage resourceUri' := by
  have hchallenge : domainTagChallenge[8]? = some 99 := by
    unfold domainTagChallenge
    rw [bytes_eq_flatMap]
    rfl
  have hresource : domainTagResource[8]? = some 114 := by
    unfold domainTagResource
    rw [bytes_eq_flatMap]
    rfl
  intro h
  have hninth := congrArg (fun bytes => bytes[8]?) h
  rw [challenge_preimage_eq] at hninth
  unfold resourcePreimage at hninth
  simp only [List.append_assoc] at hninth
  rw [List.getElem?_append_left (List.getElem?_eq_some_iff.1 hchallenge).1,
    List.getElem?_append_left (List.getElem?_eq_some_iff.1 hresource).1, hchallenge,
    hresource] at hninth
  exact absurd hninth (by decide)

/-! ## Resource and nonce -/

/-- Two pairs have one pre-image exactly when they are two cuts of one text. -/
theorem challenge_preimage_eq_iff :
    challengePreimage payeeId scheme network resourceUri nonce =
        challengePreimage payeeId scheme network resourceUri' nonce' ↔
      resourceUri ++ "\x00" ++ nonce = resourceUri' ++ "\x00" ++ nonce' := by
  rw [challenge_preimage_eq, challenge_preimage_eq, List.append_cancel_left_eq]
  simp only [List.cons.injEq, List.append_cancel_left_eq, true_and, bytes_inj]

/-- Resources without NUL characters are told apart from the nonces that follow them. -/
theorem challenge_preimage_inj_of_nul_free (huri : '\x00' ∉ resourceUri.toList)
    (huri' : '\x00' ∉ resourceUri'.toList)
    (h : challengePreimage payeeId scheme network resourceUri nonce =
      challengePreimage payeeId scheme network resourceUri' nonce') :
    resourceUri = resourceUri' ∧ nonce = nonce' := by
  rcases text_sep_eq_iff.1 (challenge_preimage_eq_iff.1 h) with hsame | hlater | hlater
  · exact hsame
  · exact absurd (textCutLater_iff.1 hlater).mem huri'
  · exact absurd (textCutLater_iff.1 hlater).mem huri

end Preimages

/-- For one payee, scheme and network the pre-image tells two pairs apart unless one is
the other with text that ends in NUL moved from the nonce to the resource. -/
theorem challenge_preimage_determines_iff (payeeId : PayeeId) (scheme : PaymentScheme)
    (network : PaymentNetwork) (resourceUri nonce resourceUri' nonce' : String) :
    (challengePreimage payeeId scheme network resourceUri nonce =
        challengePreimage payeeId scheme network resourceUri' nonce' →
      resourceUri = resourceUri' ∧ nonce = nonce') ↔
      ¬ TextCutLater resourceUri nonce resourceUri' nonce' ∧
        ¬ TextCutLater resourceUri' nonce' resourceUri nonce := by
  rw [challenge_preimage_eq_iff, text_sep_eq_iff]
  constructor
  · intro hdetermined
    constructor
    · intro hlater
      obtain ⟨rfl, -⟩ := hdetermined (Or.inr (Or.inl hlater))
      exact hlater.ne rfl
    · intro hlater
      obtain ⟨rfl, -⟩ := hdetermined (Or.inr (Or.inr hlater))
      exact hlater.ne rfl
  · rintro ⟨hnot, hnot'⟩ (hsame | hlater | hlater)
    · exact hsame
    · exact absurd hlater hnot
    · exact absurd hlater hnot'

/-- A nonce that moves into the resource is not noticed. -/
theorem moved_nonce_same_preimage :
    ¬ ∀ payeeId scheme network resourceUri nonce resourceUri' nonce',
      challengePreimage payeeId scheme network resourceUri nonce =
          challengePreimage payeeId scheme network resourceUri' nonce' →
        resourceUri = resourceUri' ∧ nonce = nonce' := by
  intro hdetermined
  have hsame := hdetermined ⟨"aether-ai"⟩ .zcash .testnet "https://example.test/r" "a\x00b"
    "https://example.test/r\x00a" "b" (challenge_preimage_eq_iff.2 (by decide))
  exact absurd hsame.1 (by decide)

/-! ## The memo -/

section Memo

variable {sha256 : List UInt8 → Vector UInt8 32} {inputs inputs' : BindingInputs}

/-- The memo in four parts, the second and third of 32 bytes. -/
theorem memo_eq : inputs.memo sha256 = [protocolMemoTag, protocolMemoVersion] ++
    ((sha256 inputs.challenge).toList ++ ((sha256 inputs.resource).toList ++
      (inputs.evidencePack.map Vector.toList).getD [])) := by
  unfold BindingInputs.memo composeBindingMemo
  rw [List.append_assoc, List.append_assoc]
  rfl

theorem memo_length :
    (inputs.memo sha256).length = if inputs.evidencePack.isSome then 98 else 66 := by
  rw [memo_eq]
  cases hevidence : inputs.evidencePack with
  | none => simp
  | some evidence => simp

/-- Evidence is never empty. -/
theorem evidence_inj {pack pack' : Option (Vector UInt8 32)}
    (h : (pack.map Vector.toList).getD [] = (pack'.map Vector.toList).getD []) : pack = pack' := by
  have hlength := congrArg List.length h
  cases pack with
  | none =>
      cases pack' with
      | none => rfl
      | some evidence' => simp at hlength
  | some evidence =>
      cases pack' with
      | none => simp at hlength
      | some evidence' => exact congrArg some (Vector.toList_inj.1 h)

/-- Equal memos have equal digests and equal evidence. -/
theorem memo_inj (h : inputs.memo sha256 = inputs'.memo sha256) :
    sha256 inputs.challenge = sha256 inputs'.challenge ∧
      sha256 inputs.resource = sha256 inputs'.resource ∧
      inputs.evidencePack = inputs'.evidencePack := by
  rw [memo_eq, memo_eq] at h
  obtain ⟨hchallenge, hrest⟩ := List.append_inj (List.append_cancel_left h) (by simp)
  obtain ⟨hresource, hevidence⟩ := List.append_inj hrest (by simp)
  exact ⟨Vector.toList_inj.1 hchallenge, Vector.toList_inj.1 hresource, evidence_inj hevidence⟩

/-- Two calls that hash the same things and have the same evidence are the same call. -/
theorem inputs_eq (hpayee : '\x00' ∉ inputs.payeeId.value.toList)
    (hpayee' : '\x00' ∉ inputs'.payeeId.value.toList)
    (hchallenge : inputs.challenge = inputs'.challenge)
    (hresource : inputs.resource = inputs'.resource)
    (hevidence : inputs.evidencePack = inputs'.evidencePack) : inputs = inputs' := by
  obtain ⟨hid, hscheme, hnetwork, htext⟩ := challenge_preimage_inj hpayee hpayee' hchallenge
  have huri : inputs.resourceUri = inputs'.resourceUri := resource_preimage_inj hresource
  have hnonce : inputs.nonce = inputs'.nonce := by
    rw [huri, ← String.toList_inj] at htext
    simp only [String.toList_append] at htext
    exact String.toList_inj.1 (List.append_cancel_left htext)
  exact BindingInputs.ext hid hscheme hnetwork huri hnonce hevidence

end Memo

/-- The digest tells apart what two calls hash. -/
def CollisionFree (sha256 : List UInt8 → Vector UInt8 32) (inputs inputs' : BindingInputs) :
    Prop :=
  Set.InjOn sha256 {inputs.challenge, inputs.resource, inputs'.challenge, inputs'.resource}

/-- Without collisions the memo determines every input; its length says whether there is
evidence, its first bytes are the tag and the version, and no challenge is a resource. -/
theorem compose_binding_memo_binds (sha256 : List UInt8 → Vector UInt8 32) :
    (∀ inputs inputs' : BindingInputs, '\x00' ∉ inputs.payeeId.value.toList →
      '\x00' ∉ inputs'.payeeId.value.toList → CollisionFree sha256 inputs inputs' →
      (inputs.memo sha256 = inputs'.memo sha256 ↔ inputs = inputs')) ∧
    (∀ inputs : BindingInputs,
      (inputs.memo sha256).length = (if inputs.evidencePack.isSome then 98 else 66) ∧
      (inputs.memo sha256).take 2 = [protocolMemoTag, protocolMemoVersion]) ∧
    ∀ inputs inputs' : BindingInputs, inputs.challenge ≠ inputs'.resource := by
  refine ⟨?_, ?_, fun _ _ => challenge_ne_resource⟩
  · intro inputs inputs' hpayee hpayee' hfree
    constructor
    · intro hmemo
      obtain ⟨hchallenge, hresource, hevidence⟩ := memo_inj hmemo
      exact inputs_eq hpayee hpayee' (hfree (by simp) (by simp) hchallenge)
        (hfree (by simp) (by simp) hresource) hevidence
    · rintro rfl
      rfl
  · intro inputs
    refine ⟨memo_length, ?_⟩
    rw [memo_eq]
    rfl

/-! ### Two nonces for one resource -/

def sampleInputs (nonce : String) : BindingInputs where
  payeeId := ⟨"aether-ai"⟩
  scheme := .zcash
  network := .testnet
  resourceUri := "https://example.test/resources/fixture"
  nonce := nonce
  evidencePack := none

/-- SHA-256 at the three pre-images of the two calls. -/
def sampleSha256 (bytes : List UInt8) : Vector UInt8 32 :=
  if bytes = (sampleInputs "nonce-a").challenge then
    #v[214, 231, 67, 149, 18, 50, 163, 136, 186, 108, 85, 121, 83, 205, 99, 152, 64, 19, 77, 29,
      232, 26, 35, 41, 96, 151, 131, 53, 176, 66, 207, 209]
  else if bytes = (sampleInputs "nonce-b").challenge then
    #v[185, 216, 249, 109, 230, 12, 101, 111, 85, 228, 239, 235, 171, 254, 250, 170, 70, 7, 140,
      154, 227, 125, 170, 170, 129, 237, 156, 171, 190, 229, 159, 6]
  else
    #v[203, 34, 81, 6, 92, 133, 248, 25, 137, 194, 63, 175, 46, 241, 5, 22, 124, 253, 62, 44, 180,
      95, 146, 7, 199, 32, 212, 117, 89, 202, 40, 211]

theorem sample_collision_free :
    CollisionFree sampleSha256 (sampleInputs "nonce-a") (sampleInputs "nonce-b") := by
  have hnonces : (sampleInputs "nonce-b").challenge ≠ (sampleInputs "nonce-a").challenge := by
    intro h
    exact absurd (challenge_preimage_eq_iff.1 h) (by decide)
  have hresource : ∀ nonce nonce',
      (sampleInputs nonce).resource ≠ (sampleInputs nonce').challenge :=
    fun _ _ => challenge_ne_resource.symm
  have hone : (sampleInputs "nonce-b").resource = (sampleInputs "nonce-a").resource := rfl
  unfold CollisionFree
  rw [hone]
  intro x hx y hy hdigest
  simp only [Set.mem_insert_iff, Set.mem_singleton_iff] at hx hy
  rcases hx with rfl | rfl | rfl | rfl <;> rcases hy with rfl | rfl | rfl | rfl <;>
    first
      | rfl
      | (simp only [sampleSha256, if_pos, if_neg hnonces, if_neg (hresource _ _)] at hdigest
         exact absurd hdigest (by decide))

theorem compose_binding_memo_binds_nonces :
    (sampleInputs "nonce-a").memo sampleSha256 ≠ (sampleInputs "nonce-b").memo sampleSha256 :=
  mt ((compose_binding_memo_binds sampleSha256).1 (sampleInputs "nonce-a")
    (sampleInputs "nonce-b") (by decide) (by decide) sample_collision_free).1 (by decide)

end Zpay.Core
