import Zpay.Core.Prepare
import Zpay.Data.Decimal

/-!
# What a payment URI says

`compose_payment_uri` writes a recipient, an amount in whole coins and a memo.  Read again,
the URI is cut at the first `?amount=` and then at the first `&memo=`; the amount is a
fixed-point decimal of eight places and the memo is base64.  A recipient without a question
mark comes back as it went in, with every amount and every memo.

## Main results

* `format_zec_from_zat_toList` — the amount is written as the decimal of eight places.
* `read_compose_payment_uri` — everything is read back.
* `read_entry_uri` — also from the URI a stored row is given again.
-/

open Zpay.Data

namespace Zpay.Core

/-! ## The amount -/

/-- The digits of a whole coin that are after the point. -/
def zecPlaces : Nat := 8

theorem trimmed_fraction_toList (fraction : Nat) :
    (trimmedFraction fraction).toList = fractionDigits zecPlaces fraction := by
  have hdigits : (toString fraction).toList = Nat.toDigits 10 fraction := Nat.toList_repr
  unfold trimmedFraction
  simp only [hdigits, String.toList_ofList]
  rfl

theorem format_zec_from_zat_toList (amountZat : UInt64) :
    (formatZecFromZat amountZat).toList = formatDecimal zecPlaces amountZat.toNat := by
  have hunits : 10 ^ zecPlaces = 100000000 := rfl
  have hpoint : ".".toList = ['.'] := rfl
  have hdigits : (toString (amountZat.toNat / 100000000)).toList =
      Nat.toDigits 10 (amountZat.toNat / 100000000) := Nat.toList_repr
  unfold formatZecFromZat formatDecimal
  rw [hunits]
  by_cases hwhole : amountZat.toNat % 100000000 = 0
  · simp only [hwhole, if_true]
    exact hdigits
  · simp only [hwhole, if_false]
    rw [String.toList_append, String.toList_append, hdigits, hpoint, trimmed_fraction_toList,
      List.append_assoc, List.singleton_append]

/-- An amount has no character of the separators. -/
theorem ampersand_not_mem_amount (amountZat : UInt64) :
    '&' ∉ (formatZecFromZat amountZat).toList := by
  have hdigits : ∀ {digits : List Char}, (∀ c ∈ digits, c.isDigit = true) → '&' ∉ digits :=
    fun hall hmem => absurd (hall '&' hmem) (by decide)
  rw [format_zec_from_zat_toList]
  rcases canonical_formatDecimal zecPlaces amountZat.toNat with
    hwhole | ⟨whole, fraction, htext, hwhole, hfraction⟩
  · exact hdigits hwhole.digit
  · rw [htext, List.mem_append, List.mem_cons]
    rintro (hmem | hpoint | hmem)
    · exact hdigits hwhole.digit hmem
    · exact absurd hpoint (by decide)
    · exact hdigits hfraction.digit hmem

/-! ## The URI -/

/-- The recipient, the amount in units and the memo a payment URI carries. -/
def readPaymentUri (uri : String) : Option (String × Nat × List UInt8) := do
  let rest ← Text.stripPrefix "zcash:" uri
  let (recipient, query) ← Text.splitOnce "?amount=" rest
  let (amount, memo) ← Text.splitOnce "&memo=" query
  let amountZat ← readDecimal zecPlaces amount.toList
  let memoBytes ← decodeBase64Url memo
  return (recipient, amountZat, memoBytes)

theorem read_compose_payment_uri {recipient : String} (hrecipient : '?' ∉ recipient.toList)
    (amountZat : UInt64) (memo : List UInt8) :
    readPaymentUri (composePaymentUri recipient amountZat memo) =
      some (recipient, amountZat.toNat, memo) := by
  have huri : composePaymentUri recipient amountZat memo =
      "zcash:" ++ (recipient ++ "?amount=" ++
        (formatZecFromZat amountZat ++ "&memo=" ++ encodeBase64Url memo)) := by
    unfold composePaymentUri
    simp only [String.append_assoc]
  have hamount : readDecimal zecPlaces (formatZecFromZat amountZat).toList =
      some amountZat.toNat := by
    rw [format_zec_from_zat_toList]
    exact read_formatDecimal zecPlaces amountZat.toNat
  unfold readPaymentUri
  rw [huri, Text.stripPrefix_append]
  simp only [Option.bind_eq_bind, Option.bind_some]
  rw [Text.splitOnce_append rfl hrecipient]
  simp only [Option.bind_some]
  rw [Text.splitOnce_append rfl (ampersand_not_mem_amount amountZat)]
  simp only [Option.bind_some, hamount, decode_encodeBase64Url]
  rfl

/-- The store keeps no URI: the one it derives from a row says what the row does. -/
theorem read_entry_uri {row : PreparedTxRow} (paymentId : PaymentId)
    (hrecipient : '?' ∉ row.recipientUnifiedAddress.toList) :
    readPaymentUri (row.toEntry paymentId).preparation.paymentUri =
      some (row.recipientUnifiedAddress, row.amountZat.toNat, row.memoBytes) :=
  read_compose_payment_uri hrecipient row.amountZat row.memoBytes

/-- Every amount is written as a canonical decimal that is read back as the amount, and for a
recipient without a question mark the URI is read back as what it was composed of, so that no
two amounts or memos share one. -/
theorem payment_uri_exact :
    (∀ amountZat : UInt64,
      CanonicalDecimal zecPlaces (formatZecFromZat amountZat).toList ∧
      readDecimal zecPlaces (formatZecFromZat amountZat).toList = some amountZat.toNat) ∧
    ∀ recipient : String, '?' ∉ recipient.toList →
      (∀ amountZat memo, readPaymentUri (composePaymentUri recipient amountZat memo) =
        some (recipient, amountZat.toNat, memo)) ∧
      Function.Injective fun paid : UInt64 × List UInt8 =>
        composePaymentUri recipient paid.1 paid.2 := by
  refine ⟨fun amountZat => ?_, fun recipient hrecipient => ⟨?_, ?_⟩⟩
  · rw [format_zec_from_zat_toList]
    exact ⟨canonical_formatDecimal zecPlaces _, read_formatDecimal zecPlaces _⟩
  · exact read_compose_payment_uri hrecipient
  · rintro ⟨amountZat, memo⟩ ⟨amountZat', memo'⟩ hsame
    have hread := congrArg readPaymentUri hsame
    simp only [read_compose_payment_uri hrecipient, Option.some.injEq, Prod.mk.injEq] at hread
    obtain ⟨-, hamount, hmemo⟩ := hread
    rw [UInt64.toNat_inj.1 hamount, hmemo]

/-- Half a coin and one unit, under a memo of two bytes. -/
theorem payment_uri_exact_sample :
    composePaymentUri "utest1q" 50000001 [255, 2] = "zcash:utest1q?amount=0.50000001&memo=_wI" ∧
    readPaymentUri "zcash:utest1q?amount=0.50000001&memo=_wI" =
      some ("utest1q", 50000001, [255, 2]) := by
  have hcomposed : composePaymentUri "utest1q" 50000001 [255, 2] =
      "zcash:utest1q?amount=0.50000001&memo=_wI" := by
    decide +kernel
  refine ⟨hcomposed, ?_⟩
  rw [← hcomposed]
  exact (payment_uri_exact.2 "utest1q" (by decide)).1 50000001 [255, 2]

end Zpay.Core
