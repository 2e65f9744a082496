import Mathlib.Algebra.Order.Ring.Int

/-!
# Textual encodings

The encodings requests and stored rows are written in: decimal `u64` strings,
as `str::parse` reads them, hexadecimal, and unpadded URL-safe base64, with the
strict decoder that rejects padding, foreign characters and nonzero trailing
bits.

## Main results

* `parseU64_eq_some` — the strings that are read as a number.
* `encode_decodeBase64Url` — a text that decodes is the one its bytes encode to.
* `decode_encodeBase64Url` — every byte string is read back.
-/

namespace Zpay.Data

/-! ## Decimal -/

def digitValue (c : Char) : Option Nat :=
  if c.isDigit then some (c.toNat - 48) else none

/-- Reads digits most significant first, onto the value read so far. -/
def parseDigits (value : Nat) : List Char → Option Nat
  | [] => some value
  | c :: cs =>
      match digitValue c with
      | some digit => parseDigits (10 * value + digit) cs
      | none => none

/-- `str::parse::<u64>`: one optional leading `+`, then one or more ASCII
digits whose value fits. -/
def parseU64 (s : String) : Option UInt64 :=
  let digits := match s.toList with
    | '+' :: rest => rest
    | cs => cs
  if digits.isEmpty then none
  else
    match parseDigits 0 digits with
    | some value => if value < 2 ^ 64 then some (UInt64.ofNat value) else none
    | none => none

/-- Decimal digits, one at least, and the number they denote. -/
def Denotes (digits : List Char) (value : Nat) : Prop :=
  digits ≠ [] ∧ (∀ c ∈ digits, c.isDigit = true) ∧ Nat.ofDigitChars 10 digits 0 = value

theorem parseDigits_eq_some {value result : Nat} {cs : List Char} :
    parseDigits value cs = some result ↔
      (∀ c ∈ cs, c.isDigit = true) ∧ Nat.ofDigitChars 10 cs value = result := by
  induction cs generalizing value with
  | nil => simp [parseDigits, Nat.ofDigitChars_nil]
  | cons c cs ih =>
      rw [parseDigits, Nat.ofDigitChars_cons, List.forall_mem_cons]
      unfold digitValue
      by_cases hdigit : c.isDigit = true
      · rw [if_pos hdigit]
        simp only [hdigit, true_and]
        exact ih
      · rw [if_neg hdigit]
        exact iff_of_false (by simp) fun h => hdigit h.1.1

/-- What is read of digits alone. -/
theorem readDigits_eq_some {digits : List Char} {value : UInt64} :
    (if digits.isEmpty then none
      else
        match parseDigits 0 digits with
        | some value => if value < 2 ^ 64 then some (UInt64.ofNat value) else none
        | none => none) = some value ↔ Denotes digits value.toNat := by
  unfold Denotes
  cases digits with
  | nil => simp
  | cons c cs =>
      rw [if_neg (by simp)]
      simp only [ne_eq, List.cons_ne_nil, not_false_eq_true, true_and]
      cases hdigits : parseDigits 0 (c :: cs) with
      | none =>
          refine iff_of_false (by simp) fun h => ?_
          rw [parseDigits_eq_some.2 h] at hdigits
          exact absurd hdigits (by simp)
      | some read =>
          obtain ⟨hall, hread⟩ := parseDigits_eq_some.1 hdigits
          rw [hread]
          simp only
          split
          · next hfits =>
              rw [Option.some.injEq, ← UInt64.toNat_inj, UInt64.toNat_ofNat_of_lt' hfits]
              exact (and_iff_right hall).symm
          · next hlarge =>
              refine iff_of_false (by simp) fun h => hlarge ?_
              rw [h.2]
              exact value.toNat_lt

/-- What is read is digits, but for one leading `+`, and denotes what they say. -/
theorem parseU64_eq_some {s : String} {value : UInt64} :
    parseU64 s = some value ↔
      ∃ digits, (s.toList = digits ∨ s.toList = '+' :: digits) ∧ Denotes digits value.toNat := by
  have hplus : ¬ ('+').isDigit = true := by decide
  unfold parseU64
  simp only
  split
  · next rest hs =>
      rw [readDigits_eq_some, hs]
      constructor
      · intro h
        exact ⟨rest, Or.inr rfl, h⟩
      · rintro ⟨digits, hsame | hsame, h⟩
        · subst hsame
          exact absurd (h.2.1 '+' List.mem_cons_self) hplus
        · rw [List.cons.injEq] at hsame
          exact hsame.2 ▸ h
  · next hs =>
      rw [readDigits_eq_some]
      constructor
      · intro h
        exact ⟨s.toList, Or.inl rfl, h⟩
      · rintro ⟨digits, hsame | hsame, h⟩
        · exact hsame ▸ h
        · exact absurd hsame (hs digits)

/-! ## Hexadecimal -/

/-- `char::to_digit(16)`. -/
def hexValue (c : Char) : Option Nat :=
  if c.isDigit then some (c.toNat - 48)
  else if 'a' ≤ c ∧ c ≤ 'f' then some (c.toNat - 87)
  else if 'A' ≤ c ∧ c ≤ 'F' then some (c.toNat - 55)
  else none

/-- `char::is_ascii_hexdigit`. -/
def isHexDigit (c : Char) : Bool := (hexValue c).isSome

/-- `hex::decode`: an even number of digits, high nibble first. -/
def decodeHexChars : List Char → Option (List UInt8)
  | [] => some []
  | [_] => none
  | h :: l :: rest =>
      match hexValue h, hexValue l, decodeHexChars rest with
      | some high, some low, some bytes => some (.ofNat (16 * high + low) :: bytes)
      | _, _, _ => none

/-- `hex::encode`: lower-case digits, high nibble first. -/
def encodeHex (bytes : List UInt8) : String :=
  String.ofList (bytes.flatMap fun byte =>
    [Nat.digitChar (byte.toNat / 16), Nat.digitChar (byte.toNat % 16)])

/-- Hex digits take one byte each. -/
theorem utf8Size_of_isHexDigit {c : Char} (h : isHexDigit c = true) : c.utf8Size = 1 := by
  have hsmall : c.toNat ≤ 127 := by
    unfold isHexDigit hexValue at h
    split at h
    · next hdigit =>
        simp only [Char.isDigit, Bool.and_eq_true, decide_eq_true_eq] at hdigit
        have hupper : c.toNat ≤ 57 := hdigit.2
        omega
    · split at h
      · next hlower =>
          have hupper : c.toNat ≤ 102 := hlower.2
          omega
      · split at h
        · next hcapital =>
            have hupper : c.toNat ≤ 70 := hcapital.2
            omega
        · exact absurd h (by decide)
  unfold Char.utf8Size
  exact if_pos hsmall

/-- A string of hex digits of even length decodes. -/
theorem decodeHexChars_isSome : ∀ (cs : List Char), cs.length % 2 = 0 →
    cs.all isHexDigit = true → (decodeHexChars cs).isSome = true
  | [], _, _ => rfl
  | [_], hlength, _ => absurd hlength (by simp)
  | h :: l :: rest, hlength, hdigits => by
      have hrest : rest.length % 2 = 0 := by
        simp only [List.length_cons] at hlength
        omega
      rw [List.all_cons, List.all_cons, Bool.and_eq_true, Bool.and_eq_true] at hdigits
      obtain ⟨high, hhigh⟩ := Option.isSome_iff_exists.1 hdigits.1
      obtain ⟨low, hlow⟩ := Option.isSome_iff_exists.1 hdigits.2.1
      obtain ⟨bytes, hbytes⟩ := Option.isSome_iff_exists.1
        (decodeHexChars_isSome rest hrest hdigits.2.2)
      simp [decodeHexChars, hhigh, hlow, hbytes]

/-! ## Base64 -/

/-- The URL-safe alphabet. -/
def base64UrlAlphabet : List Char :=
  "ABCDEFGHIJKLMNOPQRSTUVWXYZabcdefghijklmnopqrstuvwxyz0123456789-_".toList

def sextetChar (sextet : Nat) : Char := base64UrlAlphabet.getD sextet 'A'

def charSextet (c : Char) : Option Nat := base64UrlAlphabet.idxOf? c

def encodeBase64UrlChars : List UInt8 → List Char
  | [] => []
  | [a] => [sextetChar (a.toNat / 4), sextetChar (a.toNat % 4 * 16)]
  | [a, b] =>
      [sextetChar (a.toNat / 4), sextetChar (a.toNat % 4 * 16 + b.toNat / 16),
        sextetChar (b.toNat % 16 * 4)]
  | a :: b :: c :: rest =>
      sextetChar (a.toNat / 4) :: sextetChar (a.toNat % 4 * 16 + b.toNat / 16) ::
        sextetChar (b.toNat % 16 * 4 + c.toNat / 64) :: sextetChar (c.toNat % 64) ::
        encodeBase64UrlChars rest

/-- `URL_SAFE_NO_PAD.encode`. -/
def encodeBase64Url (bytes : List UInt8) : String :=
  String.ofList (encodeBase64UrlChars bytes)

def decodeBase64UrlChars : List Char → Option (List UInt8)
  | [] => some []
  | [_] => none
  | [w, x] => do
      let i ← charSextet w
      let j ← charSextet x
      if j % 16 = 0 then some [.ofNat (i * 4 + j / 16)] else none
  | [w, x, y] => do
      let i ← charSextet w
      let j ← charSextet x
      let k ← charSextet y
      if k % 4 = 0 then some [.ofNat (i * 4 + j / 16), .ofNat (j % 16 * 16 + k / 4)] else none
  | w :: x :: y :: z :: rest => do
      let i ← charSextet w
      let j ← charSextet x
      let k ← charSextet y
      let l ← charSextet z
      let bytes ← decodeBase64UrlChars rest
      some (.ofNat (i * 4 + j / 16) :: .ofNat (j % 16 * 16 + k / 4) ::
        .ofNat (k % 4 * 64 + l) :: bytes)

/-- `URL_SAFE_NO_PAD.decode`. -/
def decodeBase64Url (text : String) : Option (List UInt8) :=
  decodeBase64UrlChars text.toList

theorem sextetChar_of_charSextet {c : Char} {sextet : Nat} (h : charSextet c = some sextet) :
    sextetChar sextet = c ∧ sextet < 64 := by
  unfold charSextet at h
  obtain ⟨hlt, hchar, -⟩ := List.idxOf?_eq_some_iff.1 h
  refine ⟨?_, hlt⟩
  unfold sextetChar
  rw [List.getD_eq_getElem?_getD, List.getElem?_eq_getElem hlt, Option.getD_some]
  exact hchar

theorem toNat_ofNat_byte {n : Nat} (h : n < 256) : (UInt8.ofNat n).toNat = n :=
  UInt8.toNat_ofNat_of_lt' h

/-- The decoder reads canonical text only: encoding what it read gives the text back. -/
theorem encode_decodeBase64UrlChars : ∀ (cs : List Char) (bytes : List UInt8),
    decodeBase64UrlChars cs = some bytes → encodeBase64UrlChars bytes = cs
  | [], bytes, h => by
      rw [decodeBase64UrlChars, Option.some.injEq] at h
      subst h
      rfl
  | [_], _, h => absurd h (by simp [decodeBase64UrlChars])
  | [w, x], bytes, h => by
      simp only [decodeBase64UrlChars, Option.bind_eq_bind, Option.bind_eq_some_iff] at h
      obtain ⟨i, hi, j, hj, h⟩ := h
      obtain ⟨hw, hi⟩ := sextetChar_of_charSextet hi
      obtain ⟨hx, hj⟩ := sextetChar_of_charSextet hj
      split at h
      · next htrailing =>
          rw [Option.some.injEq] at h
          subst h
          rw [encodeBase64UrlChars, toNat_ofNat_byte (by omega), ← hw, ← hx]
          have h1 : (i * 4 + j / 16) / 4 = i := by omega
          have h2 : (i * 4 + j / 16) % 4 * 16 = j := by omega
          rw [h1, h2]
      · exact absurd h (by simp)
  | [w, x, y], bytes, h => by
      simp only [decodeBase64UrlChars, Option.bind_eq_bind, Option.bind_eq_some_iff] at h
      obtain ⟨i, hi, j, hj, k, hk, h⟩ := h
      obtain ⟨hw, hi⟩ := sextetChar_of_charSextet hi
      obtain ⟨hx, hj⟩ := sextetChar_of_charSextet hj
      obtain ⟨hy, hk⟩ := sextetChar_of_charSextet hk
      split at h
      · next htrailing =>
          rw [Option.some.injEq] at h
          subst h
          rw [encodeBase64UrlChars, toNat_ofNat_byte (by omega), toNat_ofNat_byte (by omega), ← hw,
            ← hx, ← hy]
          have h1 : (i * 4 + j / 16) / 4 = i := by omega
          have h2 : (i * 4 + j / 16) % 4 * 16 + (j % 16 * 16 + k / 4) / 16 = j := by omega
          have h3 : (j % 16 * 16 + k / 4) % 16 * 4 = k := by omega
          rw [h1, h2, h3]
      · exact absurd h (by simp)
  | w :: x :: y :: z :: rest, bytes, h => by
      simp only [decodeBase64UrlChars, Option.bind_eq_bind, Option.bind_eq_some_iff] at h
      obtain ⟨i, hi, j, hj, k, hk, l, hl, tail, htail, h⟩ := h
      obtain ⟨hw, hi⟩ := sextetChar_of_charSextet hi
      obtain ⟨hx, hj⟩ := sextetChar_of_charSextet hj
      obtain ⟨hy, hk⟩ := sextetChar_of_charSextet hk
      obtain ⟨hz, hl⟩ := sextetChar_of_charSextet hl
      have hrest := encode_decodeBase64UrlChars rest tail htail
      rw [Option.some.injEq] at h
      subst h
      rw [encodeBase64UrlChars, toNat_ofNat_byte (by omega), toNat_ofNat_byte (by omega),
        toNat_ofNat_byte (by omega), hrest, ← hw, ← hx, ← hy, ← hz]
      have h1 : (i * 4 + j / 16) / 4 = i := by omega
      have h2 : (i * 4 + j / 16) % 4 * 16 + (j % 16 * 16 + k / 4) / 16 = j := by omega
      have h3 : (j % 16 * 16 + k / 4) % 16 * 4 + (k % 4 * 64 + l) / 64 = k := by omega
      have h4 : (k % 4 * 64 + l) % 64 = l := by omega
      rw [h1, h2, h3, h4]

theorem encode_decodeBase64Url {text : String} {bytes : List UInt8}
    (h : decodeBase64Url text = some bytes) : encodeBase64Url bytes = text := by
  unfold decodeBase64Url at h
  unfold encodeBase64Url
  rw [encode_decodeBase64UrlChars _ _ h, String.ofList_toList]

theorem charSextet_sextetChar {sextet : Nat} (h : sextet < 64) :
    charSextet (sextetChar sextet) = some sextet := by
  have hall : ∀ i : Fin 64, charSextet (sextetChar i) = some i.val := by decide +kernel
  exact hall ⟨sextet, h⟩

theorem byte_lt (byte : UInt8) : byte.toNat < 256 := byte.toNat_lt

/-- Every byte string is read back from what it is written as. -/
theorem decode_encodeBase64UrlChars : ∀ bytes : List UInt8,
    decodeBase64UrlChars (encodeBase64UrlChars bytes) = some bytes
  | [] => rfl
  | [a] => by
      have ha := byte_lt a
      rw [encodeBase64UrlChars, decodeBase64UrlChars, charSextet_sextetChar (by omega),
        charSextet_sextetChar (by omega)]
      have hpad : a.toNat % 4 * 16 % 16 = 0 := by omega
      have h1 : a.toNat / 4 * 4 + a.toNat % 4 * 16 / 16 = a.toNat := by omega
      simp only [Option.bind_eq_bind, Option.bind_some, hpad, if_true, h1, UInt8.ofNat_toNat]
  | [a, b] => by
      have ha := byte_lt a
      have hb := byte_lt b
      rw [encodeBase64UrlChars, decodeBase64UrlChars, charSextet_sextetChar (by omega),
        charSextet_sextetChar (by omega), charSextet_sextetChar (by omega)]
      have hpad : b.toNat % 16 * 4 % 4 = 0 := by omega
      have h1 : a.toNat / 4 * 4 + (a.toNat % 4 * 16 + b.toNat / 16) / 16 = a.toNat := by omega
      have h2 : (a.toNat % 4 * 16 + b.toNat / 16) % 16 * 16 + b.toNat % 16 * 4 / 4 = b.toNat := by
        omega
      simp only [Option.bind_eq_bind, Option.bind_some, hpad, if_true, h1, h2, UInt8.ofNat_toNat]
  | a :: b :: c :: rest => by
      have ha := byte_lt a
      have hb := byte_lt b
      have hc := byte_lt c
      have hrest := decode_encodeBase64UrlChars rest
      rw [encodeBase64UrlChars, decodeBase64UrlChars, charSextet_sextetChar (by omega),
        charSextet_sextetChar (by omega), charSextet_sextetChar (by omega),
        charSextet_sextetChar (by omega), hrest]
      have h1 : a.toNat / 4 * 4 + (a.toNat % 4 * 16 + b.toNat / 16) / 16 = a.toNat := by omega
      have h2 : (a.toNat % 4 * 16 + b.toNat / 16) % 16 * 16 +
          (b.toNat % 16 * 4 + c.toNat / 64) / 4 = b.toNat := by omega
      have h3 : (b.toNat % 16 * 4 + c.toNat / 64) % 4 * 64 + c.toNat % 64 = c.toNat := by omega
      simp only [Option.bind_eq_bind, Option.bind_some, h1, h2, h3, UInt8.ofNat_toNat]

theorem decode_encodeBase64Url (bytes : List UInt8) :
    decodeBase64Url (encodeBase64Url bytes) = some bytes := by
  unfold decodeBase64Url encodeBase64Url
  rw [String.toList_ofList, decode_encodeBase64UrlChars]

example : decodeBase64Url "UENaVAIAAAAA" = some [80, 67, 90, 84, 2, 0, 0, 0, 0] := by decide

end Zpay.Data
