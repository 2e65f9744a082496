import Mathlib.Data.List.DropRight
import Zpay.Data.Encoding
import Zpay.Data.Text

/-!
# Fixed-point decimals

A number of units of `10 ^ -places`, written as a whole part and, where there is one, a
fraction of at most `places` digits.  The fraction is widened with zeros on the left to all
its places and trimmed of the zeros on its right; a reader widens it on the right again.

## Main results

* `padRight_trimZeros` — trimming and widening on the right gives the digits back.
* `canonical_formatDecimal` — what is written is canonical.
* `read_formatDecimal` — and is read back as the number.
-/

namespace Zpay.Data

variable {places value fraction : Nat} {digits text : List Char}

/-! ## Digits with zeros around them -/

/-- Zeros in front, up to the width. -/
def padLeft (width : Nat) (digits : List Char) : List Char :=
  List.replicate (width - digits.length) '0' ++ digits

/-- Zeros at the end, up to the width. -/
def padRight (width : Nat) (digits : List Char) : List Char :=
  digits ++ List.replicate (width - digits.length) '0'

/-- `str::trim_end_matches('0')`. -/
def trimZeros (digits : List Char) : List Char := digits.rdropWhile (· == '0')

theorem length_padLeft (h : digits.length ≤ places) : (padLeft places digits).length = places := by
  unfold padLeft
  rw [List.length_append, List.length_replicate]
  omega

/-- Zeros in front do not change the value. -/
theorem ofDigitChars_padLeft :
    Nat.ofDigitChars 10 (padLeft places digits) 0 = Nat.ofDigitChars 10 digits 0 := by
  unfold padLeft
  rw [Nat.ofDigitChars_append, Nat.ofDigitChars_replicate_zero, Nat.mul_zero]

/-- What is trimmed is zeros, as many as the width is short of. -/
theorem padRight_trimZeros (h : digits.length = places) :
    padRight places (trimZeros digits) = digits := by
  have hsplit : trimZeros digits ++ digits.rtakeWhile (· == '0') = digits :=
    List.rdropWhile_append_rtakeWhile
  have hlength := congrArg List.length hsplit
  rw [List.length_append, h] at hlength
  have hzeros : digits.rtakeWhile (· == '0') =
      List.replicate (places - (trimZeros digits).length) '0' := by
    refine List.eq_replicate_iff.2 ⟨by omega, fun c hc => ?_⟩
    have hzero : (c == '0') = true := List.mem_rtakeWhile_imp (p := (· == '0')) hc
    exact beq_iff_eq.1 hzero
  unfold padRight
  rw [← hzeros, hsplit]

/-! ## Canonical digits -/

/-- A whole part: digits, and no zero in front but a lone one. -/
structure CanonicalWhole (digits : List Char) : Prop where
  nonempty : digits ≠ []
  digit : ∀ c ∈ digits, c.isDigit = true
  leading : digits.head? = some '0' → digits = ['0']

/-- A fraction: one digit to `places`, the last one not zero. -/
structure CanonicalFraction (places : Nat) (digits : List Char) : Prop where
  nonempty : digits ≠ []
  digit : ∀ c ∈ digits, c.isDigit = true
  short : digits.length ≤ places
  trailing : digits.getLast? ≠ some '0'

/-- A whole part alone, or one with a point and a fraction. -/
def CanonicalDecimal (places : Nat) (text : List Char) : Prop :=
  CanonicalWhole text ∨ ∃ whole fraction, text = whole ++ '.' :: fraction ∧
    CanonicalWhole whole ∧ CanonicalFraction places fraction

theorem isDigit_toDigits {n : Nat} {c : Char} (h : c ∈ Nat.toDigits 10 n) : c.isDigit = true :=
  Nat.isDigit_of_mem_toDigits (by decide) (by decide) h

theorem head_toDigits {n : Nat} (hn : 0 < n) : (Nat.toDigits 10 n).head? ≠ some '0' := by
  induction n using Nat.strongRecOn with
  | ind n ih =>
      by_cases hsmall : n < 10
      · have hvalue : n.digitChar.toNat = 48 + n := by
          rw [Nat.toNat_digitChar_of_lt_ten hsmall]
        have hzero : ('0').toNat = 48 := rfl
        rw [Nat.toDigits_of_lt_base hsmall, List.head?_cons]
        intro h
        have hchar := congrArg Char.toNat (Option.some.inj h)
        omega
      · have htens : 0 < n / 10 := by omega
        rw [Nat.toDigits_of_base_le (by decide) (by omega),
          List.head?_append_of_ne_nil _ Nat.toDigits_ne_nil]
        exact ih (n / 10) (by omega) htens

theorem canonical_toDigits (n : Nat) : CanonicalWhole (Nat.toDigits 10 n) where
  nonempty := Nat.toDigits_ne_nil
  digit _ hc := isDigit_toDigits hc
  leading hhead := by
    by_cases hzero : n = 0
    · rw [hzero, Nat.toDigits_zero]
    · exact absurd hhead (head_toDigits (Nat.pos_of_ne_zero hzero))

/-- A fraction of units, with all its places and then without the zeros at the end. -/
def fractionDigits (places fraction : Nat) : List Char :=
  trimZeros (padLeft places (Nat.toDigits 10 fraction))

theorem length_toDigits (hpositive : 0 < fraction) (hfraction : fraction < 10 ^ places) :
    (Nat.toDigits 10 fraction).length ≤ places := by
  have hplaces : 0 < places := by
    by_contra hzero
    have hnone : places = 0 := by omega
    rw [hnone, Nat.pow_zero] at hfraction
    omega
  exact (Nat.length_toDigits_le_iff (by decide) hplaces).2 hfraction

theorem padRight_fractionDigits (hpositive : 0 < fraction) (hfraction : fraction < 10 ^ places) :
    padRight places (fractionDigits places fraction) =
      padLeft places (Nat.toDigits 10 fraction) :=
  padRight_trimZeros (length_padLeft (length_toDigits hpositive hfraction))

theorem isDigit_padLeft {c : Char} (h : c ∈ padLeft places (Nat.toDigits 10 fraction)) :
    c.isDigit = true := by
  rcases List.mem_append.1 h with hzero | hdigit
  · rw [List.eq_of_mem_replicate hzero]
    rfl
  · exact isDigit_toDigits hdigit

theorem ofDigitChars_fractionDigits (hpositive : 0 < fraction)
    (hfraction : fraction < 10 ^ places) :
    Nat.ofDigitChars 10 (padRight places (fractionDigits places fraction)) 0 = fraction := by
  rw [padRight_fractionDigits hpositive hfraction, ofDigitChars_padLeft,
    Nat.ofDigitChars_ten_toDigits]

theorem canonical_fractionDigits (hpositive : 0 < fraction) (hfraction : fraction < 10 ^ places) :
    CanonicalFraction places (fractionDigits places fraction) := by
  have hstarts : fractionDigits places fraction <+: padLeft places (Nat.toDigits 10 fraction) :=
    List.rdropWhile_prefix _ _
  have hnonempty : fractionDigits places fraction ≠ [] := by
    intro hnone
    have hvalue := ofDigitChars_fractionDigits hpositive hfraction
    rw [hnone, padRight, List.nil_append, Nat.ofDigitChars_replicate_zero] at hvalue
    omega
  refine ⟨hnonempty, fun c hc => isDigit_padLeft (hstarts.subset hc), ?_, ?_⟩
  · have hlength := hstarts.length_le
    rw [length_padLeft (length_toDigits hpositive hfraction)] at hlength
    exact hlength
  · rw [List.getLast?_eq_getLast_of_ne_nil hnonempty]
    intro hlast
    exact List.rdropWhile_last_not _ _ hnonempty (beq_iff_eq.2 (Option.some.inj hlast))

/-! ## Writing and reading -/

def formatDecimal (places value : Nat) : List Char :=
  if value % 10 ^ places = 0 then Nat.toDigits 10 (value / 10 ^ places)
  else Nat.toDigits 10 (value / 10 ^ places) ++ '.' :: fractionDigits places (value % 10 ^ places)

/-- The whole part, and the fraction widened on the right to all its places. -/
def readDecimal (places : Nat) (text : List Char) : Option Nat :=
  match Text.splitOnceChars ['.'] text with
  | none => (parseDigits 0 text).map fun whole => whole * 10 ^ places
  | some (wholeText, fractionText) => do
      let whole ← parseDigits 0 wholeText
      let fraction ← parseDigits 0 (padRight places fractionText)
      return whole * 10 ^ places + fraction

theorem point_not_mem (h : ∀ c ∈ digits, c.isDigit = true) : '.' ∉ digits :=
  fun hpoint => absurd (h '.' hpoint) (by decide)

theorem fraction_bounds (h : ¬ value % 10 ^ places = 0) :
    0 < value % 10 ^ places ∧ value % 10 ^ places < 10 ^ places :=
  ⟨Nat.pos_of_ne_zero h, Nat.mod_lt _ (Nat.pow_pos (by decide))⟩

theorem canonical_formatDecimal (places value : Nat) :
    CanonicalDecimal places (formatDecimal places value) := by
  unfold formatDecimal
  by_cases hwhole : value % 10 ^ places = 0
  · rw [if_pos hwhole]
    exact Or.inl (canonical_toDigits _)
  · obtain ⟨hpositive, hbound⟩ := fraction_bounds hwhole
    rw [if_neg hwhole]
    exact Or.inr ⟨_, _, rfl, canonical_toDigits _, canonical_fractionDigits hpositive hbound⟩

theorem parse_toDigits (n : Nat) : parseDigits 0 (Nat.toDigits 10 n) = some n :=
  parseDigits_eq_some.2 ⟨fun _ hc => isDigit_toDigits hc, Nat.ofDigitChars_ten_toDigits⟩

theorem read_formatDecimal (places value : Nat) :
    readDecimal places (formatDecimal places value) = some value := by
  have hdigits : '.' ∉ Nat.toDigits 10 (value / 10 ^ places) :=
    point_not_mem fun _ hc => isDigit_toDigits hc
  have hvalue : value / 10 ^ places * 10 ^ places + value % 10 ^ places = value := by
    rw [Nat.mul_comm]
    exact Nat.div_add_mod value (10 ^ places)
  unfold formatDecimal readDecimal
  by_cases hwhole : value % 10 ^ places = 0
  · rw [if_pos hwhole, Text.splitOnceChars_none hdigits]
    simp only [parse_toDigits, Option.map_some]
    rw [hwhole, Nat.add_zero] at hvalue
    rw [hvalue]
  · obtain ⟨hpositive, hbound⟩ := fraction_bounds hwhole
    have hfraction : parseDigits 0 (padRight places (fractionDigits places (value % 10 ^ places))) =
        some (value % 10 ^ places) := by
      refine parseDigits_eq_some.2 ⟨fun c hc => ?_, ofDigitChars_fractionDigits hpositive hbound⟩
      rw [padRight_fractionDigits hpositive hbound] at hc
      exact isDigit_padLeft hc
    rw [if_neg hwhole, List.append_cons, Text.splitOnceChars_append hdigits]
    simp only [parse_toDigits, hfraction, Option.bind_eq_bind, Option.bind_some]
    rw [hvalue]
    rfl

end Zpay.Data
