import Mathlib.Data.List.Basic

/-!
# Fields with a separator between them

Two fields written one after the other with a separator between them can be read
back when the separator does not occur in the first one.  When it may, one list can
be cut in several ways, and any two of them differ by what lies between the two cuts.

The same for text, and for the bytes of text, whose separator is the NUL character.

## Main results

* `append_sep_inj` — the first separator, where the first field has none.
* `append_sep_eq_iff` — every way in which two cuts give one list.
* `bytes_append`, `bytes_inj`, `zero_mem_bytes` — the UTF-8 bytes of a string.
-/

namespace Zpay.Data

/-! ## Lists -/

section Lists

variable {α : Type*} {sep : α} {xs ys rest rest' : List α}

/-- The second cut is further right: it moves a separator and what follows it from the
second field to the first. -/
def CutLater (sep : α) (xs rest ys rest' : List α) : Prop :=
  ∃ moved, ys = xs ++ sep :: moved ∧ rest = moved ++ sep :: rest'

theorem CutLater.append_eq (h : CutLater sep xs rest ys rest') :
    xs ++ sep :: rest = ys ++ sep :: rest' := by
  obtain ⟨moved, rfl, rfl⟩ := h
  rw [List.append_assoc, List.cons_append]

/-- Two cuts of one list are the same cut, or one of them is later. -/
theorem append_sep_eq_iff :
    xs ++ sep :: rest = ys ++ sep :: rest' ↔
      (xs = ys ∧ rest = rest') ∨ CutLater sep xs rest ys rest' ∨
        CutLater sep ys rest' xs rest := by
  constructor
  · intro h
    rcases List.append_eq_append_iff.1 h with ⟨between, hys, hrest⟩ | ⟨between, hxs, hrest⟩
    · cases between with
      | nil =>
          injection hrest with _ hrest
          exact Or.inl ⟨(hys.trans (List.append_nil xs)).symm, hrest⟩
      | cons x moved =>
          injection hrest with hhead hrest
          exact Or.inr (Or.inl ⟨moved, hhead ▸ hys, hrest⟩)
    · cases between with
      | nil =>
          injection hrest with _ hrest
          exact Or.inl ⟨hxs.trans (List.append_nil ys), hrest.symm⟩
      | cons y moved =>
          injection hrest with hhead hrest
          exact Or.inr (Or.inr ⟨moved, hhead ▸ hxs, hrest⟩)
  · rintro (⟨rfl, rfl⟩ | hlater | hlater)
    · rfl
    · exact hlater.append_eq
    · exact hlater.append_eq.symm

/-- A cut that is later has a separator in its first field. -/
theorem CutLater.mem (h : CutLater sep xs rest ys rest') : sep ∈ ys := by
  obtain ⟨moved, rfl, -⟩ := h
  exact List.mem_append_right xs List.mem_cons_self

/-- Where the first field has no separator there is one cut. -/
theorem append_sep_inj (hxs : sep ∉ xs) (hys : sep ∉ ys)
    (h : xs ++ sep :: rest = ys ++ sep :: rest') : xs = ys ∧ rest = rest' := by
  rcases append_sep_eq_iff.1 h with hsame | hlater | hlater
  · exact hsame
  · exact absurd hlater.mem hys
  · exact absurd hlater.mem hxs

end Lists

/-! ## Text -/

/-- `CutLater` at the NUL character, for strings. -/
def TextCutLater (first second first' second' : String) : Prop :=
  ∃ moved : String, first' = first ++ "\x00" ++ moved ∧ second = moved ++ "\x00" ++ second'

theorem textCutLater_iff {first second first' second' : String} :
    TextCutLater first second first' second' ↔
      CutLater '\x00' first.toList second.toList first'.toList second'.toList := by
  have hnul : "\x00".toList = ['\x00'] := rfl
  constructor
  · rintro ⟨moved, rfl, rfl⟩
    exact ⟨moved.toList, by simp [hnul], by simp [hnul]⟩
  · rintro ⟨moved, hfirst, hsecond⟩
    refine ⟨String.ofList moved, ?_, ?_⟩
    · rw [← String.toList_inj, hfirst]
      simp [hnul]
    · rw [← String.toList_inj, hsecond]
      simp [hnul]

theorem TextCutLater.ne {first second first' second' : String}
    (h : TextCutLater first second first' second') : first ≠ first' := by
  rintro rfl
  obtain ⟨moved, hfirst, -⟩ := h
  have hlength := congrArg String.length hfirst
  simp only [String.length_append] at hlength
  have hnul : "\x00".length = 1 := rfl
  omega

/-- Two strings cut at a NUL character. -/
theorem text_sep_eq_iff {first second first' second' : String} :
    first ++ "\x00" ++ second = first' ++ "\x00" ++ second' ↔
      (first = first' ∧ second = second') ∨ TextCutLater first second first' second' ∨
        TextCutLater first' second' first second := by
  have hchars : ∀ a b : String, (a ++ "\x00" ++ b).toList = a.toList ++ '\x00' :: b.toList := by
    intro a b
    rw [String.toList_append, String.toList_append, List.append_assoc]
    rfl
  rw [← String.toList_inj, hchars, hchars, append_sep_eq_iff, textCutLater_iff, textCutLater_iff,
    String.toList_inj, String.toList_inj]

/-! ## The bytes of text -/

section Bytes

theorem toList_loop_eq (bytes : ByteArray) (i : Nat) (read : List UInt8) :
    ByteArray.toList.loop bytes i read = read.reverse ++ bytes.data.toList.drop i := by
  fun_induction ByteArray.toList.loop bytes i read with
  | case1 i read hlt ih =>
      have hbound : i < bytes.data.toList.length := by simpa using hlt
      have hget : bytes.get! i = bytes.data.toList[i] := by simp [ByteArray.get!, hlt]
      rw [ih, List.reverse_cons, List.append_assoc, List.singleton_append, hget,
        List.getElem_cons_drop]
  | case2 i read hge =>
      have hend : bytes.data.toList.drop i = [] := List.drop_eq_nil_of_le (Nat.not_lt.1 hge)
      rw [hend, List.append_nil]

/-- The bytes of text are the bytes of its characters. -/
theorem bytes_eq_flatMap (s : String) :
    s.toUTF8.toList = s.toList.flatMap String.utf8EncodeChar := by
  have hchars : s.toUTF8 = (s.toList.flatMap String.utf8EncodeChar).toByteArray := by
    show s.toByteArray = s.toList.utf8Encode
    simp
  have hwhole : s.toUTF8.toList = s.toUTF8.data.toList := toList_loop_eq s.toUTF8 0 []
  rw [hwhole, hchars, List.toList_data_toByteArray]

theorem bytes_append (s t : String) :
    (s ++ t).toUTF8.toList = s.toUTF8.toList ++ t.toUTF8.toList := by
  rw [bytes_eq_flatMap, bytes_eq_flatMap, bytes_eq_flatMap, String.toList_append,
    List.flatMap_append]

theorem bytes_inj {s t : String} : s.toUTF8.toList = t.toUTF8.toList ↔ s = t := by
  constructor
  · intro h
    have hdata : ∀ u : String, u.toUTF8.toList = u.toUTF8.data.toList :=
      fun u => toList_loop_eq u.toUTF8 0 []
    rw [hdata, hdata, Array.toList_inj] at h
    exact String.toByteArray_inj.1 (ByteArray.ext h)
  · rintro rfl
    rfl

theorem bytes_nul : "\x00".toUTF8.toList = [0] := by
  rw [bytes_eq_flatMap]
  rfl

theorem ofNat_eq_zero_iff {n : Nat} (hn : n < 256) : 0 = UInt8.ofNat n ↔ n = 0 := by
  rw [← UInt8.toNat_inj, UInt8.toNat_ofNat_of_lt' hn]
  exact eq_comm

/-- Only the NUL character has a zero byte. -/
theorem zero_mem_utf8EncodeChar {c : Char} : 0 ∈ String.utf8EncodeChar c ↔ c = '\x00' := by
  constructor
  · intro h
    have hval : c.val.toNat = 0 := by
      unfold String.utf8EncodeChar at h
      simp only at h
      -- the bytes of a longer character all have their highest bit set
      split at h
      · next hsmall =>
          rwa [List.mem_singleton, ofNat_eq_zero_iff (by omega)] at h
      split at h
      · simp only [List.mem_cons, List.not_mem_nil, or_false] at h
        rcases h with h | h
        all_goals
          rw [ofNat_eq_zero_iff (by omega)] at h
          omega
      split at h
      · simp only [List.mem_cons, List.not_mem_nil, or_false] at h
        rcases h with h | h | h
        all_goals
          rw [ofNat_eq_zero_iff (by omega)] at h
          omega
      · simp only [List.mem_cons, List.not_mem_nil, or_false] at h
        rcases h with h | h | h | h
        all_goals
          rw [ofNat_eq_zero_iff (by omega)] at h
          omega
    exact Char.ext (UInt32.toNat_inj.1 hval)
  · rintro rfl
    decide

/-- Text without a NUL character has no zero byte. -/
theorem zero_mem_bytes {s : String} : 0 ∈ s.toUTF8.toList ↔ '\x00' ∈ s.toList := by
  rw [bytes_eq_flatMap, List.mem_flatMap]
  constructor
  · rintro ⟨c, hc, hzero⟩
    exact zero_mem_utf8EncodeChar.1 hzero ▸ hc
  · intro hnul
    exact ⟨_, hnul, zero_mem_utf8EncodeChar.2 rfl⟩

end Bytes

end Zpay.Data
