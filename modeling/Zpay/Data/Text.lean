import Mathlib.Algebra.Order.Ring.Int

/-!
# Text as the standard library reads it

The string operations of the source that Lean's own do not match character for
character: trimming by the Unicode white-space property, prefix stripping, splitting
at the first occurrence of a separator, and lengths in UTF-8 bytes.  All of them work
on the list of characters, so they evaluate in proofs.

## Main results

* `splitOnceChars_append` — what is split at a separator that does not begin earlier.
-/

namespace Zpay.Data.Text

/-- `char::is_whitespace`: the `White_Space` property. -/
def isWhitespace (c : Char) : Bool :=
  let n := c.toNat
  (decide (0x9 ≤ n) && decide (n ≤ 0xD)) || n == 0x20 || n == 0x85 || n == 0xA0 ||
    n == 0x1680 || (decide (0x2000 ≤ n) && decide (n ≤ 0x200A)) || n == 0x2028 ||
    n == 0x2029 || n == 0x202F || n == 0x205F || n == 0x3000

/-- `str::trim`. -/
def trim (s : String) : String :=
  String.ofList (((s.toList.dropWhile isWhitespace).reverse.dropWhile isWhitespace).reverse)

/-- `str::strip_prefix`. -/
def stripPrefix (pre s : String) : Option String :=
  if pre.toList.isPrefixOf s.toList then some (String.ofList (s.toList.drop pre.length))
  else none

/-- `str::starts_with`. -/
def startsWith (s pre : String) : Bool := pre.toList.isPrefixOf s.toList

/-- `str::contains`, on characters. -/
def containsChars (part : List Char) : List Char → Bool
  | [] => part.isEmpty
  | c :: cs => part.isPrefixOf (c :: cs) || containsChars part cs

def contains (s part : String) : Bool := containsChars part.toList s.toList

/-- `str::split_once`, on characters: what is before and after the first occurrence. -/
def splitOnceChars (sep : List Char) : List Char → Option (List Char × List Char)
  | [] => if sep.isEmpty then some ([], []) else none
  | c :: cs =>
      if sep.isPrefixOf (c :: cs) then some ([], (c :: cs).drop sep.length)
      else (splitOnceChars sep cs).map fun (before, after) => (c :: before, after)

def splitOnce (sep s : String) : Option (String × String) :=
  (splitOnceChars sep.toList s.toList).map fun (before, after) =>
    (String.ofList before, String.ofList after)

/-- `str::len`: the number of UTF-8 bytes. -/
def byteLength (s : String) : Nat := (s.toList.map fun c => c.utf8Size).sum

theorem stripPrefix_append (pre s : String) : stripPrefix pre (pre ++ s) = some s := by
  have hstarts : pre.toList.isPrefixOf (pre ++ s).toList = true := by
    rw [String.toList_append, List.isPrefixOf_iff_prefix]
    exact List.prefix_append _ _
  unfold stripPrefix
  rw [if_pos hstarts, String.toList_append, ← String.length_toList, List.drop_left,
    String.ofList_toList]

/-- A separator does not begin at another character than its first. -/
theorem not_isPrefixOf_cons {c d : Char} {sep text : List Char} (hhead : c ≠ d) :
    ¬ (c :: sep).isPrefixOf (d :: text) = true := by
  rw [List.isPrefixOf_iff_prefix, List.cons_prefix_cons]
  exact fun h => hhead h.1

/-- What comes before a separator whose first character does not occur there. -/
theorem splitOnceChars_append {c : Char} {sep before after : List Char} (hbefore : c ∉ before) :
    splitOnceChars (c :: sep) (before ++ (c :: sep) ++ after) = some (before, after) := by
  induction before with
  | nil =>
      have hstarts : (c :: sep).isPrefixOf (c :: (sep ++ after)) = true := by
        rw [List.isPrefixOf_iff_prefix]
        exact List.prefix_append (c :: sep) after
      rw [List.nil_append, List.cons_append, splitOnceChars, if_pos hstarts, List.length_cons,
        List.drop_succ_cons, List.drop_left]
  | cons d before ih =>
      have hhead : c ≠ d := fun h => hbefore (h ▸ List.mem_cons_self)
      rw [List.cons_append, List.cons_append, splitOnceChars, if_neg (not_isPrefixOf_cons hhead),
        ih fun h => hbefore (List.mem_cons_of_mem d h), Option.map_some]

theorem splitOnceChars_none {c : Char} {sep text : List Char} (htext : c ∉ text) :
    splitOnceChars (c :: sep) text = none := by
  induction text with
  | nil => rfl
  | cons d text ih =>
      have hhead : c ≠ d := fun h => htext (h ▸ List.mem_cons_self)
      rw [splitOnceChars, if_neg (not_isPrefixOf_cons hhead),
        ih fun h => htext (List.mem_cons_of_mem d h), Option.map_none]

theorem splitOnce_append {c : Char} {rest : List Char} {sep before after : String}
    (hsep : sep.toList = c :: rest) (hbefore : c ∉ before.toList) :
    splitOnce sep (before ++ sep ++ after) = some (before, after) := by
  unfold splitOnce
  rw [String.toList_append, String.toList_append, hsep, splitOnceChars_append hbefore]
  simp only [Option.map_some, String.ofList_toList]

end Zpay.Data.Text
