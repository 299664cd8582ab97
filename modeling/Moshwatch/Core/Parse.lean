import Moshwatch.Core.Number
import Moshwatch.Core.Str

namespace Moshwatch

/-- How a function of the source ends without a value: it panics, or it returns its error. -/
inductive Failure (ε : Type) where
  | panic
  | error (reason : ε)
  deriving DecidableEq, Repr

/-- `str::len`. -/
def byteLen (text : List Char) : Nat := (text.map Char.utf8Size).sum

/-- `&text[index..]`; `none` is the panic of an index that is no character boundary. -/
def sliceFrom : List Char → Nat → Option (List Char)
  | text, 0 => some text
  | [], _ + 1 => none
  | ch :: rest, index + 1 =>
    if ch.utf8Size ≤ index + 1 then sliceFrom rest (index + 1 - ch.utf8Size) else none

/-- `&text[..index]`. -/
def sliceTo : List Char → Nat → Option (List Char)
  | _, 0 => some []
  | [], _ + 1 => none
  | ch :: rest, index + 1 =>
    if ch.utf8Size ≤ index + 1 then (sliceTo rest (index + 1 - ch.utf8Size)).map (ch :: ·)
    else none

/-- `&text[first..last]`. -/
def slice (text : List Char) (first last : Nat) : Option (List Char) :=
  if first ≤ last then (sliceFrom text first).bind fun rest => sliceTo rest (last - first) else none

/-- `str::rfind` with a character: the byte index of its last occurrence. -/
def rfind (text : List Char) (needle : Char) : Option Nat :=
  match text with
  | [] => none
  | ch :: rest =>
    match rfind rest needle with
    | some index => some (ch.utf8Size + index)
    | none => if ch = needle then some 0 else none

def splitWhitespace (text : List Char) : List (List Char) :=
  (text.splitOnP isWhitespace).filter (· ≠ [])

def toDigit (radix : Nat) (ch : Char) : Option Nat :=
  let digit :=
    if ch.isDigit then ch.toNat - 48
    else if ch.isLower then ch.toNat - 87
    else if ch.isUpper then ch.toNat - 55
    else radix
  if digit < radix then some digit else none

def stripPlus : List Char → List Char
  | '+' :: digits => digits
  | digits => digits

/-- `from_str_radix` of the unsigned type with the largest value `max`. -/
def fromStrRadix (radix max : Nat) (text : List Char) : Option Nat := do
  let digits ← (stripPlus text).mapM (toDigit radix)
  let value := digits.foldl (fun sofar digit => radix * sofar + digit) 0
  if digits = [] ∨ max < value then none else some value

def parseU64 (text : List Char) : Option Nat := fromStrRadix 10 u64Max text

section Slices

@[simp] theorem byteLen_nil : byteLen [] = 0 := rfl

@[simp] theorem byteLen_cons (ch : Char) (rest : List Char) :
    byteLen (ch :: rest) = ch.utf8Size + byteLen rest := by
  simp [byteLen]

@[simp] theorem byteLen_append (front back : List Char) :
    byteLen (front ++ back) = byteLen front + byteLen back := by
  simp [byteLen]

theorem sliceFrom_append (front back : List Char) :
    sliceFrom (front ++ back) (byteLen front) = some back := by
  induction front with
  | nil => simp [sliceFrom]
  | cons ch front ih =>
    have width := ch.utf8Size_pos
    obtain ⟨index, eq⟩ : ∃ index, ch.utf8Size + byteLen front = index + 1 :=
      ⟨ch.utf8Size + byteLen front - 1, by omega⟩
    rw [byteLen_cons, List.cons_append, eq, sliceFrom, if_pos (by omega), ← eq,
      Nat.add_sub_cancel_left, ih]

theorem sliceTo_append (front back : List Char) :
    sliceTo (front ++ back) (byteLen front) = some front := by
  induction front with
  | nil => simp [sliceTo]
  | cons ch front ih =>
    have width := ch.utf8Size_pos
    obtain ⟨index, eq⟩ : ∃ index, ch.utf8Size + byteLen front = index + 1 :=
      ⟨ch.utf8Size + byteLen front - 1, by omega⟩
    rw [byteLen_cons, List.cons_append, eq, sliceTo, if_pos (by omega), ← eq,
      Nat.add_sub_cancel_left, ih, Option.map_some]

theorem slice_append (front middle back : List Char) :
    slice (front ++ (middle ++ back)) (byteLen front) (byteLen front + byteLen middle) =
      some middle := by
  rw [slice, if_pos (Nat.le_add_right _ _), sliceFrom_append, Option.bind_some,
    Nat.add_sub_cancel_left, sliceTo_append]

theorem rfind_eq_none {text : List Char} {needle : Char} (absent : needle ∉ text) :
    rfind text needle = none := by
  induction text with
  | nil => rfl
  | cons ch rest ih =>
    rw [List.mem_cons, not_or] at absent
    rw [rfind, ih absent.2]
    exact if_neg (Ne.symm absent.1)

theorem rfind_of_not_mem (front : List Char) {back : List Char} {needle : Char}
    (absent : needle ∉ back) : rfind (front ++ needle :: back) needle = some (byteLen front) := by
  induction front with
  | nil =>
    rw [List.nil_append, rfind, rfind_eq_none absent]
    exact if_pos rfl
  | cons ch front ih => rw [List.cons_append, rfind, ih, byteLen_cons]

end Slices

section Words

variable {word : List Char}

theorem splitWhitespace_word (visible : ∀ ch ∈ word, isWhitespace ch = false) (nonempty : word ≠ [])
    {blank : Char} (white : isWhitespace blank = true) (rest : List Char) :
    splitWhitespace (word ++ blank :: rest) = word :: splitWhitespace rest := by
  rw [splitWhitespace, List.splitOnP_append_cons_of_forall_mem visible blank white]
  simp [nonempty, splitWhitespace]

theorem splitWhitespace_nil : splitWhitespace [] = [] := by
  simp [splitWhitespace]

end Words

section Digits

theorem mapM_toDigit_decimal {text : List Char} (decimal : text.all Char.isDigit = true) :
    text.mapM (toDigit 10) = some (text.map fun ch => ch.toNat - 48) := by
  induction text with
  | nil => rfl
  | cons ch rest ih =>
    rw [List.all_cons, Bool.and_eq_true] at decimal
    have small : ch.toNat - 48 < 10 := by
      have bounds := decimal.1
      simp only [Char.isDigit, Bool.and_eq_true, decide_eq_true_eq, UInt32.le_iff_toNat_le] at bounds
      have upper : ch.toNat ≤ 57 := bounds.2
      omega
    have first : toDigit 10 ch = some (ch.toNat - 48) := by
      simp [toDigit, decimal.1, small]
    rw [List.mapM_cons, first, ih decimal.2]
    rfl

theorem foldl_map_decimal (text : List Char) (sofar : Nat) :
    (text.map fun ch => ch.toNat - 48).foldl (fun sofar digit => 10 * sofar + digit) sofar =
      Nat.ofDigitChars 10 text sofar := by
  rw [List.foldl_map, Nat.ofDigitChars_eq_foldl]
  rfl

theorem stripPlus_of_digits {text : List Char} (decimal : text.all Char.isDigit = true) :
    stripPlus text = text := by
  unfold stripPlus
  split
  · simp at decimal
  · rfl

theorem fromStrRadix_toDigits {max value : Nat} (fits : value ≤ max) :
    fromStrRadix 10 max (Nat.toDigits 10 value) = some value := by
  have decimal : (Nat.toDigits 10 value).all Char.isDigit = true :=
    List.all_eq_true.mpr fun ch member => Nat.isDigit_of_mem_toDigits (by decide) (by decide) member
  have nonempty : Nat.toDigits 10 value ≠ [] := Nat.toDigits_ne_nil
  simp only [fromStrRadix, stripPlus_of_digits decimal, mapM_toDigit_decimal decimal,
    Option.bind_eq_bind, Option.bind_some, foldl_map_decimal, Nat.ofDigitChars_ten_toDigits,
    List.map_eq_nil_iff, nonempty, false_or]
  exact if_neg (by omega)

end Digits

end Moshwatch
