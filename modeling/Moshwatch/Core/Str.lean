import Moshwatch.Core.Text
import Moshwatch.General.Framing

namespace Moshwatch

def asBytes (text : String) : List UInt8 := text.toByteArray.data.toList

def fromUtf8 (bytes : List UInt8) : Option String := String.fromUTF8? ⟨bytes.toArray⟩

def isAsciiHexdigit (byte : UInt8) : Bool :=
  (48 ≤ byte && byte ≤ 57) || (65 ≤ byte && byte ≤ 70) || (97 ≤ byte && byte ≤ 102)

def toAsciiLowercase (text : String) : String := String.ofList (text.toList.map Char.toLower)

def charsEqIgnoreAsciiCase (left right : List Char) : Bool :=
  left.map Char.toLower = right.map Char.toLower

def stripSuffixChar (text : List Char) (suffix : Char) : Option (List Char) :=
  if text.getLast? = some suffix then some text.dropLast else none

def splitOnce (text : List Char) (delimiter : Char) : Option (List Char × List Char) :=
  match text with
  | [] => none
  | ch :: rest =>
    if ch = delimiter then some ([], rest)
    else (splitOnce rest delimiter).map fun (before, after) => (ch :: before, after)

/-- A line of `str::lines` is returned without its `\n` and the `\r` before it. -/
def stripLineEnding (line : List Char) : List Char :=
  match stripSuffixChar line '\n' with
  | none => line
  | some line => (stripSuffixChar line '\r').getD line

def strLines (text : List Char) : List (List Char) := (Framing.lines '\n' text).map stripLineEnding

section Bytes

theorem fromUtf8_asBytes (text : String) : fromUtf8 (asBytes text) = some text := by
  unfold fromUtf8 asBytes String.fromUTF8?
  rw [Array.toArray_toList]
  exact dif_pos text.isValidUTF8

theorem asBytes_inj {left right : String} : asBytes left = asBytes right ↔ left = right := by
  constructor
  · intro same
    have decoded := congrArg fromUtf8 same
    rw [fromUtf8_asBytes, fromUtf8_asBytes] at decoded
    exact Option.some.inj decoded
  · intro same
    rw [same]

theorem asBytes_ofList (chars : List Char) :
    asBytes (String.ofList chars) = chars.flatMap String.utf8EncodeChar := by
  rw [asBytes, String.toByteArray_ofList, List.utf8Encode, List.data_toByteArray,
    List.toList_toArray]

theorem asBytes_eq_flatMap (text : String) :
    asBytes text = text.toList.flatMap String.utf8EncodeChar := by
  rw [← asBytes_ofList, String.ofList_toList]

end Bytes

section Ascii

/-- A character whose one byte is an ASCII hex digit. -/
def isHexChar (ch : Char) : Bool := ch.toNat < 128 && isAsciiHexdigit (UInt8.ofNat ch.toNat)

theorem ascii_forall {property : Char → Prop}
    (small : ∀ code < 128, property (Char.ofNat code)) {ch : Char} (ascii : ch.toNat < 128) :
    property ch := by
  have held := small ch.toNat ascii
  rwa [Char.ofNat_toNat] at held

theorem isHexChar_forall {property : Char → Prop}
    (small : ∀ code < 128, isHexChar (Char.ofNat code) = true → property (Char.ofNat code))
    {ch : Char} (hex : isHexChar ch = true) : property ch := by
  have ascii : ch.toNat < 128 := by
    simp only [isHexChar, Bool.and_eq_true, decide_eq_true_eq] at hex
    exact hex.1
  exact @ascii_forall (fun ch => isHexChar ch = true → property ch) small ch ascii hex

theorem utf8EncodeChar_ascii {ch : Char} (ascii : ch.toNat < 128) :
    String.utf8EncodeChar ch = [UInt8.ofNat ch.toNat] := by
  have bound : ch.val.toNat ≤ 127 := Nat.le_of_lt_succ ascii
  simp only [String.utf8EncodeChar, bound, ite_true]
  rfl

theorem ascii_of_utf8EncodeChar {ch : Char}
    (ascii : ∀ byte ∈ String.utf8EncodeChar ch, byte < 128) : ch.toNat < 128 := by
  by_contra large
  have beyond : ¬ ch.val.toNat ≤ 127 := fun bound => large (Nat.lt_succ_of_le bound)
  have wide (code base : Nat) (low : 192 ≤ base) (high : base + code < 256) :
      ¬ UInt8.ofNat (code + base) < 128 := by
    rw [UInt8.lt_iff_toNat_lt, UInt8.toNat_ofNat']
    have small : (code + base) % 2 ^ 8 = code + base := Nat.mod_eq_of_lt (by omega)
    rw [small]
    change ¬ code + base < 128
    omega
  unfold String.utf8EncodeChar at ascii
  simp only [beyond, ite_false] at ascii
  split at ascii
  · exact wide _ _ (by decide) (by omega) (ascii _ (List.mem_cons_self ..))
  · split at ascii
    · exact wide _ _ (by decide) (by omega) (ascii _ (List.mem_cons_self ..))
    · exact wide _ _ (by decide) (by omega) (ascii _ (List.mem_cons_self ..))

theorem isAsciiHexdigit_lt {byte : UInt8} (hex : isAsciiHexdigit byte = true) : byte < 128 := by
  simp only [isAsciiHexdigit, Bool.or_eq_true, Bool.and_eq_true, decide_eq_true_eq] at hex
  rcases hex with (⟨-, bound⟩ | ⟨-, bound⟩) | ⟨-, bound⟩
  · exact UInt8.lt_of_le_of_lt bound (by decide)
  · exact UInt8.lt_of_le_of_lt bound (by decide)
  · exact UInt8.lt_of_le_of_lt bound (by decide)

theorem utf8EncodeChar_hex {ch : Char} :
    (String.utf8EncodeChar ch).all isAsciiHexdigit = true ↔ isHexChar ch = true := by
  by_cases ascii : ch.toNat < 128
  · simp [utf8EncodeChar_ascii ascii, isHexChar, ascii]
  · simp only [isHexChar, ascii, decide_false, Bool.false_and, Bool.false_eq_true, iff_false,
      List.all_eq_true]
    exact fun hex => ascii (ascii_of_utf8EncodeChar fun byte member =>
      isAsciiHexdigit_lt (hex byte member))

theorem length_asBytes {chars : List Char} (ascii : ∀ ch ∈ chars, ch.toNat < 128) :
    (chars.flatMap String.utf8EncodeChar).length = chars.length := by
  induction chars with
  | nil => rfl
  | cons ch rest ih =>
    obtain ⟨first, later⟩ := List.forall_mem_cons.mp ascii
    rw [List.flatMap_cons, List.length_append, ih later, utf8EncodeChar_ascii first,
      List.length_singleton, List.length_cons, Nat.add_comm]

theorem asBytes_all_hex {text : String} :
    (asBytes text).all isAsciiHexdigit = true ↔ text.toList.all isHexChar = true := by
  rw [asBytes_eq_flatMap, List.all_flatMap]
  simp only [List.all_eq_true (l := text.toList), utf8EncodeChar_hex]

theorem length_asBytes_hex {text : String} (hex : text.toList.all isHexChar = true) :
    (asBytes text).length = text.toList.length := by
  rw [asBytes_eq_flatMap]
  refine length_asBytes fun ch member => ?_
  have digit := List.all_eq_true.mp hex ch member
  simp only [isHexChar, Bool.and_eq_true, decide_eq_true_eq] at digit
  exact digit.1

theorem isWhitespace_hex {ch : Char} (hex : isHexChar ch = true) : isWhitespace ch = false :=
  @isHexChar_forall (fun ch => isWhitespace ch = false) (by decide) ch hex

theorem isHexChar_toLower {ch : Char} (hex : isHexChar ch = true) :
    isHexChar ch.toLower = true :=
  @isHexChar_forall (fun ch => isHexChar ch.toLower = true) (by decide) ch hex

theorem toLower_toLower_hex {ch : Char} (hex : isHexChar ch = true) :
    ch.toLower.toLower = ch.toLower :=
  @isHexChar_forall (fun ch => ch.toLower.toLower = ch.toLower) (by decide) ch hex

theorem toLower_eq_self_hex {ch : Char} (hex : isHexChar ch = true) :
    ch.toLower = ch ↔ ch.isUpper = false :=
  @isHexChar_forall (fun ch => ch.toLower = ch ↔ ch.isUpper = false) (by decide) ch hex

end Ascii

section Lines

theorem splitOnce_of_not_mem {front : List Char} {delimiter : Char} (absent : delimiter ∉ front)
    (back : List Char) : splitOnce (front ++ delimiter :: back) delimiter = some (front, back) := by
  induction front with
  | nil => simp [splitOnce]
  | cons ch front ih =>
    rw [List.mem_cons, not_or] at absent
    rw [List.cons_append, splitOnce, if_neg (Ne.symm absent.1), ih absent.2]
    rfl

theorem splitOnce_eq_none {text : List Char} {delimiter : Char} :
    splitOnce text delimiter = none ↔ delimiter ∉ text := by
  induction text with
  | nil => simp [splitOnce]
  | cons ch rest ih =>
    rw [splitOnce, List.mem_cons, not_or]
    by_cases here : ch = delimiter
    · simp [here]
    · rw [if_neg here, Option.map_eq_none_iff, ih]
      simp [Ne.symm here]

theorem splitOnce_append {text before after : List Char} {delimiter : Char} (blanks : List Char)
    (split : splitOnce text delimiter = some (before, after)) :
    splitOnce (text ++ blanks) delimiter = some (before, after ++ blanks) := by
  induction text generalizing before with
  | nil => cases split
  | cons ch rest ih =>
    rw [splitOnce] at split
    rw [List.cons_append, splitOnce]
    by_cases here : ch = delimiter
    · rw [if_pos here] at split ⊢
      cases split
      rfl
    · rw [if_neg here] at split ⊢
      obtain ⟨found, inner, same⟩ := Option.map_eq_some_iff.mp split
      cases same
      rw [ih inner]
      rfl

theorem stripSuffixChar_concat (text : List Char) (suffix : Char) :
    stripSuffixChar (text ++ [suffix]) suffix = some text := by
  rw [stripSuffixChar, List.getLast?_concat, if_pos rfl, List.dropLast_concat]

theorem strLines_crlf {front : List Char} (absent : '\n' ∉ front) (back : List Char) :
    strLines (front ++ '\r' :: '\n' :: back) = front :: strLines back := by
  have whole : '\n' ∉ front ++ ['\r'] := by
    simp [absent]
  rw [strLines, List.append_cons front, Framing.lines_of_sep whole, List.map_cons,
    stripLineEnding, stripSuffixChar_concat]
  simp only [stripSuffixChar_concat, Option.getD_some]
  rfl

end Lines

end Moshwatch
