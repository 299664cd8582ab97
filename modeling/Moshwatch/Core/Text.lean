import Mathlib

namespace Moshwatch

/-- `char::is_control`: the Unicode general category `Cc`. -/
def isControl (ch : Char) : Bool :=
  ch.toNat ≤ 0x1f || (0x7f ≤ ch.toNat && ch.toNat ≤ 0x9f)

/-- `char::is_whitespace`: the Unicode property `White_Space`. -/
def isWhitespace (ch : Char) : Bool :=
  (0x9 ≤ ch.toNat && ch.toNat ≤ 0xd) || ch.toNat = 0x20 || ch.toNat = 0x85 || ch.toNat = 0xa0 ||
    ch.toNat = 0x1680 || (0x2000 ≤ ch.toNat && ch.toNat ≤ 0x200a) || ch.toNat = 0x2028 ||
    ch.toNat = 0x2029 || ch.toNat = 0x202f || ch.toNat = 0x205f || ch.toNat = 0x3000

/-- `str::trim` on the characters of a string. -/
def trimChars (chars : List Char) : List Char :=
  (chars.dropWhile isWhitespace).rdropWhile isWhitespace

def trim (text : String) : String := String.ofList (trimChars text.toList)

theorem mem_trimChars {chars : List Char} {ch : Char} (member : ch ∈ chars)
    (visible : isWhitespace ch = false) : ch ∈ trimChars chars := by
  have front : ch ∈ chars.dropWhile isWhitespace := by
    rw [← List.takeWhile_append_dropWhile (p := isWhitespace) (l := chars)] at member
    rcases List.mem_append.mp member with front | back
    · rw [List.mem_takeWhile_imp front] at visible
      cases visible
    · exact back
  unfold trimChars
  rw [← List.rdropWhile_append_rtakeWhile (p := isWhitespace) (l := chars.dropWhile isWhitespace)]
    at front
  rcases List.mem_append.mp front with kept | back
  · exact kept
  · rw [List.mem_rtakeWhile_imp back] at visible
    cases visible

theorem trimChars_eq_nil {chars : List Char} :
    trimChars chars = [] ↔ ∀ ch ∈ chars, isWhitespace ch = true := by
  constructor
  · intro trimmed ch member
    by_contra visible
    have kept := mem_trimChars member (by simpa using visible)
    rw [trimmed] at kept
    cases kept
  · intro blank
    unfold trimChars
    rw [List.rdropWhile_eq_nil_iff]
    intro ch member
    exact blank ch ((List.dropWhile_sublist _).subset member)

theorem rdropWhile_append {drop : Char → Bool} {blanks : List Char}
    (blank : ∀ ch ∈ blanks, drop ch = true) (text : List Char) :
    (text ++ blanks).rdropWhile drop = text.rdropWhile drop := by
  rw [List.rdropWhile, List.rdropWhile, List.reverse_append,
    List.dropWhile_append_of_pos fun ch member => blank ch (List.mem_reverse.mp member)]

theorem trimChars_append {blanks : List Char} (blank : ∀ ch ∈ blanks, isWhitespace ch = true)
    (text : List Char) : trimChars (text ++ blanks) = trimChars text := by
  rw [trimChars, trimChars, List.dropWhile_append]
  cases empty : (text.dropWhile isWhitespace).isEmpty with
  | true =>
    rw [List.isEmpty_iff.mp empty, if_pos rfl, List.dropWhile_eq_nil_iff.mpr blank]
  | false => exact rdropWhile_append blank _

theorem trim_eq_empty {text : String} :
    trim text = "" ↔ ∀ ch ∈ text.toList, isWhitespace ch = true := by
  rw [← trimChars_eq_nil, trim, ← String.toList_inj, String.toList_ofList]
  rfl

/-- `value.trim().is_empty()`. -/
def isBlank (text : String) : Bool := trim text = ""

theorem isBlank_eq_false_of_mem {text : String} {ch : Char} (member : ch ∈ text.toList)
    (visible : isWhitespace ch = false) : isBlank text = false := by
  simp only [isBlank, decide_eq_false_iff_not, trim_eq_empty]
  intro blank
  rw [blank ch member] at visible
  cases visible

end Moshwatch
