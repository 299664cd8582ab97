import Moshwatch.Core.Str
import Moshwatch.General.Utf8

namespace Moshwatch

def encoded (text : List Char) : List UInt8 := text.flatMap String.utf8EncodeChar

theorem encoded_nil : encoded [] = [] := rfl

theorem encoded_cons (ch : Char) (rest : List Char) :
    encoded (ch :: rest) = String.utf8EncodeChar ch ++ encoded rest := List.flatMap_cons

theorem encoded_append (front back : List Char) :
    encoded (front ++ back) = encoded front ++ encoded back := List.flatMap_append

theorem asBytes_eq_encoded (text : String) : asBytes text = encoded text.toList :=
  asBytes_eq_flatMap text

theorem asBytes_ofList_eq_encoded (text : List Char) : asBytes (String.ofList text) = encoded text :=
  asBytes_ofList text

theorem encoded_injective : Function.Injective encoded := by
  intro left right same
  have decoded := congrArg Utf8.lossy same
  rwa [encoded, encoded, Utf8.lossy_flatMap, Utf8.lossy_flatMap] at decoded

theorem encoded_eq_nil {text : List Char} : encoded text = [] ↔ text = [] := by
  constructor
  · intro none
    exact encoded_injective (none.trans encoded_nil.symm)
  · rintro rfl
    rfl

theorem exists_of_encoded_front {front text : List Char} {rest : List UInt8}
    (same : encoded text = encoded front ++ rest) :
    ∃ back, text = front ++ back ∧ rest = encoded back := by
  induction front generalizing text with
  | nil => exact ⟨text, rfl, same.symm⟩
  | cons ch front ih =>
    rw [encoded_cons, List.append_assoc] at same
    cases text with
    | nil =>
      have none := (List.append_eq_nil_iff.mp same.symm).1
      exact absurd none String.utf8EncodeChar_ne_nil
    | cons first text =>
      rw [encoded_cons] at same
      have decoded := congrArg Utf8.lossy same
      rw [Utf8.lossy_utf8EncodeChar, Utf8.lossy_utf8EncodeChar, List.cons.injEq] at decoded
      obtain ⟨rfl, -⟩ := decoded
      obtain ⟨back, rfl, rfl⟩ := ih (List.append_cancel_left same)
      exact ⟨back, rfl, rfl⟩

/-- A proper end of a character's bytes begins with a continuation byte. -/
theorem not_firstByte_of_split {ch : Char} {front back : List UInt8} {byte : UInt8}
    (split : String.utf8EncodeChar ch = front ++ byte :: back) (proper : front ≠ []) :
    ¬ byte.IsUTF8FirstByte := by
  have bound : front.length < (String.utf8EncodeChar ch).length := by
    rw [split]
    simp
  have at_index : (String.utf8EncodeChar ch)[front.length] = byte := by
    simp [split]
  rw [← at_index, UInt8.isUTF8FirstByte_getElem_utf8EncodeChar]
  exact fun none => proper (List.length_eq_zero_iff.mp none)

theorem firstByte_of_encoded {text : List Char} {byte : UInt8} {rest : List UInt8}
    (same : encoded text = byte :: rest) : byte.IsUTF8FirstByte := by
  cases text with
  | nil => cases same
  | cons ch text =>
    obtain ⟨first, tail, bytes⟩ :=
      List.exists_cons_of_ne_nil (String.utf8EncodeChar_ne_nil (c := ch))
    have nonempty : 0 < (String.utf8EncodeChar ch).length := by simp [bytes]
    have begins : (String.utf8EncodeChar ch)[0] = first := by
      simp [bytes]
    rw [encoded_cons, bytes, List.cons_append, List.cons.injEq] at same
    rw [← same.1, ← begins]
    exact UInt8.isUTF8FirstByte_getElem_zero_utf8EncodeChar

theorem exists_of_encoded_back {back text : List Char} {rest : List UInt8}
    (same : encoded text = rest ++ encoded back) :
    ∃ front, text = front ++ back ∧ rest = encoded front := by
  induction text generalizing rest with
  | nil =>
    obtain ⟨rfl, none⟩ := List.append_eq_nil_iff.mp same.symm
    rw [encoded_eq_nil.mp none]
    exact ⟨[], rfl, rfl⟩
  | cons ch text ih =>
    by_cases whole : rest = []
    · subst whole
      exact ⟨[], (encoded_injective same).symm ▸ rfl, rfl⟩
    · rw [encoded_cons] at same
      rcases List.append_eq_append_iff.mp same with ⟨more, rfl, tail⟩ | ⟨more, split, tail⟩
      · obtain ⟨front, rfl, rfl⟩ := ih tail
        exact ⟨ch :: front, rfl, (encoded_cons ch front).symm⟩
      · cases more with
        | nil =>
          rw [List.append_nil] at split
          refine ⟨[ch], ?_, ?_⟩
          · rw [List.nil_append] at tail
            rw [← encoded_injective tail]
            rfl
          · rw [encoded_cons, encoded_nil, List.append_nil, split]
        | cons byte more =>
          exact absurd (firstByte_of_encoded tail) (not_firstByte_of_split split whole)

section Newlines

theorem newline_mem_utf8EncodeChar {ch : Char} (member : (10 : UInt8) ∈ String.utf8EncodeChar ch) :
    ch = '\n' := by
  obtain ⟨front, back, split⟩ := List.append_of_mem member
  have none : front = [] := by
    by_contra proper
    exact not_firstByte_of_split split proper (by decide)
  subst none
  have decoded := Utf8.lossy_utf8EncodeChar ch []
  rw [List.append_nil, split, List.nil_append] at decoded
  have newline : Utf8.lossy (10 :: back) = '\n' :: Utf8.lossy back :=
    @Utf8.lossy_append [] 10 (by decide) back
  rw [newline, List.cons.injEq] at decoded
  exact decoded.1.symm

theorem newline_mem_encoded {text : List Char} : (10 : UInt8) ∈ encoded text ↔ '\n' ∈ text := by
  rw [encoded, List.mem_flatMap]
  constructor
  · rintro ⟨ch, member, inside⟩
    rwa [newline_mem_utf8EncodeChar inside] at member
  · intro member
    exact ⟨'\n', member, by decide⟩

theorem lines_encoded (text : List Char) :
    Framing.lines 10 (encoded text) = (Framing.lines '\n' text).map encoded := by
  induction size : text.length using Nat.strong_induction_on generalizing text with
  | _ size ih =>
    by_cases empty : text = []
    · subst empty
      rfl
    · obtain ⟨line, back, begins⟩ := @Framing.exists_begins _ _ '\n' _ empty
      rw [begins.lines, List.map_cons]
      cases begins with
      | unended absent nonempty =>
        rw [Framing.lines_of_not_mem (mt newline_mem_encoded.mp absent)
          (mt encoded_eq_nil.mp nonempty)]
        rfl
      | @ended front absent back =>
        have bytes : encoded (front ++ '\n' :: back) = encoded front ++ 10 :: encoded back := by
          rw [encoded_append, encoded_cons]
          rfl
        rw [bytes, Framing.lines_of_sep (mt newline_mem_encoded.mp absent),
          ih back.length (by simp at size; omega) back rfl, encoded_append]
        rfl

end Newlines

end Moshwatch
