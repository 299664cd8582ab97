import Moshwatch.Core.Str

namespace Moshwatch

/-- `line.trim_end_matches('\r')`. -/
def trimCarriages (line : List Char) : List Char := line.rdropWhile fun ch => ch = '\r'

/-- The header lines of a request: what follows its first line, up to an empty line. -/
def headerLines (request : List Char) : List (List Char) :=
  (((strLines request).drop 1).map trimCarriages).takeWhile fun line => line ≠ []

theorem trimCarriages_append {text carriages : List Char} (blank : ∀ ch ∈ carriages, ch = '\r') :
    trimCarriages (text ++ carriages) = trimCarriages text :=
  rdropWhile_append (fun ch member => decide_eq_true (blank ch member)) text

theorem trimCarriages_append_trimmed (text : List Char) :
    ∃ carriages, text = trimCarriages text ++ carriages ∧ ∀ ch ∈ carriages, ch = '\r' := by
  refine ⟨text.rtakeWhile fun ch => ch = '\r', ?_, ?_⟩
  · rw [trimCarriages, List.rdropWhile_append_rtakeWhile]
  · intro ch member
    simpa using List.mem_rtakeWhile_imp member

theorem trimCarriages_of_ends {text : List Char} (ends : text.getLast? ≠ some '\r') :
    trimCarriages text = text := by
  rw [trimCarriages, List.rdropWhile_eq_self_iff]
  intro nonempty carriage
  rw [List.getLast?_eq_some_getLast nonempty] at ends
  exact ends (congrArg some (of_decide_eq_true carriage))

theorem trimCarriages_append_cons (front : List Char) {ch : Char} (visible : ch ≠ '\r')
    (back : List Char) :
    trimCarriages (front ++ ch :: back) = front ++ ch :: trimCarriages back := by
  induction back using List.reverseRecOn with
  | nil => exact List.rdropWhile_concat_neg _ _ _ (by simpa using visible)
  | append_singleton back last ih =>
    have shift : front ++ ch :: (back ++ [last]) = (front ++ ch :: back) ++ [last] := by
      rw [List.append_assoc, List.cons_append]
    rw [shift]
    by_cases carriage : last = '\r'
    · have blank : ∀ ch ∈ [last], ch = '\r' := by
        simpa using carriage
      rw [trimCarriages_append blank, trimCarriages_append blank, ih]
    · have kept (text : List Char) : trimCarriages (text ++ [last]) = text ++ [last] :=
        List.rdropWhile_concat_neg _ _ _ (by simpa using carriage)
      rw [kept, kept, shift]

theorem stripSuffixChar_append_trimmed (line : List Char) :
    trimCarriages ((stripSuffixChar line '\r').getD line) = trimCarriages line := by
  rw [stripSuffixChar]
  split
  · rename_i last
    obtain ⟨nonempty, isLast⟩ := List.getLast?_eq_some_iff.mp last
    rw [isLast, List.dropLast_concat, Option.getD_some]
    exact (trimCarriages_append (by simp)).symm
  · rfl

section Pieces

theorem strLines_ended {front : List Char} (absent : '\n' ∉ front) (back : List Char) :
    strLines (front ++ '\n' :: back) =
      (stripSuffixChar front '\r').getD front :: strLines back := by
  rw [strLines, Framing.lines_of_sep absent, List.map_cons, stripLineEnding,
    stripSuffixChar_concat]
  rfl

theorem strLines_unended {line : List Char} (absent : '\n' ∉ line) (nonempty : line ≠ []) :
    strLines line = [line] := by
  have unended : stripSuffixChar line '\n' = none := by
    apply if_neg
    intro last
    exact absent (List.mem_of_getLast? last)
  rw [strLines, Framing.lines_of_not_mem absent nonempty, List.map_singleton, stripLineEnding,
    unended]

/-- Up to an empty line, the lines of a text are what stands between its line feeds. -/
theorem takeWhile_strLines {pieces : List (List Char)} (unbroken : ∀ piece ∈ pieces, '\n' ∉ piece) :
    (((strLines (['\n'].intercalate pieces)).map trimCarriages).takeWhile fun line => line ≠ []) =
      (pieces.map trimCarriages).takeWhile fun line => line ≠ [] := by
  induction pieces with
  | nil => rfl
  | cons piece rest ih =>
    obtain ⟨absent, later⟩ := List.forall_mem_cons.mp unbroken
    cases rest with
    | nil =>
      by_cases empty : piece = []
      · subst empty
        rfl
      · rw [List.intercalate_singleton, strLines_unended absent empty]
    | cons next rest =>
      rw [List.intercalate_cons_cons, List.append_assoc, List.singleton_append,
        strLines_ended absent, List.map_cons, List.map_cons,
        stripSuffixChar_append_trimmed, List.takeWhile_cons, List.takeWhile_cons, ih later]

theorem headerLines_intercalate {requestLine : List Char} {pieces : List (List Char)}
    (first : '\n' ∉ requestLine) (unbroken : ∀ piece ∈ pieces, '\n' ∉ piece) :
    headerLines (['\n'].intercalate (requestLine :: pieces)) =
      (pieces.map trimCarriages).takeWhile fun line => line ≠ [] := by
  cases pieces with
  | nil =>
    rw [headerLines, List.intercalate_singleton]
    by_cases empty : requestLine = []
    · subst empty
      rfl
    · rw [strLines_unended first empty]
      rfl
  | cons next rest =>
    rw [headerLines, List.intercalate_cons_cons, List.append_assoc, List.singleton_append,
      strLines_ended first, List.drop_one, List.tail_cons, takeWhile_strLines unbroken]

end Pieces

end Moshwatch
