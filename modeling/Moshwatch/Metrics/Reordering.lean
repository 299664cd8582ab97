import Moshwatch.Metrics.Authorization
import Moshwatch.Metrics.Negotiation

namespace Moshwatch

variable {parseF32 : List Char → Option F64}

section Carriages

theorem splitOn_append {sep : Char} {blanks : List Char} (absent : sep ∉ blanks)
    (text : List Char) : ∃ front last, text.splitOn sep = front ++ [last] ∧
      (text ++ blanks).splitOn sep = front ++ [last ++ blanks] := by
  induction text with
  | nil => exact ⟨[], [], List.splitOn_nil sep, List.splitOn_eq_singleton absent⟩
  | cons ch rest ih =>
    obtain ⟨front, last, split, splitBlank⟩ := ih
    rw [List.cons_append, List.splitOn_cons_eq_if_modifyHead, List.splitOn_cons_eq_if_modifyHead,
      split, splitBlank]
    by_cases isSep : ch == sep
    · exact ⟨[] :: front, last, by simp [isSep], by simp [isSep]⟩
    · cases front with
      | nil => exact ⟨[], ch :: last, by simp [isSep], by simp [isSep]⟩
      | cons first front => exact ⟨(ch :: first) :: front, last, by simp [isSep], by simp [isSep]⟩

variable {carriages : List Char} (blank : ∀ ch ∈ carriages, ch = '\r')

include blank

theorem trimChars_carriages (text : List Char) : trimChars (text ++ carriages) = trimChars text := by
  refine trimChars_append (fun ch member => ?_) text
  rw [blank ch member]
  decide

theorem not_mem_carriages {sep : Char} (visible : sep ≠ '\r') : sep ∉ carriages :=
  fun member => visible (blank sep member)

theorem acceptParameter_carriages (seen : AcceptParameters) (parameter : List Char) :
    acceptParameter parseF32 seen (parameter ++ carriages) =
      acceptParameter parseF32 seen parameter := by
  unfold acceptParameter
  cases split : splitOnce parameter '=' with
  | none =>
    have absent : '=' ∉ parameter ++ carriages := by
      rw [List.mem_append, not_or]
      exact ⟨splitOnce_eq_none.mp split, not_mem_carriages blank (by decide)⟩
    rw [splitOnce_eq_none.mpr absent]
  | some found =>
    obtain ⟨name, rawValue⟩ := found
    rw [splitOnce_append carriages split]
    simp only [Option.bind_eq_bind, Option.bind_some, trimChars_carriages blank]

theorem acceptItemQuality_carriages (item mediaType version : List Char) :
    acceptItemQuality parseF32 (item ++ carriages) mediaType version =
      acceptItemQuality parseF32 item mediaType version := by
  obtain ⟨front, last, split, splitBlank⟩ :=
    splitOn_append (@not_mem_carriages _ blank ';' (by decide)) item
  unfold acceptItemQuality
  rw [split, splitBlank]
  cases front with
  | nil => simp only [List.nil_append, trimChars_carriages blank]
  | cons first front =>
    simp only [List.cons_append, List.foldlM_append, List.foldlM_cons,
      acceptParameter_carriages blank]

theorem acceptCandidates_carriages (format : MetricsTextFormat) (value : List Char) :
    acceptCandidates parseF32 format ((value ++ carriages).splitOn ',') =
      acceptCandidates parseF32 format (value.splitOn ',') := by
  obtain ⟨front, last, split, splitBlank⟩ :=
    splitOn_append (@not_mem_carriages _ blank ',' (by decide)) value
  rw [split, splitBlank, acceptCandidates_append, acceptCandidates_append]
  simp only [acceptCandidates, List.filterMap_cons, acceptItemQuality_carriages blank]

end Carriages

inductive HeadLine where
  | accept (name : List Char) (items : List (List Char)) (carriages : Nat)
  | other (text : List Char) (carriages : Nat)

namespace HeadLine

def text : HeadLine → List Char
  | accept name items carriages =>
    name ++ ':' :: ([','].intercalate items ++ List.replicate carriages '\r')
  | other text carriages => text ++ List.replicate carriages '\r'

def items : HeadLine → List (List Char)
  | accept _ items _ => items
  | other .. => []

def isAccept : HeadLine → Bool
  | accept .. => true
  | other .. => false

/-- An `Accept` line holds items; another line has another name, or none, and is not empty. -/
def WellFormed : HeadLine → Prop
  | accept name items _ =>
    charsEqIgnoreAsciiCase name acceptName = true ∧ ∀ item ∈ items, ',' ∉ item ∧ '\n' ∉ item
  | other text _ =>
    text ≠ [] ∧ '\n' ∉ text ∧ text.getLast? ≠ some '\r' ∧
      ∀ found ∈ splitOnce text ':', charsEqIgnoreAsciiCase found.1 acceptName = false

instance : DecidablePred WellFormed
  | accept .. => inferInstanceAs (Decidable (_ ∧ _))
  | other .. => inferInstanceAs (Decidable (_ ∧ _ ∧ _ ∧ _))

end HeadLine

/-- A request head with `Accept` headers; `rest` is what stands between the line feeds from
    the empty line on, if there is one. -/
structure AcceptHead where
  requestLine : List Char
  lines : List HeadLine
  rest : List (List Char)
  requestLine_ends : '\n' ∉ requestLine
  wellFormed : ∀ line ∈ lines, line.WellFormed
  accepts : ∃ line ∈ lines, line.isAccept = true
  rest_ends : ∀ piece ∈ rest, '\n' ∉ piece
  rest_blank : ∀ piece ∈ rest.head?, ∀ ch ∈ piece, ch = '\r'

namespace AcceptHead

def text (head : AcceptHead) : List Char :=
  ['\n'].intercalate (head.requestLine :: (head.lines.map HeadLine.text ++ head.rest))

def items (head : AcceptHead) : List (List Char) := head.lines.flatMap HeadLine.items

end AcceptHead

section Reordering

theorem acceptName_plain {name : List Char}
    (isAccept : charsEqIgnoreAsciiCase name acceptName = true) : ':' ∉ name ∧ '\n' ∉ name := by
  refine ⟨fun member => ?_, fun member => ?_⟩
  · exact absurd (toLower_of_charsEqIgnoreAsciiCase isAccept member) (by decide)
  · exact absurd (toLower_of_charsEqIgnoreAsciiCase isAccept member) (by decide)

theorem not_mem_intercalate {ch sep : Char} {items : List (List Char)} (apart : ch ≠ sep)
    (absent : ∀ item ∈ items, ch ∉ item) : ch ∉ [sep].intercalate items := by
  induction items with
  | nil => simp
  | cons item rest ih =>
    obtain ⟨first, later⟩ := List.forall_mem_cons.mp absent
    cases rest with
    | nil => simpa using first
    | cons next rest =>
      rw [List.intercalate_cons_cons, List.append_assoc, List.mem_append, not_or]
      exact ⟨first, by simpa [apart] using ih later⟩

theorem replicate_carriages (count : Nat) : ∀ ch ∈ List.replicate count '\r', ch = '\r' :=
  fun _ member => List.eq_of_mem_replicate member

theorem HeadLine.text_unbroken {line : HeadLine} (wellFormed : line.WellFormed) :
    '\n' ∉ line.text := by
  have blanks (count : Nat) : '\n' ∉ List.replicate count '\r' :=
    not_mem_carriages (replicate_carriages count) (by decide)
  cases line with
  | accept name items carriages =>
    obtain ⟨named, plain⟩ := wellFormed
    have joined : '\n' ∉ [','].intercalate items :=
      not_mem_intercalate (by decide) fun item member => (plain item member).2
    rw [HeadLine.text, List.mem_append, List.mem_cons, List.mem_append]
    simp [(acceptName_plain named).2, joined, blanks]
  | other text carriages =>
    rw [HeadLine.text, List.mem_append, not_or]
    exact ⟨wellFormed.2.1, blanks carriages⟩

theorem HeadLine.trimmed_ne_nil {line : HeadLine} (wellFormed : line.WellFormed) :
    trimCarriages line.text ≠ [] := by
  cases line with
  | accept name items carriages =>
    rw [HeadLine.text, trimCarriages_append_cons _ (by decide)]
    simp
  | other text carriages =>
    rw [HeadLine.text, trimCarriages_append (replicate_carriages carriages),
      trimCarriages_of_ends wellFormed.2.2.1]
    exact wellFormed.1

theorem HeadLine.acceptHeaderValue_text {line : HeadLine} (wellFormed : line.WellFormed) :
    acceptHeaderValue (trimCarriages line.text) =
      if line.isAccept then some (trimCarriages ([','].intercalate line.items)) else none := by
  cases line with
  | accept name items carriages =>
    obtain ⟨named, -⟩ := wellFormed
    rw [HeadLine.text, trimCarriages_append_cons _ (by decide),
      trimCarriages_append (replicate_carriages carriages), acceptHeaderValue,
      splitOnce_of_not_mem (acceptName_plain named).1]
    simp [named, HeadLine.isAccept, HeadLine.items]
  | other text carriages =>
    rw [HeadLine.text, trimCarriages_append (replicate_carriages carriages),
      trimCarriages_of_ends wellFormed.2.2.1, acceptHeaderValue]
    cases split : splitOnce text ':' with
    | none => rfl
    | some found =>
      obtain ⟨name, value⟩ := found
      simp [wellFormed.2.2.2 (name, value) split, HeadLine.isAccept]

theorem acceptCandidates_blank (format : MetricsTextFormat) :
    acceptCandidates parseF32 format [[]] = [] := rfl

theorem acceptCandidates_intercalate (format : MetricsTextFormat) {items : List (List Char)}
    (plain : ∀ item ∈ items, ',' ∉ item) :
    acceptCandidates parseF32 format
        ((trimCarriages ([','].intercalate items)).splitOn ',') =
      acceptCandidates parseF32 format items := by
  obtain ⟨carriages, whole, blank⟩ := trimCarriages_append_trimmed ([','].intercalate items)
  rw [← acceptCandidates_carriages blank, ← whole]
  by_cases none : items = []
  · subst none
    exact acceptCandidates_blank format
  · rw [List.splitOn_intercalate ',' plain none]

theorem HeadLine.acceptCandidates_lines (format : MetricsTextFormat) {lines : List HeadLine}
    (wellFormed : ∀ line ∈ lines, line.WellFormed) :
    acceptCandidates parseF32 format
        (((lines.map fun line => trimCarriages line.text).filterMap acceptHeaderValue).flatMap
          fun value => value.splitOn ',') =
      acceptCandidates parseF32 format (lines.flatMap HeadLine.items) := by
  induction lines with
  | nil => rfl
  | cons line rest ih =>
    obtain ⟨first, later⟩ := List.forall_mem_cons.mp wellFormed
    rw [List.map_cons, List.filterMap_cons, HeadLine.acceptHeaderValue_text first,
      List.flatMap_cons, acceptCandidates_append, ← ih later]
    cases line with
    | accept name items carriages =>
      simp only [HeadLine.isAccept, if_true, List.flatMap_cons, acceptCandidates_append]
      have joined : acceptCandidates parseF32 format
          ((trimCarriages ([','].intercalate items)).splitOn ',') =
            acceptCandidates parseF32 format items :=
        acceptCandidates_intercalate format fun item member => (first.2 item member).1
      exact congrArg (· ++ _) joined
    | other text carriages =>
      simp only [HeadLine.isAccept, Bool.false_eq_true, if_false]
      rfl

namespace AcceptHead

variable (head : AcceptHead)

theorem headerLines_text :
    headerLines head.text = head.lines.map fun line => trimCarriages line.text := by
  have unbroken : ∀ piece ∈ head.lines.map HeadLine.text ++ head.rest, '\n' ∉ piece := by
    intro piece member
    rcases List.mem_append.mp member with isLine | isRest
    · obtain ⟨line, inLines, rfl⟩ := List.mem_map.mp isLine
      exact HeadLine.text_unbroken (head.wellFormed line inLines)
    · exact head.rest_ends piece isRest
  have stops : ((head.rest.map trimCarriages).takeWhile fun line => line ≠ []) = [] := by
    have blank := head.rest_blank
    revert blank
    cases head.rest with
    | nil =>
      intro blank
      rfl
    | cons piece rest =>
      intro blank
      have empty : trimCarriages piece = [] := by
        rw [← List.nil_append piece, trimCarriages_append (blank piece rfl)]
        rfl
      simp [empty]
  rw [text, headerLines_intercalate head.requestLine_ends unbroken, List.map_append,
    List.takeWhile_append_of_pos, stops, List.append_nil, List.map_map]
  · rfl
  · intro line member
    rw [List.map_map] at member
    obtain ⟨origin, inLines, rfl⟩ := List.mem_map.mp member
    simpa using HeadLine.trimmed_ne_nil (head.wellFormed origin inLines)

theorem acceptCandidates_text (format : MetricsTextFormat) :
    acceptCandidates parseF32 format (acceptItems head.text) =
      acceptCandidates parseF32 format head.items := by
  rw [acceptItems, acceptValues, headerLines_text, items,
    HeadLine.acceptCandidates_lines format head.wellFormed]

theorem acceptValues_text : acceptValues head.text ≠ [] := by
  obtain ⟨line, member, isAccept⟩ := head.accepts
  have value := HeadLine.acceptHeaderValue_text (head.wellFormed line member)
  rw [isAccept, if_pos rfl] at value
  rw [acceptValues, headerLines_text]
  exact List.ne_nil_of_mem
    (List.mem_filterMap.mpr ⟨_, List.mem_map.mpr ⟨line, member, rfl⟩, value⟩)

theorem itemsPreference_text :
    itemsPreference parseF32 (acceptItems head.text) = itemsPreference parseF32 head.items := by
  simp only [itemsPreference, acceptCandidates_text]

end AcceptHead

theorem itemsPreference_perm {left right : List (List Char)} (perm : left.Perm right) :
    itemsPreference parseF32 left = itemsPreference parseF32 right := by
  have same (format : MetricsTextFormat) :
      (acceptCandidates parseF32 format left).argmax acceptRank =
        (acceptCandidates parseF32 format right).argmax acceptRank :=
    Preference.argmax_congr acceptRank_injective
      fun _ => (perm.filterMap fun item => _).mem_iff
  rw [itemsPreference, itemsPreference, same, same]

/-- The answer depends on the items alone: not on their order, nor on the `Accept` lines they
    stand in, nor on the lines between. -/
theorem requestedMetricsFormat_perm (parseF32 : List Char → Option F64)
    (left right : AcceptHead) (perm : left.items.Perm right.items) :
    requestedMetricsFormat parseF32 left.text = requestedMetricsFormat parseF32 right.text := by
  rw [requestedMetricsFormat_eq, requestedMetricsFormat_eq, left.itemsPreference_text,
    right.itemsPreference_text, itemsPreference_perm perm, if_neg left.acceptValues_text,
    if_neg right.acceptValues_text]

/-- Two items in one line, and in two lines about a `Host` line. -/
def twoItemHeads : AcceptHead × AcceptHead :=
  let openmetrics := " application/openmetrics-text".toList
  let textPlain := " text/plain".toList
  let requestLine := "GET /metrics HTTP/1.1\r".toList
  ({ requestLine := requestLine
     lines := [.accept "Accept".toList [openmetrics, textPlain] 1]
     rest := [['\r'], []]
     requestLine_ends := by decide
     wellFormed := by decide
     accepts := by decide
     rest_ends := by decide
     rest_blank := by simp },
   { requestLine := requestLine
     lines := [.accept "accept".toList [textPlain] 1, .other "Host: localhost".toList 1,
       .accept "ACCEPT".toList [openmetrics] 0]
     rest := []
     requestLine_ends := by decide
     wellFormed := by decide
     accepts := by decide
     rest_ends := by decide
     rest_blank := by simp })

theorem requestedMetricsFormat_perm_twoItems :
    requestedMetricsFormat parseZero twoItemHeads.1.text =
      requestedMetricsFormat parseZero twoItemHeads.2.text :=
  requestedMetricsFormat_perm parseZero twoItemHeads.1 twoItemHeads.2 (by decide)

end Reordering

end Moshwatch
