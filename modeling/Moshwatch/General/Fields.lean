import Mathlib

namespace Fields

variable {α : Type*} (blank : α → Bool)

/-- The parts of a text between its blanks, less the empty ones. -/
def words (text : List α) : List (List α) := (text.splitOnP blank).filter (· ≠ [])

def IsWord (word : List α) : Prop := word ≠ [] ∧ ∀ item ∈ word, blank item = false

def print (columns : List (List α × List α)) : List α :=
  columns.flatMap fun (gap, word) => gap ++ word

section Words

variable {blank}

@[simp]
theorem words_nil : words blank ([] : List α) = [] := by simp [words]

theorem words_append_cons {part : List α} (visible : ∀ item ∈ part, blank item = false) {item : α}
    (white : blank item = true) (rest : List α) :
    words blank (part ++ item :: rest) = [part].filter (· ≠ []) ++ words blank rest := by
  rw [words, List.splitOnP_append_cons_of_forall_mem visible item white, ← List.singleton_append,
    List.filter_append]
  rfl

theorem words_cons_blank {item : α} (white : blank item = true) (rest : List α) :
    words blank (item :: rest) = words blank rest := by
  have split := words_append_cons (List.forall_mem_nil _) white rest
  simpa using split

theorem words_blanks {gap : List α} (white : ∀ item ∈ gap, blank item = true) (rest : List α) :
    words blank (gap ++ rest) = words blank rest := by
  induction gap with
  | nil => rfl
  | cons item gap ih =>
    rw [List.forall_mem_cons] at white
    rw [List.cons_append, words_cons_blank white.1, ih white.2]

theorem words_of_isWord {word : List α} (isWord : IsWord blank word) : words blank word = [word] := by
  rw [words, List.splitOnP_eq_singleton isWord.2]
  simp [isWord.1]

theorem words_append {word : List α} (isWord : IsWord blank word) {rest : List α}
    (apart : ∀ item ∈ rest.head?, blank item = true) :
    words blank (word ++ rest) = word :: words blank rest := by
  cases rest with
  | nil => rw [List.append_nil, words_of_isWord isWord, words_nil]
  | cons item rest =>
    have white := apart item rfl
    rw [words_append_cons isWord.2 white, words_cons_blank white]
    simp [isWord.1]

theorem words_print {columns : List (List α × List α)} {trail : List α}
    (isWord : ∀ column ∈ columns, IsWord blank column.2)
    (gaps : ∀ column ∈ columns, ∀ item ∈ column.1, blank item = true)
    (apart : ∀ column ∈ columns.tail, column.1 ≠ [])
    (white : ∀ item ∈ trail, blank item = true) :
    words blank (print columns ++ trail) = columns.map Prod.snd := by
  induction columns with
  | nil =>
    have none := words_blanks white []
    rwa [List.append_nil, words_nil] at none
  | cons column columns ih =>
    obtain ⟨gap, word⟩ := column
    rw [List.forall_mem_cons] at isWord gaps
    have later := ih isWord.2 gaps.2 fun other member => apart other (List.mem_of_mem_tail member)
    have follows : ∀ item ∈ (print columns ++ trail).head?, blank item = true := by
      intro item head
      cases columns with
      | nil => exact white item (List.mem_of_mem_head? head)
      | cons next columns =>
        obtain ⟨between, second⟩ := next
        obtain ⟨first, others, split⟩ := List.exists_cons_of_ne_nil (apart _ List.mem_cons_self)
        change between = first :: others at split
        subst split
        cases head
        exact gaps.2 _ List.mem_cons_self item List.mem_cons_self
    change words blank (gap ++ word ++ print columns ++ trail) = _
    rw [List.append_assoc, List.append_assoc, words_blanks gaps.1, words_append isWord.1 follows,
      later]
    rfl

theorem words_flatMap {parts : List (List α)}
    (visible : ∀ part ∈ parts, ∀ item ∈ part, blank item = false) {item : α}
    (white : blank item = true) :
    words blank (parts.flatMap (· ++ [item])) = parts.filter (· ≠ []) := by
  induction parts with
  | nil => simp
  | cons part parts ih =>
    rw [List.forall_mem_cons] at visible
    rw [List.flatMap_cons, List.append_assoc, List.singleton_append,
      words_append_cons visible.1 white, ih visible.2, ← List.filter_append, List.singleton_append]

end Words

end Fields
