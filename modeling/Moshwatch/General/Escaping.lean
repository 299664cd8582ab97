import Mathlib

/-- Some symbols are written as a mark and a code, which is never the mark of another. -/
structure Escaping (α : Type*) where
  mark : α
  code : α → Option α
  decode : α → α
  marked : code mark ≠ none
  decode_code : ∀ symbol coded, code symbol = some coded → decode coded = symbol

namespace Escaping

variable {α : Type*} (escaping : Escaping α)

def escapeSymbol (symbol : α) : List α :=
  match escaping.code symbol with
  | some coded => [escaping.mark, coded]
  | none => [symbol]

def escape (text : List α) : List α := text.flatMap escaping.escapeSymbol

/-- Read an escaped text up to the symbol that closes it, and what follows. -/
def readQuoted [DecidableEq α] (close : α) : List α → Option (List α × List α)
  | [] => none
  | symbol :: rest =>
    if symbol = close then some ([], rest)
    else if symbol = escaping.mark then
      match rest with
      | [] => none
      | coded :: rest =>
        (readQuoted close rest).map fun (text, left) => (escaping.decode coded :: text, left)
    else (readQuoted close rest).map fun (text, left) => (symbol :: text, left)

variable {escaping}

theorem readQuoted_close [DecidableEq α] (close : α) (left : List α) :
    escaping.readQuoted close (close :: left) = some ([], left) := by
  rw [readQuoted.eq_def]
  simp

theorem readQuoted_coded [DecidableEq α] {close : α} (unmarked : close ≠ escaping.mark) (coded : α)
    (rest : List α) :
    escaping.readQuoted close (escaping.mark :: coded :: rest) =
      (escaping.readQuoted close rest).map fun (text, left) =>
        (escaping.decode coded :: text, left) := by
  rw [readQuoted.eq_def]
  simp [unmarked.symm]

theorem readQuoted_plain [DecidableEq α] {close symbol : α} (inside : symbol ≠ close)
    (plain : symbol ≠ escaping.mark) (rest : List α) :
    escaping.readQuoted close (symbol :: rest) =
      (escaping.readQuoted close rest).map fun (text, left) => (symbol :: text, left) := by
  rw [readQuoted.eq_def]
  simp [inside, plain]

theorem readQuoted_escape [DecidableEq α] {close : α} (unmarked : close ≠ escaping.mark)
    (closed : escaping.code close ≠ none) (text left : List α) :
    escaping.readQuoted close (escaping.escape text ++ close :: left) = some (text, left) := by
  induction text with
  | nil => exact readQuoted_close close left
  | cons symbol text ih =>
    have split : escaping.escape (symbol :: text) ++ close :: left =
        escaping.escapeSymbol symbol ++ (escaping.escape text ++ close :: left) := by
      rw [escape, List.flatMap_cons, List.append_assoc]
      rfl
    rw [split, escapeSymbol]
    cases coding : escaping.code symbol with
    | some coded =>
      simp only [List.cons_append, List.nil_append]
      rw [readQuoted_coded unmarked, ih, Option.map_some, escaping.decode_code symbol coded coding]
    | none =>
      have inside : symbol ≠ close := fun same => closed (same ▸ coding)
      have plain : symbol ≠ escaping.mark := fun same => escaping.marked (same ▸ coding)
      simp only [List.cons_append, List.nil_append]
      rw [readQuoted_plain inside plain, ih, Option.map_some]

/-- A symbol that is written in code, and is nobody's code, does not occur in what is written. -/
theorem not_mem_escape {symbol : α} (coded : escaping.code symbol ≠ none)
    (unmarked : symbol ≠ escaping.mark) (fresh : ∀ other, escaping.code other ≠ some symbol)
    (text : List α) : symbol ∉ escaping.escape text := by
  intro member
  obtain ⟨other, -, written⟩ := List.mem_flatMap.mp member
  unfold escapeSymbol at written
  cases coding : escaping.code other with
  | some code =>
    rw [coding] at written
    simp only [List.mem_cons, List.not_mem_nil, or_false] at written
    rcases written with isMark | isCode
    · exact unmarked isMark
    · exact fresh other (isCode ▸ coding)
  | none =>
    rw [coding, List.mem_singleton] at written
    exact coded (written ▸ coding)

end Escaping
