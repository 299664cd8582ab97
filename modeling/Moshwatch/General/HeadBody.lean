import Moshwatch.General.Markers

-- Messages whose head is made of lines and ends with an empty line.
namespace HeadBody

variable {α : Type*} {cr lf : α}

section Position

variable {pattern front back : List α}

theorem slice_ne (first : ¬ pattern <:+: (front ++ pattern).dropLast) {start : Nat}
    (earlier : start < front.length) :
    ((front ++ (pattern ++ back)).drop start).take pattern.length ≠ pattern := by
  intro found
  apply first
  have positive : 0 < pattern.length := by
    by_contra empty
    apply first
    rw [List.length_eq_zero_iff.mp (by omega : pattern.length = 0)]
    exact List.nil_infix
  have inside : start + pattern.length ≤ (front ++ pattern).length - 1 := by
    rw [List.length_append]
    omega
  have shared : (front ++ (pattern ++ back)).take (start + pattern.length) =
      (front ++ pattern).dropLast.take (start + pattern.length) := by
    rw [List.dropLast_eq_take, List.take_take, Nat.min_eq_left inside, ← List.append_assoc,
      List.take_append_of_le_length (by omega)]
  rw [List.take_drop, shared, ← List.take_drop] at found
  have slice := (List.take_prefix pattern.length ((front ++ pattern).dropLast.drop start)).isInfix.trans
    (List.drop_suffix start _).isInfix
  rwa [found] at slice

end Position

def ended (cr lf : α) (lines : List (List α)) : List α :=
  lines.flatMap fun line => line ++ [cr, lf]

/-- What separates the lines of a head from the body. -/
def blank (cr lf : α) : List α := [cr, lf, cr, lf]

/-- A message: the lines of its head, an empty line and its body. -/
def message (cr lf : α) (lines : List (List α)) (body : List α) : List α :=
  ended cr lf lines ++ ([cr, lf] ++ body)

def head (cr lf : α) (lines : List (List α)) : List α := [cr, lf].intercalate lines

def IsLine (lf : α) (line : List α) : Prop := line ≠ [] ∧ lf ∉ line

theorem ended_cons (line : List α) (rest : List (List α)) :
    ended cr lf (line :: rest) = (line ++ [cr, lf]) ++ ended cr lf rest := rfl

theorem ended_eq_head {lines : List (List α)} (nonempty : lines ≠ []) :
    ended cr lf lines = head cr lf lines ++ [cr, lf] := by
  induction lines with
  | nil => exact absurd rfl nonempty
  | cons line rest ih =>
    cases rest with
    | nil => simp [ended, head]
    | cons next rest =>
      rw [ended_cons, ih (List.cons_ne_nil _ _), head, head, List.intercalate_cons_cons]
      simp only [List.append_assoc]

theorem message_eq {lines : List (List α)} (nonempty : lines ≠ []) (body : List α) :
    message cr lf lines body = head cr lf lines ++ (blank cr lf ++ body) := by
  rw [message, ended_eq_head nonempty, List.append_assoc]
  rfl

section Blank

variable (apart : cr ≠ lf)

include apart

theorem not_ending_prefix {lines : List (List α)} (isLine : ∀ line ∈ lines, IsLine lf line) :
    ¬ [cr, lf] <+: ended cr lf lines ++ [cr] := by
  intro starts
  cases lines with
  | nil => simpa [ended] using starts.length_le
  | cons line rest =>
    obtain ⟨nonempty, absent⟩ := isLine line (by simp)
    obtain ⟨first, line, rfl⟩ := List.exists_cons_of_ne_nil nonempty
    rw [ended_cons, List.append_assoc, List.append_assoc, List.cons_append,
      List.cons_prefix_cons] at starts
    cases line with
    | nil =>
      rw [List.nil_append, List.cons_append, List.cons_prefix_cons] at starts
      exact apart starts.2.1.symm
    | cons second line =>
      rw [List.cons_append, List.cons_prefix_cons] at starts
      apply absent
      rw [starts.2.1]
      simp

theorem seam_line {lines : List (List α)} (isLine : ∀ line ∈ lines, IsLine lf line)
    (line : List α) : Seam (blank cr lf) (line ++ [cr, lf]) (ended cr lf lines ++ [cr]) := by
  intro first second split noFirst noSecond suffix starts
  have last : first.getLast noFirst = lf := by
    obtain ⟨front, whole⟩ := suffix
    have lasts := congrArg List.getLast? whole
    rw [List.getLast?_append_of_ne_nil _ noFirst, List.getLast?_eq_some_getLast noFirst] at lasts
    simpa using lasts
  match first, noFirst, split, last with
  | [_], _, split, last =>
    cases split
    exact apart last
  | [_, _], _, split, last =>
    cases split
    exact not_ending_prefix apart isLine starts
  | [_, _, _], _, split, last =>
    cases split
    exact apart last
  | _ :: _ :: _ :: _ :: rest, _, split, last =>
    cases rest with
    | nil =>
      cases split
      exact noSecond rfl
    | cons extra rest => cases split

theorem not_blank_infix {lines : List (List α)} (isLine : ∀ line ∈ lines, IsLine lf line) :
    ¬ blank cr lf <:+: ended cr lf lines ++ [cr] := by
  classical
  induction lines with
  | nil =>
    intro inside
    simpa [blank, ended] using inside.length_le
  | cons line rest ih =>
    obtain ⟨here, later⟩ := List.forall_mem_cons.mp isLine
    rw [ended_cons, List.append_assoc, (seam_line apart later line).infix_append]
    intro inside
    rcases inside with inLine | inRest
    · have counts := inLine.sublist.count_le lf
      have absent : line.count lf = 0 := List.count_eq_zero.mpr here.2
      simp [blank, apart, absent] at counts
    · exact ih later inRest

/-- The first blank line of a message is the one that ends its head. -/
theorem blank_first {lines : List (List α)} (nonempty : lines ≠ [])
    (isLine : ∀ line ∈ lines, IsLine lf line) :
    ¬ blank cr lf <:+: (head cr lf lines ++ blank cr lf).dropLast := by
  have cut : (head cr lf lines ++ blank cr lf).dropLast = ended cr lf lines ++ [cr] := by
    rw [ended_eq_head nonempty, List.dropLast_append_of_ne_nil (by simp [blank]),
      List.append_assoc]
    rfl
  rw [cut]
  exact not_blank_infix apart isLine

end Blank

end HeadBody
