import Mathlib

namespace Changes

variable {α τ : Type*} {items : List (α × τ)} {last next former latter : α × τ}

def Steady (items : List (α × τ)) : Prop :=
  ∀ first ∈ items, ∀ second ∈ items, first.1 = second.1

/-- The value changes from `former` to its successor `latter`, and stays from there on. -/
def LastChange (items : List (α × τ)) (former latter : α × τ) : Prop :=
  former.1 ≠ latter.1 ∧ ∃ front rest, items = front ++ former :: latter :: rest ∧
    ∀ later ∈ rest, later.1 = latter.1

theorem steady_nil : Steady ([] : List (α × τ)) := by simp [Steady]

theorem steady_singleton (item : α × τ) : Steady [item] := by simp [Steady]

theorem Steady.concat (steady : Steady items) (isLast : items.getLast? = some last)
    (same : next.1 = last.1) : Steady (items ++ [next]) := by
  have equal : ∀ item ∈ items ++ [next], item.1 = last.1 := by
    intro item member
    rcases List.mem_append.mp member with member | member
    · exact steady item member last (List.mem_of_getLast? isLast)
    · rw [List.mem_singleton.mp member, same]
  exact fun first member second other => (equal first member).trans (equal second other).symm

theorem lastChange_concat_of_ne (isLast : items.getLast? = some last) (differ : next.1 ≠ last.1) :
    LastChange (items ++ [next]) last next := by
  obtain ⟨front, rfl⟩ := List.getLast?_eq_some_iff.mp isLast
  exact ⟨differ.symm, front, [], by simp, by simp⟩

namespace LastChange

theorem latter_mem (change : LastChange items former latter) : latter ∈ items := by
  obtain ⟨-, front, rest, whole, -⟩ := change
  simp [whole]

theorem not_steady (change : LastChange items former latter) : ¬ Steady items := by
  obtain ⟨differ, front, rest, whole, -⟩ := change
  exact fun steady => differ (steady former (by simp [whole]) latter (by simp [whole]))

theorem last_eq (change : LastChange items former latter) (isLast : items.getLast? = some last) :
    last.1 = latter.1 := by
  obtain ⟨-, front, rest, whole, stays⟩ := change
  rw [whole, List.getLast?_append_of_ne_nil _ (by simp), List.getLast?_cons_cons] at isLast
  rcases List.mem_cons.mp (List.mem_of_getLast? isLast) with rfl | member
  · rfl
  · exact stays last member

theorem concat (change : LastChange items former latter) (same : next.1 = latter.1) :
    LastChange (items ++ [next]) former latter := by
  obtain ⟨differ, front, rest, whole, stays⟩ := change
  refine ⟨differ, front, rest ++ [next], by simp [whole], ?_⟩
  intro later member
  rcases List.mem_append.mp member with member | member
  · exact stays later member
  · rw [List.mem_singleton.mp member, same]

end LastChange

theorem le_last [Preorder τ] (ordered : (items.map Prod.snd).Pairwise (· ≤ ·))
    (isLast : items.getLast? = some last) {item : α × τ} (member : item ∈ items) :
    item.2 ≤ last.2 := by
  obtain ⟨front, rfl⟩ := List.getLast?_eq_some_iff.mp isLast
  rcases List.mem_append.mp member with member | member
  · rw [List.map_append, List.pairwise_append] at ordered
    exact ordered.2.2 item.2 (List.mem_map_of_mem member) last.2 (by simp)
  · rw [List.mem_singleton.mp member]

end Changes
