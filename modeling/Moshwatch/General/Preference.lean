import Mathlib

/-! The highest ranked of several candidates, found by merging choices. -/

namespace Preference

variable {α β : Type*} [LinearOrder β] (rank : α → β)

/-- Keep the current choice unless the candidate ranks above it. -/
def merge : Option α → Option α → Option α
  | some current, some candidate =>
    if rank current < rank candidate then some candidate else some current
  | some current, none => some current
  | none, candidate => candidate

variable {rank}

@[simp] theorem merge_none_left (candidate : Option α) : merge rank none candidate = candidate := by
  cases candidate <;> rfl

@[simp] theorem merge_none_right (current : Option α) : merge rank current none = current := by
  cases current <;> rfl

theorem merge_assoc (first second third : Option α) :
    merge rank (merge rank first second) third = merge rank first (merge rank second third) := by
  cases first with
  | none => rw [merge_none_left, merge_none_left]
  | some first =>
    cases second with
    | none => rw [merge_none_right, merge_none_left]
    | some second =>
      cases third with
      | none => rw [merge_none_right, merge_none_right]
      | some third =>
        by_cases up : rank first < rank second
        · by_cases upper : rank second < rank third
          · simp [merge, up, upper, up.trans upper]
          · simp [merge, up, upper]
        · by_cases upper : rank second < rank third
          · simp [merge, up, upper]
          · have kept : ¬ rank first < rank third :=
              not_lt.mpr ((not_lt.mp upper).trans (not_lt.mp up))
            simp [merge, up, upper, kept]

theorem argmax_concat (candidates : List α) (last : α) :
    (candidates ++ [last]).argmax rank = merge rank (candidates.argmax rank) (some last) := by
  rw [List.argmax_concat]
  cases candidates.argmax rank <;> rfl

theorem argmax_append (front back : List α) :
    (front ++ back).argmax rank = merge rank (front.argmax rank) (back.argmax rank) := by
  induction back using List.reverseRecOn with
  | nil => rw [List.append_nil, List.argmax_nil, merge_none_right]
  | append_singleton back last ih =>
    rw [← List.append_assoc, argmax_concat, ih, merge_assoc, argmax_concat]

theorem argmax_eq_none {candidates : List α} : candidates.argmax rank = none ↔ candidates = [] :=
  List.argmax_eq_none

section Injective

variable (distinct : Function.Injective rank) {candidates : List α}

include distinct

/-- Without ties the choice is the only candidate that ranks as high as every other. -/
theorem argmax_eq_some_iff {choice : α} :
    candidates.argmax rank = some choice ↔
      choice ∈ candidates ∧ ∀ other ∈ candidates, rank other ≤ rank choice := by
  constructor
  · intro chosen
    exact ⟨List.argmax_mem chosen, fun other member => List.le_of_mem_argmax member chosen⟩
  · intro best
    obtain ⟨member, above⟩ := best
    cases found : candidates.argmax rank with
    | none =>
      rw [argmax_eq_none.mp found] at member
      cases member
    | some other =>
      have below : rank other ≤ rank choice := above other (List.argmax_mem found)
      have atLeast : rank choice ≤ rank other := List.le_of_mem_argmax member found
      rw [distinct (le_antisymm below atLeast)]

theorem argmax_congr {left right : List α} (same : ∀ item, item ∈ left ↔ item ∈ right) :
    left.argmax rank = right.argmax rank := by
  ext choice
  rw [argmax_eq_some_iff distinct, argmax_eq_some_iff distinct, same]
  simp only [same]

end Injective

end Preference
