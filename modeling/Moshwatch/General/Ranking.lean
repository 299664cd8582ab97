import Mathlib

/-! The first items of a list in the order of a comparator. -/

namespace Ranking

variable {α : Type*} (cmp : α → α → Ordering)

def sort (items : List α) : List α := items.mergeSort fun left right => cmp left right ≠ .gt

/-- Push an item, sort, and pop the last item if there are more than `limit`. -/
def keep (limit : Nat) (kept : List α) (item : α) : List α :=
  if limit = 0 then kept
  else if limit < (sort cmp (kept ++ [item])).length then (sort cmp (kept ++ [item])).dropLast
  else sort cmp (kept ++ [item])

def Distinct (items : List α) : Prop := items.Pairwise fun left right => cmp left right ≠ .eq

variable {cmp}

theorem sort_perm (items : List α) : (sort cmp items).Perm items := List.mergeSort_perm _ _

theorem length_sort (items : List α) : (sort cmp items).length = items.length :=
  (sort_perm items).length_eq

section Trans

variable [Std.TransCmp cmp]

theorem not_gt_trans {first second third : α} (left : cmp first second ≠ .gt)
    (right : cmp second third ≠ .gt) : cmp first third ≠ .gt := by
  exact Ordering.isLE_iff_ne_gt.mp (Std.TransCmp.isLE_trans (Ordering.isLE_iff_ne_gt.mpr left)
    (Ordering.isLE_iff_ne_gt.mpr right))

theorem not_gt_of_gt {left right : α} (above : cmp left right = .gt) : cmp right left ≠ .gt := by
  rw [Std.OrientedCmp.lt_of_gt above]
  decide

theorem eq_of_not_gt {left right : α} (below : cmp left right ≠ .gt) (above : cmp right left ≠ .gt) :
    cmp left right = .eq := by
  cases compared : cmp left right with
  | eq => rfl
  | gt => exact absurd compared below
  | lt => exact absurd (Std.OrientedCmp.gt_of_lt compared) above

theorem sort_sorted (items : List α) :
    (sort cmp items).Pairwise fun left right => cmp left right ≠ .gt := by
  have sorted := @List.pairwise_mergeSort α (fun left right => decide (cmp left right ≠ .gt))
    (by
      intro first second third left right
      rw [decide_eq_true_eq] at *
      exact not_gt_trans left right)
    (by
      intro left right
      cases compared : cmp left right with
      | gt => simp [Std.OrientedCmp.lt_of_gt compared]
      | _ => simp) items
  exact sorted.imp fun below => of_decide_eq_true below

theorem Distinct.perm {left right : List α} (distinct : Distinct cmp left) (perm : left.Perm right) :
    Distinct cmp right :=
  List.Pairwise.perm distinct perm fun differ same => differ (Std.OrientedCmp.eq_symm same)

/-- A sorted list of distinct items is the sort of any list of the same items. -/
theorem eq_sort {sorted items : List α} (distinct : Distinct cmp items) (perm : sorted.Perm items)
    (ordered : sorted.Pairwise fun left right => cmp left right ≠ .gt) : sorted = sort cmp items := by
  refine List.Perm.eq_of_pairwise ?_ ordered (sort_sorted items) (perm.trans (sort_perm items).symm)
  intro left right leftIn rightIn below above
  by_contra differ
  have members : left ∈ items ∧ right ∈ items :=
    ⟨perm.subset leftIn, (sort_perm items).subset rightIn⟩
  have symmetric : Std.Symm fun left right : α => cmp left right ≠ .eq :=
    ⟨fun _ _ apart same => apart (Std.OrientedCmp.eq_symm same)⟩
  exact List.Pairwise.forall distinct members.1 members.2 differ (eq_of_not_gt below above)

theorem sort_congr {left right : List α} (distinct : Distinct cmp left) (perm : left.Perm right) :
    sort cmp left = sort cmp right :=
  eq_sort (distinct.perm perm) ((sort_perm left).trans perm) (sort_sorted left)

theorem sort_of_sorted {items : List α} (distinct : Distinct cmp items)
    (ordered : items.Pairwise fun left right => cmp left right ≠ .gt) : sort cmp items = items :=
  (eq_sort distinct (List.Perm.refl items) ordered).symm

theorem sort_append {left right : List α} (distinct : Distinct cmp (left ++ right))
    (across : ∀ first ∈ left, ∀ second ∈ right, cmp first second ≠ .gt) :
    sort cmp (left ++ right) = sort cmp left ++ sort cmp right := by
  have perm := (@sort_perm _ cmp left).append (@sort_perm _ cmp right)
  have ordered : (sort cmp left ++ sort cmp right).Pairwise fun left right =>
      cmp left right ≠ .gt := by
    refine List.pairwise_append.mpr ⟨sort_sorted left, sort_sorted right, ?_⟩
    intro first inLeft second inRight
    exact across first ((sort_perm left).subset inLeft) second ((sort_perm right).subset inRight)
  exact (eq_sort distinct perm ordered).symm

theorem sort_into_front {front back : List α} {item : α}
    (distinct : Distinct cmp (front ++ (back ++ [item])))
    (sorted : (front ++ back).Pairwise fun left right => cmp left right ≠ .gt)
    (before : ∀ later ∈ back, cmp item later ≠ .gt) :
    sort cmp (front ++ (back ++ [item])) = sort cmp (front ++ [item]) ++ back := by
  obtain ⟨-, backSorted, across⟩ := List.pairwise_append.mp sorted
  have swap : (front ++ (back ++ [item])).Perm (front ++ [item] ++ back) := by
    rw [List.append_assoc]
    exact List.perm_append_comm.append_left front
  have swapped := distinct.perm swap
  have ordered : ∀ kept ∈ front ++ [item], ∀ later ∈ back, cmp kept later ≠ .gt := by
    intro kept member later inside
    rcases List.mem_append.mp member with old | new
    · exact across kept old later inside
    · rw [List.mem_singleton.mp new]
      exact before later inside
  have backDistinct := swapped.sublist (List.sublist_append_right (front ++ [item]) back)
  rw [sort_congr distinct swap, sort_append swapped ordered, sort_of_sorted backDistinct backSorted]

theorem sort_into_back {front back : List α} {item : α}
    (distinct : Distinct cmp (front ++ (back ++ [item])))
    (sorted : (front ++ back).Pairwise fun left right => cmp left right ≠ .gt)
    (below : ∀ kept ∈ front, cmp kept item ≠ .gt) :
    sort cmp (front ++ (back ++ [item])) = front ++ sort cmp (back ++ [item]) := by
  obtain ⟨frontSorted, -, across⟩ := List.pairwise_append.mp sorted
  have ordered : ∀ kept ∈ front, ∀ other ∈ back ++ [item], cmp kept other ≠ .gt := by
    intro kept member other found
    rcases List.mem_append.mp found with old | new
    · exact across kept member other old
    · rw [List.mem_singleton.mp new]
      exact below kept member
  have kept := sort_of_sorted (distinct.sublist (List.sublist_append_left front _)) frontSorted
  rw [sort_append distinct ordered, kept]

theorem keep_take {limit : Nat} {items : List α} {item : α} (positive : 0 < limit)
    (distinct : Distinct cmp (items ++ [item])) :
    keep cmp limit ((sort cmp items).take limit) item =
      (sort cmp (items ++ [item])).take limit := by
  obtain ⟨front, back, split, frontEq, short⟩ : ∃ front back, front ++ back = sort cmp items ∧
      (sort cmp items).take limit = front ∧
      (front.length = limit ∨ front.length < limit ∧ back = []) := by
    refine ⟨_, _, List.take_append_drop limit (sort cmp items), rfl, ?_⟩
    rw [List.length_take, List.drop_eq_nil_iff]
    omega
  have sorted := @sort_sorted _ cmp _ items
  rw [← split] at sorted
  have whole : (front ++ (back ++ [item])).Perm (items ++ [item]) := by
    rw [← List.append_assoc]
    exact (split ▸ sort_perm items).append_right [item]
  have wholeDistinct := distinct.perm whole.symm
  rw [frontEq, keep, if_neg (by omega), length_sort, List.length_append, List.length_singleton,
    ← sort_congr wholeDistinct whole]
  by_cases before : ∀ later ∈ back, cmp item later ≠ .gt
  · have size := @length_sort _ cmp (front ++ [item])
    rw [List.length_append, List.length_singleton] at size
    rw [sort_into_front wholeDistinct sorted before]
    rcases short with full | ⟨room, none⟩
    · rw [if_pos (by omega), List.dropLast_eq_take, size, full,
        List.take_append_of_le_length (by omega)]
      rfl
    · rw [if_neg (by omega), none, List.append_nil, List.take_of_length_le (by omega)]
  · push Not at before
    obtain ⟨later, inside, above⟩ := before
    have full : front.length = limit := by
      rcases short with full | ⟨-, none⟩
      · exact full
      · rw [none] at inside
        cases inside
    obtain ⟨frontSorted, -, across⟩ := List.pairwise_append.mp sorted
    have below : ∀ kept ∈ front, cmp kept item ≠ .gt := fun kept member =>
      not_gt_trans (across kept member later inside) (not_gt_of_gt above)
    have last : sort cmp (front ++ ([] ++ [item])) = front ++ sort cmp ([] ++ [item]) := by
      apply sort_into_back (wholeDistinct.sublist
        ((List.sublist_append_right back [item]).append_left front)) _ below
      rwa [List.append_nil]
    have single : sort cmp ([] ++ [item]) = [item] := List.perm_singleton.mp (sort_perm [item])
    rw [single, List.nil_append] at last
    rw [sort_into_back wholeDistinct sorted below, if_pos (by omega), last, List.dropLast_concat,
      List.take_append_of_le_length (by omega), List.take_of_length_le (by omega)]

/-- Keeping the best items one by one ends with the first ones of the sorted list. -/
theorem foldl_keep {limit : Nat} {items : List α} (distinct : Distinct cmp items) :
    items.foldl (keep cmp limit) [] = (sort cmp items).take limit := by
  by_cases positive : 0 < limit
  · induction items using List.reverseRecOn with
    | nil => simp [sort]
    | append_singleton items item ih =>
      have earlier : Distinct cmp items := distinct.sublist (List.sublist_append_left _ _)
      rw [List.foldl_append, ih earlier, List.foldl_cons, List.foldl_nil,
        keep_take positive distinct]
  · have zero : limit = 0 := by omega
    have fixed : ∀ kept : List α, items.foldl (keep cmp limit) kept = kept := by
      induction items with
      | nil => exact fun _ => rfl
      | cons item items ih =>
        intro kept
        have step : keep cmp limit kept item = kept := by
          rw [keep, if_pos zero]
        rw [List.foldl_cons, step]
        exact ih distinct.of_cons kept
    rw [fixed, zero, List.take_zero]

end Trans

end Ranking
