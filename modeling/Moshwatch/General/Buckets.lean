import Mathlib

/-! Items kept in buckets, of which a bounded number of the newest is wanted. -/

namespace Buckets

variable {α β κ : Type*}

def push (limit : Nat) (kept : List α) (item : α) : List α :=
  if limit < (kept ++ [item]).length then (kept ++ [item]).dropLast else kept ++ [item]

/-- Read buckets until `limit` items are found, the last item of a bucket first. -/
def scan (limit : Nat) (read : β → Option (List α)) : List β → List α → Option (List α)
  | [], kept => some kept
  | bucket :: older, kept => do
    let items ← read bucket
    let kept := items.reverse.foldl (push limit) kept
    if limit ≤ kept.length then some kept else scan limit read older kept

theorem foldl_push {limit : Nat} {kept : List α} (bounded : kept.length ≤ limit) (items : List α) :
    items.foldl (push limit) kept = (kept ++ items).take limit := by
  induction items generalizing kept with
  | nil => rw [List.append_nil, List.take_of_length_le bounded, List.foldl_nil]
  | cons item items ih =>
    rw [List.foldl_cons, push]
    split
    · rename_i full
      rw [List.length_append, List.length_singleton] at full
      rw [List.dropLast_concat, ih bounded]
      have whole : kept.length = limit := by omega
      rw [← whole, List.take_left, List.take_left]
    · rename_i room
      rw [ih (by omega), List.append_assoc, List.singleton_append]

theorem scan_eq {limit : Nat} {read : β → Option (List α)} {items : β → List α}
    {buckets : List β} (reads : ∀ bucket ∈ buckets, read bucket = some (items bucket)) :
    ∀ kept : List α, kept.length ≤ limit →
      scan limit read buckets kept =
        some ((kept ++ buckets.flatMap fun bucket => (items bucket).reverse).take limit) := by
  induction buckets with
  | nil =>
    intro kept bounded
    rw [List.flatMap_nil, List.append_nil, List.take_of_length_le bounded, scan]
  | cons bucket older ih =>
    intro kept bounded
    have later := ih fun other member => reads other (List.mem_cons_of_mem _ member)
    rw [scan, reads bucket List.mem_cons_self, Option.bind_eq_bind, Option.bind_some,
      foldl_push bounded, List.flatMap_cons, ← List.append_assoc]
    simp only
    split
    · rename_i full
      rw [List.length_take] at full
      have enough : limit ≤ (kept ++ (items bucket).reverse).length := full.trans (min_le_right _ _)
      rw [List.take_append_of_le_length enough]
    · rename_i room
      rw [List.length_take] at room
      rw [List.take_of_length_le (by omega), later _ (by omega)]

/-- Reading the newest buckets first and stopping early finds the last `limit` items. -/
theorem scan_reverse {limit : Nat} {read : β → Option (List α)} {items : β → List α}
    {buckets : List β} (reads : ∀ bucket ∈ buckets, read bucket = some (items bucket)) :
    (scan limit read buckets.reverse []).map List.reverse =
      some ((buckets.flatMap items).rtake limit) := by
  rw [@scan_eq _ _ _ _ items _ (fun bucket member => reads bucket (List.mem_reverse.mp member)) []
    (Nat.zero_le _), List.nil_append, Option.map_some, List.rtake_eq_reverse_take_reverse,
    List.reverse_flatMap]
  rfl

section Sorted

variable [DecidableEq κ] {key : α → κ}

theorem covered_tail {keys : List κ} {bucket : κ} {items : List α}
    (covered : ∀ item ∈ items, key item ∈ bucket :: keys) :
    ∀ item ∈ items.filter (fun item => ¬key item = bucket), key item ∈ keys := by
  intro item member
  obtain ⟨inside, differs⟩ := List.mem_filter.mp member
  rw [decide_eq_true_eq] at differs
  exact (List.mem_cons.mp (covered item inside)).resolve_left differs

theorem flatMap_filter_tail {keys : List κ} {bucket : κ} (fresh : bucket ∉ keys)
    (items : List α) :
    (keys.flatMap fun other => items.filter fun item => key item = other) =
      keys.flatMap fun other =>
        (items.filter fun item => ¬key item = bucket).filter fun item => key item = other := by
  apply List.flatMap_congr
  intro other member
  rw [List.filter_filter]
  apply List.filter_congr
  intro item _
  have differs : other ≠ bucket := fun same => fresh (same ▸ member)
  by_cases here : key item = other
  · simp [here, differs]
  · simp [here]

omit [DecidableEq κ] in
theorem eq_nil_of_covered {items : List α} (covered : ∀ item ∈ items, key item ∈ ([] : List κ)) :
    items = [] :=
  List.eq_nil_iff_forall_not_mem.mpr fun item member => List.not_mem_nil (covered item member)

theorem perm_flatMap_filter {keys : List κ} (distinct : keys.Nodup) :
    ∀ {items : List α}, (∀ item ∈ items, key item ∈ keys) →
      (keys.flatMap fun bucket => items.filter fun item => key item = bucket).Perm items := by
  induction keys with
  | nil =>
    intro items covered
    rw [eq_nil_of_covered covered]
    rfl
  | cons bucket keys ih =>
    intro items covered
    obtain ⟨fresh, distinct⟩ := List.nodup_cons.mp distinct
    rw [List.flatMap_cons, flatMap_filter_tail fresh]
    refine ((ih distinct (covered_tail covered)).append_left _).trans ?_
    simpa using List.filter_append_perm (fun item => decide (key item = bucket)) items

end Sorted

section Ordered

variable [LinearOrder κ] {key : α → κ}

theorem filter_append_of_sorted {items : List α} {first : κ}
    (sorted : items.Pairwise fun left right => key left ≤ key right)
    (least : ∀ item ∈ items, first ≤ key item) :
    (items.filter fun item => key item = first) ++ (items.filter fun item => ¬key item = first) =
      items := by
  induction items with
  | nil => rfl
  | cons item items ih =>
    obtain ⟨below, sorted⟩ := List.pairwise_cons.mp sorted
    by_cases here : key item = first
    · have rest := ih sorted fun other member => least other (List.mem_cons_of_mem _ member)
      simp only [List.filter_cons, here, decide_true, not_true_eq_false, decide_false, if_true,
        Bool.false_eq_true, if_false, List.cons_append, rest]
    · have above : ∀ other ∈ item :: items, ¬key other = first := by
        have strict := lt_of_le_of_ne (least item List.mem_cons_self) (Ne.symm here)
        intro other member
        rcases List.mem_cons.mp member with rfl | later
        · exact here
        · exact (strict.trans_le (below other later)).ne'
      rw [List.filter_eq_nil_iff.mpr (by simpa using above),
        List.filter_eq_self.mpr (by simpa using above), List.nil_append]

theorem flatMap_filter_of_sorted {keys : List κ} (strict : keys.Pairwise (· < ·)) :
    ∀ {items : List α}, (items.Pairwise fun left right => key left ≤ key right) →
      (∀ item ∈ items, key item ∈ keys) →
      (keys.flatMap fun bucket => items.filter fun item => key item = bucket) = items := by
  induction keys with
  | nil =>
    intro items _ covered
    rw [eq_nil_of_covered covered]
    rfl
  | cons bucket keys ih =>
    intro items sorted covered
    obtain ⟨above, strict⟩ := List.pairwise_cons.mp strict
    have fresh : bucket ∉ keys := fun member => lt_irrefl bucket (above bucket member)
    have least : ∀ item ∈ items, bucket ≤ key item := by
      intro item member
      rcases List.mem_cons.mp (covered item member) with same | later
      · exact same.ge
      · exact (above _ later).le
    rw [List.flatMap_cons, flatMap_filter_tail fresh,
      ih strict (sorted.filter _) (covered_tail covered)]
    exact filter_append_of_sorted sorted least

end Ordered

end Buckets
