import Mathlib

namespace RunLength

variable {α β κ : Type*}

/-- An item that continues the last run extends it, any other opens the next run. -/
def push (continues : β → α → Bool) (extend : β → α → β) (opened : Nat → α → β) (runs : List β)
    (item : α) : List β :=
  match runs.getLast? with
  | some run =>
    if continues run item then runs.dropLast ++ [extend run item]
    else runs ++ [opened runs.length item]
  | none => runs ++ [opened runs.length item]

def collect (continues : β → α → Bool) (extend : β → α → β) (opened : Nat → α → β)
    (items : List α) : List β :=
  items.foldl (push continues extend opened) []

def summaries (extend : β → α → β) (opened : Nat → α → β) : Nat → List (List α) → List β
  | _, [] => []
  | index, [] :: groups => summaries extend opened index groups
  | index, (first :: later) :: groups =>
    later.foldl extend (opened index first) :: summaries extend opened (index + 1) groups

/-- The runs carry the labels of their items, and an item continues a run of its label. -/
structure Labelled (continues : β → α → Bool) (extend : β → α → β) (opened : Nat → α → β)
    (tag : β → κ) (label : α → κ) : Prop where
  continues : ∀ run item, continues run item = true ↔ tag run = label item
  extend : ∀ run item, tag (extend run item) = tag run
  opened : ∀ index item, tag (opened index item) = label item

variable {continues : β → α → Bool} {extend : β → α → β} {opened : Nat → α → β} {tag : β → κ}
  {label : α → κ}

theorem label_eq_head {group : List α}
    (uniform : group.IsChain fun left right => label left = label right) {first : α}
    (isFirst : group.head? = some first) : ∀ item ∈ group, label item = label first := by
  have mapped : (group.map label).IsChain (· = ·) := (List.isChain_map label).mpr uniform
  obtain ⟨rest, rfl⟩ := List.head?_eq_some_iff.mp isFirst
  have pairs := List.pairwise_cons.mp (List.isChain_iff_pairwise.mp mapped)
  intro item member
  rcases List.mem_cons.mp member with rfl | later
  · rfl
  · exact (pairs.1 _ (List.mem_map_of_mem later)).symm

theorem collect_concat (items : List α) (item : α) :
    collect continues extend opened (items ++ [item]) =
      push continues extend opened (collect continues extend opened items) item := by
  simp [collect, List.foldl_append]

namespace Labelled

variable (labelled : Labelled continues extend opened tag label)

include labelled

theorem push_cases (runs : List β) (item : α) :
    ((runs.map tag).getLast? = some (label item) ∧
        (push continues extend opened runs item).map tag = runs.map tag) ∨
      ((runs.map tag).getLast? ≠ some (label item) ∧
        (push continues extend opened runs item).map tag = runs.map tag ++ [label item]) := by
  cases last : runs.getLast? with
  | none =>
    right
    simp [push, last, labelled.opened]
  | some run =>
    simp only [push, last, List.getLast?_map, Option.map_some, Option.some.injEq]
    by_cases same : tag run = label item
    · left
      rw [if_pos ((labelled.continues run item).mpr same)]
      refine ⟨same, ?_⟩
      rw [List.map_append, List.map_singleton, labelled.extend, ← List.map_singleton,
        ← List.map_append, List.dropLast_append_getLast? run last]
    · right
      rw [if_neg (fun continued => same ((labelled.continues run item).mp continued))]
      refine ⟨fun equal => same (Option.some.inj equal), ?_⟩
      rw [List.map_append, List.map_singleton, labelled.opened]

theorem mem_tags (items : List α) (value : κ) :
    value ∈ (collect continues extend opened items).map tag ↔ value ∈ items.map label := by
  induction items using List.reverseRecOn with
  | nil => rfl
  | append_singleton items item ih =>
    rw [collect_concat, List.map_append, List.mem_append, ← ih]
    rcases labelled.push_cases (collect continues extend opened items) item with
      ⟨last, same⟩ | ⟨-, grown⟩
    · rw [same]
      constructor
      · exact .inl
      · rintro (old | new)
        · exact old
        · rw [List.mem_singleton.mp new]
          exact List.mem_of_getLast? last
    · rw [grown, List.mem_append]
      rfl

theorem isChain_tags (items : List α) :
    ((collect continues extend opened items).map tag).IsChain (· ≠ ·) := by
  induction items using List.reverseRecOn with
  | nil => exact List.isChain_nil
  | append_singleton items item ih =>
    rw [collect_concat]
    rcases labelled.push_cases (collect continues extend opened items) item with
      ⟨-, same⟩ | ⟨other, grown⟩
    · rw [same]
      exact ih
    · rw [grown]
      apply ih.append (List.isChain_singleton _)
      intro last isLast first isFirst equal
      cases isFirst
      rw [equal] at isLast
      exact other isLast

theorem length_le_one_iff (items : List α) :
    (collect continues extend opened items).length ≤ 1 ↔
      ∀ first ∈ items, ∀ second ∈ items, label first = label second := by
  have chain := labelled.isChain_tags items
  have mem := labelled.mem_tags items
  rw [← List.length_map (f := tag)]
  generalize (collect continues extend opened items).map tag = tags at chain mem
  constructor
  · intro short first firstMember second secondMember
    have firstTag := (mem _).mpr (List.mem_map_of_mem firstMember)
    have secondTag := (mem _).mpr (List.mem_map_of_mem secondMember)
    match tags, short with
    | [], _ => cases firstTag
    | [only], _ => rw [List.mem_singleton.mp firstTag, List.mem_singleton.mp secondTag]
  · intro uniform
    match tags with
    | [] => exact Nat.zero_le _
    | [only] => exact le_refl _
    | first :: second :: rest =>
      obtain ⟨firstItem, firstMember, rfl⟩ := List.mem_map.mp ((mem first).mp (by simp))
      obtain ⟨secondItem, secondMember, rfl⟩ := List.mem_map.mp ((mem second).mp (by simp))
      have differ := (List.isChain_cons_cons.mp chain).1
      exact absurd (uniform firstItem firstMember secondItem secondMember) differ

/-- Collecting commutes with a renaming that keeps the labels of the items apart. -/
theorem collect_map {renameItem : α → α} {renameRun : β → β} {rename : κ → κ}
    (renamedTag : ∀ run, tag (renameRun run) = rename (tag run))
    (renamedLabel : ∀ item, label (renameItem item) = rename (label item))
    (renamedExtend : ∀ run item,
      extend (renameRun run) (renameItem item) = renameRun (extend run item))
    (renamedOpened : ∀ index item, opened index (renameItem item) = renameRun (opened index item))
    {items : List α} (apart : ∀ first ∈ items, ∀ second ∈ items,
      rename (label first) = rename (label second) → label first = label second) :
    collect continues extend opened (items.map renameItem) =
      (collect continues extend opened items).map renameRun := by
  induction items using List.reverseRecOn with
  | nil => rfl
  | append_singleton items item ih =>
    have earlier := ih fun first firstMember second secondMember =>
      apart first (by simp [firstMember]) second (by simp [secondMember])
    rw [List.map_append, List.map_singleton, collect_concat, collect_concat, earlier]
    have tags := labelled.mem_tags items
    generalize collect continues extend opened items = runs at tags
    cases last : runs.getLast? with
    | none =>
      rw [List.getLast?_eq_none_iff] at last
      subst last
      simp [push, renamedOpened]
    | some run =>
      -- The last run carries the label of an earlier item.
      have tagged : tag run ∈ items.map label :=
        (tags (tag run)).mp (List.mem_map_of_mem (List.mem_of_getLast? last))
      obtain ⟨former, formerMember, formerLabel⟩ := List.mem_map.mp tagged
      have same : continues (renameRun run) (renameItem item) = continues run item := by
        rw [Bool.eq_iff_iff, labelled.continues, labelled.continues, renamedTag, renamedLabel,
          ← formerLabel]
        exact ⟨apart former (by simp [formerMember]) item (by simp), congrArg rename⟩
      simp only [push, List.getLast?_map, last, Option.map_some, same]
      split
      · rw [List.map_append, List.map_singleton, renamedExtend, List.map_dropLast]
      · rw [List.map_append, List.map_singleton, renamedOpened, List.length_map]

section Groups

omit labelled in
theorem push_opens {runs : List β} {item : α}
    (fresh : ∀ run ∈ runs.getLast?, continues run item = false) :
    push continues extend opened runs item = runs ++ [opened runs.length item] := by
  cases last : runs.getLast? with
  | none => simp only [push, last]
  | some run =>
    have other : ¬continues run item = true := by
      rw [fresh run last]
      exact Bool.false_ne_true
    simp only [push, last, if_neg other]

theorem foldl_push_uniform (runs : List β) {later : List α} {run : β}
    (uniform : ∀ item ∈ later, label item = tag run) :
    later.foldl (push continues extend opened) (runs ++ [run]) =
      runs ++ [later.foldl extend run] := by
  induction later generalizing run with
  | nil => rfl
  | cons item rest ih =>
    have same := (labelled.continues run item).mpr (uniform item List.mem_cons_self).symm
    have pushed : push continues extend opened (runs ++ [run]) item =
        runs ++ [extend run item] := by
      simp only [push, List.getLast?_concat, if_pos same, List.dropLast_concat]
    rw [List.foldl_cons, List.foldl_cons, pushed]
    refine ih fun other member => ?_
    rw [labelled.extend]
    exact uniform other (List.mem_cons_of_mem _ member)

theorem tag_foldl_extend (later : List α) (run : β) : tag (later.foldl extend run) = tag run := by
  induction later generalizing run with
  | nil => rfl
  | cons item rest ih => rw [List.foldl_cons, ih, labelled.extend]

theorem foldl_push_groups {groups : List (List α)}
    (uniform : ∀ group ∈ groups, group.IsChain fun left right => label left = label right)
    (nonempty : [] ∉ groups)
    (apart : groups.IsChain fun left right =>
      ∀ last ∈ left.getLast?, ∀ first ∈ right.head?, label last ≠ label first) :
    ∀ runs : List β, (∀ run ∈ runs.getLast?, ∀ group ∈ groups.head?, ∀ first ∈ group.head?,
        tag run ≠ label first) →
      groups.flatten.foldl (push continues extend opened) runs =
        runs ++ summaries extend opened runs.length groups := by
  induction groups with
  | nil => simp [summaries]
  | cons group rest ih =>
    intro runs fresh
    cases group with
    | nil => exact absurd List.mem_cons_self nonempty
    | cons first later =>
      have alike := label_eq_head (uniform (first :: later) List.mem_cons_self) rfl
      have opens : push continues extend opened runs first =
          runs ++ [opened runs.length first] := by
        apply push_opens
        intro run isLast
        refine Bool.eq_false_iff.mpr fun continued => ?_
        exact fresh run isLast _ rfl first rfl ((labelled.continues run first).mp continued)
      have followed : ∀ item ∈ later, label item = tag (opened runs.length first) := by
        intro item member
        rw [labelled.opened]
        exact alike item (List.mem_cons_of_mem _ member)
      have grown := labelled.foldl_push_uniform runs followed
      rw [List.flatten_cons, List.cons_append, List.foldl_cons, opens, List.foldl_append, grown,
        ih (fun group member => uniform group (List.mem_cons_of_mem _ member))
          (fun member => nonempty (List.mem_cons_of_mem _ member)) (List.isChain_cons.mp apart).2]
      · simp [summaries]
      · intro run isLast next isNext start isStart
        rw [List.getLast?_concat, Option.mem_some_iff] at isLast
        rw [← isLast, labelled.tag_foldl_extend, labelled.opened]
        obtain ⟨last, ends⟩ : ∃ last, (first :: later).getLast? = some last :=
          ⟨_, List.getLast?_eq_some_getLast (List.cons_ne_nil first later)⟩
        rw [← alike last (List.mem_of_getLast? ends)]
        exact (List.isChain_cons.mp apart).1 next isNext last ends start isStart

/-- The runs are the summaries of the maximal groups of neighbours with one label. -/
theorem collect_eq_summaries [DecidableEq κ] (items : List α) :
    collect continues extend opened items =
      summaries extend opened 0 (items.splitBy fun left right => label left = label right) := by
  have uniform : ∀ group ∈ items.splitBy fun left right => label left = label right,
      group.IsChain fun left right => label left = label right := by
    intro group member
    simpa using List.isChain_of_mem_splitBy member
  have apart := List.isChain_getLast_head_splitBy
    (fun left right => decide (label left = label right)) items
  have collected := labelled.foldl_push_groups uniform (List.nil_notMem_splitBy _ items)
    (apart.imp ?_) [] (by simp)
  · rwa [List.flatten_splitBy, List.nil_append] at collected
  · intro left right differ last isLast first isFirst
    obtain ⟨leftNonempty, rightNonempty, differ⟩ := differ
    rw [List.getLast?_eq_some_getLast leftNonempty, Option.mem_some_iff] at isLast
    rw [List.head?_eq_some_head rightNonempty, Option.mem_some_iff] at isFirst
    rw [← isLast, ← isFirst]
    exact of_decide_eq_false differ

end Groups

end Labelled

end RunLength
