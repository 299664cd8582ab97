import Moshwatch.General.KeyedStore

namespace Eviction

section Minimum

variable {α ρ : Type*} [LinearOrder ρ]

/-- The first minimum of a list, found in one pass. -/
def minBy? (cmp : α → α → Ordering) : List α → Option α
  | [] => none
  | first :: rest =>
    some (rest.foldl (fun best next => if cmp best next = .gt then next else best) first)

theorem minBy?_eq_none {cmp : α → α → Ordering} {items : List α} :
    minBy? cmp items = none ↔ items = [] := by
  cases items <;> simp [minBy?]

theorem foldl_min_spec {cmp : α → α → Ordering} {rank : α → ρ}
    (ranked : ∀ left right, cmp left right = compare (rank left) (rank right)) :
    ∀ (rest : List α) (first : α),
      let least := rest.foldl (fun best next => if cmp best next = .gt then next else best) first
      least ∈ first :: rest ∧ ∀ item ∈ first :: rest, rank least ≤ rank item := by
  intro rest
  induction rest with
  | nil => intro first; simp
  | cons next rest ih =>
    intro first
    simp only [List.foldl_cons]
    by_cases swapped : cmp first next = .gt
    · rw [if_pos swapped]
      have lower : rank next < rank first := by
        rw [ranked, compare_gt_iff_gt] at swapped
        exact swapped
      obtain ⟨member, least⟩ := ih next
      refine ⟨List.mem_cons_of_mem _ member, ?_⟩
      intro item present
      rcases List.mem_cons.mp present with rfl | present
      · exact (least next List.mem_cons_self).trans lower.le
      · exact least item present
    · rw [if_neg swapped]
      have lower : rank first ≤ rank next := by
        rw [ranked, compare_gt_iff_gt, not_lt] at swapped
        exact swapped
      obtain ⟨member, least⟩ := ih first
      refine ⟨?_, ?_⟩
      · rcases List.mem_cons.mp member with same | member
        · rw [same]
          exact List.mem_cons_self
        · exact List.mem_cons_of_mem _ (List.mem_cons_of_mem _ member)
      · intro item present
        rcases List.mem_cons.mp present with rfl | present
        · exact least item List.mem_cons_self
        · rcases List.mem_cons.mp present with rfl | present
          · exact (least first List.mem_cons_self).trans lower
          · exact least item (List.mem_cons_of_mem _ present)

theorem minBy?_spec {cmp : α → α → Ordering} (rank : α → ρ)
    (ranked : ∀ left right, cmp left right = compare (rank left) (rank right))
    {items : List α} {least : α} (found : minBy? cmp items = some least) :
    least ∈ items ∧ ∀ item ∈ items, rank least ≤ rank item := by
  cases items with
  | nil => cases found
  | cons first rest =>
    cases found
    exact foldl_min_spec ranked rest first

end Minimum

section UpperPart

variable {α ρ : Type*} [LinearOrder ρ]

/-- `kept` is what is left of `all` when only lower-ranked items have been dropped. -/
structure UpperPart (rank : α → ρ) (all kept : List α) : Prop where
  sublist : kept.Sublist all
  above : ∀ dropped ∈ all, dropped ∉ kept → ∀ survivor ∈ kept, rank dropped < rank survivor

theorem UpperPart.refl (rank : α → ρ) (all : List α) : UpperPart rank all all :=
  ⟨List.Sublist.refl all, fun _ present absent => absurd present absent⟩

theorem UpperPart.trans {rank : α → ρ} {all middle kept : List α}
    (first : UpperPart rank all middle) (second : UpperPart rank middle kept) :
    UpperPart rank all kept := by
  refine ⟨second.sublist.trans first.sublist, ?_⟩
  intro dropped present absent survivor remains
  by_cases between : dropped ∈ middle
  · exact second.above dropped between absent survivor remains
  · exact first.above dropped present between survivor (second.sublist.subset remains)

/-- Upper parts of one size hold the same items, in whatever order the items are listed. -/
theorem UpperPart.unique {rank : α → ρ} {left right keptLeft keptRight : List α}
    (perm : left.Perm right) (nodup : left.Nodup)
    (upperLeft : UpperPart rank left keptLeft) (upperRight : UpperPart rank right keptRight)
    (length : keptLeft.length = keptRight.length) : keptLeft.Perm keptRight := by
  have nodupLeft := upperLeft.sublist.nodup nodup
  have nodupRight := upperRight.sublist.nodup (perm.nodup_iff.mp nodup)
  have inside : keptLeft ⊆ keptRight := by
    intro item member
    by_contra absent
    have missing : ∃ other ∈ keptRight, other ∉ keptLeft := by
      by_contra none
      have subset : keptRight ⊆ keptLeft := by
        intro other present
        by_contra notLeft
        exact none ⟨other, present, notLeft⟩
      have same := (List.subperm_of_subset nodupRight subset).perm_of_length_le (by omega)
      exact absent (same.mem_iff.mpr member)
    obtain ⟨other, present, notLeft⟩ := missing
    have below := upperLeft.above other
      (perm.mem_iff.mpr (upperRight.sublist.subset present)) notLeft item member
    have reversed := upperRight.above item
      (perm.mem_iff.mp (upperLeft.sublist.subset member)) absent other present
    exact absurd below (not_lt.mpr reversed.le)
  exact (List.subperm_of_subset nodupLeft inside).perm_of_length_le (by omega)

end UpperPart

section Store

variable {κ τ ρ : Type*} [DecidableEq κ] [LinearOrder ρ]

theorem upperPart_erase {rank : τ → ρ} {store : KeyedStore κ τ} {least : Sigma fun _ : κ => τ}
    (injective : ∀ left ∈ store.entries, ∀ right ∈ store.entries,
      rank left.2 = rank right.2 → left = right)
    (member : least ∈ store.entries)
    (lowest : ∀ entry ∈ store.entries, rank least.2 ≤ rank entry.2) :
    UpperPart (fun entry => rank entry.2) store.entries (store.erase least.1).entries := by
  refine ⟨List.kerase_sublist _ _, ?_⟩
  intro dropped present absent survivor remains
  have same : dropped = least := by
    by_contra different
    apply absent
    have keys : dropped.1 ≠ least.1 := fun equal =>
      different (store.nodupKeys.eq_of_fst_eq present member equal)
    rw [show dropped = ⟨dropped.1, dropped.2⟩ from rfl, KeyedStore.mem_entries_iff,
      AList.lookup_erase_ne keys]
    exact KeyedStore.mem_entries_iff.mp present
  have kept : survivor ∈ store.entries := (List.kerase_sublist _ _).subset remains
  have other : survivor ≠ least := by
    intro equal
    have found := KeyedStore.mem_entries_iff.mp
      (show (⟨survivor.1, survivor.2⟩ : Sigma fun _ : κ => τ) ∈ (store.erase least.1).entries
        from remains)
    rw [equal, AList.lookup_erase] at found
    cases found
  rw [same]
  refine lt_of_le_of_ne (lowest survivor kept) ?_
  intro equal
  exact other (injective survivor kept least member equal.symm)

end Store

end Eviction
