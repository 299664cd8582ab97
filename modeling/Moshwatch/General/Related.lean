import Moshwatch.General.Eviction
import Moshwatch.General.Loop

namespace Loop

variable {σ τ : Type*}

/-- Two loops whose bodies keep a relation, and exit together, end in related states. -/
theorem iterate_related {left : σ → Option σ} {right : τ → Option τ} (related : σ → τ → Prop)
    (kept : ∀ state other, related state other →
      (left state = none ∧ right other = none) ∨
        ∃ next otherNext, left state = some next ∧ right other = some otherNext ∧
          related next otherNext) :
    ∀ (fuel : Nat) (state : σ) (other : τ), related state other →
      related (iterate left fuel state) (iterate right fuel other) := by
  intro fuel
  induction fuel with
  | zero => intro state other held; exact held
  | succ fuel ih =>
    intro state other held
    rcases kept state other held with ⟨leftExit, rightExit⟩ | ⟨next, otherNext, leftRound, rightRound, held⟩
    · simpa only [iterate, leftExit, rightExit] using held
    · simp only [iterate, leftRound, rightRound]
      exact ih next otherNext held

end Loop

namespace KeyedStore

variable {κ ρ : Type*}

/-- Two stores with the same keys in the same order, and related values. -/
def Related (relation : ρ → ρ → Prop) (left right : KeyedStore κ ρ) : Prop :=
  List.Forall₂ (fun entry other => entry.1 = other.1 ∧ relation entry.2 other.2) left.entries
    right.entries

variable {relation : ρ → ρ → Prop} {left right : KeyedStore κ ρ}

theorem Related.size (related : Related relation left right) : size left = size right :=
  List.Forall₂.length_eq related

theorem Related.retain (related : Related relation left right) {keepLeft keepRight : κ → ρ → Bool}
    (agree : ∀ key value other, relation value other → keepLeft key value = keepRight key other) :
    Related relation (retain keepLeft left) (retain keepRight right) := by
  unfold Related KeyedStore.retain
  refine List.rel_filter ?_ related
  rintro ⟨key, value⟩ ⟨otherKey, other⟩ ⟨same, held⟩
  cases same
  change keepLeft key value = true ↔ keepRight key other = true
  rw [agree key value other held]

variable [DecidableEq κ]

theorem forall₂_kerase {entries others : List (Sigma fun _ : κ => ρ)} (key : κ)
    (related : List.Forall₂ (fun entry other => entry.1 = other.1 ∧ relation entry.2 other.2)
      entries others) :
    List.Forall₂ (fun entry other => entry.1 = other.1 ∧ relation entry.2 other.2)
      (entries.kerase key) (others.kerase key) := by
  induction related with
  | nil => exact List.Forall₂.nil
  | @cons entry other rest otherRest held tail ih =>
    by_cases hit : key = entry.1
    · rw [List.kerase_cons_eq hit, List.kerase_cons_eq (hit.trans held.1)]
      exact tail
    · rw [List.kerase_cons_ne hit, List.kerase_cons_ne (fun same => hit (same.trans held.1.symm))]
      exact List.Forall₂.cons held ih

theorem Related.erase (related : Related relation left right) (key : κ) :
    Related relation (left.erase key) (right.erase key) := forall₂_kerase key related

theorem Related.insert (related : Related relation left right) (key : κ) {value other : ρ}
    (held : relation value other) :
    Related relation (left.insert key value) (right.insert key other) := by
  unfold Related
  rw [AList.entries_insert, AList.entries_insert]
  exact List.Forall₂.cons ⟨rfl, held⟩ (forall₂_kerase key related)

theorem Related.lookup (related : Related relation left right) (key : κ) :
    (left.lookup key = none ∧ right.lookup key = none) ∨
      ∃ value other, left.lookup key = some value ∧ right.lookup key = some other ∧
        relation value other := by
  unfold AList.lookup
  unfold Related at related
  generalize left.entries = entries at related
  generalize right.entries = others at related
  induction related with
  | nil => exact .inl ⟨rfl, rfl⟩
  | @cons entry other rest otherRest held tail ih =>
    obtain ⟨entryKey, value⟩ := entry
    obtain ⟨otherKey, otherValue⟩ := other
    obtain ⟨same, held⟩ := held
    simp only at same
    subst same
    by_cases hit : key = entryKey
    · subst hit
      exact .inr ⟨value, otherValue, List.dlookup_cons_eq _ _ _, List.dlookup_cons_eq _ _ _, held⟩
    · rw [List.dlookup_cons_ne _ _ hit, List.dlookup_cons_ne _ _ hit]
      exact ih

theorem Related.contains (related : Related relation left right) (key : κ) :
    contains left key = contains right key := by
  unfold KeyedStore.contains
  rcases related.lookup key with ⟨absent, otherAbsent⟩ | ⟨value, other, found, otherFound, -⟩
  · rw [absent, otherAbsent]
  · rw [found, otherFound]
    rfl

end KeyedStore

namespace Eviction

variable {α β : Type*}

theorem foldl_min_related {cmp : α → α → Ordering} {otherCmp : β → β → Ordering}
    {relation : α → β → Prop}
    (agree : ∀ a b c d, relation a c → relation b d → cmp a b = otherCmp c d)
    {rest : List α} {others : List β} (related : List.Forall₂ relation rest others) :
    ∀ (first : α) (other : β), relation first other →
      relation (rest.foldl (fun best next => if cmp best next = .gt then next else best) first)
        (others.foldl (fun best next => if otherCmp best next = .gt then next else best) other) := by
  induction related with
  | nil => intro first other held; exact held
  | @cons next otherNext rest others nextHeld tail ih =>
    intro first other held
    rw [List.foldl_cons, List.foldl_cons, agree _ _ _ _ held nextHeld]
    apply ih
    split
    · exact nextHeld
    · exact held

theorem minBy?_related {cmp : α → α → Ordering} {otherCmp : β → β → Ordering}
    {relation : α → β → Prop}
    (agree : ∀ a b c d, relation a c → relation b d → cmp a b = otherCmp c d)
    {items : List α} {others : List β} (related : List.Forall₂ relation items others) :
    (minBy? cmp items = none ∧ minBy? otherCmp others = none) ∨
      ∃ least otherLeast, minBy? cmp items = some least ∧
        minBy? otherCmp others = some otherLeast ∧ relation least otherLeast := by
  cases related with
  | nil => exact .inl ⟨rfl, rfl⟩
  | cons held tail => exact .inr ⟨_, _, rfl, rfl, foldl_min_related agree tail _ _ held⟩

end Eviction
