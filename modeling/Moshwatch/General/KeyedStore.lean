import Mathlib

/-- A finite map whose entries stand in an arbitrary order, as a hash map iterates them. -/
abbrev KeyedStore (κ ρ : Type*) := AList fun _ : κ => ρ

namespace KeyedStore

variable {κ ρ : Type*}

def size (store : KeyedStore κ ρ) : Nat := store.entries.length

def retain (keep : κ → ρ → Bool) (store : KeyedStore κ ρ) : KeyedStore κ ρ where
  entries := store.entries.filter fun entry => keep entry.1 entry.2
  nodupKeys := store.nodupKeys.sublist List.filter_sublist

theorem entries_nodup (store : KeyedStore κ ρ) : store.entries.Nodup := store.nodupKeys.nodup

theorem size_retain_le (keep : κ → ρ → Bool) (store : KeyedStore κ ρ) :
    size (retain keep store) ≤ size store := List.length_filter_le _ _

variable [DecidableEq κ]

def contains (store : KeyedStore κ ρ) (key : κ) : Bool := (store.lookup key).isSome

theorem contains_iff {store : KeyedStore κ ρ} {key : κ} :
    contains store key = true ↔ ∃ value, store.lookup key = some value :=
  Option.isSome_iff_exists

theorem contains_eq_false {store : KeyedStore κ ρ} {key : κ} :
    contains store key = false ↔ store.lookup key = none := by
  simp [contains]

theorem mem_entries_iff {store : KeyedStore κ ρ} {key : κ} {value : ρ} :
    (⟨key, value⟩ : Sigma fun _ : κ => ρ) ∈ store.entries ↔ store.lookup key = some value :=
  AList.mem_lookup_iff.symm

theorem lookup_retain (keep : κ → ρ → Bool) (store : KeyedStore κ ρ) (key : κ) :
    (retain keep store).lookup key = (store.lookup key).filter (keep key) := by
  cases found : store.lookup key with
  | none =>
    rw [Option.filter_none, Option.eq_none_iff_forall_ne_some]
    intro value present
    rw [← mem_entries_iff] at present
    have original := mem_entries_iff.mp (List.mem_of_mem_filter present)
    rw [found] at original
    cases original
  | some value =>
    have member := mem_entries_iff.mpr found
    cases kept : keep key value with
    | true =>
      rw [Option.filter_some, kept, if_pos rfl]
      exact mem_entries_iff.mp (List.mem_filter.mpr ⟨member, kept⟩)
    | false =>
      rw [Option.filter_some, kept, if_neg (by decide), Option.eq_none_iff_forall_ne_some]
      intro other present
      rw [← mem_entries_iff] at present
      have inside := List.mem_filter.mp present
      have same := mem_entries_iff.mp inside.1
      rw [found] at same
      cases same
      rw [kept] at inside
      exact absurd inside.2 (by decide)

theorem size_insert_of_lookup_none {store : KeyedStore κ ρ} {key : κ}
    (absent : store.lookup key = none) (value : ρ) :
    size (store.insert key value) = size store + 1 := by
  rw [size, AList.entries_insert_of_notMem (AList.lookup_eq_none.mp absent)]
  rfl

theorem size_erase_of_lookup {store : KeyedStore κ ρ} {key : κ} {value : ρ}
    (present : store.lookup key = some value) : size (store.erase key) + 1 = size store := by
  have member : key ∈ store.keys := AList.lookup_isSome.mp (by rw [present]; rfl)
  have length : (store.erase key).keys.length = store.keys.length - 1 := by
    rw [AList.keys_erase, List.length_erase_of_mem member]
  have positive := List.length_pos_of_mem member
  simp only [AList.keys, List.keys, List.length_map] at length positive
  simp only [size]
  omega

theorem size_insert_of_lookup {store : KeyedStore κ ρ} {key : κ} {value : ρ}
    (present : store.lookup key = some value) (update : ρ) :
    size (store.insert key update) = size store := by
  rw [← size_erase_of_lookup present]
  rfl

/-- The entries of a store that a smaller one misses. -/
def missing (all kept : KeyedStore κ ρ) : List (Sigma fun _ : κ => ρ) :=
  all.entries.filter fun entry => !contains kept entry.1

theorem length_missing {all kept : KeyedStore κ ρ} (sublist : kept.entries.Sublist all.entries) :
    (missing all kept).length = size all - size kept := by
  have same : (all.entries.filter fun entry => contains kept entry.1).Perm kept.entries := by
    refine (List.perm_ext_iff_of_nodup ((entries_nodup all).filter _) (entries_nodup kept)).mpr ?_
    intro entry
    rw [List.mem_filter]
    constructor
    · rintro ⟨member, present⟩
      obtain ⟨value, found⟩ := contains_iff.mp present
      have other := mem_entries_iff.mpr found
      rwa [all.nodupKeys.eq_of_fst_eq member (sublist.subset other) rfl]
    · intro member
      exact ⟨sublist.subset member, contains_iff.mpr ⟨entry.2, mem_entries_iff.mp member⟩⟩
  have split : all.entries.length = _ :=
    List.length_eq_length_filter_add fun entry => contains kept entry.1
  rw [same.length_eq] at split
  simp only [missing, size]
  omega

theorem length_le_size {store : KeyedStore κ ρ} {keys : List κ} (nodup : keys.Nodup)
    (tracked : ∀ key ∈ keys, ∃ value, store.lookup key = some value) :
    keys.length ≤ size store := by
  have subset : keys ⊆ store.keys := by
    intro key member
    obtain ⟨value, found⟩ := tracked key member
    exact AList.lookup_isSome.mp (by rw [found]; rfl)
  have bound := (List.subperm_of_subset nodup subset).length_le
  simpa only [AList.keys, List.keys, List.length_map, size] using bound

def total (weight : κ → ρ → Nat) (store : KeyedStore κ ρ) : Nat :=
  (store.entries.map fun entry => weight entry.1 entry.2).sum

theorem total_erase (weight : κ → ρ → Nat) {store : KeyedStore κ ρ} {key : κ} {value : ρ}
    (present : store.lookup key = some value) :
    total weight (store.erase key) + weight key value = total weight store := by
  have member : key ∈ store.entries.keys := AList.lookup_isSome.mp (by rw [present]; rfl)
  obtain ⟨held, front, back, -, whole, erased⟩ := List.exists_of_kerase member
  have found : (⟨key, held⟩ : Sigma fun _ : κ => ρ) ∈ store.entries := by
    rw [whole]
    simp
  rw [mem_entries_iff.mp found, Option.some.injEq] at present
  subst present
  have left : (store.erase key).entries = front ++ back := erased
  simp only [total, left, whole, List.map_append, List.map_cons, List.sum_append, List.sum_cons]
  omega

theorem total_insert (weight : κ → ρ → Nat) (store : KeyedStore κ ρ) (key : κ) (value : ρ) :
    total weight (store.insert key value) = weight key value + total weight (store.erase key) := by
  rw [total, AList.entries_insert, List.map_cons, List.sum_cons]
  rfl

theorem total_erase_of_absent (weight : κ → ρ → Nat) {store : KeyedStore κ ρ} {key : κ}
    (absent : store.lookup key = none) : total weight (store.erase key) = total weight store := by
  have missing : key ∉ store.entries.keys := AList.lookup_eq_none.mp absent
  have same : (store.erase key).entries = store.entries := List.kerase_of_notMem_keys missing
  rw [total, same]
  rfl

end KeyedStore
