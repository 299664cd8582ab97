import Mathlib

namespace Watch

/-- A reader of a channel that keeps only its latest value. It marks the current version as seen,
    then takes whatever value is there, which may be a newer one. -/
structure Reader where
  seen : Nat
  marked : Bool
  /-- The versions of the values it took, newest first. -/
  taken : List Nat

namespace Reader

def subscribe (version : Nat) : Reader := { seen := version, marked := true, taken := [] }

def mark (reader : Reader) (version : Nat) : Reader :=
  { reader with seen := version, marked := true }

def take (reader : Reader) (version : Nat) : Reader :=
  { reader with marked := false, taken := version :: reader.taken }

structure Follows (reader : Reader) (version : Nat) : Prop where
  seen_le : reader.seen ≤ version
  bounded : ∀ older ∈ reader.taken, older ≤ version
  sorted : reader.taken.Pairwise fun newer older => older ≤ newer
  twice : ∀ any, reader.taken.count any ≤ 2
  ahead : reader.marked = true →
    (∀ older ∈ reader.taken, older ≤ reader.seen) ∧ reader.taken.count reader.seen ≤ 1
  caught : reader.marked = false → ∃ latest older, reader.taken = latest :: older ∧
    reader.seen ≤ latest ∧ (reader.seen < latest → latest ∉ older)

variable {reader : Reader} {version : Nat}

theorem follows_subscribe (version : Nat) : (subscribe version).Follows version := by
  refine ⟨le_refl _, ?_, List.Pairwise.nil, ?_, ?_, ?_⟩
  · intro older member
    cases member
  · intro any
    exact Nat.zero_le 2
  · intro _
    exact ⟨fun older member => (by cases member), Nat.zero_le 1⟩
  · intro unmarked
    cases unmarked

theorem Follows.mono (follows : reader.Follows version) {later : Nat} (grown : version ≤ later) :
    reader.Follows later :=
  { follows with
    seen_le := follows.seen_le.trans grown
    bounded := fun older member => (follows.bounded older member).trans grown }

/-- A reader that has not seen the current version has taken it once at most. -/
theorem Follows.mark (follows : reader.Follows version) (unmarked : reader.marked = false)
    (unseen : reader.seen ≠ version) : (reader.mark version).Follows version := by
  refine ⟨le_refl _, follows.bounded, follows.sorted, follows.twice, ?_, ?_⟩
  · intro _
    refine ⟨follows.bounded, ?_⟩
    obtain ⟨latest, older, taken, ahead, first⟩ := follows.caught unmarked
    have before : reader.seen < version := lt_of_le_of_ne follows.seen_le unseen
    have sorted := follows.sorted
    rw [taken, List.pairwise_cons] at sorted
    change reader.taken.count version ≤ 1
    rw [taken]
    by_cases current : latest = version
    · subst current
      rw [List.count_cons_self, List.count_eq_zero_of_not_mem (first before)]
    · have below : latest < version :=
        lt_of_le_of_ne (follows.bounded latest (by simp [taken])) current
      have absent : version ∉ latest :: older := by
        intro member
        rcases List.mem_cons.mp member with same | inside
        · exact current same.symm
        · have bound := sorted.1 version inside
          omega
      rw [List.count_eq_zero_of_not_mem absent]
      omega
  · intro marked
    cases marked

theorem Follows.take (follows : reader.Follows version) (marked : reader.marked = true) :
    (reader.take version).Follows version := by
  obtain ⟨below, once⟩ := follows.ahead marked
  refine ⟨follows.seen_le, ?_, ?_, ?_, ?_, ?_⟩
  · intro older member
    rcases List.mem_cons.mp member with rfl | inside
    · exact le_refl _
    · exact follows.bounded older inside
  · exact List.pairwise_cons.mpr ⟨follows.bounded, follows.sorted⟩
  · intro any
    change (version :: reader.taken).count any ≤ 2
    by_cases current : any = version
    · subst current
      rw [List.count_cons_self]
      by_cases same : reader.seen = any
      · rw [same] at once
        omega
      · have absent : any ∉ reader.taken := by
          intro member
          have bound := below any member
          have seen := follows.seen_le
          omega
        rw [List.count_eq_zero_of_not_mem absent]
        omega
    · rw [List.count_cons_of_ne (Ne.symm current)]
      exact follows.twice any
  · intro stillMarked
    cases stillMarked
  · intro _
    refine ⟨version, reader.taken, rfl, follows.seen_le, ?_⟩
    intro newer member
    have bound := below version member
    exact absurd newer (not_lt.mpr bound)

/-- A reader that has nothing new to see has taken the current value last. -/
theorem Follows.latest (follows : reader.Follows version) (unmarked : reader.marked = false)
    (seen : reader.seen = version) : reader.taken.head? = some version := by
  obtain ⟨latest, older, taken, ahead, -⟩ := follows.caught unmarked
  have bound := follows.bounded latest (by simp [taken])
  have same : latest = version := by omega
  rw [taken, same]
  rfl

end Reader

end Watch
