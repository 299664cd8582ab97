import Mathlib

/-- What the visit of an element says: the search ends here, the chain ends here, or the chain goes
    on. -/
inductive Visit (α β : Type*) where
  | found (result : β)
  | stop
  | next (element : α)

namespace Visit

variable {α β : Type*}

/-- Follow a chain until a visit finds something, the chain ends, or an element comes up again. The
    outer `none` says that the fuel is spent. -/
def walk [DecidableEq α] (visit : α → Visit α β) : Nat → α → List α → Option (Option β)
  | 0, _, _ => none
  | fuel + 1, element, visited =>
    if element ∈ visited then some none
    else
      match visit element with
      | .found result => some (some result)
      | .stop => some none
      | .next following => walk visit fuel following (element :: visited)

def trail (visit : α → Visit α β) : Nat → α → Option α
  | 0, element => some element
  | count + 1, element =>
    match visit element with
    | .next following => trail visit count following
    | .found _ | .stop => none

def Finds (visit : α → Visit α β) (start : α) (result : β) : Prop :=
  ∃ count element, trail visit count start = some element ∧ visit element = .found result

/-- The chain ends, or runs into itself. -/
def Ends (visit : α → Visit α β) (start : α) : Prop :=
  ∃ count element, trail visit count start = some element ∧
    (visit element = .stop ∨ ∃ earlier < count, trail visit earlier start = some element)

section Trail

variable {visit : α → Visit α β}

theorem trail_succ_of_next {element following : α} (moves : visit element = .next following)
    (count : Nat) : trail visit (count + 1) element = trail visit count following := by
  simp only [trail, moves]

theorem trail_succ_of_found {element : α} {result : β} (found : visit element = .found result)
    (count : Nat) : trail visit (count + 1) element = none := by
  simp only [trail, found]

theorem trail_succ_of_stop {element : α} (stops : visit element = .stop) (count : Nat) :
    trail visit (count + 1) element = none := by
  simp only [trail, stops]

theorem trail_add (first second : Nat) (start : α) :
    trail visit (first + second) start = (trail visit first start).bind (trail visit second) := by
  induction first generalizing start with
  | zero => simp [trail]
  | succ first ih =>
    rw [Nat.succ_add]
    cases moves : visit start with
    | next following => rw [trail_succ_of_next moves, trail_succ_of_next moves, ih]
    | found result => rw [trail_succ_of_found moves, trail_succ_of_found moves, Option.bind_none]
    | stop => rw [trail_succ_of_stop moves, trail_succ_of_stop moves, Option.bind_none]

theorem trail_mul_of_cycle {element : α} {period : Nat}
    (cycle : trail visit period element = some element) (rounds : Nat) :
    trail visit (rounds * period) element = some element := by
  induction rounds with
  | zero => simp [trail]
  | succ rounds ih => rw [Nat.succ_mul, trail_add, ih, Option.bind_some, cycle]

theorem trail_eq_none_of_le {start : α} {short long : Nat} (le : short ≤ long)
    (ended : trail visit short start = none) : trail visit long start = none := by
  obtain ⟨more, rfl⟩ := Nat.exists_eq_add_of_le le
  rw [trail_add, ended, Option.bind_none]

/-- A chain that runs into itself never ends. -/
theorem trail_ne_none_of_repeat {start element : α} {earlier later : Nat} (lt : earlier < later)
    (first : trail visit earlier start = some element)
    (second : trail visit later start = some element) (count : Nat) :
    trail visit count start ≠ none := by
  obtain ⟨gap, rfl⟩ := Nat.exists_eq_add_of_lt lt
  have cycle : trail visit (gap + 1) element = some element := by
    rw [Nat.add_assoc, trail_add, first, Option.bind_some] at second
    exact second
  intro ended
  have far : trail visit (earlier + count * (gap + 1)) start = some element := by
    rw [trail_add, first, Option.bind_some, trail_mul_of_cycle cycle]
  have beyond : count ≤ earlier + count * (gap + 1) :=
    (Nat.le_mul_of_pos_right count (Nat.succ_pos gap)).trans (Nat.le_add_left _ _)
  rw [trail_eq_none_of_le beyond ended] at far
  contradiction

theorem trail_succ_eq_none {start element : α} {count : Nat}
    (reached : trail visit count start = some element)
    (last : ∀ following, visit element ≠ .next following) : trail visit (count + 1) start = none := by
  rw [trail_add, reached, Option.bind_some]
  cases moves : visit element with
  | next following => exact absurd moves (last following)
  | found result => exact trail_succ_of_found moves 0
  | stop => exact trail_succ_of_stop moves 0

end Trail

section Outcome

variable {visit : α → Visit α β} {start : α}

theorem trail_last_unique {first second : α} {short long : Nat}
    (reached : trail visit short start = some first)
    (last : ∀ following, visit first ≠ .next following)
    (reaches : trail visit long start = some second)
    (stays : ∀ following, visit second ≠ .next following) : first = second := by
  rcases Nat.lt_trichotomy short long with lt | rfl | lt
  · rw [trail_eq_none_of_le lt (trail_succ_eq_none reached last)] at reaches
    contradiction
  · exact Option.some.inj (reached.symm.trans reaches)
  · rw [trail_eq_none_of_le lt (trail_succ_eq_none reaches stays)] at reached
    contradiction

theorem Finds.unique {first second : β} (finds : Finds visit start first)
    (other : Finds visit start second) : first = second := by
  obtain ⟨_, element, reached, found⟩ := finds
  obtain ⟨_, last, reaches, foundToo⟩ := other
  have same : element = last := by
    apply trail_last_unique reached _ reaches _
    · intro following moves
      rw [found] at moves
      contradiction
    · intro following moves
      rw [foundToo] at moves
      contradiction
  rw [same, foundToo] at found
  injection found with eq
  exact eq.symm

theorem not_ends_of_finds {result : β} (finds : Finds visit start result) :
    ¬ Ends visit start := by
  obtain ⟨count, element, reached, found⟩ := finds
  have last : ∀ following, visit element ≠ .next following := by
    intro following moves
    rw [found] at moves
    contradiction
  rintro ⟨length, final, reaches, stops | ⟨earlier, lt, before⟩⟩
  · have same : element = final := by
      apply trail_last_unique reached last reaches
      intro following moves
      rw [stops] at moves
      contradiction
    rw [same, stops] at found
    contradiction
  · exact trail_ne_none_of_repeat lt before reaches _ (trail_succ_eq_none reached last)

end Outcome

section Behind

variable {visit : α → Visit α β}

/-- The chain that a walk has behind it: `visited` holds the elements before `element`, the last one
    first. -/
def Behind (visit : α → Visit α β) (start : α) (visited : List α) (element : α) : Prop :=
  trail visit visited.length start = some element ∧
    ∀ past ∈ visited, ∃ count < visited.length, trail visit count start = some past

theorem Behind.next {start element following : α} {visited : List α}
    (behind : Behind visit start visited element) (moves : visit element = .next following) :
    Behind visit start (element :: visited) following := by
  obtain ⟨reached, known⟩ := behind
  refine ⟨?_, ?_⟩
  · rw [List.length_cons, trail_add, reached, Option.bind_some, trail_succ_of_next moves, trail]
  · intro past member
    rcases List.mem_cons.mp member with rfl | member
    · exact ⟨visited.length, Nat.lt_succ_self _, reached⟩
    · obtain ⟨count, lt, seen⟩ := known past member
      exact ⟨count, Nat.lt_succ_of_lt lt, seen⟩

end Behind

section Walk

variable [DecidableEq α] {visit : α → Visit α β}

/-- A walk over at most `size` elements is over after `size` visits. -/
theorem walk_isSome {size : Nat}
    (bounded : ∀ elements : List α, elements.Nodup → elements.length ≤ size)
    (fuel : Nat) (element : α) (visited : List α) (fresh : visited.Nodup)
    (enough : size < fuel + visited.length) : (walk visit fuel element visited).isSome := by
  induction fuel generalizing element visited with
  | zero =>
    have few := bounded visited fresh
    omega
  | succ fuel ih =>
    rw [walk]
    split
    · rfl
    · rename_i unseen
      cases visit element with
      | found result => rfl
      | stop => rfl
      | next following =>
        apply ih following (element :: visited) (List.nodup_cons.mpr ⟨unseen, fresh⟩)
        rw [List.length_cons]
        omega

theorem walk_sound (start : α) (fuel : Nat) (element : α) (visited : List α) (outcome : Option β)
    (behind : Behind visit start visited element)
    (finished : walk visit fuel element visited = some outcome) :
    (∀ result, outcome = some result → Finds visit start result) ∧
      (outcome = none → Ends visit start) := by
  induction fuel generalizing element visited with
  | zero => contradiction
  | succ fuel ih =>
    rw [walk] at finished
    split at finished
    · rename_i seen
      obtain ⟨count, lt, before⟩ := behind.2 element seen
      cases finished
      exact ⟨by simp, fun _ => ⟨visited.length, element, behind.1, .inr ⟨count, lt, before⟩⟩⟩
    · cases moves : visit element with
      | found result =>
        rw [moves] at finished
        cases finished
        refine ⟨?_, by simp⟩
        rintro _ ⟨⟩
        exact ⟨visited.length, element, behind.1, moves⟩
      | stop =>
        rw [moves] at finished
        cases finished
        exact ⟨by simp, fun _ => ⟨visited.length, element, behind.1, .inl moves⟩⟩
      | next following =>
        rw [moves] at finished
        exact ih following (element :: visited) (behind.next moves) finished

variable (visit) in
/-- With fuel for every element the walk ends, and its outcome is what the chain holds. -/
theorem walk_spec {size : Nat}
    (bounded : ∀ elements : List α, elements.Nodup → elements.length ≤ size)
    {fuel : Nat} (enough : size < fuel) (start : α) :
    ∃ outcome, walk visit fuel start [] = some outcome ∧
      (∀ result, outcome = some result ↔ Finds visit start result) ∧
      (outcome = none ↔ Ends visit start) := by
  have ends : (walk visit fuel start []).isSome :=
    walk_isSome bounded fuel start [] List.nodup_nil enough
  obtain ⟨outcome, finished⟩ := Option.isSome_iff_exists.mp ends
  obtain ⟨sound, ended⟩ := walk_sound start fuel start [] outcome ⟨rfl, by simp⟩ finished
  refine ⟨outcome, finished, ?_⟩
  cases outcome with
  | none =>
    refine ⟨?_, by simpa using ended⟩
    intro result
    constructor
    · intro eq
      contradiction
    · intro finds
      exact absurd (ended rfl) (not_ends_of_finds finds)
  | some found =>
    have finds := sound found rfl
    refine ⟨?_, ?_⟩
    · intro result
      constructor
      · exact sound result
      · intro other
        rw [finds.unique other]
    · constructor
      · intro eq
        contradiction
      · intro ended
        exact absurd ended (not_ends_of_finds finds)

end Walk

end Visit
