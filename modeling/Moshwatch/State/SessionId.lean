import Moshwatch.State.Record

namespace Moshwatch

theorem colon_notMem_repr (value : Int) : ':' ∉ (toString value).toList := by
  intro member
  have digits : ∀ digit : Nat, ':' ∉ digit.repr.toList := by
    intro digit present
    rw [Nat.toList_repr] at present
    exact absurd (Nat.isDigit_of_mem_toDigits (by decide) (by decide) present) (by decide)
  cases value with
  | ofNat magnitude => exact digits magnitude member
  | negSucc magnitude =>
    have unfolded : (toString (Int.negSucc magnitude)).toList =
        '-' :: (Nat.repr (magnitude + 1)).toList := by
      change ("-" ++ Nat.repr (magnitude + 1)).toList = _
      rw [String.toList_append]
      rfl
    rw [unfolded] at member
    rcases List.mem_cons.mp member with sign | member
    · cases sign
    · exact digits _ member

theorem eq_of_append_colon {left right leftRest rightRest : List Char} (leftFree : ':' ∉ left)
    (rightFree : ':' ∉ right) (same : left ++ ':' :: leftRest = right ++ ':' :: rightRest) :
    left = right ∧ leftRest = rightRest := by
  induction left generalizing right with
  | nil =>
    cases right with
    | nil => exact ⟨rfl, (List.cons.inj same).2⟩
    | cons ch rest =>
      have head := (List.cons.inj same).1
      exact absurd (head ▸ List.mem_cons_self) rightFree
  | cons ch rest ih =>
    cases right with
    | nil =>
      have head := (List.cons.inj same).1
      exact absurd (head ▸ List.mem_cons_self) leftFree
    | cons other otherRest =>
      obtain ⟨head, tail⟩ := List.cons.inj same
      have := ih (fun member => leftFree (List.mem_cons_of_mem _ member))
        (fun member => rightFree (List.mem_cons_of_mem _ member)) tail
      rw [head, this.1]
      exact ⟨rfl, this.2⟩

theorem toList_instrumentedSessionId (pid startedAt : Int) :
    (instrumentedSessionId pid startedAt).toList =
      "instrumented".toList ++ ':' :: ((toString startedAt).toList ++ ':' :: (toString pid).toList) := by
  change ("instrumented:" ++ toString startedAt ++ ":" ++ toString pid).toList = _
  simp only [String.toList_append, List.append_assoc]
  rfl

theorem toList_legacySessionId (pid startedAt : Int) :
    (legacySessionId pid startedAt).toList =
      "legacy".toList ++ ':' :: ((toString startedAt).toList ++ ':' :: (toString pid).toList) := by
  change ("legacy:" ++ toString startedAt ++ ":" ++ toString pid).toList = _
  simp only [String.toList_append, List.append_assoc]
  rfl

theorem process_eq_of_suffix_eq {pid otherPid startedAt otherStartedAt : Int}
    (same : (toString startedAt).toList ++ ':' :: (toString pid).toList =
      (toString otherStartedAt).toList ++ ':' :: (toString otherPid).toList) :
    pid = otherPid ∧ startedAt = otherStartedAt := by
  obtain ⟨started, process⟩ :=
    eq_of_append_colon (colon_notMem_repr startedAt) (colon_notMem_repr otherStartedAt) same
  exact ⟨Int.repr_injective (String.toList_inj.mp process),
    Int.repr_injective (String.toList_inj.mp started)⟩

theorem instrumentedSessionId_inj {pid otherPid startedAt otherStartedAt : Int} :
    instrumentedSessionId pid startedAt = instrumentedSessionId otherPid otherStartedAt ↔
      pid = otherPid ∧ startedAt = otherStartedAt := by
  constructor
  · intro same
    rw [← String.toList_inj, toList_instrumentedSessionId, toList_instrumentedSessionId] at same
    exact process_eq_of_suffix_eq (eq_of_append_colon (by decide) (by decide) same).2
  · rintro ⟨rfl, rfl⟩
    rfl

theorem legacySessionId_inj {pid otherPid startedAt otherStartedAt : Int} :
    legacySessionId pid startedAt = legacySessionId otherPid otherStartedAt ↔
      pid = otherPid ∧ startedAt = otherStartedAt := by
  constructor
  · intro same
    rw [← String.toList_inj, toList_legacySessionId, toList_legacySessionId] at same
    exact process_eq_of_suffix_eq (eq_of_append_colon (by decide) (by decide) same).2
  · rintro ⟨rfl, rfl⟩
    rfl

theorem instrumentedSessionId_ne_legacySessionId (pid otherPid startedAt otherStartedAt : Int) :
    instrumentedSessionId pid startedAt ≠ legacySessionId otherPid otherStartedAt := by
  intro same
  rw [← String.toList_inj, toList_instrumentedSessionId, toList_legacySessionId] at same
  exact absurd (eq_of_append_colon (by decide) (by decide) same).1 (by decide)

end Moshwatch
