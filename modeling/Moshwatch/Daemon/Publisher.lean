import Mathlib

namespace Moshwatch

/-- Where the loop of `spawn_snapshot_publisher` stands. -/
inductive PublisherStage where
  | swapping
  | waiting
  | reading
  | publishing
  | draining
  deriving DecidableEq, Repr

/-- Where a requester stands: it has written the state as a version of its own, then set `dirty`,
    and is about to notify. -/
inductive RequesterStage where
  | idle
  | written (version : Nat)
  | flagged (version : Nat)
  deriving DecidableEq, Repr

/-- The publisher and its requesters. `version` counts the writes to the registry; `permit` is the
    one that `Notify` stores. -/
structure SnapshotTrigger (ι : Type) where
  version : Nat
  dirty : Bool
  permit : Bool
  publisher : PublisherStage
  requesters : ι → RequesterStage
  completed : List Nat
  lastRead : Nat
  published : Nat

/-- The atomic steps: the three of a requester, then those of the publisher. -/
inductive TriggerStep (ι : Type) where
  | write (requester : ι)
  | storeDirty (requester : ι)
  | notifyOne (requester : ι)
  | swapDirty
  | notified
  | readState
  | publishSnapshot
  | drain
  | deadline

namespace SnapshotTrigger

variable {ι : Type}

def new : SnapshotTrigger ι :=
  { version := 0
    dirty := false
    permit := false
    publisher := .swapping
    requesters := fun _ => .idle
    completed := []
    lastRead := 0
    published := 0 }

variable [DecidableEq ι]

def setRequester (trigger : SnapshotTrigger ι) (requester : ι) (stage : RequesterStage) :
    SnapshotTrigger ι :=
  { trigger with requesters := Function.update trigger.requesters requester stage }

def step (trigger : SnapshotTrigger ι) : TriggerStep ι → Option (SnapshotTrigger ι)
  | .write requester =>
    match trigger.requesters requester with
    | .idle =>
      some { trigger.setRequester requester (.written (trigger.version + 1)) with
        version := trigger.version + 1 }
    | _ => none
  | .storeDirty requester =>
    match trigger.requesters requester with
    | .written version =>
      some { trigger.setRequester requester (.flagged version) with dirty := true }
    | _ => none
  | .notifyOne requester =>
    match trigger.requesters requester with
    | .flagged version =>
      some { trigger.setRequester requester .idle with
        permit := true
        completed := version :: trigger.completed }
    | _ => none
  | .swapDirty =>
    if trigger.publisher = .swapping then
      some { trigger with
        dirty := false
        publisher := if trigger.dirty then .reading else .waiting }
    else none
  | .notified =>
    if trigger.publisher = .waiting ∧ trigger.permit = true then
      some { trigger with permit := false, publisher := .swapping }
    else none
  | .readState =>
    if trigger.publisher = .reading then
      some { trigger with lastRead := trigger.version, publisher := .publishing }
    else none
  | .publishSnapshot =>
    if trigger.publisher = .publishing then
      some { trigger with published := trigger.lastRead, publisher := .draining }
    else none
  | .drain =>
    if trigger.publisher = .draining ∧ trigger.permit = true then
      some { trigger with permit := false }
    else none
  | .deadline =>
    if trigger.publisher = .draining then some { trigger with publisher := .swapping } else none

def run (steps : List (TriggerStep ι)) (trigger : SnapshotTrigger ι) : Option (SnapshotTrigger ι) :=
  steps.foldlM step trigger

/-- The write is covered by the last read of the state, or the publisher will read it again. -/
def Remembered (trigger : SnapshotTrigger ι) (version : Nat) : Prop :=
  version ≤ trigger.lastRead ∨ trigger.dirty = true ∨ trigger.publisher = .reading

/-- A requester has written the version, and its request is not complete. -/
def Pending (trigger : SnapshotTrigger ι) (version : Nat) : Prop :=
  ∃ requester, trigger.requesters requester = .written version ∨
    trigger.requesters requester = .flagged version

structure Covered (trigger : SnapshotTrigger ι) : Prop where
  each : ∀ version, 1 ≤ version → version ≤ trigger.version →
    version ∈ trigger.completed ∨ trigger.Pending version
  written : ∀ requester version, trigger.requesters requester = .written version →
    version ≤ trigger.version
  flagged : ∀ requester version, trigger.requesters requester = .flagged version →
    version ≤ trigger.version ∧ trigger.Remembered version
  completed : ∀ version ∈ trigger.completed,
    version ≤ trigger.version ∧ trigger.Remembered version
  awake : trigger.publisher = .waiting → ∀ version ∈ trigger.completed,
    version ≤ trigger.lastRead ∨ trigger.permit = true
  published : trigger.publisher = .publishing ∨ trigger.published = trigger.lastRead

omit [DecidableEq ι] in
theorem covered_new : (new : SnapshotTrigger ι).Covered := by
  refine ⟨?_, ?_, ?_, ?_, ?_, .inr rfl⟩
  · intro version first last
    exact absurd (show 1 ≤ 0 from first.trans last) (by decide)
  · intro requester version stage
    cases stage
  · intro requester version stage
    cases stage
  · intro version member
    cases member
  · intro _ version member
    cases member

variable {trigger next : SnapshotTrigger ι}

theorem requesters_setRequester {requester other : ι} {stage found : RequesterStage}
    (here : (trigger.setRequester requester stage).requesters other = found) :
    (other = requester ∧ stage = found) ∨ trigger.requesters other = found := by
  simp only [setRequester] at here
  by_cases same : other = requester
  · rw [same, Function.update_self] at here
    exact .inl ⟨same, here⟩
  · rw [Function.update_of_ne same] at here
    exact .inr here

theorem Pending.setRequester {version : Nat} (pending : trigger.Pending version) {requester : ι}
    {stage : RequesterStage} (other : trigger.requesters requester ≠ .written version ∧
      trigger.requesters requester ≠ .flagged version) :
    (trigger.setRequester requester stage).Pending version := by
  obtain ⟨holder, held⟩ := pending
  have differ : holder ≠ requester := by
    rintro rfl
    exact held.elim other.1 other.2
  have kept : (trigger.setRequester requester stage).requesters holder =
      trigger.requesters holder := Function.update_of_ne differ _ _
  exact ⟨holder, by rw [kept]; exact held⟩

theorem pending_setRequester {version : Nat} {requester : ι} {stage : RequesterStage}
    (holds : stage = .written version ∨ stage = .flagged version) :
    (trigger.setRequester requester stage).Pending version := by
  have own : (trigger.setRequester requester stage).requesters requester = stage :=
    Function.update_self _ _ _
  exact ⟨requester, by rw [own]; exact holds⟩

theorem covered_write {requester : ι} (covered : trigger.Covered)
    (stepped : trigger.step (.write requester) = some next) : next.Covered := by
  cases stage : trigger.requesters requester with
  | written version => simp [step, stage] at stepped
  | flagged version => simp [step, stage] at stepped
  | idle =>
    simp only [step, stage, Option.some.injEq] at stepped
    subst stepped
    refine ⟨?_, ?_, ?_, ?_, covered.awake, covered.published⟩
    · intro version first last
      rcases Nat.le_succ_iff.mp last with older | rfl
      · exact (covered.each version first older).imp_right fun pending =>
          pending.setRequester (by simp [stage])
      · exact .inr (pending_setRequester (.inl rfl))
    · intro other version here
      rcases requesters_setRequester here with ⟨-, own⟩ | before
      · cases own
        exact le_refl _
      · exact (covered.written other version before).trans (Nat.le_succ _)
    · intro other version here
      rcases requesters_setRequester here with ⟨-, own⟩ | before
      · cases own
      · obtain ⟨bound, remembered⟩ := covered.flagged other version before
        exact ⟨bound.trans (Nat.le_succ _), remembered⟩
    · intro version member
      obtain ⟨bound, remembered⟩ := covered.completed version member
      exact ⟨bound.trans (Nat.le_succ _), remembered⟩

theorem covered_storeDirty {requester : ι} (covered : trigger.Covered)
    (stepped : trigger.step (.storeDirty requester) = some next) : next.Covered := by
  cases stage : trigger.requesters requester with
  | idle => simp [step, stage] at stepped
  | flagged version => simp [step, stage] at stepped
  | written own =>
    simp only [step, stage, Option.some.injEq] at stepped
    subst stepped
    refine ⟨?_, ?_, ?_, ?_, covered.awake, covered.published⟩
    · intro version first last
      refine (covered.each version first last).imp_right fun pending => ?_
      by_cases same : version = own
      · exact pending_setRequester (.inr (by rw [same]))
      · exact pending.setRequester (by simp [stage, Ne.symm same])
    · intro other version here
      rcases requesters_setRequester here with ⟨-, changed⟩ | before
      · cases changed
      · exact covered.written other version before
    · intro other version here
      rcases requesters_setRequester here with ⟨-, changed⟩ | before
      · cases changed
        exact ⟨covered.written requester _ stage, .inr (.inl rfl)⟩
      · exact ⟨(covered.flagged other version before).1, .inr (.inl rfl)⟩
    · exact fun version member => ⟨(covered.completed version member).1, .inr (.inl rfl)⟩

theorem covered_notifyOne {requester : ι} (covered : trigger.Covered)
    (stepped : trigger.step (.notifyOne requester) = some next) : next.Covered := by
  cases stage : trigger.requesters requester with
  | idle => simp [step, stage] at stepped
  | written version => simp [step, stage] at stepped
  | flagged own =>
    simp only [step, stage, Option.some.injEq] at stepped
    subst stepped
    refine ⟨?_, ?_, ?_, ?_, fun _ _ _ => .inr rfl, covered.published⟩
    · intro version first last
      by_cases same : version = own
      · exact .inl (by rw [same]; exact List.mem_cons_self)
      · rcases covered.each version first last with done | pending
        · exact .inl (List.mem_cons_of_mem _ done)
        · exact .inr (pending.setRequester (by simp [stage, Ne.symm same]))
    · intro other version here
      rcases requesters_setRequester here with ⟨-, changed⟩ | before
      · cases changed
      · exact covered.written other version before
    · intro other version here
      rcases requesters_setRequester here with ⟨-, changed⟩ | before
      · cases changed
      · exact covered.flagged other version before
    · intro version member
      rcases List.mem_cons.mp member with rfl | old
      · exact covered.flagged requester _ stage
      · exact covered.completed version old

theorem covered_swapDirty (covered : trigger.Covered)
    (stepped : trigger.step .swapDirty = some next) : next.Covered := by
  simp only [step, Option.ite_none_right_eq_some, Option.some.injEq] at stepped
  obtain ⟨swapping, rfl⟩ := stepped
  -- What was remembered by the flag is now about to be read.
  have remembered : ∀ version, trigger.Remembered version →
      version ≤ trigger.lastRead ∨ (if trigger.dirty then PublisherStage.reading else .waiting) =
        .reading := by
    rintro version (covered | dirty | reading)
    · exact .inl covered
    · exact .inr (by rw [if_pos dirty])
    · rw [swapping] at reading
      cases reading
  refine ⟨covered.each, covered.written, ?_, ?_, ?_, ?_⟩
  · intro requester version here
    obtain ⟨bound, kept⟩ := covered.flagged requester version here
    exact ⟨bound, (remembered version kept).imp_right .inr⟩
  · intro version member
    obtain ⟨bound, kept⟩ := covered.completed version member
    exact ⟨bound, (remembered version kept).imp_right .inr⟩
  · intro waiting version member
    rcases remembered version (covered.completed version member).2 with read | reading
    · exact .inl read
    · simp only at waiting
      rw [reading] at waiting
      cases waiting
  · rcases covered.published with publishing | same
    · rw [swapping] at publishing
      cases publishing
    · exact .inr same

theorem covered_readState (covered : trigger.Covered)
    (stepped : trigger.step .readState = some next) : next.Covered := by
  simp only [step, Option.ite_none_right_eq_some, Option.some.injEq] at stepped
  obtain ⟨reading, rfl⟩ := stepped
  exact ⟨covered.each, covered.written,
    fun requester version here => ⟨(covered.flagged requester version here).1,
      .inl (covered.flagged requester version here).1⟩,
    fun version member => ⟨(covered.completed version member).1,
      .inl (covered.completed version member).1⟩,
    fun waiting => (by cases waiting), .inl rfl⟩

omit [DecidableEq ι] in
theorem covered_of_moved (covered : trigger.Covered) (notReading : trigger.publisher ≠ .reading)
    {publisher : PublisherStage} (notWaiting : publisher ≠ .waiting) (permit : Bool)
    {published : Nat} (shown : published = trigger.lastRead) :
    { trigger with permit, publisher, published }.Covered := by
  have remembered : ∀ version, trigger.Remembered version →
      { trigger with permit, publisher, published }.Remembered version := by
    rintro version (read | dirty | reading)
    · exact .inl read
    · exact .inr (.inl dirty)
    · exact absurd reading notReading
  exact ⟨covered.each, covered.written,
    fun requester version here => ⟨(covered.flagged requester version here).1,
      remembered version (covered.flagged requester version here).2⟩,
    fun version member => ⟨(covered.completed version member).1,
      remembered version (covered.completed version member).2⟩,
    fun waiting => absurd waiting notWaiting, .inr shown⟩

theorem covered_step {action : TriggerStep ι} (covered : trigger.Covered)
    (stepped : trigger.step action = some next) : next.Covered := by
  cases action with
  | write requester => exact covered_write covered stepped
  | storeDirty requester => exact covered_storeDirty covered stepped
  | notifyOne requester => exact covered_notifyOne covered stepped
  | swapDirty => exact covered_swapDirty covered stepped
  | readState => exact covered_readState covered stepped
  | notified =>
    simp only [step, Option.ite_none_right_eq_some, Option.some.injEq] at stepped
    obtain ⟨⟨waiting, permit⟩, rfl⟩ := stepped
    exact covered_of_moved covered (by rw [waiting]; decide) (by decide) false
      (covered.published.resolve_left (by rw [waiting]; decide))
  | publishSnapshot =>
    simp only [step, Option.ite_none_right_eq_some, Option.some.injEq] at stepped
    obtain ⟨publishing, rfl⟩ := stepped
    exact covered_of_moved covered (by rw [publishing]; decide) (by decide) _ rfl
  | drain =>
    simp only [step, Option.ite_none_right_eq_some, Option.some.injEq] at stepped
    obtain ⟨⟨draining, permit⟩, rfl⟩ := stepped
    exact covered_of_moved covered (by rw [draining]; decide) (by rw [draining]; decide) false
      (covered.published.resolve_left (by rw [draining]; decide))
  | deadline =>
    simp only [step, Option.ite_none_right_eq_some, Option.some.injEq] at stepped
    obtain ⟨draining, rfl⟩ := stepped
    exact covered_of_moved covered (by rw [draining]; decide) (by decide) _
      (covered.published.resolve_left (by rw [draining]; decide))

theorem covered_run {steps : List (TriggerStep ι)} (covered : trigger.Covered)
    (ran : run steps trigger = some next) : next.Covered := by
  induction steps generalizing trigger with
  | nil =>
    cases ran
    exact covered
  | cons action rest ih =>
    rw [run, List.foldlM_cons, Option.bind_eq_bind, Option.bind_eq_some_iff] at ran
    obtain ⟨middle, stepped, later⟩ := ran
    exact ih (covered_step covered stepped) later

/-- A publisher that sleeps without a permit has read, and published, every write whose request
    is complete; while one is unpublished, the permit that wakes it is stored. -/
theorem no_lost_update {steps : List (TriggerStep ι)} {trigger : SnapshotTrigger ι}
    (ran : run steps new = some trigger) (asleep : trigger.publisher = .waiting) :
    (trigger.permit = false → ∀ version ∈ trigger.completed,
      version ≤ trigger.lastRead ∧ version ≤ trigger.published) ∧
    ∀ version ∈ trigger.completed, trigger.published < version →
      ∃ next, trigger.step .notified = some next := by
  have covered := covered_run covered_new ran
  have shown : trigger.published = trigger.lastRead :=
    covered.published.resolve_left (by rw [asleep]; decide)
  refine ⟨?_, ?_⟩
  · intro none version member
    have read : version ≤ trigger.lastRead :=
      (covered.awake asleep version member).resolve_right (by rw [none]; decide)
    exact ⟨read, by rw [shown]; exact read⟩
  · intro version member unpublished
    rcases covered.awake asleep version member with read | permit
    · omega
    · exact ⟨_, if_pos ⟨asleep, permit⟩⟩

/-- The drain loop takes the permit of a request whose write was read before. -/
def drainedSteps : List (TriggerStep Unit) :=
  [.write (), .storeDirty (), .swapDirty, .readState, .publishSnapshot, .notifyOne (), .drain,
    .deadline, .swapDirty]

theorem no_lost_update_drained :
    ∃ trigger : SnapshotTrigger Unit,
      run drainedSteps new = some trigger ∧ trigger.publisher = .waiting ∧
      trigger.completed = [1] ∧
      (trigger.permit = false → ∀ version ∈ trigger.completed,
        version ≤ trigger.lastRead ∧ version ≤ trigger.published) ∧
      ∀ version ∈ trigger.completed, trigger.published < version →
        ∃ next, trigger.step .notified = some next :=
  ⟨_, rfl, rfl, rfl, @no_lost_update Unit _ drainedSteps _ rfl rfl⟩

end SnapshotTrigger

end Moshwatch
