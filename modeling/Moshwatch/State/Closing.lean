import Moshwatch.State.Retention

namespace Moshwatch

/-- The operation is about the process: an event of it, or a discovery that lists it. -/
def Operation.Concerns (pid startedAt : Int) : Operation → Prop
  | .telemetry event started _ _ => event.pid = pid ∧ started = startedAt
  | .discovery discovered _ => ∃ session ∈ discovered,
      session.pid = pid ∧ session.startedAtUnixMs = startedAt

namespace ServiceState

section Quiet

variable {state : ServiceState} {pid startedAt : Int} {record : SessionRecord}

theorem concerns_of_lists {discovered : List DiscoveredSession} {nowMs : Int}
    (lists : state.Lists discovered (instrumentedSessionId pid startedAt)) :
    (Operation.discovery discovered nowMs).Concerns pid startedAt := by
  obtain ⟨session, member, named⟩ := lists
  rcases discoveredSessionId_cases state.sessions session with ⟨instrumented, -⟩ | ⟨legacy, -⟩
  · obtain ⟨samePid, sameStart⟩ := instrumentedSessionId_inj.mp (named.trans instrumented)
    exact ⟨session, member, samePid.symm, sameStart.symm⟩
  · exact absurd (named.trans legacy) (instrumentedSessionId_ne_legacySessionId _ _ _ _)

theorem lookup_step_quiet {operation : Operation} (quiet : ¬ operation.Concerns pid startedAt)
    (found : (state.step operation).sessions.lookup (instrumentedSessionId pid startedAt) =
      some record) : state.sessions.lookup (instrumentedSessionId pid startedAt) = some record := by
  cases operation with
  | telemetry event started receivedAt fits =>
    rcases lookup_step_telemetry fits found with ⟨same, -⟩ | ⟨-, tracked⟩
    · obtain ⟨samePid, sameStart⟩ := instrumentedSessionId_inj.mp same
      exact absurd ⟨samePid.symm, sameStart.symm⟩ quiet
    · exact tracked
  | discovery discovered nowMs =>
    have merged := lookup_step_discovery found
    rw [lookup_mergeDiscovery_unlisted fun lists => quiet (concerns_of_lists lists),
      Option.filter_eq_some_iff] at merged
    exact merged.1

theorem lookup_foldl_quiet (later : List Operation)
    (quiet : ∀ operation ∈ later, ¬ operation.Concerns pid startedAt)
    (found : (later.foldl step state).sessions.lookup (instrumentedSessionId pid startedAt) =
      some record) : state.sessions.lookup (instrumentedSessionId pid startedAt) = some record := by
  induction later generalizing state with
  | nil => exact found
  | cons operation rest ih =>
    obtain ⟨first, others⟩ := List.forall_mem_cons.mp quiet
    exact lookup_step_quiet first (ih others found)

theorem asI64_le (value : Nat) : asI64 value ≤ value := by
  unfold asI64
  rw [Int.bmod_def]
  split <;> omega

theorem lookup_refreshDiscovery_shutdown {discovered : List DiscoveredSession} {nowMs : Int}
    (quiet : ¬ (Operation.discovery discovered nowMs).Concerns pid startedAt)
    (only : ∀ other, state.sessions.lookup (instrumentedSessionId pid startedAt) = some other →
      other = record)
    (instrumented : record.summary.kind = .instrumented) (marked : record.shutdown = true)
    (spent : max (state.config.discoveryIntervalMs : Int) 5000 ≤
      nowMs - record.summary.lastObservedUnixMs) :
    (state.step (.discovery discovered nowMs)).sessions.lookup
      (instrumentedSessionId pid startedAt) = none := by
  rw [Option.eq_none_iff_forall_ne_some]
  intro other found
  have merged := lookup_step_discovery found
  rw [lookup_mergeDiscovery_unlisted fun lists => quiet (concerns_of_lists lists),
    Option.filter_eq_some_iff] at merged
  obtain ⟨tracked, kept⟩ := merged
  rw [only other tracked] at kept
  have bound := asI64_le (max state.config.discoveryIntervalMs 5000)
  simp only [keepsRecord, List.contains_nil, Bool.false_eq_true, if_false, instrumented, ne_eq,
    not_true_eq_false, marked, if_true, shutdownGraceMs] at kept
  have young := of_decide_eq_true kept
  omega

end Quiet

/-- What a close event of a process is to leave of its record: the shutdown mark, which puts it
    into the shutdown class, and the short grace for as long as nothing further is heard of it. -/
structure Closes (after : ServiceState) (pid startedAt : Int) (record : SessionRecord) : Prop where
  marked : record.shutdown = true
  closing : evictionClass record = 1
  removed : ∀ (later : List Operation) (discovered : List DiscoveredSession) (nowMs : Int),
    (∀ operation ∈ later ++ [.discovery discovered nowMs], ¬ operation.Concerns pid startedAt) →
    max (after.config.discoveryIntervalMs : Int) 5000 ≤
      nowMs - record.summary.lastObservedUnixMs →
    ((later ++ [Operation.discovery discovered nowMs]).foldl step after).sessions.lookup
      (instrumentedSessionId pid startedAt) = none

theorem foldl_step_config (later : List Operation) (state : ServiceState) :
    (later.foldl step state).config = state.config := by
  induction later generalizing state with
  | nil => rfl
  | cons operation rest ih => rw [List.foldl_cons, ih, step_config]

theorem closes_of_marked {after : ServiceState} {pid startedAt : Int} {record : SessionRecord}
    (found : after.sessions.lookup (instrumentedSessionId pid startedAt) = some record)
    (instrumented : record.summary.kind = .instrumented) (marked : record.shutdown = true) :
    Closes after pid startedAt record where
  marked := marked
  closing := by simp [evictionClass, instrumented, marked]
  removed := by
    intro later discovered nowMs quiet spent
    rw [List.forall_mem_append, List.forall_mem_singleton] at quiet
    rw [List.foldl_append, List.foldl_cons, List.foldl_nil]
    refine lookup_refreshDiscovery_shutdown quiet.2 ?_ instrumented marked ?_
    · intro other tracked
      have kept := lookup_foldl_quiet later quiet.1 tracked
      rw [found, Option.some.injEq] at kept
      exact kept.symm
    · rw [foldl_step_config]
      exact spent

/-- A close event that is admitted closes its session exactly if it does not deny the shutdown. -/
theorem closes_iff (state : ServiceState) (event : TelemetryEvent) (startedAt receivedAt : Int)
    (fits : event.fits = true) (close : event.event = .sessionClose) {record : SessionRecord}
    (tracked : (state.step (.telemetry event startedAt receivedAt fits)).sessions.lookup
      (instrumentedSessionId event.pid startedAt) = some record) :
    Closes (state.step (.telemetry event startedAt receivedAt fits)) event.pid startedAt record ↔
      event.shutdown ≠ some false := by
  have left : record = state.recordOf event startedAt receivedAt := by
    rcases lookup_step_telemetry fits tracked with ⟨-, -, left⟩ | ⟨other, -⟩
    · exact left
    · exact absurd rfl other
  have mark : record.shutdown = event.finalShutdown := by
    rw [left, recordOf, applyEvent_shutdown]
    rfl
  have kind : record.summary.kind = .instrumented := by
    rw [left, recordOf]
    exact (applyEvent_identity state.config (instrumentedSessionId event.pid startedAt)
      (event.verified startedAt) startedAt receivedAt
      (state.entryOf event startedAt receivedAt)).2.2.1
  constructor
  · intro closes denied
    have marked := closes.marked
    rw [mark, TelemetryEvent.finalShutdown, denied] at marked
    cases marked
  · intro affirmed
    refine closes_of_marked tracked kind ?_
    rw [mark, TelemetryEvent.finalShutdown]
    cases flag : event.shutdown with
    | none => simp [TelemetryEvent.sessionShutdown, close]
    | some shutdown =>
      cases shutdown with
      | true => rfl
      | false => exact absurd flag affirmed

def tickThenClose (shutdown : Option Bool) : ServiceState :=
  (run {} [.telemetry { event := .sessionTick, pid := 1, unixMs := 7000 } 10 7000 rfl]).step
    (.telemetry { event := .sessionClose, pid := 1, unixMs := 8000, shutdown } 10 8000 rfl)

theorem closes_iff_plainClose :
    ∃ record, (tickThenClose none).sessions.lookup "instrumented:10:1" = some record ∧
      Closes (tickThenClose none) 1 10 record := by
  cases found : (tickThenClose none).sessions.lookup "instrumented:10:1" with
  | none => exact absurd found (by decide +kernel)
  | some record =>
    refine ⟨record, rfl, ?_⟩
    exact (closes_iff (run {} [.telemetry { event := .sessionTick, pid := 1, unixMs := 7000 } 10
      7000 rfl]) { event := .sessionClose, pid := 1, unixMs := 8000 } 10 8000 rfl rfl found).mpr
      (by decide)

/-- A close event that denies the shutdown leaves its session active. -/
theorem deniedClose_leaves_active :
    ∃ record, (tickThenClose (some false)).sessions.lookup "instrumented:10:1" = some record ∧
      evictionClass record = 2 ∧ ¬ Closes (tickThenClose (some false)) 1 10 record := by
  cases found : (tickThenClose (some false)).sessions.lookup "instrumented:10:1" with
  | none => exact absurd found (by decide +kernel)
  | some record =>
    have classes : ((tickThenClose (some false)).sessions.lookup "instrumented:10:1").map
        evictionClass = some 2 := by decide +kernel
    rw [found, Option.map_some, Option.some.injEq] at classes
    refine ⟨record, rfl, classes, fun closes => ?_⟩
    rw [closes.closing] at classes
    cases classes

end ServiceState

end Moshwatch
