import Moshwatch.State.Identity

namespace Moshwatch

/-- What the cap is for: the highest-ranked records remain, unmodified. -/
structure EnforcesCap (start finish : ServiceState) : Prop where
  size : finish.sessions.size = min start.config.maxTrackedSessions start.sessions.size
  unmodified : ∀ key record, finish.sessions.lookup key = some record →
    start.sessions.lookup key = some record
  largest : ∀ evicted low survivor high, start.sessions.lookup evicted = some low →
    finish.sessions.lookup evicted = none → finish.sessions.lookup survivor = some high →
    compareEvictionPriority low high = .lt

namespace ServiceState

theorem enforceSessionCap_enforces {state : ServiceState} (keyed : Keyed state.sessions)
    (counted : state.droppedSessionsTotal ≤ u64Max) : EnforcesCap state state.enforceSessionCap where
  size := size_enforceSessionCap keyed counted
  unmodified := fun _ _ found => lookup_of_lookup_enforceSessionCap found
  largest := by
    intro evicted low survivor high present gone remains
    rw [compareEvictionPriority_eq, compare_lt_iff_lt]
    exact evicted_lt_survivor keyed counted present gone remains

theorem keyed_uncapped {state : ServiceState} (keyed : Keyed state.sessions) (event : TelemetryEvent)
    (startedAt receivedAt : Int) : Keyed (state.uncapped event startedAt receivedAt).sessions := by
  intro key record found
  by_cases same : key = instrumentedSessionId event.pid startedAt
  · rw [same, lookup_uncapped_self, Option.some.injEq] at found
    rw [← found, same, recordOf]
    exact (applyEvent_identity state.config _ (event.verified startedAt) startedAt receivedAt _).1
  · exact keyed key record (lookup_of_lookup_admitted same found)

theorem keyed_mergeDiscovery {state : ServiceState} (keyed : Keyed state.sessions)
    (discovered : List DiscoveredSession) (nowMs : Int) :
    Keyed (state.mergeDiscovery discovered nowMs).sessions := by
  intro key record found
  refine mergeDiscovery_induction (fun key record => record.summary.sessionId = key) keyed ?_ ?_
    found
  · exact fun session _ _ _ => rfl
  · intro session _ key record _ own
    rw [refreshRecord_sessionId]
    exact own

theorem dropped_enforceSessionCap {state : ServiceState} (keyed : Keyed state.sessions)
    (counted : state.droppedSessionsTotal ≤ u64Max) :
    state.enforceSessionCap.droppedSessionsTotal =
      satAdd state.droppedSessionsTotal
        (KeyedStore.missing state.sessions state.enforceSessionCap.sessions).length := by
  rw [(enforceSessionCap_progress keyed counted).dropped,
    KeyedStore.length_missing (enforceSessionCap_sublist state)]

/-- The state before the cap: its config, its keys, and whether the operation was refused. -/
structure Prepared (state : ServiceState) (operation : Operation) : Prop where
  config : (state.prepare operation).2.config = state.config
  keyed : Keyed (state.prepare operation).2.sessions
  refused : (state.prepare operation).1 = true →
    (state.prepare operation).2.sessions = state.sessions ∧
      (state.prepare operation).2.droppedSessionsTotal = satAdd state.droppedSessionsTotal 1
  admitted : (state.prepare operation).1 = false →
    (state.prepare operation).2.droppedSessionsTotal = state.droppedSessionsTotal

theorem prepared {state : ServiceState} (keyed : Keyed state.sessions) (operation : Operation) :
    state.Prepared operation := by
  cases operation with
  | discovery discovered nowMs =>
    refine ⟨rfl, keyed_mergeDiscovery keyed discovered nowMs, ?_, fun _ => rfl⟩
    intro refused
    cases refused
  | telemetry event startedAt receivedAt fits =>
    rcases prepare_telemetry_cases state event startedAt receivedAt fits with
      ⟨-, outcome⟩ | ⟨-, outcome⟩
    · refine ⟨by rw [outcome], by rw [outcome]; exact keyed, ?_, ?_⟩
      · intro _
        rw [outcome]
        exact ⟨rfl, rfl⟩
      · intro admitted
        rw [outcome] at admitted
        cases admitted
    · refine ⟨by rw [outcome]; rfl, ?_, ?_, ?_⟩
      · rw [outcome]
        exact keyed_uncapped keyed event startedAt receivedAt
      · intro refused
        rw [outcome] at refused
        cases refused
      · intro _
        rw [outcome]
        rfl

theorem satAdd_le_u64Max (left right : Nat) : satAdd left right ≤ u64Max := Nat.min_le_right _ _

structure WithinCap (state : ServiceState) : Prop where
  size : state.sessions.size ≤ state.config.maxTrackedSessions
  counted : state.droppedSessionsTotal ≤ u64Max

theorem withinCap_step {state : ServiceState} (keyed : Keyed state.sessions)
    (within : state.WithinCap) (operation : Operation) : (state.step operation).WithinCap := by
  have ready := prepared keyed operation
  refine ⟨?_, ?_⟩
  · rw [step_config, step_eq]
    cases refused : (state.prepare operation).1 with
    | true =>
      rw [if_pos rfl, (ready.refused refused).1]
      exact within.size
    | false =>
      rw [if_neg (by decide), ← ready.config]
      exact size_enforceSessionCap_le _
  · rw [step_eq]
    cases refused : (state.prepare operation).1 with
    | true =>
      rw [if_pos rfl, (ready.refused refused).2]
      exact satAdd_le_u64Max _ _
    | false =>
      have counted : (state.prepare operation).2.droppedSessionsTotal ≤ u64Max := by
        rw [ready.admitted refused]
        exact within.counted
      rw [if_neg (by decide), dropped_enforceSessionCap ready.keyed counted]
      exact satAdd_le_u64Max _ _

theorem withinCap_run (config : AppConfig) (operations : List Operation) :
    (run config operations).WithinCap := by
  induction operations using List.reverseRecOn with
  | nil => exact ⟨Nat.zero_le _, Nat.zero_le _⟩
  | append_singleton operations operation ih =>
    rw [run_concat]
    exact withinCap_step (identities_run config operations).keyed ih operation

theorem counted_start {state : ServiceState} {operation : Operation} (within : state.WithinCap)
    (ready : state.Prepared operation) : (state.prepare operation).2.droppedSessionsTotal ≤ u64Max := by
  cases accepted : (state.prepare operation).1 with
  | true =>
    rw [(ready.refused accepted).2]
    exact satAdd_le_u64Max _ _
  | false =>
    rw [ready.admitted accepted]
    exact within.counted

theorem dropped_step {state : ServiceState} {operation : Operation} (within : state.WithinCap)
    (ready : state.Prepared operation) :
    (state.step operation).droppedSessionsTotal =
      satAdd state.droppedSessionsTotal
        ((KeyedStore.missing (state.prepare operation).2.sessions
            (state.step operation).sessions).length +
          if (state.prepare operation).1 then 1 else 0) := by
  have counted := counted_start within ready
  rw [step_eq state operation]
  cases accepted : (state.prepare operation).1 with
  | true =>
    rw [if_pos rfl, if_pos rfl, KeyedStore.length_missing (List.Sublist.refl _), Nat.sub_self,
      Nat.zero_add]
    exact (ready.refused accepted).2
  | false =>
    rw [if_neg (by decide), if_neg (by decide), Nat.add_zero,
      dropped_enforceSessionCap ready.keyed counted, ← ready.admitted accepted]

/-- The cap and its accounting, in every reachable state and for every next operation:
    `start` is the state before the cap and `refused` says whether it was reached at all. -/
theorem session_cap (config : AppConfig) (operations : List Operation) (operation : Operation) :
    let state := run config operations
    let refused := (state.prepare operation).1
    let start := (state.prepare operation).2
    let next := state.step operation
    next.sessions.size ≤ config.maxTrackedSessions ∧
      next = (if refused then start else start.enforceSessionCap) ∧
      (∀ fuel, start.sessions.size ≤ fuel →
        Loop.iterate enforceSessionCapRound fuel start = start.enforceSessionCap ∧
          start.enforceSessionCap.enforceSessionCapRound = none) ∧
      EnforcesCap start start.enforceSessionCap ∧
      (∀ shuffled : SessionMap, shuffled.entries.Perm start.sessions.entries →
        (enforceSessionCap { start with sessions := shuffled }).sessions.entries.Perm
          start.enforceSessionCap.sessions.entries) ∧
      next.droppedSessionsTotal =
        satAdd state.droppedSessionsTotal
          ((KeyedStore.missing start.sessions next.sessions).length +
            if refused then 1 else 0) ∧
      (refused = true → next.sessions = state.sessions) := by
  intro state refused start next
  have keyed : Keyed state.sessions := (identities_run config operations).keyed
  have within : state.WithinCap := withinCap_run config operations
  have ready : state.Prepared operation := prepared keyed operation
  have counted : start.droppedSessionsTotal ≤ u64Max := counted_start within ready
  have stepped : next = if refused then start else start.enforceSessionCap := step_eq state operation
  refine ⟨?_, stepped, ?_, enforceSessionCap_enforces ready.keyed counted, ?_, ?_, ?_⟩
  · have after := (withinCap_step keyed within operation).size
    rwa [step_config, run_config] at after
  · intro fuel enough
    have exit := enforceSessionCap_exits start
    exact ⟨Loop.iterate_of_le _ _ _ enough exit, exit⟩
  · intro shuffled perm
    apply List.Perm.symm
    apply enforceSessionCap_perm ready.keyed counted
    · rfl
    · rfl
    · exact perm.symm
  · exact dropped_step within ready
  · intro accepted
    rw [stepped, accepted, if_pos rfl]
    exact (ready.refused accepted).1

end ServiceState

end Moshwatch
