import Moshwatch.State.Journal

namespace Moshwatch

def Exclusive (sessions : SessionMap) : Prop :=
  ∀ pid startedAt, sessions.lookup (instrumentedSessionId pid startedAt) = none ∨
    sessions.lookup (legacySessionId pid startedAt) = none

def ServiceState.TracksAs (state : ServiceState) (pid startedAt : Int) (record : SessionRecord) :
    Prop :=
  ∃ key, state.sessions.lookup key = some record ∧ record.summary.pid = pid ∧
    record.summary.startedAtUnixMs = startedAt

/-- The process is tracked after every operation of `later`. -/
def StaysTracked (config : AppConfig) (operations later : List Operation) (pid startedAt : Int) :
    Prop :=
  ∀ done, done <+: later →
    ∃ record, (ServiceState.run config (operations ++ done)).TracksAs pid startedAt record

namespace ServiceState

structure Identities (state : ServiceState) : Prop where
  identified : ∀ key record, state.sessions.lookup key = some record →
    record.summary.sessionId = key ∧
      ((record.summary.kind = .instrumented ∧
          key = instrumentedSessionId record.summary.pid record.summary.startedAtUnixMs) ∨
        (record.summary.kind = .legacy ∧
          key = legacySessionId record.summary.pid record.summary.startedAtUnixMs))
  exclusive : Exclusive state.sessions

theorem Identities.keyed {state : ServiceState} (identities : state.Identities) :
    Keyed state.sessions := fun key record found => (identities.identified key record found).1

theorem not_both {sessions : SessionMap} (exclusive : Exclusive sessions) {pid startedAt : Int}
    {record other : SessionRecord}
    (opened : sessions.lookup (instrumentedSessionId pid startedAt) = some record)
    (placed : sessions.lookup (legacySessionId pid startedAt) = some other) : False := by
  rcases exclusive pid startedAt with none | none
  · rw [opened] at none
    cases none
  · rw [placed] at none
    cases none

theorem Identities.key_unique {state : ServiceState} (identities : state.Identities)
    {key otherKey : String} {record other : SessionRecord}
    (found : state.sessions.lookup key = some record)
    (otherFound : state.sessions.lookup otherKey = some other)
    (samePid : record.summary.pid = other.summary.pid)
    (sameStart : record.summary.startedAtUnixMs = other.summary.startedAtUnixMs) :
    key = otherKey := by
  rcases (identities.identified key record found).2 with ⟨-, named⟩ | ⟨-, named⟩ <;>
    rcases (identities.identified otherKey other otherFound).2 with
      ⟨-, otherNamed⟩ | ⟨-, otherNamed⟩ <;>
    rw [← samePid, ← sameStart] at otherNamed
  · rw [named, otherNamed]
  · exact (not_both identities.exclusive (named ▸ found) (otherNamed ▸ otherFound)).elim
  · exact (not_both identities.exclusive (otherNamed ▸ otherFound) (named ▸ found)).elim
  · rw [named, otherNamed]

theorem exclusive_step_telemetry {state : ServiceState} (exclusive : Exclusive state.sessions)
    (event : TelemetryEvent) (startedAt receivedAt : Int) (fits : event.fits = true) :
    Exclusive (state.step (.telemetry event startedAt receivedAt fits)).sessions := by
  intro pid started
  by_contra both
  rw [not_or] at both
  obtain ⟨record, opened⟩ := Option.ne_none_iff_exists'.mp both.1
  obtain ⟨legacy, placed⟩ := Option.ne_none_iff_exists'.mp both.2
  rcases lookup_step_telemetry fits placed with ⟨same, -⟩ | ⟨-, placedBefore⟩
  · exact instrumentedSessionId_ne_legacySessionId _ _ _ _ same.symm
  · have unopened := (exclusive pid started).resolve_right (by rw [placedBefore]; simp)
    rcases lookup_step_telemetry fits opened with ⟨same, -⟩ | ⟨-, openedBefore⟩
    · obtain ⟨rfl, rfl⟩ := instrumentedSessionId_inj.mp same
      exact lookup_step_telemetry_legacy fits placed unopened
    · rw [unopened] at openedBefore
      cases openedBefore

theorem placed_of_mergeDiscovery {state : ServiceState} {discovered : List DiscoveredSession}
    {nowMs : Int} {pid startedAt : Int} {record : SessionRecord}
    (placed : (state.mergeDiscovery discovered nowMs).sessions.lookup
      (legacySessionId pid startedAt) = some record) :
    (∃ old, state.sessions.lookup (legacySessionId pid startedAt) = some old) ∨
      state.sessions.lookup (instrumentedSessionId pid startedAt) = none := by
  have origin : (∃ old, state.sessions.lookup (legacySessionId pid startedAt) = some old) ∨
      ∃ session : DiscoveredSession,
        legacySessionId pid startedAt = legacySessionId session.pid session.startedAtUnixMs ∧
          state.sessions.lookup (instrumentedSessionId session.pid session.startedAtUnixMs) =
            none := by
    refine mergeDiscovery_induction (fun key _ => (∃ old, state.sessions.lookup key = some old) ∨
      ∃ session : DiscoveredSession,
        key = legacySessionId session.pid session.startedAtUnixMs ∧
          state.sessions.lookup (instrumentedSessionId session.pid session.startedAtUnixMs) =
            none) ?_ ?_ ?_ placed
    · exact fun key record tracked => .inl ⟨record, tracked⟩
    · exact fun session _ _ unopened => .inr ⟨session, rfl, unopened⟩
    · exact fun _ _ _ _ _ earlier => earlier
  rcases origin with tracked | ⟨session, named, unopened⟩
  · exact .inl tracked
  · obtain ⟨rfl, rfl⟩ := legacySessionId_inj.mp named
    exact .inr unopened

theorem origin_of_mergeDiscovery {state : ServiceState} {discovered : List DiscoveredSession}
    {nowMs : Int} {key : String} {record : SessionRecord}
    (found : (state.mergeDiscovery discovered nowMs).sessions.lookup key = some record) :
    (∃ old, state.sessions.lookup key = some old ∧ old.summary.kind = record.summary.kind ∧
        old.summary.displaySessionId = record.summary.displaySessionId) ∨
      state.sessions.lookup key = none ∧ record.summary.kind = .legacy := by
  refine mergeDiscovery_induction (fun key record =>
    (∃ old, state.sessions.lookup key = some old ∧ old.summary.kind = record.summary.kind ∧
        old.summary.displaySessionId = record.summary.displaySessionId) ∨
      state.sessions.lookup key = none ∧ record.summary.kind = .legacy) ?_ ?_ ?_ found
  · exact fun key record tracked => .inl ⟨record, tracked, rfl, rfl⟩
  · exact fun session _ absent _ => .inr ⟨absent, rfl⟩
  · intro session _ key record _ earlier
    simpa only [refreshRecord_kind, refreshRecord_displaySessionId] using earlier

theorem exclusive_run (config : AppConfig) (operations : List Operation) :
    Exclusive (run config operations).sessions := by
  induction operations using List.reverseRecOn with
  | nil => exact fun _ _ => .inl rfl
  | append_singleton operations operation ih =>
    cases operation with
    | telemetry event startedAt receivedAt fits =>
      rw [run_concat]
      exact exclusive_step_telemetry ih event startedAt receivedAt fits
    | discovery discovered nowMs =>
      intro pid started
      by_contra both
      rw [not_or] at both
      obtain ⟨record, opened⟩ := Option.ne_none_iff_exists'.mp both.1
      obtain ⟨legacy, placed⟩ := Option.ne_none_iff_exists'.mp both.2
      have kind : record.summary.kind = .instrumented :=
        (Journal.traces (operations ++ [.discovery discovered nowMs]) _ record
          (by rw [Journal.run_state]; exact opened)).kind_eq_instrumented
      rw [run_concat] at opened placed
      obtain ⟨old, openedBefore, -⟩ := tracked_of_instrumented (lookup_step_discovery opened) kind
      rcases placed_of_mergeDiscovery (lookup_step_discovery placed) with
        ⟨earlier, placedBefore⟩ | unopened
      · exact not_both ih openedBefore placedBefore
      · rw [unopened] at openedBefore
        cases openedBefore

theorem identities_run (config : AppConfig) (operations : List Operation) :
    (run config operations).Identities where
  identified := by
    intro key record found
    have traced := (Journal.traces operations key record
      (by rw [Journal.run_state]; exact found)).identified
    refine ⟨traced.sessionId, ?_⟩
    rcases traced.named with instrumented | ⟨kind, -, named⟩
    · exact .inl instrumented
    · exact .inr ⟨kind, named⟩
  exclusive := exclusive_run config operations

/-- What one operation may change of the identity of a process that stays tracked. -/
structure SameIdentity (before after : SessionRecord) : Prop where
  kind : before.summary.kind = .instrumented → after.summary.kind = .instrumented
  display : ∀ display, before.summary.displaySessionId = some display →
    after.summary.displaySessionId = some display

theorem SameIdentity.trans {first middle last : SessionRecord}
    (early : SameIdentity first middle) (late : SameIdentity middle last) :
    SameIdentity first last :=
  ⟨fun kind => late.kind (early.kind kind),
    fun display shown => late.display display (early.display display shown)⟩

theorem recordOf_pid (state : ServiceState) (event : TelemetryEvent) (startedAt receivedAt : Int) :
    (state.recordOf event startedAt receivedAt).summary.pid = event.pid :=
  (applyEvent_identity state.config (instrumentedSessionId event.pid startedAt)
    (event.verified startedAt) startedAt receivedAt (state.entryOf event startedAt receivedAt)).2.1

theorem recordOf_startedAt (state : ServiceState) (event : TelemetryEvent)
    (startedAt receivedAt : Int) :
    (state.recordOf event startedAt receivedAt).summary.startedAtUnixMs = startedAt :=
  (applyEvent_identity state.config (instrumentedSessionId event.pid startedAt)
    (event.verified startedAt) startedAt receivedAt
    (state.entryOf event startedAt receivedAt)).2.2.2.1

theorem entryOf_of_tracked {state : ServiceState} {event : TelemetryEvent} {startedAt : Int}
    (receivedAt : Int) (identities : state.Identities) {key : String} {record : SessionRecord}
    (found : state.sessions.lookup key = some record) (samePid : record.summary.pid = event.pid)
    (sameStart : record.summary.startedAtUnixMs = startedAt) :
    state.entryOf event startedAt receivedAt = record ∨
      state.entryOf event startedAt receivedAt =
        upgradeRecord (instrumentedSessionId event.pid startedAt) record := by
  rcases (identities.identified key record found).2 with ⟨-, own⟩ | ⟨-, own⟩ <;>
    rw [samePid, sameStart] at own <;> subst own
  · rcases entryOf_cases state event startedAt receivedAt with tracked | ⟨fresh, -⟩
    · rw [found, Option.some.injEq] at tracked
      exact .inl tracked.symm
    · rw [found] at fresh
      cases fresh
  · rcases entryOf_cases state event startedAt receivedAt with
      tracked | ⟨-, ⟨placeholder, placed, upgraded⟩ | ⟨noLegacy, -⟩⟩
    · exact (not_both identities.exclusive tracked found).elim
    · rw [found, Option.some.injEq] at placed
      rw [upgraded, ← placed]
      exact .inr rfl
    · rw [found] at noLegacy
      cases noLegacy

theorem sameIdentity_recordOf {state : ServiceState} {event : TelemetryEvent}
    {startedAt receivedAt : Int} {before : SessionRecord}
    (display : (state.entryOf event startedAt receivedAt).summary.displaySessionId =
      before.summary.displaySessionId) :
    SameIdentity before (state.recordOf event startedAt receivedAt) := by
  obtain ⟨-, -, kind, -, -, shown, -⟩ := applyEvent_identity state.config
    (instrumentedSessionId event.pid startedAt) (event.verified startedAt) startedAt receivedAt
    (state.entryOf event startedAt receivedAt)
  refine ⟨fun _ => kind, ?_⟩
  intro own present
  rw [recordOf, shown, display, present]
  rfl

theorem same_process {before after : ServiceState} (identities : before.Identities)
    (identitiesAfter : after.Identities) {key : String} {old last : SessionRecord}
    (oldFound : before.sessions.lookup key = some old)
    (lastFound : after.sessions.lookup key = some last)
    (sameKind : old.summary.kind = last.summary.kind) :
    old.summary.pid = last.summary.pid ∧
      old.summary.startedAtUnixMs = last.summary.startedAtUnixMs := by
  rcases (identities.identified key old oldFound).2 with ⟨oldKind, own⟩ | ⟨oldKind, own⟩ <;>
    rcases (identitiesAfter.identified key last lastFound).2 with ⟨kind, named⟩ | ⟨kind, named⟩
  · exact instrumentedSessionId_inj.mp (own.symm.trans named)
  · rw [sameKind, kind] at oldKind
    cases oldKind
  · rw [sameKind, kind] at oldKind
    cases oldKind
  · exact legacySessionId_inj.mp (own.symm.trans named)

theorem not_added_of_tracked {state : ServiceState} (identities : state.Identities)
    {discovered : List DiscoveredSession} {nowMs : Int} {key lastKey : String}
    {first last : SessionRecord} (found : state.sessions.lookup key = some first)
    (merged : (state.mergeDiscovery discovered nowMs).sessions.lookup lastKey = some last)
    (absent : state.sessions.lookup lastKey = none)
    (named : lastKey = legacySessionId first.summary.pid first.summary.startedAtUnixMs) : False := by
  subst named
  rcases placed_of_mergeDiscovery merged with ⟨old, tracked⟩ | unopened
  · rw [absent] at tracked
    cases tracked
  · rcases (identities.identified key first found).2 with ⟨-, own⟩ | ⟨-, own⟩
    · rw [own, unopened] at found
      cases found
    · rw [own, absent] at found
      cases found

theorem sameIdentity_step {state : ServiceState} (identities : state.Identities)
    (operation : Operation) (after : (state.step operation).Identities) {pid startedAt : Int}
    {first last : SessionRecord} (tracked : state.TracksAs pid startedAt first)
    (still : (state.step operation).TracksAs pid startedAt last) : SameIdentity first last := by
  obtain ⟨key, found, rfl, rfl⟩ := tracked
  obtain ⟨lastKey, lastFound, samePid, sameStart⟩ := still
  have sameRecord : ∀ old, state.sessions.lookup lastKey = some old →
      old.summary.pid = first.summary.pid →
      old.summary.startedAtUnixMs = first.summary.startedAtUnixMs → old = first := by
    intro old oldFound oldPid oldStart
    rw [identities.key_unique oldFound found oldPid oldStart, found, Option.some.injEq] at oldFound
    exact oldFound.symm
  cases operation with
  | telemetry event opened receivedAt fits =>
    rcases lookup_step_telemetry fits lastFound with ⟨-, -, rfl⟩ | ⟨-, untouched⟩
    · apply sameIdentity_recordOf
      rw [recordOf_pid] at samePid
      rw [recordOf_startedAt] at sameStart
      rcases entryOf_of_tracked receivedAt identities found samePid.symm sameStart.symm with
        same | upgraded
      · rw [same]
      · rw [upgraded]
        rfl
    · rw [sameRecord last untouched samePid sameStart]
      exact ⟨id, fun _ shown => shown⟩
  | discovery discovered nowMs =>
    have merged := lookup_step_discovery lastFound
    rcases origin_of_mergeDiscovery merged with ⟨old, oldFound, sameKind, sameDisplay⟩ | ⟨absent, kind⟩
    · obtain ⟨oldPid, oldStart⟩ := same_process identities after oldFound lastFound sameKind
      have equal := sameRecord old oldFound (oldPid.trans samePid) (oldStart.trans sameStart)
      subst equal
      exact ⟨fun instrumented => sameKind ▸ instrumented, fun display shown => sameDisplay ▸ shown⟩
    · rcases (after.identified lastKey last lastFound).2 with ⟨instrumented, -⟩ | ⟨-, named⟩
      · rw [kind] at instrumented
        cases instrumented
      · rw [samePid, sameStart] at named
        exact (not_added_of_tracked identities found merged absent named).elim

theorem sameIdentity_run (config : AppConfig) (operations later : List Operation)
    {pid startedAt : Int} (stays : StaysTracked config operations later pid startedAt)
    {first last : SessionRecord} (tracked : (run config operations).TracksAs pid startedAt first)
    (still : (run config (operations ++ later)).TracksAs pid startedAt last) :
    SameIdentity first last := by
  induction later using List.reverseRecOn generalizing last with
  | nil =>
    rw [List.append_nil] at still
    obtain ⟨key, found, rfl, rfl⟩ := tracked
    obtain ⟨lastKey, lastFound, samePid, sameStart⟩ := still
    rw [(identities_run config operations).key_unique lastFound found samePid sameStart, found,
      Option.some.injEq] at lastFound
    rw [lastFound]
    exact ⟨id, fun _ shown => shown⟩
  | append_singleton later operation ih =>
    obtain ⟨middle, between⟩ := stays later (List.prefix_append _ _)
    have early := ih (fun done sub => stays done (sub.trans (List.prefix_append _ _))) between
    refine early.trans ?_
    have after := identities_run config (operations ++ (later ++ [operation]))
    rw [← List.append_assoc, run_concat] at after still
    exact sameIdentity_step (identities_run config (operations ++ later)) operation after between
      still

/-- Every record is stored under the id of its process, a process has one record, and while
    it keeps one that record is upgraded at most once and keeps its display id. -/
theorem session_identity (config : AppConfig) (operations : List Operation) :
    (∀ key record, (run config operations).sessions.lookup key = some record →
      key = record.summary.sessionId ∧
        key = match record.summary.kind with
          | .instrumented =>
            instrumentedSessionId record.summary.pid record.summary.startedAtUnixMs
          | .legacy => legacySessionId record.summary.pid record.summary.startedAtUnixMs) ∧
    (∀ key otherKey record other, (run config operations).sessions.lookup key = some record →
      (run config operations).sessions.lookup otherKey = some other →
      record.summary.pid = other.summary.pid →
      record.summary.startedAtUnixMs = other.summary.startedAtUnixMs → key = otherKey) ∧
    ∀ later pid startedAt first last, StaysTracked config operations later pid startedAt →
      (run config operations).TracksAs pid startedAt first →
      (run config (operations ++ later)).TracksAs pid startedAt last →
      (first.summary.kind = .instrumented → last.summary.kind = .instrumented) ∧
        ∀ display, first.summary.displaySessionId = some display →
          last.summary.displaySessionId = some display := by
  have identities := identities_run config operations
  refine ⟨?_, ?_, ?_⟩
  · intro key record found
    obtain ⟨sessionId, named⟩ := identities.identified key record found
    refine ⟨sessionId.symm, ?_⟩
    rcases named with ⟨kind, named⟩ | ⟨kind, named⟩ <;> rw [kind] <;> exact named
  · intro key otherKey record other found otherFound
    exact identities.key_unique found otherFound
  · intro later pid startedAt first last stays tracked still
    have same := sameIdentity_run config operations later stays tracked still
    exact ⟨same.kind, same.display⟩

end ServiceState

end Moshwatch
