import Moshwatch.State.Cap

namespace Moshwatch

namespace ServiceState

theorem refreshRecord_kind (config : AppConfig) (session : DiscoveredSession) (nowMs : Int)
    (entry : SessionRecord) :
    (refreshRecord config session nowMs entry).summary.kind = entry.summary.kind := by
  cases kind : entry.summary.kind <;> simp [refreshRecord, kind]

theorem refreshRecord_legacy {entry : SessionRecord} (legacy : entry.summary.kind = .legacy)
    (config : AppConfig) (session : DiscoveredSession) (nowMs : Int) :
    refreshRecord config session nowMs entry =
      { entry with
        summary := { entry.summary with
          pid := session.pid
          startedAtUnixMs := session.startedAtUnixMs
          lastObservedUnixMs := nowMs
          bindAddr := session.bindAddr.or entry.summary.bindAddr
          udpPort := session.udpPort.or entry.summary.udpPort
          cmdline := session.cmdline
          health := .legacy } } := if_pos legacy

theorem refreshRecord_instrumented {entry : SessionRecord}
    (instrumented : entry.summary.kind = .instrumented) (config : AppConfig)
    (session : DiscoveredSession) (nowMs : Int) :
    refreshRecord config session nowMs entry =
      { entry with
        summary := { entry.summary with
          pid := session.pid
          health := classifyHealth entry.summary.kind entry.summary.metrics config.thresholds } } := by
  refine if_neg ?_
  simp only [instrumented]
  decide

@[simp]
theorem refreshRecord_history (config : AppConfig) (session : DiscoveredSession) (nowMs : Int)
    (entry : SessionRecord) :
    (refreshRecord config session nowMs entry).history = entry.history := by
  cases kind : entry.summary.kind <;> simp [refreshRecord, kind]

@[simp]
theorem refreshRecord_counters (config : AppConfig) (session : DiscoveredSession) (nowMs : Int)
    (entry : SessionRecord) :
    (refreshRecord config session nowMs entry).counters = entry.counters := by
  cases kind : entry.summary.kind <;> simp [refreshRecord, kind]

@[simp]
theorem refreshRecord_shutdown (config : AppConfig) (session : DiscoveredSession) (nowMs : Int)
    (entry : SessionRecord) :
    (refreshRecord config session nowMs entry).shutdown = entry.shutdown := by
  cases kind : entry.summary.kind <;> simp [refreshRecord, kind]

@[simp]
theorem refreshRecord_metrics (config : AppConfig) (session : DiscoveredSession) (nowMs : Int)
    (entry : SessionRecord) :
    (refreshRecord config session nowMs entry).summary.metrics = entry.summary.metrics := by
  cases kind : entry.summary.kind <;> simp [refreshRecord, kind]

@[simp]
theorem refreshRecord_peer (config : AppConfig) (session : DiscoveredSession) (nowMs : Int)
    (entry : SessionRecord) :
    (refreshRecord config session nowMs entry).summary.peer = entry.summary.peer := by
  cases kind : entry.summary.kind <;> simp [refreshRecord, kind]

@[simp]
theorem refreshRecord_counterReset (config : AppConfig) (session : DiscoveredSession) (nowMs : Int)
    (entry : SessionRecord) :
    (refreshRecord config session nowMs entry).summary.counterResetUnixMs =
      entry.summary.counterResetUnixMs := by
  cases kind : entry.summary.kind <;> simp [refreshRecord, kind]

@[simp]
theorem refreshRecord_sessionId (config : AppConfig) (session : DiscoveredSession) (nowMs : Int)
    (entry : SessionRecord) :
    (refreshRecord config session nowMs entry).summary.sessionId = entry.summary.sessionId := by
  cases kind : entry.summary.kind <;> simp [refreshRecord, kind]

@[simp]
theorem refreshRecord_displaySessionId (config : AppConfig) (session : DiscoveredSession)
    (nowMs : Int) (entry : SessionRecord) :
    (refreshRecord config session nowMs entry).summary.displaySessionId =
      entry.summary.displaySessionId := by
  cases kind : entry.summary.kind <;> simp [refreshRecord, kind]

@[simp]
theorem evictionClass_refreshRecord (config : AppConfig) (session : DiscoveredSession)
    (nowMs : Int) (entry : SessionRecord) :
    evictionClass (refreshRecord config session nowMs entry) = evictionClass entry := by
  simp [evictionClass, refreshRecord_kind]

@[simp]
theorem mergeDiscovery_config (state : ServiceState) (discovered : List DiscoveredSession)
    (nowMs : Int) : (state.mergeDiscovery discovered nowMs).config = state.config := rfl

@[simp]
theorem mergeDiscovery_dropped (state : ServiceState) (discovered : List DiscoveredSession)
    (nowMs : Int) :
    (state.mergeDiscovery discovered nowMs).droppedSessionsTotal = state.droppedSessionsTotal := rfl

theorem discoveredSessionId_cases (sessions : SessionMap) (session : DiscoveredSession) :
    (discoveredSessionId sessions session =
        instrumentedSessionId session.pid session.startedAtUnixMs ∧
      sessions.contains (discoveredSessionId sessions session) = true) ∨
    (discoveredSessionId sessions session = legacySessionId session.pid session.startedAtUnixMs ∧
      sessions.lookup (instrumentedSessionId session.pid session.startedAtUnixMs) = none) := by
  unfold discoveredSessionId
  by_cases tracked :
      sessions.contains (instrumentedSessionId session.pid session.startedAtUnixMs) = true
  · rw [if_pos tracked]
    exact .inl ⟨rfl, tracked⟩
  · rw [if_neg tracked]
    exact .inr ⟨rfl, KeyedStore.contains_eq_false.mp (by simpa using tracked)⟩

section Discovered

variable {state : ServiceState} {discovered : List DiscoveredSession} {nowMs : Int}

theorem lookup_eq_none_of_discoverSession {config : AppConfig} {loop : SessionMap × List String}
    {session : DiscoveredSession} {key : String}
    (absent : (discoverSession config nowMs loop session).1.lookup key = none) :
    loop.1.lookup key = none := by
  by_cases same : key = discoveredSessionId loop.1 session
  · rw [same] at absent
    simp only [discoverSession, AList.lookup_insert] at absent
    cases absent
  · simpa only [discoverSession, AList.lookup_insert_ne same] using absent

theorem discoverSession_preserves {holds : String → SessionRecord → Prop} {config : AppConfig}
    {loop : SessionMap × List String} {session : DiscoveredSession}
    (tracked : ∀ key record, loop.1.lookup key = some record → holds key record)
    (added :
      let key := legacySessionId session.pid session.startedAtUnixMs
      loop.1.lookup key = none →
      loop.1.lookup (instrumentedSessionId session.pid session.startedAtUnixMs) = none →
      holds key (newLegacyRecord key session nowMs))
    (refreshed : ∀ key record,
      key = instrumentedSessionId session.pid session.startedAtUnixMs ∨
        key = legacySessionId session.pid session.startedAtUnixMs →
      holds key record → holds key (refreshRecord config session nowMs record)) :
    ∀ key record, (discoverSession config nowMs loop session).1.lookup key = some record →
      holds key record := by
  intro key record present
  by_cases same : key = discoveredSessionId loop.1 session
  · rw [same] at present ⊢
    simp only [discoverSession, AList.lookup_insert, Option.some.injEq] at present
    have entryHolds : holds (discoveredSessionId loop.1 session)
        ((loop.1.lookup (discoveredSessionId loop.1 session)).getD
          (newLegacyRecord (discoveredSessionId loop.1 session) session nowMs)) := by
      cases existing : loop.1.lookup (discoveredSessionId loop.1 session) with
      | some entry => exact tracked _ entry existing
      | none =>
        rcases discoveredSessionId_cases loop.1 session with ⟨-, contained⟩ | ⟨legacy, unopened⟩
        · obtain ⟨entry, contained⟩ := KeyedStore.contains_iff.mp contained
          rw [existing] at contained
          cases contained
        · rw [legacy] at existing ⊢
          exact added existing unopened
    rw [← present]
    refine refreshed _ _ ?_ entryHolds
    rcases discoveredSessionId_cases loop.1 session with ⟨instrumented, -⟩ | ⟨legacy, -⟩
    · exact .inl instrumented
    · exact .inr legacy
  · simp only [discoverSession, AList.lookup_insert_ne same] at present
    exact tracked key record present

/-- What holds of every tracked record, of every record discovery adds, and is kept by a
    refresh, holds of every record after discovery. -/
theorem mergeDiscovery_induction (holds : String → SessionRecord → Prop)
    (tracked : ∀ key record, state.sessions.lookup key = some record → holds key record)
    (added : ∀ session ∈ discovered,
      let key := legacySessionId session.pid session.startedAtUnixMs
      state.sessions.lookup key = none →
      state.sessions.lookup (instrumentedSessionId session.pid session.startedAtUnixMs) = none →
      holds key (newLegacyRecord key session nowMs))
    (refreshed : ∀ session ∈ discovered, ∀ key record,
      key = instrumentedSessionId session.pid session.startedAtUnixMs ∨
        key = legacySessionId session.pid session.startedAtUnixMs →
      holds key record → holds key (refreshRecord state.config session nowMs record))
    {key : String} {record : SessionRecord}
    (found : (state.mergeDiscovery discovered nowMs).sessions.lookup key = some record) :
    holds key record := by
  have looped : (∀ key record,
      (discovered.foldl (discoverSession state.config nowMs) (state.sessions, [])).1.lookup key =
        some record → holds key record) ∧
      ∀ key, (discovered.foldl (discoverSession state.config nowMs)
        (state.sessions, [])).1.lookup key = none → state.sessions.lookup key = none := by
    refine List.foldlRecOn discovered _
      (motive := fun loop : SessionMap × List String =>
        (∀ key record, loop.1.lookup key = some record → holds key record) ∧
          ∀ key, loop.1.lookup key = none → state.sessions.lookup key = none)
      ⟨tracked, fun _ absent => absent⟩ ?_
    rintro loop ⟨all, grown⟩ session listed
    constructor
    · exact discoverSession_preserves all
        (fun existing unopened => added session listed (grown _ existing) (grown _ unopened))
        (refreshed session listed)
    · intro key absent
      exact grown key (lookup_eq_none_of_discoverSession absent)
  rw [mergeDiscovery, KeyedStore.lookup_retain, Option.filter_eq_some_iff] at found
  exact looped.1 key record found.1

theorem tracked_of_instrumented {key : String} {record : SessionRecord}
    (found : (state.mergeDiscovery discovered nowMs).sessions.lookup key = some record)
    (instrumented : record.summary.kind = .instrumented) :
    ∃ old, state.sessions.lookup key = some old ∧ evictionClass old = evictionClass record := by
  revert instrumented
  refine mergeDiscovery_induction (fun key record => record.summary.kind = .instrumented →
    ∃ old, state.sessions.lookup key = some old ∧ evictionClass old = evictionClass record)
    ?_ ?_ ?_ found
  · intro key record present _
    exact ⟨record, present, rfl⟩
  · intro session _ key _ _ instrumented
    cases instrumented
  · intro session _ key record _ holds instrumented
    rw [refreshRecord_kind] at instrumented
    obtain ⟨old, present, sameClass⟩ := holds instrumented
    exact ⟨old, present, by rw [evictionClass_refreshRecord, sameClass]⟩

end Discovered

end ServiceState

end Moshwatch
