import Moshwatch.General.Related
import Moshwatch.State.View
import Moshwatch.State.Windows

namespace Moshwatch

open ServiceState TimeSeries

def SessionMetrics.withoutWindows (metrics : SessionMetrics) : SessionMetrics :=
  applyWindows metrics { pct := none, complete := false, breakdown := {} }
    { pct := none, complete := false, breakdown := {} }

def SessionSummary.withoutWindows (summary : SessionSummary) : SessionSummary :=
  { summary with health := .ok, metrics := summary.metrics.withoutWindows }

/-- Two records that differ at most in their series, their windows and their health. -/
structure SameCore (left right : SessionRecord) : Prop where
  summary : left.summary.withoutWindows = right.summary.withoutWindows
  shutdown : left.shutdown = right.shutdown

namespace SameCore

variable {left right : SessionRecord}

theorem field {α : Type} (same : SameCore left right) (read : SessionSummary → α)
    (stable : ∀ summary, read summary.withoutWindows = read summary) :
    read left.summary = read right.summary := by
  rw [← stable left.summary, ← stable right.summary, same.summary]

theorem kind (same : SameCore left right) : left.summary.kind = right.summary.kind :=
  same.field SessionSummary.kind fun _ => rfl

theorem lastObserved (same : SameCore left right) :
    left.summary.lastObservedUnixMs = right.summary.lastObservedUnixMs :=
  same.field SessionSummary.lastObservedUnixMs fun _ => rfl

theorem evictionClass_eq (same : SameCore left right) :
    evictionClass left = evictionClass right := by
  rw [evictionClass, evictionClass, same.kind, same.shutdown]

theorem metricsRegressed_eq (same : SameCore left right) (event : TelemetryEvent) :
    metricsRegressed left.summary.metrics event = metricsRegressed right.summary.metrics event :=
  same.field (fun summary => metricsRegressed summary.metrics event) fun _ => rfl

theorem normalize_eq (same : SameCore left right) (eventUnixMs receivedAt : Int) :
    normalizeEventUnixMs left.summary eventUnixMs receivedAt =
      normalizeEventUnixMs right.summary eventUnixMs receivedAt :=
  same.field (fun summary => normalizeEventUnixMs summary eventUnixMs receivedAt) fun _ => rfl

theorem compareEvictionPriority_eq {leftOther rightOther : SessionRecord}
    (same : SameCore left right) (others : SameCore leftOther rightOther) :
    compareEvictionPriority left leftOther = compareEvictionPriority right rightOther := by
  have started : left.summary.startedAtUnixMs = right.summary.startedAtUnixMs :=
    same.field SessionSummary.startedAtUnixMs fun _ => rfl
  have otherStarted : leftOther.summary.startedAtUnixMs = rightOther.summary.startedAtUnixMs :=
    others.field SessionSummary.startedAtUnixMs fun _ => rfl
  have sessionId : left.summary.sessionId = right.summary.sessionId :=
    same.field SessionSummary.sessionId fun _ => rfl
  have otherSessionId : leftOther.summary.sessionId = rightOther.summary.sessionId :=
    others.field SessionSummary.sessionId fun _ => rfl
  simp only [compareEvictionPriority, same.evictionClass_eq, others.evictionClass_eq,
    same.lastObserved, others.lastObserved, started, otherStarted, sessionId, otherSessionId]

theorem upgradeRecord (same : SameCore left right) (sessionId : String) :
    SameCore (ServiceState.upgradeRecord sessionId left)
      (ServiceState.upgradeRecord sessionId right) := by
  refine ⟨?_, same.shutdown⟩
  change { left.summary.withoutWindows with sessionId, kind := .instrumented } =
    { right.summary.withoutWindows with sessionId, kind := .instrumented }
  rw [same.summary]

theorem refreshRecord (same : SameCore left right) {config other : AppConfig}
    (session : DiscoveredSession) (nowMs : Int) :
    SameCore (ServiceState.refreshRecord config session nowMs left)
      (ServiceState.refreshRecord other session nowMs right) := by
  refine ⟨?_, by rw [refreshRecord_shutdown, refreshRecord_shutdown, same.shutdown]⟩
  cases kind : left.summary.kind with
  | legacy =>
    rw [refreshRecord_legacy kind, refreshRecord_legacy (same.kind.symm.trans kind)]
    exact same.field (fun summary => { summary.withoutWindows with
      pid := session.pid
      startedAtUnixMs := session.startedAtUnixMs
      lastObservedUnixMs := nowMs
      bindAddr := session.bindAddr.or summary.bindAddr
      udpPort := session.udpPort.or summary.udpPort
      cmdline := session.cmdline }) fun _ => rfl
  | instrumented =>
    rw [refreshRecord_instrumented kind, refreshRecord_instrumented (same.kind.symm.trans kind)]
    exact same.field (fun summary => { summary.withoutWindows with pid := session.pid }) fun _ => rfl

theorem withoutWindows_applyClientPeer (summary : SessionSummary) (clientAddr : Option String)
    (observedAtUnixMs : Int) :
    (applyClientPeer summary clientAddr observedAtUnixMs).withoutWindows =
      applyClientPeer summary.withoutWindows clientAddr observedAtUnixMs := by
  cases clientAddr <;> rfl

theorem withoutWindows_applyCmdline (summary : SessionSummary) (cmdline : Option String) :
    (applyCmdline summary cmdline).withoutWindows = applyCmdline summary.withoutWindows cmdline := by
  cases cmdline with
  | none => rfl
  | some cmdline =>
    simp only [applyCmdline]
    split <;> rfl

theorem withoutWindows_clearRegressed (entry : SessionRecord) (event : TelemetryEvent)
    (eventUnixMs : Int) :
    (clearRegressed entry event eventUnixMs).summary.withoutWindows =
      { entry.summary.withoutWindows with
        counterResetUnixMs :=
          if metricsRegressed entry.summary.metrics event then some eventUnixMs
          else entry.summary.withoutWindows.counterResetUnixMs } := by
  rw [clearRegressed_summary]
  rfl

theorem withoutWindows_applyEvent (config : AppConfig) (sessionId : String) (event : TelemetryEvent)
    (startedAt receivedAt : Int) (entry : SessionRecord) :
    let eventUnixMs := normalizeEventUnixMs entry.summary event.unixMs receivedAt
    let updated := applyCmdline
      (applyClientPeer
        (applyIdentity (clearRegressed entry event eventUnixMs).summary.withoutWindows sessionId
          event startedAt eventUnixMs)
        (sanitizeEndpoint event.clientAddr) eventUnixMs)
      (event.cmdline.map sanitizeCmdline)
    (Moshwatch.applyEvent config sessionId event startedAt receivedAt entry).summary.withoutWindows =
      { updated with metrics := applyMetrics updated.metrics event } := by
  intro eventUnixMs updated
  have core : updated = (applyCmdline
      (applyClientPeer
        (applyIdentity (clearRegressed entry event eventUnixMs).summary sessionId event startedAt
          eventUnixMs)
        (sanitizeEndpoint event.clientAddr) eventUnixMs)
      (event.cmdline.map sanitizeCmdline)).withoutWindows := by
    rw [withoutWindows_applyCmdline, withoutWindows_applyClientPeer]
    rfl
  rw [core]
  rfl

theorem applyEvent (same : SameCore left right) (config other : AppConfig) (sessionId : String)
    (event : TelemetryEvent) (startedAt receivedAt : Int) :
    SameCore (Moshwatch.applyEvent config sessionId event startedAt receivedAt left)
      (Moshwatch.applyEvent other sessionId event startedAt receivedAt right) := by
  refine ⟨?_, rfl⟩
  rw [withoutWindows_applyEvent, withoutWindows_applyEvent, withoutWindows_clearRegressed,
    withoutWindows_clearRegressed, same.normalize_eq, same.metricsRegressed_eq, same.summary]

end SameCore

/-- Two registries that hold the same records up to their series, windows and health. -/
structure SameCores (left right : ServiceState) : Prop where
  config : right.config = { left.config with historySecs := right.config.historySecs }
  sessions : KeyedStore.Related SameCore left.sessions right.sessions
  dropped : left.droppedSessionsTotal = right.droppedSessionsTotal

namespace SameCores

variable {left right : ServiceState}

theorem maxTrackedSessions (same : SameCores left right) :
    right.config.maxTrackedSessions = left.config.maxTrackedSessions := by
  rw [same.config]

theorem worstRecord (same : SameCores left right) :
    (left.worstRecord = none ∧ right.worstRecord = none) ∨
      ∃ worst other, left.worstRecord = some worst ∧ right.worstRecord = some other ∧
        worst.1 = other.1 ∧ SameCore worst.2 other.2 :=
  Eviction.minBy?_related (fun _ _ _ _ first second => first.2.compareEvictionPriority_eq second.2)
    same.sessions

theorem enforceSessionCap (same : SameCores left right) :
    SameCores left.enforceSessionCap right.enforceSessionCap := by
  unfold ServiceState.enforceSessionCap
  rw [same.sessions.size]
  refine Loop.iterate_related SameCores ?_ _ _ _ same
  intro state other held
  unfold enforceSessionCapRound
  rw [held.maxTrackedSessions, held.sessions.size]
  split
  · rcases held.worstRecord with ⟨absent, otherAbsent⟩ | ⟨worst, otherWorst, found, otherFound, key, -⟩
    · exact .inl ⟨by rw [absent], by rw [otherAbsent]⟩
    · right
      rw [found, otherFound]
      simp only
      rw [held.sessions.contains, key]
      split
      · refine ⟨_, _, rfl, rfl, held.config, held.sessions.erase _, ?_⟩
        change satAdd state.droppedSessionsTotal 1 = satAdd other.droppedSessionsTotal 1
        rw [held.dropped]
      · exact ⟨_, _, rfl, rfl, held⟩
  · exact .inl ⟨rfl, rfl⟩

theorem reject (same : SameCores left right) (shutdown : Bool) :
    (left.rejectNewActiveInstrumentedSession shutdown).1 =
        (right.rejectNewActiveInstrumentedSession shutdown).1 ∧
      SameCores (left.rejectNewActiveInstrumentedSession shutdown).2
        (right.rejectNewActiveInstrumentedSession shutdown).2 := by
  unfold rejectNewActiveInstrumentedSession
  rw [same.maxTrackedSessions, same.sessions.size]
  split
  · exact ⟨rfl, same⟩
  · rcases same.worstRecord with
      ⟨absent, otherAbsent⟩ | ⟨worst, otherWorst, found, otherFound, -, core⟩
    · rw [absent, otherAbsent]
      exact ⟨rfl, same⟩
    · rw [found, otherFound]
      simp only
      rw [core.evictionClass_eq]
      split
      · refine ⟨rfl, same.config, same.sessions, ?_⟩
        change satAdd left.droppedSessionsTotal 1 = satAdd right.droppedSessionsTotal 1
        rw [same.dropped]
      · exact ⟨rfl, same⟩

theorem upgradeLegacy {sessions others : SessionMap}
    (related : KeyedStore.Related SameCore sessions others) (sessionId legacyId : String) :
    KeyedStore.Related SameCore (ServiceState.upgradeLegacy sessions sessionId legacyId)
      (ServiceState.upgradeLegacy others sessionId legacyId) := by
  unfold ServiceState.upgradeLegacy
  rw [related.contains]
  split
  · rcases related.lookup legacyId with ⟨absent, otherAbsent⟩ | ⟨record, other, found, otherFound, core⟩
    · rw [absent, otherAbsent]
      exact related
    · rw [found, otherFound]
      exact (related.erase legacyId).insert sessionId (core.upgradeRecord sessionId)
  · exact related

theorem telemetryEntry {sessions others : SessionMap}
    (related : KeyedStore.Related SameCore sessions others) (sessionId : String)
    (event : TelemetryEvent) (startedAt initialObservedUnixMs : Int) :
    SameCore
      (ServiceState.telemetryEntry sessions sessionId event startedAt initialObservedUnixMs)
      (ServiceState.telemetryEntry others sessionId event startedAt initialObservedUnixMs) := by
  unfold ServiceState.telemetryEntry
  rcases related.lookup sessionId with ⟨absent, otherAbsent⟩ | ⟨record, other, found, otherFound, core⟩
  · rw [absent, otherAbsent]
    exact ⟨rfl, rfl⟩
  · rw [found, otherFound]
    exact core

theorem admitTelemetry (same : SameCores left right) (sessionId : String) (event : TelemetryEvent)
    (receivedAt : Int) :
    (left.admitTelemetry sessionId event receivedAt).1 =
        (right.admitTelemetry sessionId event receivedAt).1 ∧
      SameCores (left.admitTelemetry sessionId event receivedAt).2
        (right.admitTelemetry sessionId event receivedAt).2 := by
  let startedAt := event.startedAtUnixMs.getD (min event.unixMs receivedAt)
  let legacyId := legacySessionId event.pid startedAt
  have related := upgradeLegacy same.sessions sessionId legacyId
  have upgraded : SameCores
      { left with sessions := ServiceState.upgradeLegacy left.sessions sessionId legacyId }
      { right with sessions := ServiceState.upgradeLegacy right.sessions sessionId legacyId } :=
    ⟨same.config, related, same.dropped⟩
  have applied := (telemetryEntry related sessionId event startedAt
    (min event.unixMs receivedAt)).applyEvent left.config right.config sessionId event startedAt
    receivedAt
  obtain ⟨decided, rejected⟩ := upgraded.reject event.sessionShutdown
  have tracked : KeyedStore.contains
        (ServiceState.upgradeLegacy left.sessions sessionId legacyId) sessionId =
      KeyedStore.contains
        (ServiceState.upgradeLegacy right.sessions sessionId legacyId) sessionId :=
    related.contains sessionId
  simp only [ServiceState.admitTelemetry]
  rw [tracked]
  split
  · exact ⟨rfl, same.config, related.insert sessionId applied, same.dropped⟩
  · rw [decided]
    split
    · exact ⟨decided, rejected⟩
    · exact ⟨rfl, same.config, related.insert sessionId applied, same.dropped⟩

theorem applyTelemetryAt (same : SameCores left right) (sessionId : String)
    (event : TelemetryEvent) (receivedAt : Int) :
    SameCores (left.applyTelemetryAt sessionId event receivedAt)
      (right.applyTelemetryAt sessionId event receivedAt) := by
  obtain ⟨decided, held⟩ := same.admitTelemetry sessionId event receivedAt
  simp only [ServiceState.applyTelemetryAt]
  rw [decided]
  split
  · exact held
  · exact held.enforceSessionCap

def SameLoop (left right : SessionMap × List String) : Prop :=
  KeyedStore.Related SameCore left.1 right.1 ∧ left.2 = right.2

theorem discoverSession (config other : AppConfig) (nowMs : Int) (session : DiscoveredSession)
    {left right : SessionMap × List String} (same : SameLoop left right) :
    SameLoop (ServiceState.discoverSession config nowMs left session)
      (ServiceState.discoverSession other nowMs right session) := by
  obtain ⟨sessions, seenIds⟩ := left
  obtain ⟨others, otherIds⟩ := right
  obtain ⟨related, seen⟩ := same
  simp only at related seen
  have id : discoveredSessionId sessions session = discoveredSessionId others session := by
    simp only [discoveredSessionId, related.contains]
  refine ⟨?_, ?_⟩
  · simp only [ServiceState.discoverSession]
    rw [id]
    apply related.insert
    apply SameCore.refreshRecord
    rcases related.lookup (discoveredSessionId others session) with
      ⟨absent, otherAbsent⟩ | ⟨record, otherRecord, found, otherFound, core⟩
    · rw [absent, otherAbsent]
      exact ⟨rfl, rfl⟩
    · rw [found, otherFound]
      exact core
  · simp only [ServiceState.discoverSession]
    rw [id, seen]

theorem discoverSessions (config other : AppConfig) (nowMs : Int)
    (discovered : List DiscoveredSession) :
    ∀ left right, SameLoop left right →
      SameLoop (discovered.foldl (ServiceState.discoverSession config nowMs) left)
        (discovered.foldl (ServiceState.discoverSession other nowMs) right) := by
  induction discovered with
  | nil => exact fun _ _ same => same
  | cons session rest ih =>
    intro left right same
    exact ih _ _ (discoverSession config other nowMs session same)

theorem refreshDiscovery (same : SameCores left right) (discovered : List DiscoveredSession)
    (nowMs : Int) :
    SameCores (left.refreshDiscovery discovered nowMs) (right.refreshDiscovery discovered nowMs) := by
  apply enforceSessionCap
  obtain ⟨related, seen⟩ := discoverSessions left.config right.config nowMs discovered
    (left.sessions, []) (right.sessions, []) ⟨same.sessions, rfl⟩
  refine ⟨same.config, ?_, same.dropped⟩
  simp only [ServiceState.mergeDiscovery]
  rw [seen]
  apply related.retain
  intro key record other core
  have grace : staleCutoffMs right.config = staleCutoffMs left.config ∧
      shutdownGraceMs right.config = shutdownGraceMs left.config ∧
      legacyGraceMs right.config = legacyGraceMs left.config := by
    rw [same.config]
    exact ⟨rfl, rfl, rfl⟩
  simp only [keepsRecord, core.kind, core.lastObserved, core.shutdown, grace]

theorem step (same : SameCores left right) (operation : Operation) :
    SameCores (left.step operation) (right.step operation) := by
  cases operation with
  | telemetry event startedAt receivedAt fits => exact same.applyTelemetryAt _ _ _
  | discovery discovered nowMs => exact same.refreshDiscovery _ _

end SameCores

structure SameApplied (left right : Applied) : Prop where
  before : SameCore left.before right.before
  event : left.event = right.event
  receivedAt : left.receivedAt = right.receivedAt

theorem SameApplied.unixMs {left right : Applied} (same : SameApplied left right) :
    left.unixMs = right.unixMs := by
  unfold Applied.unixMs
  rw [same.before.normalize_eq, same.event, same.receivedAt]

theorem SameApplied.regressed {left right : Applied} (same : SameApplied left right) :
    left.regressed = right.regressed := by
  unfold Applied.regressed
  rw [same.before.metricsRegressed_eq, same.event]

theorem SameApplied.sample {left right : Applied} (same : SameApplied left right) :
    left.sample = right.sample := by
  unfold Applied.sample
  rw [same.unixMs, same.event]

theorem countedSamples_eq {left right : List Applied} (same : List.Forall₂ SameApplied left right) :
    countedSamples left = countedSamples right := by
  have project : ∀ log : List Applied, countedSamples log =
      (log.map fun applied => (applied.regressed, applied.sample)).foldl
        (fun kept entry =>
          if entry.1 then [entry.2] else upsert CounterSample.unixMs kept entry.2) [] := by
    intro log
    induction log using List.reverseRecOn with
    | nil => rfl
    | append_singleton log applied ih =>
      rw [countedSamples_concat, List.map_append, List.foldl_append, ih]
      rfl
  have mapped : (left.map fun applied => (applied.regressed, applied.sample)) =
      right.map fun applied => (applied.regressed, applied.sample) := by
    induction same with
    | nil => rfl
    | cons held _ ih => rw [List.map_cons, List.map_cons, held.regressed, held.sample, ih]
  rw [project, project, mapped]

structure SameJournals (left right : Journal) : Prop where
  state : SameCores left.state right.state
  log : ∀ key, List.Forall₂ SameApplied (left.log key) (right.log key)

theorem SameJournals.step {left right : Journal} (same : SameJournals left right)
    (operation : Operation) : SameJournals (left.step operation) (right.step operation) := by
  have state := same.state.step operation
  refine ⟨state, ?_⟩
  intro key
  simp only [Journal.step, state.sessions.contains]
  split
  · refine List.rel_append (same.log key) ?_
    cases operation with
    | discovery discovered nowMs => exact List.Forall₂.nil
    | telemetry event startedAt receivedAt fits =>
      simp only [Journal.appliedBy]
      split
      · refine List.Forall₂.cons ⟨?_, rfl, rfl⟩ List.Forall₂.nil
        exact SameCores.telemetryEntry (SameCores.upgradeLegacy same.state.sessions _ _) _ _ _ _
      · exact List.Forall₂.nil
  · exact List.Forall₂.nil

theorem sameJournals_run (config : AppConfig) (historySecs : Nat) (operations : List Operation) :
    SameJournals (Journal.run config operations)
      (Journal.run { config with historySecs } operations) := by
  induction operations using List.reverseRecOn with
  | nil => exact ⟨⟨rfl, List.Forall₂.nil, rfl⟩, fun _ => List.Forall₂.nil⟩
  | append_singleton operations operation ih =>
    rw [Journal.run_concat, Journal.run_concat]
    exact ih.step operation

theorem retransmitPct_congr {history other : List CounterSample} {windowMs : Int}
    (last : history.getLast? = other.getLast?)
    (search : ∀ latest, history.getLast? = some latest →
      (history.reverse.find? fun sample => windowMs ≤ latest.unixMs - sample.unixMs) =
        other.reverse.find? fun sample => windowMs ≤ latest.unixMs - sample.unixMs) :
    retransmitPct history windowMs = retransmitPct other windowMs := by
  cases newest : history.getLast? with
  | none => simp only [retransmitPct, newest, ← last]
  | some latest => simp only [retransmitPct, newest, ← last, search latest newest]

theorem find?_trim_le {samples : List CounterSample} {newest early late : CounterSample}
    {short long windowMs : Int} (increasing : Increasing CounterSample.unixMs samples)
    (last : samples.getLast? = some newest) (ordered : short ≤ long)
    (foundShort : ((TimeSeries.trim CounterSample.unixMs short samples).reverse.find? fun sample =>
      windowMs ≤ newest.unixMs - sample.unixMs) = some early)
    (foundLong : ((TimeSeries.trim CounterSample.unixMs long samples).reverse.find? fun sample =>
      windowMs ≤ newest.unixMs - sample.unixMs) = some late) : early = late := by
  obtain ⟨memberShort, oldShort, latestShort⟩ :=
    (find?_reverse_eq_some (increasing.trim short)).mp foundShort
  obtain ⟨memberLong, oldLong, latestLong⟩ :=
    (find?_reverse_eq_some (increasing.trim long)).mp foundLong
  rw [trim_eq_filter increasing last] at memberShort memberLong latestShort latestLong
  simp only [List.mem_filter, decide_eq_true_eq] at *
  have upper := latestLong early ⟨memberShort.1, by omega⟩ oldShort
  have lower := latestShort late ⟨memberLong.1, by omega⟩ oldLong
  exact increasing.eq_of_time_eq memberShort.1 memberLong.1 (le_antisymm upper lower)

theorem find?_trim_eq_none {samples : List CounterSample} {newest : CounterSample}
    {span windowMs : Int} (increasing : Increasing CounterSample.unixMs samples)
    (last : samples.getLast? = some newest) :
    ((TimeSeries.trim CounterSample.unixMs span samples).reverse.find? fun sample =>
      windowMs ≤ newest.unixMs - sample.unixMs) = none ↔ ¬ReachesBack span windowMs samples := by
  rw [trim_eq_filter increasing last, List.find?_eq_none]
  simp only [List.mem_reverse, List.mem_filter, decide_eq_true_eq, ReachesBack, last,
    Option.some.injEq, exists_eq_left', not_exists, not_and]
  constructor
  · intro young sample member old reached
    exact young sample ⟨member, by omega⟩ old
  · rintro outside sample ⟨member, reached⟩ old
    exact outside sample member old (by omega)

theorem retransmitPct_trim_eq {samples : List CounterSample} {span other windowMs : Int}
    (increasing : Increasing CounterSample.unixMs samples) (positive : 0 ≤ span)
    (otherPositive : 0 ≤ other)
    (alike : ReachesBack span windowMs samples ↔ ReachesBack other windowMs samples) :
    retransmitPct (TimeSeries.trim CounterSample.unixMs span samples) windowMs =
      retransmitPct (TimeSeries.trim CounterSample.unixMs other samples) windowMs := by
  cases last : samples.getLast? with
  | none =>
    rw [List.getLast?_eq_none_iff] at last
    rw [last]
    rfl
  | some newest =>
    have lastSpan := getLast?_trim increasing last positive
    have lastOther := getLast?_trim increasing last otherPositive
    apply retransmitPct_congr (lastSpan.trans lastOther.symm)
    intro latest same
    rw [lastSpan, Option.some.injEq] at same
    subst same
    cases found : (TimeSeries.trim CounterSample.unixMs span samples).reverse.find? fun sample =>
        windowMs ≤ newest.unixMs - sample.unixMs with
    | none =>
      rw [find?_trim_eq_none increasing last, alike] at found
      exact ((find?_trim_eq_none increasing last).mpr found).symm
    | some early =>
      cases otherFound : (TimeSeries.trim CounterSample.unixMs other samples).reverse.find?
          fun sample => windowMs ≤ newest.unixMs - sample.unixMs with
      | none =>
        rw [find?_trim_eq_none increasing last, ← alike,
          ← find?_trim_eq_none increasing last, found] at otherFound
        cases otherFound
      | some late =>
        rcases le_total span other with ordered | ordered
        · rw [find?_trim_le increasing last ordered found otherFound]
        · rw [find?_trim_le increasing last ordered otherFound found]

theorem SameCore.metrics_eq {left right : SessionRecord} (same : SameCore left right)
    (ten : left.summary.metrics.window10s = right.summary.metrics.window10s)
    (sixty : left.summary.metrics.window60s = right.summary.metrics.window60s) :
    left.summary.metrics = right.summary.metrics := by
  have rebuilt : ∀ metrics : SessionMetrics,
      applyWindows metrics.withoutWindows metrics.window10s metrics.window60s = metrics :=
    fun _ => rfl
  have core : left.summary.metrics.withoutWindows = right.summary.metrics.withoutWindows :=
    congrArg SessionSummary.metrics same.summary
  rw [← rebuilt left.summary.metrics, ← rebuilt right.summary.metrics, core, ten, sixty]

theorem SameCore.materializeSummary_eq {left right : SessionRecord} (same : SameCore left right)
    (metrics : left.summary.metrics = right.summary.metrics) {config other : AppConfig}
    (thresholds : config.thresholds = other.thresholds) (nowMs : Int) :
    materializeSummary config left nowMs = materializeSummary other right nowMs := by
  have aged : agedMetrics left.summary nowMs = agedMetrics right.summary nowMs := by
    simp only [agedMetrics, same.kind, same.lastObserved, metrics]
  have rest : ∀ (metrics : SessionMetrics) (health : HealthState),
      { left.summary with metrics, health } = { right.summary with metrics, health } :=
    fun metrics health => same.field (fun summary => { summary with metrics, health }) fun _ => rfl
  unfold materializeSummary
  rw [rest, aged, same.kind, thresholds]

theorem materializeSummary_windows (config : AppConfig) (record : SessionRecord) (nowMs : Int) :
    (materializeSummary config record nowMs).metrics.window10s = record.summary.metrics.window10s ∧
      (materializeSummary config record nowMs).metrics.window60s =
        record.summary.metrics.window60s := by
  simp only [materializeSummary, agedMetrics]
  split <;> exact ⟨rfl, rfl⟩

theorem Traces.windows_eq {config : AppConfig} {clocks : Set Int} {key : String}
    {record : SessionRecord} {log : List Applied} (traces : Traces config clocks key record log) :
    record.summary.metrics.window10s =
        retransmitPct (TimeSeries.trim CounterSample.unixMs config.historyMs (countedSamples log))
          10000 ∧
      record.summary.metrics.window60s =
        retransmitPct (TimeSeries.trim CounterSample.unixMs config.historyMs (countedSamples log))
          60000 := by
  obtain ⟨ten, sixty⟩ := traces.windows
  rw [ten, sixty, traces.counted.counters]
  exact ⟨rfl, rfl⟩

/-- The history of `spanMs` gives a window of `windowMs` of the samples exactly if that of
    `otherMs` does. -/
def ReachesAlike (spanMs otherMs windowMs : Int) (samples : List CounterSample) : Prop :=
  ReachesBack spanMs windowMs samples ↔ ReachesBack otherMs windowMs samples

/-- The summaries of one record, traced under two values of `history_secs`. -/
theorem materializeSummary_eq_iff {config other : AppConfig} {clocks otherClocks : Set Int}
    {key : String} {left right : SessionRecord} {log otherLog : List Applied}
    (thresholds : config.thresholds = other.thresholds) (core : SameCore left right)
    (traces : Traces config clocks key left log)
    (otherTraces : Traces other otherClocks key right otherLog)
    (same : List.Forall₂ SameApplied log otherLog) :
    (∀ nowMs, materializeSummary config left nowMs = materializeSummary other right nowMs) ↔
      ReachesAlike config.historyMs other.historyMs 10000 (countedSamples log) ∧
        ReachesAlike config.historyMs other.historyMs 60000 (countedSamples log) := by
  have increasing := traces.counted.past.increasing
  obtain ⟨ten, sixty⟩ := traces.windows_eq
  obtain ⟨otherTen, otherSixty⟩ := otherTraces.windows_eq
  have batch := traces.isBatchWindow
  have otherBatch := otherTraces.isBatchWindow
  rw [← countedSamples_eq same] at otherTen otherSixty otherBatch
  constructor
  · intro agree
    have shown := congrArg SessionSummary.metrics (agree 0)
    obtain ⟨leftTen, leftSixty⟩ := materializeSummary_windows config left 0
    obtain ⟨rightTen, rightSixty⟩ := materializeSummary_windows other right 0
    rw [shown] at leftTen leftSixty
    have equalTen := leftTen.symm.trans rightTen
    have equalSixty := leftSixty.symm.trans rightSixty
    rw [ten, otherTen] at equalTen
    rw [sixty, otherSixty] at equalSixty
    constructor
    · rw [ReachesAlike, ← (batch 10000).complete_iff, equalTen, (otherBatch 10000).complete_iff]
    · rw [ReachesAlike, ← (batch 60000).complete_iff, equalSixty, (otherBatch 60000).complete_iff]
  · rintro ⟨alikeTen, alikeSixty⟩ nowMs
    have windowTen : left.summary.metrics.window10s = right.summary.metrics.window10s := by
      rw [ten, otherTen]
      exact retransmitPct_trim_eq increasing config.historyMs_nonneg other.historyMs_nonneg alikeTen
    have windowSixty : left.summary.metrics.window60s = right.summary.metrics.window60s := by
      rw [sixty, otherSixty]
      exact retransmitPct_trim_eq increasing config.historyMs_nonneg other.historyMs_nonneg
        alikeSixty
    exact core.materializeSummary_eq (core.metrics_eq windowTen windowSixty) thresholds nowMs

def ShowAlike (left right : ServiceState) : Prop :=
  ∀ key nowMs, left.sessionSummary key nowMs = right.sessionSummary key nowMs ∧
    (left.sessionDetail key nowMs).map SessionSnapshot.summary =
      (right.sessionDetail key nowMs).map SessionSnapshot.summary

/-- Runs under two values of `history_secs` track the same sessions. They show the same
    summaries exactly if, for each window and each tracked record, the samples of its events
    reach back to the window under both values or under neither. -/
theorem summaries_agree_iff (config : AppConfig) (historySecs : Nat)
    (operations : List Operation) :
    let other := { config with historySecs }
    (∀ key, (run config operations).sessions.contains key =
      (run other operations).sessions.contains key) ∧
    (ShowAlike (run config operations) (run other operations) ↔
      ∀ key, (run config operations).sessions.contains key = true →
        let samples := countedSamples ((Journal.run config operations).log key)
        ReachesAlike config.historyMs other.historyMs 10000 samples ∧
          ReachesAlike config.historyMs other.historyMs 60000 samples) := by
  intro other
  have journals := sameJournals_run config historySecs operations
  have cores : SameCores (run config operations) (run other operations) := by
    have states := journals.state
    rwa [Journal.run_state, Journal.run_state] at states
  have traces := @Journal.traces config operations
  have otherTraces := @Journal.traces other operations
  simp only [Journal.run_state] at traces otherTraces
  refine ⟨fun key => cores.sessions.contains key, ?_⟩
  simp only [ShowAlike, sessionDetail_summary, and_self]
  refine forall_congr' fun key => ?_
  simp only [sessionSummary, KeyedStore.contains, run_config]
  rcases cores.sessions.lookup key with
    ⟨absent, otherAbsent⟩ | ⟨record, otherRecord, found, otherFound, core⟩
  · simp [absent, otherAbsent]
  · simp only [found, otherFound, Option.map_some, Option.some.injEq, Option.isSome_some,
      forall_true_left]
    exact materializeSummary_eq_iff rfl core (traces key record found)
      (otherTraces key otherRecord otherFound) (journals.log key)

def spacedTicks : List Operation :=
  [.telemetry { event := .sessionTick, pid := 1, unixMs := 1000 } 10 1000 rfl,
    .telemetry { event := .sessionTick, pid := 1, unixMs := 12000 } 10 12000 rfl]

/-- Both settings are valid, and ten seconds of history trim the sample that the window is
    measured from. -/
theorem spacedTicks_disagree :
    (∀ http, AppConfig.validate http {} = .ok () ∧
      AppConfig.validate http { historySecs := 10 } = .ok ()) ∧
    ¬ShowAlike (run {} spacedTicks) (run { historySecs := 10 } spacedTicks) := by
  refine ⟨fun http => ⟨rfl, rfl⟩, ?_⟩
  intro alike
  have complete := congrArg
    (Option.map fun summary => summary.metrics.retransmitWindow10sComplete)
    (alike "instrumented:10:1" 12000).1
  exact absurd complete (by decide +kernel)

end Moshwatch
