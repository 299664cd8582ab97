import Moshwatch.State.Frame
import Moshwatch.State.Retention

namespace Moshwatch

namespace ServiceState

/-- An instrumented record without any event, up to what is known of its process. -/
def blankRecord (sessionId : String) (pid startedAt observedAt : Int) (health : HealthState)
    (displaySessionId bindAddr : Option String) (udpPort : Option Nat) (cmdline : String) :
    SessionRecord :=
  { summary :=
      { sessionId, displaySessionId, pid
        kind := .instrumented
        health
        startedAtUnixMs := startedAt
        lastObservedUnixMs := observedAt
        counterResetUnixMs := none
        bindAddr, udpPort
        clientAddr := none
        peer := {}
        cmdline
        metrics := {} }
    history := []
    counters := []
    shutdown := false }

/-- The command line an event leaves on a record. -/
def appliedCmdline (event : TelemetryEvent) (cmdline : String) : String :=
  match event.cmdline.map sanitizeCmdline with
  | some shown => if isBlank shown then cmdline else shown
  | none => cmdline

theorem applyEvent_gaps (config : AppConfig) (sessionId : String) (event : TelemetryEvent)
    (startedAt receivedAt : Int) (entry : SessionRecord) :
    let applied := applyEvent config sessionId event startedAt receivedAt entry
    applied.summary.bindAddr = (sanitizeEndpoint event.bindAddr).or entry.summary.bindAddr ∧
      applied.summary.udpPort = event.udpPort.or entry.summary.udpPort ∧
      applied.summary.cmdline = appliedCmdline event entry.summary.cmdline := by
  have cleared := clearRegressed_summary entry event
    (normalizeEventUnixMs entry.summary event.unixMs receivedAt)
  cases shown : event.cmdline.map sanitizeCmdline with
  | none =>
    cases client : sanitizeEndpoint event.clientAddr <;>
      simp [applyEvent, applyCmdline, appliedCmdline, applyClientPeer, applyIdentity, cleared, shown,
        client]
  | some text =>
    cases blank : isBlank text <;> cases client : sanitizeEndpoint event.clientAddr <;>
      simp [applyEvent, applyCmdline, appliedCmdline, applyClientPeer, applyIdentity, cleared, shown,
        client, blank]

/-- The first event leaves on a record only the endpoint and the command line that it lacks
    itself, so records with and without a display id of the event come out alike. -/
theorem applyEvent_blankRecord (config : AppConfig) (sessionId : String) (event : TelemetryEvent)
    (startedAt receivedAt pid observedAt : Int) (health other : HealthState)
    (bindAddr otherAddr : Option String) (udpPort otherPort : Option Nat)
    (cmdline otherCmdline : String) :
    let applied := applyEvent config sessionId event startedAt receivedAt
      (blankRecord sessionId pid startedAt observedAt other
        (sanitizeDisplaySessionId event.displaySessionId) otherAddr otherPort otherCmdline)
    applyEvent config sessionId event startedAt receivedAt
        (blankRecord sessionId pid startedAt observedAt health none bindAddr udpPort cmdline) =
      { applied with
        summary :=
          { applied.summary with
            bindAddr := (sanitizeEndpoint event.bindAddr).or bindAddr
            udpPort := event.udpPort.or udpPort
            cmdline := appliedCmdline event cmdline } } := by
  have time : ∀ display bindAddr udpPort cmdline health,
      normalizeEventUnixMs (blankRecord sessionId pid startedAt observedAt health display bindAddr
        udpPort cmdline).summary event.unixMs receivedAt =
          max (min event.unixMs receivedAt) observedAt :=
    fun _ _ _ _ _ => normalizeEventUnixMs_eq _ _ _
  generalize max (min event.unixMs receivedAt) observedAt = now at time
  have steady : ∀ display bindAddr udpPort cmdline health,
      clearRegressed (blankRecord sessionId pid startedAt observedAt health display bindAddr
        udpPort cmdline) event now =
          blankRecord sessionId pid startedAt observedAt health display bindAddr udpPort cmdline := by
    intros
    apply clearRegressed_of_timely
    · simp [blankRecord, metricsRegressed, monotonicCounterRegressed]
    · simp [blankRecord]
  simp only [applyEvent, time, steady]
  cases display : sanitizeDisplaySessionId event.displaySessionId <;>
    cases client : sanitizeEndpoint event.clientAddr <;>
    cases shown : event.cmdline.map sanitizeCmdline with
    | none =>
      simp [applyCmdline, appliedCmdline, blankRecord, applyClientPeer, applyIdentity, display, shown]
    | some text =>
      cases blank : isBlank text <;>
        simp [applyCmdline, appliedCmdline, blank, blankRecord, applyClientPeer, applyIdentity,
          display, shown]

section Single

variable {state : ServiceState} {session : DiscoveredSession} {nowMs : Int}

theorem lookup_mergeDiscovery_single :
    (state.mergeDiscovery [session] nowMs).sessions.lookup
        (discoveredSessionId state.sessions session) =
      some (refreshRecord state.config session nowMs
        ((state.sessions.lookup (discoveredSessionId state.sessions session)).getD
          (newLegacyRecord (discoveredSessionId state.sessions session) session nowMs))) := by
  simp [mergeDiscovery, discoverSession, KeyedStore.lookup_retain, keepsRecord]

theorem lookup_mergeDiscovery_single_other {key : String}
    (other : key ≠ discoveredSessionId state.sessions session)
    (absent : state.sessions.lookup key = none) :
    (state.mergeDiscovery [session] nowMs).sessions.lookup key = none := by
  simp [mergeDiscovery, discoverSession, KeyedStore.lookup_retain, AList.lookup_insert_ne other,
    absent]

theorem size_mergeDiscovery_single :
    (state.mergeDiscovery [session] nowMs).sessions.size ≤
      if state.sessions.lookup (discoveredSessionId state.sessions session) = none then
        state.sessions.size + 1
      else state.sessions.size := by
  refine (KeyedStore.size_retain_le _ _).trans ?_
  cases found : state.sessions.lookup (discoveredSessionId state.sessions session) with
  | none =>
    rw [if_pos rfl]
    exact (KeyedStore.size_insert_of_lookup_none found _).le
  | some record =>
    rw [if_neg (by simp)]
    exact (KeyedStore.size_insert_of_lookup found _).le

end Single

structure Untracked (state : ServiceState) (session : DiscoveredSession) : Prop where
  instrumented : state.sessions.lookup
    (instrumentedSessionId session.pid session.startedAtUnixMs) = none
  legacy : state.sessions.lookup (legacySessionId session.pid session.startedAtUnixMs) = none
  room : state.sessions.size < state.config.maxTrackedSessions

section Orders

variable {state : ServiceState} {session : DiscoveredSession} {event : TelemetryEvent}

/-- The record that an event leaves on the placeholder of its process. -/
def discoveryFirstRecord (config : AppConfig) (session : DiscoveredSession)
    (event : TelemetryEvent) : SessionRecord :=
  let key := instrumentedSessionId session.pid session.startedAtUnixMs
  applyEvent config key (event.verified session.startedAtUnixMs) session.startedAtUnixMs event.unixMs
    (blankRecord key session.pid session.startedAtUnixMs event.unixMs .legacy none session.bindAddr
      session.udpPort session.cmdline)

/-- The record that an event leaves of a process without a placeholder. -/
def telemetryFirstRecord (config : AppConfig) (session : DiscoveredSession)
    (event : TelemetryEvent) : SessionRecord :=
  let key := instrumentedSessionId session.pid session.startedAtUnixMs
  applyEvent config key (event.verified session.startedAtUnixMs) session.startedAtUnixMs event.unixMs
    (blankRecord key session.pid session.startedAtUnixMs event.unixMs .ok
      (sanitizeDisplaySessionId event.displaySessionId) (sanitizeEndpoint event.bindAddr)
      event.udpPort ((event.cmdline.map sanitizeCmdline).getD "mosh-server-real"))

theorem discoveredSessionId_of_untracked
    (untracked : state.sessions.lookup
      (instrumentedSessionId session.pid session.startedAtUnixMs) = none) :
    discoveredSessionId state.sessions session =
      legacySessionId session.pid session.startedAtUnixMs := by
  rw [discoveredSessionId, KeyedStore.contains_eq_false.mpr untracked]
  rfl

theorem step_telemetry_of_room {startedAt receivedAt : Int} (fits : event.fits = true)
    (accepted : ¬ state.RefusesEvent event startedAt)
    (room : (state.uncapped event startedAt receivedAt).sessions.size ≤
      state.config.maxTrackedSessions) :
    state.step (.telemetry event startedAt receivedAt fits) =
      state.uncapped event startedAt receivedAt := by
  rw [step_eq]
  rcases prepare_telemetry_cases state event startedAt receivedAt fits with
    ⟨refused, -⟩ | ⟨-, prepared⟩
  · exact absurd refused accepted
  · rw [prepared]
    exact enforceSessionCap_of_le room

theorem step_discovery_of_room {nowMs : Int}
    (room : (state.mergeDiscovery [session] nowMs).sessions.size ≤
      state.config.maxTrackedSessions) :
    state.step (.discovery [session] nowMs) = state.mergeDiscovery [session] nowMs :=
  enforceSessionCap_of_le (by rwa [mergeDiscovery_config])

theorem lookup_discoveryFirst (untracked : state.Untracked session) (own : event.pid = session.pid)
    (fits : event.fits = true) :
    ((state.step (.discovery [session] event.unixMs)).step
        (.telemetry event session.startedAtUnixMs event.unixMs fits)).sessions.lookup
          (instrumentedSessionId session.pid session.startedAtUnixMs) =
      some (discoveryFirstRecord state.config session event) := by
  have key := discoveredSessionId_of_untracked untracked.instrumented
  have within := @size_mergeDiscovery_single state session event.unixMs
  rw [key, if_pos untracked.legacy] at within
  have room := untracked.room
  rw [step_discovery_of_room (by omega)]
  have placed := @lookup_mergeDiscovery_single state session event.unixMs
  rw [key, untracked.legacy, Option.getD_none] at placed
  have unopened : (state.mergeDiscovery [session] event.unixMs).sessions.lookup
      (instrumentedSessionId session.pid session.startedAtUnixMs) = none :=
    lookup_mergeDiscovery_single_other
      (by rw [key]; exact instrumentedSessionId_ne_legacySessionId _ _ _ _) untracked.instrumented
  rw [← own] at placed unopened ⊢
  have size := size_uncapped (state.mergeDiscovery [session] event.unixMs) event
    session.startedAtUnixMs event.unixMs
  rw [placed, if_neg (by simp)] at size
  rw [step_telemetry_of_room fits ?_ (by rw [size, mergeDiscovery_config]; omega),
    lookup_uncapped_self, recordOf]
  · rcases entryOf_cases (state.mergeDiscovery [session] event.unixMs) event session.startedAtUnixMs
      event.unixMs with tracked | ⟨-, ⟨record, found, upgraded⟩ | ⟨missing, -⟩⟩
    · rw [unopened] at tracked
      cases tracked
    · rw [placed, Option.some.injEq] at found
      rw [upgraded, ← found, discoveryFirstRecord, own]
      simp [upgradeRecord, refreshRecord, newLegacyRecord, blankRecord]
    · rw [placed] at missing
      cases missing
  · intro refused
    have missing := refused.noLegacy
    rw [placed] at missing
    cases missing

theorem recordOf_of_untracked (untracked : state.Untracked session) (own : event.pid = session.pid) :
    state.recordOf event session.startedAtUnixMs event.unixMs =
      telemetryFirstRecord state.config session event := by
  rw [recordOf, telemetryFirstRecord]
  rcases entryOf_cases state event session.startedAtUnixMs event.unixMs with
    tracked | ⟨-, ⟨record, found, -⟩ | ⟨-, fresh⟩⟩
  · rw [own, untracked.instrumented] at tracked
    cases tracked
  · rw [own, untracked.legacy] at found
    cases found
  · rw [fresh, own, min_self]
    simp only [newInstrumentedRecord, blankRecord, TelemetryEvent.verified, own]

theorem telemetryFirstRecord_identity (config : AppConfig) (session : DiscoveredSession)
    (event : TelemetryEvent) :
    (telemetryFirstRecord config session event).summary.kind = .instrumented ∧
      (telemetryFirstRecord config session event).summary.pid = event.pid := by
  obtain ⟨-, pid, kind, -⟩ := applyEvent_identity config
    (instrumentedSessionId session.pid session.startedAtUnixMs)
    (event.verified session.startedAtUnixMs) session.startedAtUnixMs event.unixMs
    (blankRecord (instrumentedSessionId session.pid session.startedAtUnixMs) session.pid
      session.startedAtUnixMs event.unixMs .ok (sanitizeDisplaySessionId event.displaySessionId)
      (sanitizeEndpoint event.bindAddr) event.udpPort
      ((event.cmdline.map sanitizeCmdline).getD "mosh-server-real"))
  exact ⟨kind, pid⟩

theorem lookup_telemetryFirst (untracked : state.Untracked session) (own : event.pid = session.pid)
    (fits : event.fits = true) :
    ((state.step (.telemetry event session.startedAtUnixMs event.unixMs fits)).step
        (.discovery [session] event.unixMs)).sessions.lookup
          (instrumentedSessionId session.pid session.startedAtUnixMs) =
      some (telemetryFirstRecord state.config session event) := by
  have room := untracked.room
  have size := size_uncapped state event session.startedAtUnixMs event.unixMs
  rw [own, if_pos ⟨untracked.instrumented, untracked.legacy⟩] at size
  rw [step_telemetry_of_room fits (fun refused => absurd refused.saturated.1 (by omega))
    (by rw [size]; omega)]
  have opened := lookup_uncapped_self state event session.startedAtUnixMs event.unixMs
  rw [recordOf_of_untracked untracked own, own] at opened
  have key : discoveredSessionId (state.uncapped event session.startedAtUnixMs
      event.unixMs).sessions session =
        instrumentedSessionId session.pid session.startedAtUnixMs := by
    rw [discoveredSessionId, KeyedStore.contains_iff.mpr ⟨_, opened⟩]
    rfl
  have listed := @lookup_mergeDiscovery_single
    (state.uncapped event session.startedAtUnixMs event.unixMs) session event.unixMs
  have within := @size_mergeDiscovery_single
    (state.uncapped event session.startedAtUnixMs event.unixMs) session event.unixMs
  rw [key, opened, Option.getD_some] at listed
  rw [key, opened, if_neg (by simp), size] at within
  have fitting : state.sessions.size + 1 ≤
      (state.uncapped event session.startedAtUnixMs event.unixMs).config.maxTrackedSessions := room
  rw [step_discovery_of_room (within.trans fitting), listed, Option.some.injEq]
  obtain ⟨kind, pid⟩ := telemetryFirstRecord_identity state.config session event
  exact refreshRecord_of_named kind (pid.trans own)

/-- Discovery knows nothing of the process that an event lacks, and both name one command line. -/
structure LeavesNoGap (session : DiscoveredSession) (event : TelemetryEvent) : Prop where
  bindAddr : sanitizeEndpoint event.bindAddr = none → session.bindAddr = none
  udpPort : event.udpPort = none → session.udpPort = none
  cmdline : match event.cmdline.map sanitizeCmdline with
    | some shown => isBlank shown = true → session.cmdline = shown
    | none => session.cmdline = "mosh-server-real"

/-- What the two orders of a discovery and an event of a process are to leave: the same record, with
    the endpoint and port that discovery knows where the event lacks them. -/
def HandoffAgrees (discoveryFirst telemetryFirst : ServiceState) (session : DiscoveredSession)
    (event : TelemetryEvent) : Prop :=
  let key := instrumentedSessionId session.pid session.startedAtUnixMs
  ∃ record, discoveryFirst.sessions.lookup key = some record ∧
    telemetryFirst.sessions.lookup key = some record ∧
    (sanitizeEndpoint event.bindAddr = none → session.bindAddr ≠ none →
      record.summary.bindAddr = session.bindAddr) ∧
    (event.udpPort = none → session.udpPort ≠ none → record.summary.udpPort = session.udpPort)

theorem discoveryFirstRecord_eq (config : AppConfig) (session : DiscoveredSession)
    (event : TelemetryEvent) :
    discoveryFirstRecord config session event =
      { telemetryFirstRecord config session event with
        summary :=
          { (telemetryFirstRecord config session event).summary with
            bindAddr := (sanitizeEndpoint event.bindAddr).or session.bindAddr
            udpPort := event.udpPort.or session.udpPort
            cmdline := appliedCmdline event session.cmdline } } :=
  applyEvent_blankRecord config _ (event.verified session.startedAtUnixMs) _ _ _ _ _ _ _ _ _ _ _ _

theorem telemetryFirstRecord_fields (config : AppConfig) (session : DiscoveredSession)
    (event : TelemetryEvent) :
    let summary := (telemetryFirstRecord config session event).summary
    summary.bindAddr = sanitizeEndpoint event.bindAddr ∧ summary.udpPort = event.udpPort ∧
      summary.cmdline = (event.cmdline.map sanitizeCmdline).getD "mosh-server-real" := by
  obtain ⟨bindAddr, udpPort, cmdline⟩ := applyEvent_gaps config
    (instrumentedSessionId session.pid session.startedAtUnixMs)
    (event.verified session.startedAtUnixMs) session.startedAtUnixMs event.unixMs
    (blankRecord (instrumentedSessionId session.pid session.startedAtUnixMs) session.pid
      session.startedAtUnixMs event.unixMs .ok (sanitizeDisplaySessionId event.displaySessionId)
      (sanitizeEndpoint event.bindAddr) event.udpPort
      ((event.cmdline.map sanitizeCmdline).getD "mosh-server-real"))
  refine ⟨bindAddr.trans Option.or_self, udpPort.trans Option.or_self, cmdline.trans ?_⟩
  change appliedCmdline event ((event.cmdline.map sanitizeCmdline).getD "mosh-server-real") = _
  cases shown : event.cmdline.map sanitizeCmdline with
  | none => simp [appliedCmdline, shown]
  | some text => simp [appliedCmdline, shown]

theorem or_eq_left_iff {α : Type} {first second : Option α} :
    first.or second = first ↔ (first = none → second = none) := by
  cases first <;> simp

theorem records_agree_iff (config : AppConfig) (session : DiscoveredSession)
    (event : TelemetryEvent) :
    discoveryFirstRecord config session event = telemetryFirstRecord config session event ↔
      LeavesNoGap session event := by
  obtain ⟨bindAddr, udpPort, cmdline⟩ := telemetryFirstRecord_fields config session event
  have shown : appliedCmdline event session.cmdline =
      (event.cmdline.map sanitizeCmdline).getD "mosh-server-real" ↔
        match event.cmdline.map sanitizeCmdline with
        | some shown => isBlank shown = true → session.cmdline = shown
        | none => session.cmdline = "mosh-server-real" := by
    cases shown : event.cmdline.map sanitizeCmdline with
    | none => simp [appliedCmdline, shown]
    | some text => cases blank : isBlank text <;> simp [appliedCmdline, shown, blank]
  rw [discoveryFirstRecord_eq]
  generalize telemetryFirstRecord config session event = record at *
  constructor
  · intro same
    have summary := congrArg SessionRecord.summary same
    refine ⟨?_, ?_, ?_⟩
    · exact or_eq_left_iff.mp ((congrArg SessionSummary.bindAddr summary).trans bindAddr)
    · exact or_eq_left_iff.mp ((congrArg SessionSummary.udpPort summary).trans udpPort)
    · rw [← shown, ← cmdline]
      exact congrArg SessionSummary.cmdline summary
  · intro noGap
    rw [or_eq_left_iff.mpr noGap.bindAddr, or_eq_left_iff.mpr noGap.udpPort,
      shown.mpr noGap.cmdline, ← bindAddr, ← udpPort, ← cmdline]

/-- The two orders agree exactly if the event leaves no gap that discovery could fill. -/
theorem handoff_agrees_iff (state : ServiceState) (session : DiscoveredSession)
    (event : TelemetryEvent) (untracked : state.Untracked session) (own : event.pid = session.pid)
    (fits : event.fits = true) :
    HandoffAgrees
        ((state.step (.discovery [session] event.unixMs)).step
          (.telemetry event session.startedAtUnixMs event.unixMs fits))
        ((state.step (.telemetry event session.startedAtUnixMs event.unixMs fits)).step
          (.discovery [session] event.unixMs)) session event ↔
      LeavesNoGap session event := by
  have discoveryFirst := lookup_discoveryFirst untracked own fits
  have telemetryFirst := lookup_telemetryFirst untracked own fits
  rw [← records_agree_iff state.config]
  constructor
  · rintro ⟨record, left, right, -, -⟩
    rw [discoveryFirst, Option.some.injEq] at left
    rw [telemetryFirst, Option.some.injEq] at right
    exact left.trans right.symm
  · intro same
    have noGap := (records_agree_iff state.config session event).mp same
    refine ⟨_, discoveryFirst, by rw [same]; exact telemetryFirst, ?_, ?_⟩
    · exact fun lacking known => absurd (noGap.bindAddr lacking) known
    · exact fun lacking known => absurd (noGap.udpPort lacking) known

end Orders

def listedProcess : DiscoveredSession := ⟨1, 10, some "127.0.0.1", some 60001, "mosh-server"⟩

def tickWithPort (udpPort : Option Nat) : TelemetryEvent :=
  { event := .sessionTick, pid := 1, unixMs := 1000, bindAddr := some "127.0.0.1", udpPort
    cmdline := some "mosh-server-real new" }

theorem handoff_agrees_iff_complete :
    HandoffAgrees
      (((new {}).step (.discovery [listedProcess] 1000)).step
        (.telemetry (tickWithPort (some 60001)) 10 1000 rfl))
      (((new {}).step (.telemetry (tickWithPort (some 60001)) 10 1000 rfl)).step
        (.discovery [listedProcess] 1000)) listedProcess (tickWithPort (some 60001)) := by
  refine (handoff_agrees_iff (new {}) listedProcess (tickWithPort (some 60001))
    ⟨rfl, rfl, by decide⟩ rfl rfl).mpr ⟨by decide +kernel, by decide, ?_⟩
  intro blank
  exact absurd blank (by decide +kernel)

/-- A port that only discovery knows is filled in if discovery comes first. -/
theorem handoff_loses_port :
    ¬ HandoffAgrees
      (((new {}).step (.discovery [listedProcess] 1000)).step
        (.telemetry (tickWithPort none) 10 1000 rfl))
      (((new {}).step (.telemetry (tickWithPort none) 10 1000 rfl)).step
        (.discovery [listedProcess] 1000)) listedProcess (tickWithPort none) := by
  rintro ⟨record, left, right, -, -⟩
  have discoveryFirst : ((((new {}).step (.discovery [listedProcess] 1000)).step
      (.telemetry (tickWithPort none) 10 1000 rfl)).sessions.lookup "instrumented:10:1").map
        (fun record => record.summary.udpPort) = some (some 60001) := by decide +kernel
  have telemetryFirst : ((((new {}).step (.telemetry (tickWithPort none) 10 1000 rfl)).step
      (.discovery [listedProcess] 1000)).sessions.lookup "instrumented:10:1").map
        (fun record => record.summary.udpPort) = some none := by decide +kernel
  have key : instrumentedSessionId listedProcess.pid listedProcess.startedAtUnixMs =
      "instrumented:10:1" := by decide +kernel
  rw [key] at left right
  rw [left] at discoveryFirst
  rw [right] at telemetryFirst
  rw [discoveryFirst] at telemetryFirst
  cases telemetryFirst

end ServiceState

end Moshwatch
