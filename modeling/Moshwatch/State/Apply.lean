import Moshwatch.State.Record

namespace Moshwatch

theorem applyClientPeer_frame (summary : SessionSummary) (clientAddr : Option String)
    (observedAtUnixMs : Int) :
    ∃ peer shown, applyClientPeer summary clientAddr observedAtUnixMs =
      { summary with peer, clientAddr := shown } := by
  cases clientAddr <;> exact ⟨_, _, rfl⟩

theorem applyCmdline_frame (summary : SessionSummary) (cmdline : Option String) :
    ∃ shown, applyCmdline summary cmdline = { summary with cmdline := shown } := by
  cases cmdline with
  | none => exact ⟨_, rfl⟩
  | some cmdline =>
    by_cases blank : isBlank cmdline = true
    · exact ⟨summary.cmdline, by simp [applyCmdline, blank]⟩
    · exact ⟨cmdline, by simp [applyCmdline, blank]⟩

@[simp] theorem applyCmdline_peer (summary : SessionSummary) (cmdline : Option String) :
    (applyCmdline summary cmdline).peer = summary.peer := by
  obtain ⟨shown, framed⟩ := applyCmdline_frame summary cmdline
  rw [framed]

@[simp] theorem applyCmdline_clientAddr (summary : SessionSummary) (cmdline : Option String) :
    (applyCmdline summary cmdline).clientAddr = summary.clientAddr := by
  obtain ⟨shown, framed⟩ := applyCmdline_frame summary cmdline
  rw [framed]

theorem applyClientPeer_currentClientAddr (summary : SessionSummary) (clientAddr : Option String)
    (observedAtUnixMs : Int) :
    (applyClientPeer summary clientAddr observedAtUnixMs).peer.currentClientAddr = clientAddr := by
  cases clientAddr <;> rfl

theorem normalizeEventUnixMs_eq (summary : SessionSummary) (eventUnixMs receivedAtUnixMs : Int) :
    normalizeEventUnixMs summary eventUnixMs receivedAtUnixMs =
      max (min eventUnixMs receivedAtUnixMs) summary.lastObservedUnixMs := by
  simp only [normalizeEventUnixMs]
  split <;> split <;> omega

theorem clearRegressed_summary (entry : SessionRecord) (event : TelemetryEvent)
    (eventUnixMs : Int) :
    (clearRegressed entry event eventUnixMs).summary =
      { entry.summary with
        counterResetUnixMs :=
          if metricsRegressed entry.summary.metrics event then some eventUnixMs
          else entry.summary.counterResetUnixMs } := by
  unfold clearRegressed
  split
  · rfl
  · split <;> rfl

theorem clearRegressed_of_regressed {entry : SessionRecord} {event : TelemetryEvent}
    (regressed : metricsRegressed entry.summary.metrics event = true) (eventUnixMs : Int) :
    (clearRegressed entry event eventUnixMs).history = [] ∧
      (clearRegressed entry event eventUnixMs).counters = [] := by
  simp [clearRegressed, regressed]

theorem clearRegressed_of_timely {entry : SessionRecord} {event : TelemetryEvent}
    {eventUnixMs : Int} (steady : metricsRegressed entry.summary.metrics event = false)
    (timely : ∀ point ∈ entry.history, point.unixMs ≤ eventUnixMs) :
    clearRegressed entry event eventUnixMs = entry := by
  unfold clearRegressed
  rw [if_neg (by simp [steady]), if_neg]
  cases last : entry.history.getLast? with
  | none => simp
  | some point =>
    have := timely point (List.mem_of_getLast? last)
    simp only [Option.any_some, decide_eq_true_eq, not_lt]
    exact this

theorem setLastPct_concat (front : List MetricPoint) (point : MetricPoint) (pct : Option F64) :
    setLastPct (front ++ [point]) pct = front ++ [{ point with retransmitPct10s := pct }] := by
  simp [setLastPct]

theorem setLastPct_trimHistory (history : List MetricPoint) (point : MetricPoint)
    (pct : Option F64) (historySecs : Nat) :
    setLastPct (trimHistory MetricPoint.unixMs (upsertHistoryPoint history point) historySecs) pct =
      trimHistory MetricPoint.unixMs
        (upsertHistoryPoint history { point with retransmitPct10s := pct }) historySecs := by
  have positive : (0 : Int) ≤ (historySecs : Int) * 1000 := by omega
  unfold trimHistory upsertHistoryPoint
  rw [TimeSeries.trim_upsert_eq_concat _ _ positive,
    TimeSeries.trim_upsert_eq_concat _ _ positive, setLastPct_concat]

/-- The history point an event leaves, with the percentage of its moment. -/
def MetricPoint.recorded (event : TelemetryEvent) (eventUnixMs : Int) (pct : Option F64) :
    MetricPoint :=
  { MetricPoint.ofEvent event eventUnixMs (sanitizeEndpoint event.clientAddr) with
    retransmitPct10s := pct }

section Fields

variable (config : AppConfig) (sessionId : String) (event : TelemetryEvent)
  (startedAt receivedAt : Int) (entry : SessionRecord)

theorem applyEvent_summary_frame :
    ∃ peer clientAddr cmdline health,
      (applyEvent config sessionId event startedAt receivedAt entry).summary =
        { applyIdentity (clearRegressed entry event
            (normalizeEventUnixMs entry.summary event.unixMs receivedAt)).summary sessionId event
            startedAt (normalizeEventUnixMs entry.summary event.unixMs receivedAt) with
          peer, clientAddr, cmdline, health
          metrics :=
            applyWindows (applyMetrics entry.summary.metrics event)
              (retransmitPct
                (applyEvent config sessionId event startedAt receivedAt entry).counters 10000)
              (retransmitPct
                (applyEvent config sessionId event startedAt receivedAt entry).counters 60000) } := by
  obtain ⟨peer, clientAddr, peerFrame⟩ := applyClientPeer_frame
    (applyIdentity (clearRegressed entry event
      (normalizeEventUnixMs entry.summary event.unixMs receivedAt)).summary sessionId event startedAt
      (normalizeEventUnixMs entry.summary event.unixMs receivedAt))
    (sanitizeEndpoint event.clientAddr)
    (normalizeEventUnixMs entry.summary event.unixMs receivedAt)
  obtain ⟨cmdline, cmdlineFrame⟩ := applyCmdline_frame
    { applyIdentity (clearRegressed entry event
        (normalizeEventUnixMs entry.summary event.unixMs receivedAt)).summary sessionId event
        startedAt (normalizeEventUnixMs entry.summary event.unixMs receivedAt) with
      peer, clientAddr } (event.cmdline.map sanitizeCmdline)
  have same : (clearRegressed entry event
      (normalizeEventUnixMs entry.summary event.unixMs receivedAt)).summary.metrics =
        entry.summary.metrics := by
    rw [clearRegressed_summary]
  refine ⟨peer, clientAddr, cmdline,
    (applyEvent config sessionId event startedAt receivedAt entry).summary.health, ?_⟩
  simp only [applyEvent, peerFrame, cmdlineFrame]
  rw [← same]
  rfl

theorem applyEvent_identity :
    let applied := applyEvent config sessionId event startedAt receivedAt entry
    applied.summary.sessionId = sessionId ∧ applied.summary.pid = event.pid ∧
      applied.summary.kind = .instrumented ∧ applied.summary.startedAtUnixMs = startedAt ∧
      applied.summary.lastObservedUnixMs =
        normalizeEventUnixMs entry.summary event.unixMs receivedAt ∧
      applied.summary.displaySessionId =
        (if entry.summary.displaySessionId.isNone then
          sanitizeDisplaySessionId event.displaySessionId
        else entry.summary.displaySessionId) ∧
      applied.summary.counterResetUnixMs =
        (if metricsRegressed entry.summary.metrics event then
          some (normalizeEventUnixMs entry.summary event.unixMs receivedAt)
        else entry.summary.counterResetUnixMs) := by
  obtain ⟨peer, clientAddr, cmdline, health, frame⟩ :=
    applyEvent_summary_frame config sessionId event startedAt receivedAt entry
  simp only [frame, applyIdentity, clearRegressed_summary, and_self]

theorem applyEvent_peer :
    (applyEvent config sessionId event startedAt receivedAt entry).summary.peer =
      (applyClientPeer entry.summary (sanitizeEndpoint event.clientAddr)
        (normalizeEventUnixMs entry.summary event.unixMs receivedAt)).peer := by
  simp only [applyEvent, applyCmdline_peer]
  cases sanitizeEndpoint event.clientAddr <;>
    simp only [applyClientPeer, applyIdentity, clearRegressed_summary]

theorem applyEvent_counters :
    (applyEvent config sessionId event startedAt receivedAt entry).counters =
      trimHistory CounterSample.unixMs
        (upsertCounterSample
          (clearRegressed entry event
            (normalizeEventUnixMs entry.summary event.unixMs receivedAt)).counters
          (CounterSample.ofEvent event
            (normalizeEventUnixMs entry.summary event.unixMs receivedAt)))
        config.historySecs := rfl

theorem applyEvent_metrics :
    let applied := applyEvent config sessionId event startedAt receivedAt entry
    applied.summary.metrics =
      applyWindows (applyMetrics entry.summary.metrics event)
        (retransmitPct applied.counters 10000) (retransmitPct applied.counters 60000) := by
  obtain ⟨peer, clientAddr, cmdline, health, frame⟩ :=
    applyEvent_summary_frame config sessionId event startedAt receivedAt entry
  simp only [frame]

theorem applyEvent_history :
    let applied := applyEvent config sessionId event startedAt receivedAt entry
    applied.history =
      trimHistory MetricPoint.unixMs
        (upsertHistoryPoint
          (clearRegressed entry event
            (normalizeEventUnixMs entry.summary event.unixMs receivedAt)).history
          (MetricPoint.recorded event
            (normalizeEventUnixMs entry.summary event.unixMs receivedAt)
            (retransmitPct applied.counters 10000).pct))
        config.historySecs := by
  simp only [applyEvent, setLastPct_trimHistory, applyCmdline_peer,
    applyClientPeer_currentClientAddr]
  rfl

theorem applyEvent_shutdown :
    (applyEvent config sessionId event startedAt receivedAt entry).shutdown =
      event.finalShutdown := rfl

end Fields

end Moshwatch
