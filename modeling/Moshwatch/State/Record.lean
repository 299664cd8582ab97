import Moshwatch.Core.Config
import Moshwatch.Core.Sanitize
import Moshwatch.General.TimeSeries

namespace Moshwatch

structure CounterSample where
  unixMs : Int
  stateUpdatesTxTotal : Option Nat
  retransmitsTotal : Option Nat
  emptyAcksTxTotal : Option Nat
  deriving DecidableEq

/-- The two deques are lists, oldest entry first. -/
structure SessionRecord where
  summary : SessionSummary
  history : List MetricPoint
  counters : List CounterSample
  shutdown : Bool
  deriving DecidableEq

structure RetransmitWindow where
  pct : Option F64
  complete : Bool
  breakdown : RetransmitWindowBreakdown
  deriving DecidableEq

def instrumentedSessionId (pid startedAtUnixMs : Int) : String :=
  s!"instrumented:{startedAtUnixMs}:{pid}"

def legacySessionId (pid startedAtUnixMs : Int) : String :=
  s!"legacy:{startedAtUnixMs}:{pid}"

def applyClientPeer (summary : SessionSummary) (clientAddr : Option String)
    (observedAtUnixMs : Int) : SessionSummary :=
  match clientAddr with
  | some clientAddr =>
    let changed := summary.peer.lastClientAddr ≠ some clientAddr
    let peer :=
      match summary.peer.lastClientAddr with
      | some previous =>
        if changed then
          { summary.peer with
            previousClientAddr := some previous
            clientAddrChangedAtUnixMs := some observedAtUnixMs }
        else summary.peer
      | none => summary.peer
    { summary with
      peer := { peer with
        currentClientAddr := some clientAddr
        lastClientAddr := some clientAddr
        lastClientSeenAtUnixMs := some observedAtUnixMs }
      clientAddr := some clientAddr }
  | none =>
    { summary with
      peer := { summary.peer with currentClientAddr := none }
      clientAddr := summary.peer.lastClientAddr }

def retransmitPct (history : List CounterSample) (windowMs : Int) : RetransmitWindow :=
  match history.getLast? with
  | none => { pct := none, complete := false, breakdown := {} }
  | some latest =>
    match history.reverse.find? fun sample => windowMs ≤ latest.unixMs - sample.unixMs with
    | none => { pct := none, complete := false, breakdown := {} }
    | some baseline =>
      match latest.stateUpdatesTxTotal, baseline.stateUpdatesTxTotal,
          latest.retransmitsTotal, baseline.retransmitsTotal with
      | some updatesLatest, some updatesBaseline, some retransmitsLatest,
          some retransmitsBaseline =>
        let emptyAcksLatest := latest.emptyAcksTxTotal.getD 0
        let emptyAcksBaseline := baseline.emptyAcksTxTotal.getD 0
        let updatesDelta := updatesLatest - updatesBaseline
        let retransmitDelta := retransmitsLatest - retransmitsBaseline
        let emptyAckDelta := emptyAcksLatest - emptyAcksBaseline
        let transmissionDelta := satAdd (satAdd updatesDelta retransmitDelta) emptyAckDelta
        let breakdown : RetransmitWindowBreakdown :=
          { transmissionsTotal := some transmissionDelta
            retransmitsTotal := some retransmitDelta
            stateUpdatesTotal := some updatesDelta
            emptyAcksTotal := some emptyAckDelta }
        if transmissionDelta = 0 then { pct := none, complete := true, breakdown }
        else
          { pct := some (.percentage retransmitDelta transmissionDelta)
            complete := true
            breakdown }
      | _, _, _, _ => { pct := none, complete := true, breakdown := {} }

def normalizeEventUnixMs (summary : SessionSummary) (eventUnixMs receivedAtUnixMs : Int) : Int :=
  let eventUnixMs := if receivedAtUnixMs < eventUnixMs then receivedAtUnixMs else eventUnixMs
  if summary.lastObservedUnixMs ≤ eventUnixMs then eventUnixMs else summary.lastObservedUnixMs

def monotonicCounterRegressed (previous next : Option Nat) : Bool :=
  match previous, next with
  | some previous, some next => next < previous
  | _, _ => false

def metricsRegressed (metrics : SessionMetrics) (event : TelemetryEvent) : Bool :=
  monotonicCounterRegressed metrics.packetsTxTotal event.packetsTxTotal ||
    monotonicCounterRegressed metrics.packetsRxTotal event.packetsRxTotal ||
    monotonicCounterRegressed metrics.retransmitsTotal event.retransmitsTotal ||
    monotonicCounterRegressed metrics.emptyAcksTxTotal event.emptyAcksTxTotal ||
    monotonicCounterRegressed metrics.stateUpdatesTxTotal event.stateUpdatesTxTotal ||
    monotonicCounterRegressed metrics.stateUpdatesRxTotal event.stateUpdatesRxTotal ||
    monotonicCounterRegressed metrics.duplicateStatesRxTotal event.duplicateStatesRxTotal ||
    monotonicCounterRegressed metrics.outOfOrderStatesRxTotal event.outOfOrderStatesRxTotal

def upsertHistoryPoint (history : List MetricPoint) (point : MetricPoint) : List MetricPoint :=
  TimeSeries.upsert MetricPoint.unixMs history point

def upsertCounterSample (history : List CounterSample) (point : CounterSample) :
    List CounterSample :=
  TimeSeries.upsert CounterSample.unixMs history point

/-- `trim_history` at the two types of `HasUnixMs`. -/
def trimHistory {α : Type} (unixMs : α → Int) (history : List α) (historySecs : Nat) : List α :=
  TimeSeries.trim unixMs ((historySecs : Int) * 1000) history

/-- The record `or_insert_with` creates for an event of an untracked session. -/
def newInstrumentedRecord (sessionId : String) (event : TelemetryEvent) (startedAt : Int)
    (initialObservedUnixMs : Int) : SessionRecord :=
  { summary :=
      { sessionId
        displaySessionId := sanitizeDisplaySessionId event.displaySessionId
        pid := event.pid
        kind := .instrumented
        health := .ok
        startedAtUnixMs := startedAt
        lastObservedUnixMs := initialObservedUnixMs
        counterResetUnixMs := none
        bindAddr := sanitizeEndpoint event.bindAddr
        udpPort := event.udpPort
        clientAddr := none
        peer := {}
        cmdline := (event.cmdline.map sanitizeCmdline).getD "mosh-server-real"
        metrics := {} }
    history := []
    counters := []
    shutdown := false }

/-- The two branches of `apply_telemetry_at` that forget a record's samples. -/
def clearRegressed (entry : SessionRecord) (event : TelemetryEvent) (eventUnixMs : Int) :
    SessionRecord :=
  if metricsRegressed entry.summary.metrics event then
    { entry with
      summary := { entry.summary with counterResetUnixMs := some eventUnixMs }
      history := []
      counters := [] }
  else if entry.history.getLast?.any fun point => eventUnixMs < point.unixMs then
    { entry with history := [], counters := [] }
  else entry

def applyIdentity (summary : SessionSummary) (sessionId : String) (event : TelemetryEvent)
    (startedAt eventUnixMs : Int) : SessionSummary :=
  { summary with
    sessionId
    pid := event.pid
    kind := .instrumented
    startedAtUnixMs := startedAt
    lastObservedUnixMs := eventUnixMs
    displaySessionId :=
      if summary.displaySessionId.isNone then sanitizeDisplaySessionId event.displaySessionId
      else summary.displaySessionId
    bindAddr := (sanitizeEndpoint event.bindAddr).or summary.bindAddr
    udpPort := event.udpPort.or summary.udpPort }

def applyCmdline (summary : SessionSummary) (cmdline : Option String) : SessionSummary :=
  match cmdline with
  | some cmdline => if isBlank cmdline then summary else { summary with cmdline }
  | none => summary

def applyMetrics (metrics : SessionMetrics) (event : TelemetryEvent) : SessionMetrics :=
  { metrics with
    srttMs := event.srttMs
    rttvarMs := event.rttvarMs
    lastRttMs := event.lastRttMs
    lastHeardAgeMs := event.lastHeardAgeMs
    remoteStateAgeMs := event.remoteStateAgeMs
    packetsTxTotal := event.packetsTxTotal
    packetsRxTotal := event.packetsRxTotal
    retransmitsTotal := event.retransmitsTotal
    emptyAcksTxTotal := event.emptyAcksTxTotal
    stateUpdatesTxTotal := event.stateUpdatesTxTotal
    stateUpdatesRxTotal := event.stateUpdatesRxTotal
    duplicateStatesRxTotal := event.duplicateStatesRxTotal
    outOfOrderStatesRxTotal := event.outOfOrderStatesRxTotal }

def applyWindows (metrics : SessionMetrics) (retransmit10 retransmit60 : RetransmitWindow) :
    SessionMetrics :=
  { metrics with
    retransmitPct10s := retransmit10.pct
    retransmitPct60s := retransmit60.pct
    retransmitWindow10sComplete := retransmit10.complete
    retransmitWindow60sComplete := retransmit60.complete
    retransmitWindow10sBreakdown := retransmit10.breakdown
    retransmitWindow60sBreakdown := retransmit60.breakdown }

/-- `if let Some(last_point) = history.back_mut()`: write the percentage into the newest point. -/
def setLastPct (history : List MetricPoint) (pct : Option F64) : List MetricPoint :=
  match history.getLast? with
  | some lastPoint => history.dropLast ++ [{ lastPoint with retransmitPct10s := pct }]
  | none => history

def TelemetryEvent.sessionShutdown (event : TelemetryEvent) : Bool :=
  event.shutdown.getD false || event.event = .sessionClose

/-- The shutdown mark an event leaves. The source first sets it for a close event; both
    arms here overwrite that. -/
def TelemetryEvent.finalShutdown (event : TelemetryEvent) : Bool :=
  match event.shutdown with
  | some shutdown => shutdown
  | none => event.sessionShutdown

def CounterSample.ofEvent (event : TelemetryEvent) (eventUnixMs : Int) : CounterSample :=
  { unixMs := eventUnixMs
    stateUpdatesTxTotal := event.stateUpdatesTxTotal
    retransmitsTotal := event.retransmitsTotal
    emptyAcksTxTotal := event.emptyAcksTxTotal }

def MetricPoint.ofEvent (event : TelemetryEvent) (eventUnixMs : Int)
    (currentClientAddr : Option String) : MetricPoint :=
  { unixMs := eventUnixMs
    srttMs := event.srttMs
    retransmitPct10s := none
    remoteStateAgeMs := event.remoteStateAgeMs
    currentClientAddr }

/-- What `apply_telemetry_at` does to the record of an admitted event. -/
def applyEvent (config : AppConfig) (sessionId : String) (event : TelemetryEvent)
    (startedAt receivedAtUnixMs : Int) (entry : SessionRecord) : SessionRecord :=
  let eventUnixMs := normalizeEventUnixMs entry.summary event.unixMs receivedAtUnixMs
  let entry := clearRegressed entry event eventUnixMs
  let summary := applyIdentity entry.summary sessionId event startedAt eventUnixMs
  let summary := applyClientPeer summary (sanitizeEndpoint event.clientAddr) eventUnixMs
  let summary := applyCmdline summary (event.cmdline.map sanitizeCmdline)
  let point := MetricPoint.ofEvent event eventUnixMs summary.peer.currentClientAddr
  let history := trimHistory MetricPoint.unixMs (upsertHistoryPoint entry.history point)
    config.historySecs
  let counters := trimHistory CounterSample.unixMs
    (upsertCounterSample entry.counters (CounterSample.ofEvent event eventUnixMs))
    config.historySecs
  let retransmit10 := retransmitPct counters 10000
  let retransmit60 := retransmitPct counters 60000
  let metrics := applyWindows (applyMetrics summary.metrics event) retransmit10 retransmit60
  { summary :=
      { summary with
        metrics
        health := classifyHealth summary.kind metrics config.thresholds }
    history := setLastPct history retransmit10.pct
    counters
    shutdown := event.finalShutdown }

end Moshwatch
