import Moshwatch.Core.Config
import Moshwatch.History.Directory
import Moshwatch.Metrics.Catalog
import Moshwatch.State.Export

namespace Moshwatch

def cargoPkgVersion : String := "0.3.0"

def daemonWorkerThreads : Nat := 2

structure MetricSample where
  labels : List (String × String)
  value : F64
  startTimeUnixNano : Option Nat
  deriving DecidableEq

structure MetricCollectionOptions where
  detailTier : MetricsDetailTier
  includeObserverInfo : Bool

structure RuntimeStatsSnapshot where
  discoveryIntervalMs : Nat := 0
  discoveryLastDurationMs : Nat := 0
  discoveryOverrunsTotal : Nat := 0
  historyIntervalMs : Nat := 0
  historyLastDurationMs : Nat := 0
  historyOverrunsTotal : Nat := 0
  snapshotIntervalMs : Nat := 0
  snapshotLastDurationMs : Nat := 0
  snapshotOverrunsTotal : Nat := 0

structure OtlpExporterStatsSnapshot where
  successTotal : Nat := 0
  failureTotal : Nat := 0
  lastDurationMs : Option Nat := none
  lastSuccessUnixMs : Option Int := none
  lastFailureUnixMs : Option Int := none
  lastPayloadBytes : Option Nat := none

/-- The map from metric ids to their samples, as the list of insertions. -/
abbrev MetricSamples := List (MetricId × MetricSample)

/-- `samples.get(&id)`: the samples of a metric in the order of insertion. -/
def MetricSamples.series (samples : MetricSamples) (id : MetricId) : List MetricSample :=
  samples.filterMap fun entry => if entry.1 = id then some entry.2 else none

def unixNanos (unixMs : Int) : Nat := satMul (max unixMs 0).toNat 1000000

def addSample (id : MetricId) (labels : List (String × String)) (value : F64) : MetricSamples :=
  [(id, { labels, value, startTimeUnixNano := none })]

def addOptionalSample (id : MetricId) (labels : List (String × String)) (value : Option F64) :
    MetricSamples :=
  match value with
  | some value => addSample id labels value
  | none => []

def addOptionalCounterSample (id : MetricId) (labels : List (String × String)) (startUnixMs : Int)
    (value : Option F64) : MetricSamples :=
  match value with
  | some value => [(id, { labels, value, startTimeUnixNano := some (unixNanos startUnixMs) })]
  | none => []

def addRuntimeLoopSamples (loopName : String) (intervalMs lastDurationMs overrunsTotal : Nat) :
    MetricSamples :=
  if intervalMs = 0 then []
  else
    let labels := [("loop", loopName)]
    addSample .runtimeLoopIntervalMs labels (.ofNat intervalMs) ++
      addSample .runtimeLoopLastDurationMs labels (.ofNat lastDurationMs) ++
      addSample .runtimeLoopOverrunsTotal labels (.ofNat overrunsTotal)

def kindLabel : SessionKind → String
  | .instrumented => "instrumented"
  | .legacy => "legacy"

def healthLabel : HealthState → String
  | .ok => "ok"
  | .degraded => "degraded"
  | .critical => "critical"
  | .legacy => "legacy"

def healthLevel : HealthState → Nat
  | .ok => 0
  | .degraded => 1
  | .critical => 2
  | .legacy => 3

def detailTierLabel : MetricsDetailTier → String
  | .aggregateOnly => "aggregate_only"
  | .perSession => "per_session"

def sessionInfoLabels (session : SessionSummary) : List (String × String) :=
  [("session_id", session.sessionId),
    ("display_session_id", session.displaySessionId.getD ""),
    ("kind", kindLabel session.kind),
    ("pid", toString session.pid),
    ("started_at_unix_ms", toString session.startedAtUnixMs)]

def sessionValueLabels (session : SessionSummary) : List (String × String) :=
  [("session_id", session.sessionId), ("kind", kindLabel session.kind)]

def windowLabels (labels : List (String × String)) (window : String) : List (String × String) :=
  labels ++ [("window", window)]

def flag (value : Bool) : F64 := if value then .ofNat 1 else .ofNat 0

def collectGlobalSamples (config : AppConfig) (observer : ObserverInfo) (summaries : ExportedSummaries)
    (history : Option HistoryStatsSnapshot) (runtime : RuntimeStatsSnapshot)
    (otlpStats : OtlpExporterStatsSnapshot) (options : MetricCollectionOptions) : MetricSamples :=
  let history := history.getD {}
  let renderedSessions :=
    if options.detailTier.includesSessions then summaries.sessions.length else 0
  let truncatedSessions :=
    if options.detailTier.includesSessions then summaries.truncatedSessionCount else 0
  addSample .buildInfo [("version", cargoPkgVersion)] (.ofNat 1) ++
    (if options.includeObserverInfo then
      addSample .observerInfo [("node_name", observer.nodeName), ("system_id", observer.systemId)]
        (.ofNat 1)
    else []) ++
    addSample .sessions [("kind", "instrumented")] (.ofNat summaries.instrumentedSessions) ++
    addSample .sessions [("kind", "legacy")] (.ofNat summaries.legacySessions) ++
    (summaries.healthCounts.flatMap fun count =>
      addSample .sessionsByHealth
        [("kind", kindLabel count.kind), ("health", healthLabel count.health)]
        (.ofNat count.sessions)) ++
    addSample .metricsRenderedSessions [] (.ofNat renderedSessions) ++
    addSample .metricsTruncatedSessions [] (.ofNat truncatedSessions) ++
    addSample .runtimeDroppedSessionsTotal [] (.ofNat summaries.droppedSessionsTotal) ++
    addSample .runtimeWorkerThreads [] (.ofNat daemonWorkerThreads) ++
    addRuntimeLoopSamples "discovery" runtime.discoveryIntervalMs runtime.discoveryLastDurationMs
      runtime.discoveryOverrunsTotal ++
    addRuntimeLoopSamples "history" runtime.historyIntervalMs runtime.historyLastDurationMs
      runtime.historyOverrunsTotal ++
    addRuntimeLoopSamples "snapshot" runtime.snapshotIntervalMs runtime.snapshotLastDurationMs
      runtime.snapshotOverrunsTotal ++
    addSample .historyCurrentBytes [] (.ofNat history.currentBytes) ++
    addSample .historyWrittenBytesTotal [] (.ofNat history.writtenBytesTotal) ++
    addSample .historyWriteFailuresTotal [] (.ofNat history.writeFailuresTotal) ++
    addSample .historyPruneFailuresTotal [] (.ofNat history.pruneFailuresTotal) ++
    addSample .historyDroppedSamplesTotal [] (.ofNat history.droppedSamplesTotal) ++
    addSample .thresholdRttMs [("severity", "warn")] (.ofNat config.thresholds.warnRttMs) ++
    addSample .thresholdRttMs [("severity", "critical")] (.ofNat config.thresholds.criticalRttMs) ++
    addSample .thresholdRetransmitPct [("severity", "warn")] config.thresholds.warnRetransmitPct ++
    addSample .thresholdRetransmitPct [("severity", "critical")]
      config.thresholds.criticalRetransmitPct ++
    addSample .thresholdSilenceMs [("severity", "warn")] (.ofNat config.thresholds.warnSilenceMs) ++
    addSample .thresholdSilenceMs [("severity", "critical")]
      (.ofNat config.thresholds.criticalSilenceMs) ++
    addSample .otlpExportEnabled [("detail_tier", detailTierLabel config.metrics.otlp.detailTier)]
      (flag config.metrics.otlp.enabled) ++
    addSample .otlpExportsTotal [("result", "success")] (.ofNat otlpStats.successTotal) ++
    addSample .otlpExportsTotal [("result", "failure")] (.ofNat otlpStats.failureTotal) ++
    addOptionalSample .otlpExportLastDurationMs [] (otlpStats.lastDurationMs.map .ofNat) ++
    addOptionalSample .otlpExportLastSuccessUnixMs []
      (otlpStats.lastSuccessUnixMs.map .ofInt) ++
    addOptionalSample .otlpExportLastFailureUnixMs []
      (otlpStats.lastFailureUnixMs.map .ofInt) ++
    addOptionalSample .otlpExportLastPayloadBytes [] (otlpStats.lastPayloadBytes.map .ofNat)

/-- A field of the breakdown of a retransmit window, for both windows. -/
def addBreakdownSamples (id : MetricId) (labels : List (String × String)) (metrics : SessionMetrics)
    (field : RetransmitWindowBreakdown → Option Nat) : MetricSamples :=
  addOptionalSample id (windowLabels labels "10s")
      ((field metrics.retransmitWindow10sBreakdown).map .ofNat) ++
    addOptionalSample id (windowLabels labels "60s")
      ((field metrics.retransmitWindow60sBreakdown).map .ofNat)

/-- The samples of one session, up to its cumulative counters. -/
def collectSessionGauges (session : SessionSummary) : MetricSamples :=
  let labels := sessionValueLabels session
  let metrics := session.metrics
  addSample .sessionInfo (sessionInfoLabels session) (.ofNat 1) ++
    addSample .sessionHealthLevel labels (.ofNat (healthLevel session.health)) ++
    addOptionalSample .sessionSrttMs labels metrics.srttMs ++
    addOptionalSample .sessionRttvarMs labels metrics.rttvarMs ++
    addOptionalSample .sessionLastRttMs labels metrics.lastRttMs ++
    addOptionalSample .sessionLastHeardAgeMs labels (metrics.lastHeardAgeMs.map .ofNat) ++
    addOptionalSample .sessionRemoteStateAgeMs labels (metrics.remoteStateAgeMs.map .ofNat) ++
    addOptionalSample .sessionRetransmitPct10s labels metrics.retransmitPct10s ++
    addOptionalSample .sessionRetransmitPct60s labels metrics.retransmitPct60s ++
    addSample .sessionRetransmitWindowComplete (windowLabels labels "10s")
      (flag metrics.retransmitWindow10sComplete) ++
    addSample .sessionRetransmitWindowComplete (windowLabels labels "60s")
      (flag metrics.retransmitWindow60sComplete) ++
    addBreakdownSamples .sessionRetransmitWindowTransmissions labels metrics
      RetransmitWindowBreakdown.transmissionsTotal ++
    addBreakdownSamples .sessionRetransmitWindowRetransmits labels metrics
      RetransmitWindowBreakdown.retransmitsTotal ++
    addBreakdownSamples .sessionRetransmitWindowStateUpdates labels metrics
      RetransmitWindowBreakdown.stateUpdatesTotal ++
    addBreakdownSamples .sessionRetransmitWindowEmptyAcks labels metrics
      RetransmitWindowBreakdown.emptyAcksTotal

def collectSessionCounters (session : SessionSummary) : MetricSamples :=
  let labels := sessionValueLabels session
  let counterStartMs := session.counterResetUnixMs.getD session.startedAtUnixMs
  addOptionalCounterSample .sessionPacketsTxTotal labels counterStartMs
      (session.metrics.packetsTxTotal.map .ofNat) ++
    addOptionalCounterSample .sessionPacketsRxTotal labels counterStartMs
      (session.metrics.packetsRxTotal.map .ofNat) ++
    addOptionalCounterSample .sessionRetransmitsTotal labels counterStartMs
      (session.metrics.retransmitsTotal.map .ofNat)

def collectMetricSamples (config : AppConfig) (observer : ObserverInfo) (summaries : ExportedSummaries)
    (history : Option HistoryStatsSnapshot) (runtime : RuntimeStatsSnapshot)
    (otlpStats : OtlpExporterStatsSnapshot) (options : MetricCollectionOptions) : MetricSamples :=
  collectGlobalSamples config observer summaries history runtime otlpStats options ++
    if options.detailTier.includesSessions then
      summaries.sessions.flatMap fun session =>
        collectSessionGauges session ++ collectSessionCounters session
    else []

/-- The metrics that carry the labels of a session. -/
def MetricId.isSession : MetricId → Bool
  | .sessionInfo | .sessionHealthLevel | .sessionSrttMs | .sessionRttvarMs | .sessionLastRttMs
  | .sessionLastHeardAgeMs | .sessionRemoteStateAgeMs | .sessionRetransmitPct10s
  | .sessionRetransmitPct60s | .sessionRetransmitWindowComplete
  | .sessionRetransmitWindowTransmissions | .sessionRetransmitWindowRetransmits
  | .sessionRetransmitWindowStateUpdates | .sessionRetransmitWindowEmptyAcks
  | .sessionPacketsTxTotal | .sessionPacketsRxTotal | .sessionRetransmitsTotal => true
  | _ => false

def MetricId.isGlobal (id : MetricId) : Bool := !id.isSession

/-- All metrics but the cumulative counters of a session. -/
def MetricId.isUncounted : MetricId → Bool
  | .sessionPacketsTxTotal | .sessionPacketsRxTotal | .sessionRetransmitsTotal => false
  | _ => true

def MetricSamples.Only (keep : MetricId → Bool) (samples : MetricSamples) : Prop :=
  ∀ entry ∈ samples, keep entry.1 = true

section Only

variable {keep : MetricId → Bool} {id : MetricId} {labels : List (String × String)}

@[simp]
theorem only_append {left right : MetricSamples} :
    MetricSamples.Only keep (left ++ right) ↔
      MetricSamples.Only keep left ∧ MetricSamples.Only keep right := List.forall_mem_append

@[simp]
theorem only_flatMap {α : Type} {items : List α} {samples : α → MetricSamples} :
    MetricSamples.Only keep (items.flatMap samples) ↔
      ∀ item ∈ items, MetricSamples.Only keep (samples item) := List.forall_mem_flatMap

@[simp]
theorem only_ite {condition : Prop} [Decidable condition] {left right : MetricSamples} :
    MetricSamples.Only keep (if condition then left else right) ↔
      (condition → MetricSamples.Only keep left) ∧ (¬condition → MetricSamples.Only keep right) := by
  split <;> simp_all

@[simp]
theorem only_nil : MetricSamples.Only keep [] := List.forall_mem_nil _

@[simp]
theorem only_addSample {value : F64} :
    MetricSamples.Only keep (addSample id labels value) ↔ keep id = true :=
  List.forall_mem_singleton

@[simp]
theorem only_addOptionalSample {value : Option F64} :
    MetricSamples.Only keep (addOptionalSample id labels value) ↔
      (value.isSome = true → keep id = true) := by
  cases value <;> simp [addOptionalSample]

@[simp]
theorem only_addRuntimeLoopSamples {loopName : String}
    {intervalMs lastDurationMs overrunsTotal : Nat} :
    MetricSamples.Only keep
        (addRuntimeLoopSamples loopName intervalMs lastDurationMs overrunsTotal) ↔
      (intervalMs ≠ 0 → keep .runtimeLoopIntervalMs = true ∧
        keep .runtimeLoopLastDurationMs = true ∧ keep .runtimeLoopOverrunsTotal = true) := by
  simp [addRuntimeLoopSamples]

end Only

theorem collectGlobalSamples_only (config : AppConfig) (observer : ObserverInfo)
    (summaries : ExportedSummaries) (history : Option HistoryStatsSnapshot)
    (runtime : RuntimeStatsSnapshot) (otlpStats : OtlpExporterStatsSnapshot)
    (options : MetricCollectionOptions) :
    MetricSamples.Only MetricId.isGlobal
      (collectGlobalSamples config observer summaries history runtime otlpStats options) := by
  unfold collectGlobalSamples
  simp only [only_append, only_addSample, only_flatMap, only_ite, only_nil,
    only_addOptionalSample, only_addRuntimeLoopSamples, MetricId.isGlobal, MetricId.isSession,
    Bool.not_false, implies_true, and_self]

theorem collectSessionGauges_only (session : SessionSummary) :
    MetricSamples.Only MetricId.isUncounted (collectSessionGauges session) := by
  unfold collectSessionGauges addBreakdownSamples
  simp only [only_append, only_addSample, only_addOptionalSample, MetricId.isUncounted,
    implies_true, and_self]

theorem MetricSamples.mem_series {samples : MetricSamples} {id : MetricId} {sample : MetricSample} :
    sample ∈ samples.series id ↔ (id, sample) ∈ samples := by
  simp only [MetricSamples.series, List.mem_filterMap, Option.ite_none_right_eq_some,
    Option.some.injEq]
  constructor
  · rintro ⟨⟨other, sample⟩, member, rfl, rfl⟩
    exact member
  · intro member
    exact ⟨_, member, rfl, rfl⟩

end Moshwatch
