import Moshwatch.Metrics.Collect

namespace Moshwatch

structure NumberDataPoint where
  attributes : List (String × String)
  startTimeUnixNano : Nat
  timeUnixNano : Nat
  value : F64
  deriving DecidableEq

inductive MetricData where
  /-- A cumulative monotonic sum. -/
  | sum (dataPoints : List NumberDataPoint)
  | gauge (dataPoints : List NumberDataPoint)
  deriving DecidableEq

structure OtlpMetric where
  name : String
  description : String
  unit : String
  data : MetricData
  deriving DecidableEq

/-- The request before its protobuf encoding. -/
structure ExportMetricsServiceRequest where
  resourceAttributes : List (String × String)
  scopeName : String
  scopeVersion : String
  metrics : List OtlpMetric
  deriving DecidableEq

def metricToOtlp (descriptor : MetricDescriptor) (samples : List MetricSample)
    (nowUnixNano exportStartedUnixNano : Nat) : OtlpMetric :=
  let dataPoints := samples.map fun sample =>
    { attributes := sample.labels
      startTimeUnixNano :=
        if descriptor.kind = .counter then sample.startTimeUnixNano.getD exportStartedUnixNano
        else 0
      timeUnixNano := nowUnixNano
      value := sample.value }
  { name := descriptor.name
    description := descriptor.help
    unit := descriptor.unit
    data :=
      match descriptor.kind with
      | .counter => .sum dataPoints
      | .gauge | .info => .gauge dataPoints }

def encodeOtlpMetrics (observer : ObserverInfo) (config : AppConfig) (samples : MetricSamples)
    (nowUnixMs : Int) (exportStartedUnixNano : Nat) : Except String ExportMetricsServiceRequest :=
  let metrics := metricCatalog.filterMap fun descriptor =>
    let series := samples.series descriptor.id
    if series = [] then none
    else some (metricToOtlp descriptor series (unixNanos nowUnixMs) exportStartedUnixNano)
  let resourceAttributes :=
    [("service.name", "moshwatchd"), ("service.version", cargoPkgVersion)] ++
      if config.metrics.otlp.detailTier.includesSessions then
        [("service.instance.id", observer.systemId),
          ("moshwatch.observer.node_name", observer.nodeName),
          ("moshwatch.observer.system_id", observer.systemId)]
      else []
  match config.metrics.otlp.resourceAttributes.find? fun entry =>
      isReservedOtlpResourceAttributeKey entry.1 with
  | some (key, _) =>
    .error ("metrics.otlp.resource_attributes cannot override reserved OTLP key " ++ key)
  | none =>
    .ok
      { resourceAttributes := resourceAttributes ++ config.metrics.otlp.resourceAttributes
        scopeName := "moshwatchd.metrics"
        scopeVersion := cargoPkgVersion
        metrics }

def maxMetricsRenderedSessions : Nat := 256

/-- What the exporter reads besides the sessions, in one cycle of its loop. -/
structure ExportCycle where
  observer : ObserverInfo
  config : AppConfig
  history : Option HistoryStatsSnapshot := none
  runtime : RuntimeStatsSnapshot := {}
  otlpStats : OtlpExporterStatsSnapshot := {}
  nowMs : Int
  exportStartedUnixNano : Nat

/-- The payload of one cycle of `run_otlp_exporter`. -/
def ExportCycle.payload (cycle : ExportCycle) (state : ServiceState) :
    Except String ExportMetricsServiceRequest :=
  let samples := collectMetricSamples cycle.config cycle.observer
    (state.exportSummaries cycle.nowMs maxMetricsRenderedSessions) cycle.history cycle.runtime
    cycle.otlpStats
    { detailTier := cycle.config.metrics.otlp.detailTier
      includeObserverInfo := cycle.config.metrics.otlp.detailTier.includesSessions }
  encodeOtlpMetrics cycle.observer cycle.config samples cycle.nowMs cycle.exportStartedUnixNano

inductive SessionCounter where
  | packetsTx
  | packetsRx
  | retransmits
  deriving DecidableEq

namespace SessionCounter

instance : Fintype SessionCounter :=
  Fintype.ofList [packetsTx, packetsRx, retransmits] (by intro counter; cases counter <;> simp)

def id : SessionCounter → MetricId
  | packetsTx => .sessionPacketsTxTotal
  | packetsRx => .sessionPacketsRxTotal
  | retransmits => .sessionRetransmitsTotal

def name (counter : SessionCounter) : String :=
  match counter with
  | packetsTx => "moshwatch_session_packets_tx_total"
  | packetsRx => "moshwatch_session_packets_rx_total"
  | retransmits => "moshwatch_session_retransmits_total"

def total (counter : SessionCounter) (metrics : SessionMetrics) : Option Nat :=
  match counter with
  | packetsTx => metrics.packetsTxTotal
  | packetsRx => metrics.packetsRxTotal
  | retransmits => metrics.retransmitsTotal

end SessionCounter

def SessionSummary.counterStart (summary : SessionSummary) : Nat :=
  unixNanos (summary.counterResetUnixMs.getD summary.startedAtUnixMs)

/-- The data points of a sum, in a payload, that carry a session's id. -/
def sessionPoints (payload : Except String ExportMetricsServiceRequest) (name sessionId : String) :
    List NumberDataPoint :=
  match payload with
  | .error _ => []
  | .ok request =>
    (request.metrics.filter fun metric => metric.name = name).flatMap fun metric =>
      match metric.data with
      | .sum dataPoints => dataPoints.filter fun point => ("session_id", sessionId) ∈ point.attributes
      | .gauge _ => []

namespace SessionCounter

variable (counter : SessionCounter)

theorem descriptor_of_name {descriptor : MetricDescriptor} (listed : descriptor ∈ metricCatalog)
    (named : descriptor.name = counter.name) :
    descriptor.id = counter.id ∧ descriptor.kind = .counter := by
  have checked : ∀ descriptor ∈ metricCatalog, descriptor.name = counter.name →
      descriptor.id = counter.id ∧ descriptor.kind = .counter := by
    cases counter <;> decide +kernel
  exact checked descriptor listed named

theorem isGlobal_id : counter.id.isGlobal = false := by
  cases counter <;> rfl

theorem isUncounted_id : counter.id.isUncounted = false := by
  cases counter <;> rfl

theorem of_mem_collect {config : AppConfig} {observer : ObserverInfo}
    {summaries : ExportedSummaries} {history : Option HistoryStatsSnapshot}
    {runtime : RuntimeStatsSnapshot} {otlpStats : OtlpExporterStatsSnapshot}
    {options : MetricCollectionOptions} {sample : MetricSample}
    (member : (counter.id, sample) ∈
      collectMetricSamples config observer summaries history runtime otlpStats options) :
    ∃ session ∈ summaries.sessions, ∃ total, counter.total session.metrics = some total ∧
      sample =
        { labels := sessionValueLabels session
          value := .ofNat total
          startTimeUnixNano := some session.counterStart } := by
  rcases List.mem_append.mp member with inGlobals | inSessions
  · have kept := collectGlobalSamples_only _ _ _ _ _ _ _ _ inGlobals
    rw [counter.isGlobal_id] at kept
    cases kept
  · split at inSessions
    · obtain ⟨session, listed, found⟩ := List.mem_flatMap.mp inSessions
      refine ⟨session, listed, ?_⟩
      rcases List.mem_append.mp found with inGauges | inCounters
      · have kept := collectSessionGauges_only session _ inGauges
        rw [counter.isUncounted_id] at kept
        cases kept
      · cases counter <;>
          cases tx : session.metrics.packetsTxTotal <;>
          cases rx : session.metrics.packetsRxTotal <;>
          cases retransmits : session.metrics.retransmitsTotal <;>
          simp_all [collectSessionCounters, addOptionalCounterSample, id, total,
            SessionSummary.counterStart]
    · cases inSessions

theorem total_materializeSummary (config : AppConfig) (record : SessionRecord) (nowMs : Int) :
    counter.total (ServiceState.materializeSummary config record nowMs).metrics =
      counter.total record.summary.metrics := by
  simp only [ServiceState.materializeSummary, ServiceState.agedMetrics]
  split <;> rfl

end SessionCounter

theorem counterStart_materializeSummary (config : AppConfig) (record : SessionRecord)
    (nowMs : Int) :
    (ServiceState.materializeSummary config record nowMs).counterStart =
      record.summary.counterStart := by
  simp only [SessionSummary.counterStart, ServiceState.materializeSummary]

theorem mem_encodeOtlpMetrics {observer : ObserverInfo} {config : AppConfig}
    {samples : MetricSamples} {nowUnixMs : Int} {exportStartedUnixNano : Nat}
    {request : ExportMetricsServiceRequest}
    (encoded : encodeOtlpMetrics observer config samples nowUnixMs exportStartedUnixNano =
      .ok request) {metric : OtlpMetric} (member : metric ∈ request.metrics) :
    ∃ descriptor ∈ metricCatalog,
      metric = metricToOtlp descriptor (samples.series descriptor.id) (unixNanos nowUnixMs)
        exportStartedUnixNano := by
  simp only [encodeOtlpMetrics] at encoded
  split at encoded
  · cases encoded
  · cases encoded
    obtain ⟨descriptor, listed, rendered⟩ := List.mem_filterMap.mp member
    refine ⟨descriptor, listed, ?_⟩
    split at rendered
    · cases rendered
    · exact (Option.some.inj rendered).symm

def sumPoints (samples : List MetricSample) (nowUnixNano exportStartedUnixNano : Nat) :
    List NumberDataPoint :=
  samples.map fun sample =>
    { attributes := sample.labels
      startTimeUnixNano := sample.startTimeUnixNano.getD exportStartedUnixNano
      timeUnixNano := nowUnixNano
      value := sample.value }

theorem metricToOtlp_data {descriptor : MetricDescriptor} (isCounter : descriptor.kind = .counter)
    (samples : List MetricSample) (nowUnixNano exportStartedUnixNano : Nat) :
    (metricToOtlp descriptor samples nowUnixNano exportStartedUnixNano).data =
      .sum (sumPoints samples nowUnixNano exportStartedUnixNano) := by
  simp only [metricToOtlp, isCounter, if_true, sumPoints]

theorem mem_sumPoints {samples : List MetricSample} {nowUnixNano exportStartedUnixNano : Nat}
    {point : NumberDataPoint} (member : point ∈ sumPoints samples nowUnixNano exportStartedUnixNano) :
    ∃ sample ∈ samples,
      point.startTimeUnixNano = sample.startTimeUnixNano.getD exportStartedUnixNano ∧
        point.value = sample.value ∧ point.attributes = sample.labels := by
  obtain ⟨sample, stored, rfl⟩ := List.mem_map.mp member
  exact ⟨sample, stored, rfl, rfl, rfl⟩

theorem sessionId_of_labelled {session : SessionSummary} {sessionId : String}
    (labelled : ("session_id", sessionId) ∈ sessionValueLabels session) :
    session.sessionId = sessionId := by
  simp only [sessionValueLabels, List.mem_cons, Prod.mk.injEq, true_and, List.not_mem_nil,
    or_false] at labelled
  rcases labelled with named | ⟨kind, -⟩
  · exact named.symm
  · exact absurd kind (by decide)

theorem mem_sessionPoints {cycle : ExportCycle} {state : ServiceState} {counter : SessionCounter}
    {sessionId : String} {point : NumberDataPoint}
    (member : point ∈ sessionPoints (cycle.payload state) counter.name sessionId) :
    ∃ key record total, state.sessions.lookup key = some record ∧
      record.summary.sessionId = sessionId ∧
      counter.total record.summary.metrics = some total ∧ point.value = .ofNat total ∧
      point.startTimeUnixNano = record.summary.counterStart := by
  cases built : cycle.payload state with
  | error message =>
    rw [built] at member
    cases member
  | ok request =>
    simp only [built, sessionPoints, List.mem_flatMap, List.mem_filter, decide_eq_true_eq] at member
    obtain ⟨metric, ⟨encoded, named⟩, shown⟩ := member
    obtain ⟨descriptor, listed, rfl⟩ := mem_encodeOtlpMetrics built encoded
    obtain ⟨identified, isCounter⟩ := counter.descriptor_of_name listed named
    rw [metricToOtlp_data isCounter, identified] at shown
    obtain ⟨inSum, labelled⟩ := List.mem_filter.mp shown
    obtain ⟨sample, stored, start, value, labels⟩ := mem_sumPoints inSum
    obtain ⟨session, exported, total, counted, same⟩ :=
      counter.of_mem_collect (MetricSamples.mem_series.mp stored)
    obtain ⟨key, record, tracked, materialized⟩ := ServiceState.mem_exportSummaries exported
    rw [materialized, counter.total_materializeSummary] at counted
    rw [materialized, counterStart_materializeSummary] at same
    refine ⟨key, record, total, tracked, ?_, counted, by rw [value, same],
      by rw [start, same, Option.getD_some]⟩
    rw [labels, same, decide_eq_true_eq] at labelled
    exact sessionId_of_labelled labelled

end Moshwatch
