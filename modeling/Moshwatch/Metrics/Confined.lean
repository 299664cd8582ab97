import Moshwatch.Metrics.Text

namespace Moshwatch

def ExportCycle.request (cycle : ExportCycle) (summaries : ExportedSummaries) :
    Except String ExportMetricsServiceRequest :=
  encodeOtlpMetrics cycle.observer cycle.config
    (collectMetricSamples cycle.config cycle.observer summaries cycle.history cycle.runtime
      cycle.otlpStats
      { detailTier := cycle.config.metrics.otlp.detailTier
        includeObserverInfo := cycle.config.metrics.otlp.detailTier.includesSessions })
    cycle.nowMs cycle.exportStartedUnixNano

structure SameAggregates (summaries other : ExportedSummaries) : Prop where
  instrumented : other.instrumentedSessions = summaries.instrumentedSessions
  legacy : other.legacySessions = summaries.legacySessions
  health : other.healthCounts = summaries.healthCounts
  dropped : other.droppedSessionsTotal = summaries.droppedSessionsTotal

section Collected

variable {config : AppConfig} {observer otherObserver : ObserverInfo}
  {summaries other : ExportedSummaries} {history : Option HistoryStatsSnapshot}
  {runtime : RuntimeStatsSnapshot} {otlpStats : OtlpExporterStatsSnapshot}

theorem collectGlobalSamples_confined (same : SameAggregates summaries other) :
    collectGlobalSamples config otherObserver other history runtime otlpStats
        { detailTier := .aggregateOnly, includeObserverInfo := false } =
      collectGlobalSamples config observer summaries history runtime otlpStats
        { detailTier := .aggregateOnly, includeObserverInfo := false } := by
  unfold collectGlobalSamples
  rw [same.instrumented, same.legacy, same.health, same.dropped]
  dsimp only [MetricsDetailTier.includesSessions]
  simp only [Bool.false_eq_true, if_false]

theorem collectMetricSamples_confined (same : SameAggregates summaries other) :
    collectMetricSamples config otherObserver other history runtime otlpStats
        { detailTier := .aggregateOnly, includeObserverInfo := false } =
      collectMetricSamples config observer summaries history runtime otlpStats
        { detailTier := .aggregateOnly, includeObserverInfo := false } := by
  have untold : MetricsDetailTier.aggregateOnly.includesSessions = false := rfl
  simp only [collectMetricSamples, untold, Bool.false_eq_true, if_false]
  rw [collectGlobalSamples_confined same]

end Collected

/-- Without session detail, neither exporter shows anything of a session, of the number of
    sessions listed, or of the observer. -/
theorem aggregate_only_confined (display : F64 → String) (cycle : ExportCycle)
    (otherObserver : ObserverInfo) {summaries other : ExportedSummaries}
    (same : SameAggregates summaries other) :
    (cycle.config.metrics.prometheus.detailTier = .aggregateOnly → ∀ format,
      renderMetrics display cycle.config otherObserver other cycle.history cycle.runtime
          cycle.otlpStats format =
        renderMetrics display cycle.config cycle.observer summaries cycle.history cycle.runtime
          cycle.otlpStats format) ∧
    (cycle.config.metrics.otlp.detailTier = .aggregateOnly →
      { cycle with observer := otherObserver }.request other = cycle.request summaries) := by
  constructor
  · intro tier format
    have untold : MetricsDetailTier.aggregateOnly.includesSessions = false := rfl
    simp only [renderMetrics, tier, untold]
    rw [collectMetricSamples_confined same]
  · intro tier
    have untold : MetricsDetailTier.aggregateOnly.includesSessions = false := rfl
    simp only [ExportCycle.request, encodeOtlpMetrics, tier, untold, Bool.false_eq_true, if_false]
    rw [collectMetricSamples_confined same]

def confinedCycle : ExportCycle :=
  { observer := ⟨"node", "system"⟩
    config := { metrics := { prometheus := { detailTier := .aggregateOnly } } }
    nowMs := 1000
    exportStartedUnixNano := 0 }

/-- An export that lists one legacy process, and omits `truncated` others. -/
def countedSummaries (pid : Int) (truncated : Nat) : ExportedSummaries :=
  { sessions :=
      [(ServiceState.newLegacyRecord (legacySessionId pid 10)
        { pid, startedAtUnixMs := 10, bindAddr := none, udpPort := none, cmdline := "mosh-server" }
        1000).summary]
    totalSessions := 8
    truncatedSessionCount := truncated
    instrumentedSessions := 0
    legacySessions := 8
    healthCounts := [{ kind := .legacy, health := .legacy, sessions := 8 }]
    droppedSessionsTotal := 0 }

theorem aggregate_only_confined_truncated :
    { confinedCycle with observer := ⟨"other", "host"⟩ }.request (countedSummaries 2 0) =
        confinedCycle.request (countedSummaries 1 7) ∧
      renderMetrics (fun _ => "1") confinedCycle.config ⟨"other", "host"⟩ (countedSummaries 2 0)
          none {} {} .openMetricsText =
        renderMetrics (fun _ => "1") confinedCycle.config ⟨"node", "system"⟩
          (countedSummaries 1 7) none {} {} .openMetricsText := by
  have confined := aggregate_only_confined (fun _ => "1") confinedCycle ⟨"other", "host"⟩
    (⟨rfl, rfl, rfl, rfl⟩ : SameAggregates (countedSummaries 1 7) (countedSummaries 2 0))
  exact ⟨confined.2 rfl, confined.1 rfl .openMetricsText⟩

end Moshwatch
