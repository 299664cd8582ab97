import Moshwatch.Metrics.Otlp

namespace Moshwatch

inductive MetricsTextFormat where
  | prometheusText
  | openMetricsText
  deriving DecidableEq, Repr

/-- `str::replace` of one character. -/
def replaceChar (text : List Char) (pattern : Char) (replacement : List Char) : List Char :=
  text.flatMap fun ch => if ch = pattern then replacement else [ch]

def escapeLabel (value : String) : String :=
  String.ofList (replaceChar (replaceChar (replaceChar value.toList '\\' ['\\', '\\'])
    '\n' ['\\', 'n']) '"' ['\\', '"'])

def metricTypeText (descriptor : MetricDescriptor) (format : MetricsTextFormat) : String :=
  match descriptor.kind, format with
  | .gauge, _ => "gauge"
  | .counter, _ => "counter"
  | .info, .prometheusText => "gauge"
  | .info, .openMetricsText => "info"

section Render

-- `display` is the `Display` of an `f64`.
variable (display : F64 → String)

def renderLabel (label : String × String) : String :=
  label.1 ++ "=\"" ++ escapeLabel label.2 ++ "\""

def renderMetricSample (descriptor : MetricDescriptor) (sample : MetricSample) : String :=
  if sample.labels = [] then descriptor.name ++ " " ++ display sample.value ++ "\n"
  else
    descriptor.name ++ "\x7b" ++ ",".intercalate (sample.labels.map renderLabel) ++ "\x7d " ++
      display sample.value ++ "\n"

def renderMetric (format : MetricsTextFormat) (descriptor : MetricDescriptor)
    (series : List MetricSample) : String :=
  "# HELP " ++ descriptor.name ++ " " ++ descriptor.help ++ "\n" ++
    "# TYPE " ++ descriptor.name ++ " " ++ metricTypeText descriptor format ++ "\n" ++
    String.join (series.map (renderMetricSample display descriptor))

def renderMetricSamples (samples : MetricSamples) (format : MetricsTextFormat) : String :=
  String.join (metricCatalog.map fun descriptor =>
      let series := samples.series descriptor.id
      if series = [] then "" else renderMetric display format descriptor series) ++
    if format = .openMetricsText then "# EOF\n" else ""

def renderMetrics (config : AppConfig) (observer : ObserverInfo) (summaries : ExportedSummaries)
    (history : Option HistoryStatsSnapshot) (runtime : RuntimeStatsSnapshot)
    (otlpStats : OtlpExporterStatsSnapshot) (format : MetricsTextFormat) : String :=
  let samples := collectMetricSamples config observer summaries history runtime otlpStats
    { detailTier := config.metrics.prometheus.detailTier
      includeObserverInfo := config.metrics.prometheus.detailTier.includesSessions }
  renderMetricSamples display samples format

end Render

end Moshwatch
