import Moshwatch.Core.Number

namespace Moshwatch

inductive MetricKind where
  | gauge
  | counter
  | info
  deriving DecidableEq, Repr

inductive MetricId where
  | buildInfo
  | observerInfo
  | sessions
  | sessionsByHealth
  | metricsRenderedSessions
  | metricsTruncatedSessions
  | runtimeDroppedSessionsTotal
  | runtimeWorkerThreads
  | runtimeLoopIntervalMs
  | runtimeLoopLastDurationMs
  | runtimeLoopOverrunsTotal
  | historyCurrentBytes
  | historyWrittenBytesTotal
  | historyWriteFailuresTotal
  | historyPruneFailuresTotal
  | historyDroppedSamplesTotal
  | thresholdRttMs
  | thresholdRetransmitPct
  | thresholdSilenceMs
  | otlpExportEnabled
  | otlpExportsTotal
  | otlpExportLastDurationMs
  | otlpExportLastSuccessUnixMs
  | otlpExportLastFailureUnixMs
  | otlpExportLastPayloadBytes
  | sessionInfo
  | sessionHealthLevel
  | sessionSrttMs
  | sessionRttvarMs
  | sessionLastRttMs
  | sessionLastHeardAgeMs
  | sessionRemoteStateAgeMs
  | sessionRetransmitPct10s
  | sessionRetransmitPct60s
  | sessionRetransmitWindowComplete
  | sessionRetransmitWindowTransmissions
  | sessionRetransmitWindowRetransmits
  | sessionRetransmitWindowStateUpdates
  | sessionRetransmitWindowEmptyAcks
  | sessionPacketsTxTotal
  | sessionPacketsRxTotal
  | sessionRetransmitsTotal
  deriving DecidableEq, Repr

structure MetricDescriptor where
  id : MetricId
  name : String
  help : String
  kind : MetricKind
  unit : String
  deriving DecidableEq

def metricCatalog : List MetricDescriptor :=
  [ { id := .buildInfo
      name := "moshwatch_build_info"
      help := "Build information for moshwatchd."
      kind := .info
      unit := "1" },
    { id := .observerInfo
      name := "moshwatch_observer_info"
      help := "Host identity for this moshwatchd instance."
      kind := .info
      unit := "1" },
    { id := .sessions
      name := "moshwatch_sessions"
      help := "Number of sessions by kind."
      kind := .gauge
      unit := "1" },
    { id := .sessionsByHealth
      name := "moshwatch_sessions_by_health"
      help := "Number of sessions by kind and derived health state."
      kind := .gauge
      unit := "1" },
    { id := .metricsRenderedSessions
      name := "moshwatch_metrics_rendered_sessions"
      help := "Number of session series rendered into the export."
      kind := .gauge
      unit := "1" },
    { id := .metricsTruncatedSessions
      name := "moshwatch_metrics_truncated_sessions"
      help := "Number of sessions omitted from the export due to render caps."
      kind := .gauge
      unit := "1" },
    { id := .runtimeDroppedSessionsTotal
      name := "moshwatch_runtime_dropped_sessions_total"
      help := "Number of session tracking admissions or records dropped due to capacity limits."
      kind := .counter
      unit := "1" },
    { id := .runtimeWorkerThreads
      name := "moshwatch_runtime_worker_threads"
      help := "Configured Tokio worker threads for moshwatchd."
      kind := .gauge
      unit := "1" },
    { id := .runtimeLoopIntervalMs
      name := "moshwatch_runtime_loop_interval_ms"
      help := "Configured interval for periodic daemon loops in milliseconds."
      kind := .gauge
      unit := "ms" },
    { id := .runtimeLoopLastDurationMs
      name := "moshwatch_runtime_loop_last_duration_ms"
      help := "Last observed runtime for a periodic daemon loop in milliseconds."
      kind := .gauge
      unit := "ms" },
    { id := .runtimeLoopOverrunsTotal
      name := "moshwatch_runtime_loop_overruns_total"
      help := "Number of times a periodic daemon loop took longer than its configured interval."
      kind := .counter
      unit := "1" },
    { id := .historyCurrentBytes
      name := "moshwatch_history_current_bytes"
      help := "Current on-disk bytes retained in persistent history."
      kind := .gauge
      unit := "By" },
    { id := .historyWrittenBytesTotal
      name := "moshwatch_history_written_bytes_total"
      help := "Total history bytes successfully written to disk."
      kind := .counter
      unit := "By" },
    { id := .historyWriteFailuresTotal
      name := "moshwatch_history_write_failures_total"
      help := "Number of failed persistent history writes."
      kind := .counter
      unit := "1" },
    { id := .historyPruneFailuresTotal
      name := "moshwatch_history_prune_failures_total"
      help := "Number of expired history files that failed to prune."
      kind := .counter
      unit := "1" },
    { id := .historyDroppedSamplesTotal
      name := "moshwatch_history_dropped_samples_total"
      help := "Number of history samples dropped because persistence exceeded its disk budget."
      kind := .counter
      unit := "1" },
    { id := .thresholdRttMs
      name := "moshwatch_threshold_rtt_ms"
      help := "Configured RTT threshold in milliseconds."
      kind := .gauge
      unit := "ms" },
    { id := .thresholdRetransmitPct
      name := "moshwatch_threshold_retransmit_pct"
      help := "Configured retransmit threshold as a percentage."
      kind := .gauge
      unit := "%" },
    { id := .thresholdSilenceMs
      name := "moshwatch_threshold_silence_ms"
      help := "Configured silence threshold in milliseconds."
      kind := .gauge
      unit := "ms" },
    { id := .otlpExportEnabled
      name := "moshwatch_otlp_export_enabled"
      help := "Whether OTLP metrics export is enabled for the daemon."
      kind := .gauge
      unit := "1" },
    { id := .otlpExportsTotal
      name := "moshwatch_otlp_exports_total"
      help := "Number of OTLP metrics export attempts by result."
      kind := .counter
      unit := "1" },
    { id := .otlpExportLastDurationMs
      name := "moshwatch_otlp_export_last_duration_ms"
      help := "Duration of the last OTLP metrics export attempt in milliseconds."
      kind := .gauge
      unit := "ms" },
    { id := .otlpExportLastSuccessUnixMs
      name := "moshwatch_otlp_export_last_success_unix_ms"
      help := "Unix timestamp in milliseconds of the most recent successful OTLP metrics export."
      kind := .gauge
      unit := "ms" },
    { id := .otlpExportLastFailureUnixMs
      name := "moshwatch_otlp_export_last_failure_unix_ms"
      help := "Unix timestamp in milliseconds of the most recent failed OTLP metrics export."
      kind := .gauge
      unit := "ms" },
    { id := .otlpExportLastPayloadBytes
      name := "moshwatch_otlp_export_last_payload_bytes"
      help := "Size in bytes of the most recent OTLP metrics export payload."
      kind := .gauge
      unit := "By" },
    { id := .sessionInfo
      name := "moshwatch_session_info"
      help := "Static session metadata kept intentionally small for metrics joins."
      kind := .info
      unit := "1" },
    { id := .sessionHealthLevel
      name := "moshwatch_session_health_level"
      help := "Session health severity: ok=0, degraded=1, critical=2, legacy=3."
      kind := .gauge
      unit := "1" },
    { id := .sessionSrttMs
      name := "moshwatch_session_srtt_ms"
      help := "Smoothed round-trip time in milliseconds."
      kind := .gauge
      unit := "ms" },
    { id := .sessionRttvarMs
      name := "moshwatch_session_rttvar_ms"
      help := "RTT variance in milliseconds."
      kind := .gauge
      unit := "ms" },
    { id := .sessionLastRttMs
      name := "moshwatch_session_last_rtt_ms"
      help := "Latest RTT sample in milliseconds."
      kind := .gauge
      unit := "ms" },
    { id := .sessionLastHeardAgeMs
      name := "moshwatch_session_last_heard_age_ms"
      help := "Age in milliseconds since the daemon last heard any packet from the peer."
      kind := .gauge
      unit := "ms" },
    { id := .sessionRemoteStateAgeMs
      name := "moshwatch_session_remote_state_age_ms"
      help := "Age in milliseconds since the peer last sent a new remote state."
      kind := .gauge
      unit := "ms" },
    { id := .sessionRetransmitPct10s
      name := "moshwatch_session_retransmit_pct_10s"
      help := "Retransmit ratio over the last 10 seconds."
      kind := .gauge
      unit := "%" },
    { id := .sessionRetransmitPct60s
      name := "moshwatch_session_retransmit_pct_60s"
      help := "Retransmit ratio over the last 60 seconds."
      kind := .gauge
      unit := "%" },
    { id := .sessionRetransmitWindowComplete
      name := "moshwatch_session_retransmit_window_complete"
      help := "Whether the retransmit window is fully populated for a given session and window."
      kind := .gauge
      unit := "1" },
    { id := .sessionRetransmitWindowTransmissions
      name := "moshwatch_session_retransmit_window_transmissions"
      help := "Number of transmissions counted inside the retransmit lookback window."
      kind := .gauge
      unit := "1" },
    { id := .sessionRetransmitWindowRetransmits
      name := "moshwatch_session_retransmit_window_retransmits"
      help := "Number of retransmits counted inside the retransmit lookback window."
      kind := .gauge
      unit := "1" },
    { id := .sessionRetransmitWindowStateUpdates
      name := "moshwatch_session_retransmit_window_state_updates"
      help := "Number of state-update transmissions counted inside the retransmit lookback window."
      kind := .gauge
      unit := "1" },
    { id := .sessionRetransmitWindowEmptyAcks
      name := "moshwatch_session_retransmit_window_empty_acks"
      help := "Number of empty-ack transmissions counted inside the retransmit lookback window."
      kind := .gauge
      unit := "1" },
    { id := .sessionPacketsTxTotal
      name := "moshwatch_session_packets_tx_total"
      help := "Total transmitted packets seen by the session."
      kind := .counter
      unit := "1" },
    { id := .sessionPacketsRxTotal
      name := "moshwatch_session_packets_rx_total"
      help := "Total received packets seen by the session."
      kind := .counter
      unit := "1" },
    { id := .sessionRetransmitsTotal
      name := "moshwatch_session_retransmits_total"
      help := "Total retransmits seen by the session."
      kind := .counter
      unit := "1" } ]

theorem metricCatalog_names_nodup : (metricCatalog.map MetricDescriptor.name).Nodup := by
  decide +kernel

end Moshwatch
