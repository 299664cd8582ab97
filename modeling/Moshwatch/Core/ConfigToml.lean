import Moshwatch.Core.Config
import Moshwatch.General.Toml

namespace Moshwatch

section Serialize

def MetricsDetailTier.variants : List (String × MetricsDetailTier) :=
  [("aggregate_only", .aggregateOnly), ("per_session", .perSession)]

def MetricsDetailTier.serialize : MetricsDetailTier → Toml F64
  | .aggregateOnly => .string "aggregate_only"
  | .perSession => .string "per_session"

def HealthThresholds.serialize (thresholds : HealthThresholds) : Option (Toml F64) := do
  return .table
    [("warn_rtt_ms", ← Toml.writeUnsigned thresholds.warnRttMs),
      ("critical_rtt_ms", ← Toml.writeUnsigned thresholds.criticalRttMs),
      ("warn_retransmit_pct", .float thresholds.warnRetransmitPct),
      ("critical_retransmit_pct", .float thresholds.criticalRetransmitPct),
      ("warn_silence_ms", ← Toml.writeUnsigned thresholds.warnSilenceMs),
      ("critical_silence_ms", ← Toml.writeUnsigned thresholds.criticalSilenceMs)]

def EventStreamConfig.serialize (stream : EventStreamConfig) : Option (Toml F64) := do
  return .table [("heartbeat_ms", ← Toml.writeUnsigned stream.heartbeatMs)]

def PersistenceConfig.serialize (persistence : PersistenceConfig) : Option (Toml F64) := do
  return .table
    [("enabled", .boolean persistence.enabled),
      ("sample_interval_ms", ← Toml.writeUnsigned persistence.sampleIntervalMs),
      ("retention_days", ← Toml.writeUnsigned persistence.retentionDays),
      ("max_query_samples", ← Toml.writeUnsigned persistence.maxQuerySamples),
      ("max_disk_bytes", ← Toml.writeUnsigned persistence.maxDiskBytes)]

def PrometheusMetricsConfig.serialize (prometheus : PrometheusMetricsConfig) : Toml F64 :=
  .table (Toml.writeOption "listen_addr" .string prometheus.listenAddr ++
    [("allow_non_loopback", .boolean prometheus.allowNonLoopback),
      ("detail_tier", prometheus.detailTier.serialize)])

def OtlpMetricsConfig.serialize (otlp : OtlpMetricsConfig) : Option (Toml F64) := do
  return .table
    [("enabled", .boolean otlp.enabled),
      ("endpoint", .string otlp.endpoint),
      ("export_interval_ms", ← Toml.writeUnsigned otlp.exportIntervalMs),
      ("timeout_ms", ← Toml.writeUnsigned otlp.timeoutMs),
      ("detail_tier", otlp.detailTier.serialize),
      ("headers", Toml.writeMap .string otlp.headers),
      ("resource_attributes", Toml.writeMap .string otlp.resourceAttributes)]

def MetricsConfig.serialize (metrics : MetricsConfig) : Option (Toml F64) := do
  return .table [("prometheus", metrics.prometheus.serialize), ("otlp", ← metrics.otlp.serialize)]

/-- `none` where the `toml` crate refuses an integer. -/
def AppConfig.serialize (config : AppConfig) : Option (Toml F64) := do
  return .table
    [("refresh_ms", ← Toml.writeUnsigned config.refreshMs),
      ("discovery_interval_ms", ← Toml.writeUnsigned config.discoveryIntervalMs),
      ("cleanup_interval_ms", ← Toml.writeUnsigned config.cleanupIntervalMs),
      ("history_secs", ← Toml.writeUnsigned config.historySecs),
      ("max_tracked_sessions", ← Toml.writeUnsigned config.maxTrackedSessions),
      ("max_session_detail_points", ← Toml.writeUnsigned config.maxSessionDetailPoints),
      ("thresholds", ← config.thresholds.serialize),
      ("stream", ← config.stream.serialize),
      ("persistence", ← config.persistence.serialize),
      ("metrics", ← config.metrics.serialize)]

end Serialize

section Deserialize

def MetricsDetailTier.deserialize : Toml F64 → Option MetricsDetailTier :=
  Toml.readVariant MetricsDetailTier.variants

def HealthThresholds.deserialize : Toml F64 → Option HealthThresholds
  | .table entries => do
    let default : HealthThresholds := {}
    let warnRttMs ← Toml.setting entries "warn_rtt_ms" Toml.readUnsigned default.warnRttMs
    let criticalRttMs ←
      Toml.setting entries "critical_rtt_ms" Toml.readUnsigned default.criticalRttMs
    let warnRetransmitPct ← Toml.aliased entries "warn_retransmit_pct" "warn_loss_pct"
      (Toml.readFloat F64.ofInt) default.warnRetransmitPct
    let criticalRetransmitPct ← Toml.aliased entries "critical_retransmit_pct" "critical_loss_pct"
      (Toml.readFloat F64.ofInt) default.criticalRetransmitPct
    let warnSilenceMs ←
      Toml.setting entries "warn_silence_ms" Toml.readUnsigned default.warnSilenceMs
    let criticalSilenceMs ←
      Toml.setting entries "critical_silence_ms" Toml.readUnsigned default.criticalSilenceMs
    return {
      warnRttMs, criticalRttMs, warnRetransmitPct, criticalRetransmitPct, warnSilenceMs,
      criticalSilenceMs }
  | _ => none

def EventStreamConfig.deserialize : Toml F64 → Option EventStreamConfig
  | .table entries => do
    let default : EventStreamConfig := {}
    let heartbeatMs ← Toml.setting entries "heartbeat_ms" Toml.readUnsigned default.heartbeatMs
    return { heartbeatMs }
  | _ => none

def PersistenceConfig.deserialize : Toml F64 → Option PersistenceConfig
  | .table entries => do
    let default : PersistenceConfig := {}
    let enabled ← Toml.setting entries "enabled" Toml.readBoolean default.enabled
    let sampleIntervalMs ←
      Toml.setting entries "sample_interval_ms" Toml.readUnsigned default.sampleIntervalMs
    let retentionDays ←
      Toml.setting entries "retention_days" Toml.readUnsigned default.retentionDays
    let maxQuerySamples ←
      Toml.setting entries "max_query_samples" Toml.readUnsigned default.maxQuerySamples
    let maxDiskBytes ←
      Toml.setting entries "max_disk_bytes" Toml.readUnsigned default.maxDiskBytes
    return { enabled, sampleIntervalMs, retentionDays, maxQuerySamples, maxDiskBytes }
  | _ => none

/-- A blank address is no listener. -/
def listener (listenAddr : String) : Option String :=
  if isBlank listenAddr then none else some listenAddr

def deserializeOptionalListenAddr (value : Toml F64) : Option (Option String) :=
  (Toml.readOption Toml.readString value).map fun listenAddr => listenAddr.bind listener

def deserializeOptionalListenAddrOptional (value : Toml F64) : Option (Option (Option String)) :=
  (Toml.readOption Toml.readString value).map fun listenAddr => listenAddr.map listener

/-- The `Deserialize` of the type itself, whose `listen_addr` has a default of its own. -/
def PrometheusMetricsConfig.deserialize : Toml F64 → Option PrometheusMetricsConfig
  | .table entries => do
    let default : PrometheusMetricsConfig := {}
    let listenAddr ← Toml.setting entries "listen_addr" deserializeOptionalListenAddr none
    let allowNonLoopback ←
      Toml.setting entries "allow_non_loopback" Toml.readBoolean default.allowNonLoopback
    let detailTier ←
      Toml.setting entries "detail_tier" MetricsDetailTier.deserialize default.detailTier
    return { listenAddr, allowNonLoopback, detailTier }
  | _ => none

structure PrometheusMetricsConfigPartial where
  listenAddr : Option (Option String) := none
  allowNonLoopback : Option Bool := none
  detailTier : Option MetricsDetailTier := none

def PrometheusMetricsConfigPartial.deserialize : Toml F64 → Option PrometheusMetricsConfigPartial
  | .table entries => do
    let listenAddr ← Toml.setting entries "listen_addr" deserializeOptionalListenAddrOptional none
    let allowNonLoopback ←
      Toml.setting entries "allow_non_loopback" (Toml.readOption Toml.readBoolean) none
    let detailTier ←
      Toml.setting entries "detail_tier" (Toml.readOption MetricsDetailTier.deserialize) none
    return { listenAddr, allowNonLoopback, detailTier }
  | _ => none

def OtlpMetricsConfig.deserialize : Toml F64 → Option OtlpMetricsConfig
  | .table entries => do
    let default : OtlpMetricsConfig := {}
    let enabled ← Toml.setting entries "enabled" Toml.readBoolean default.enabled
    let endpoint ← Toml.setting entries "endpoint" Toml.readString default.endpoint
    let exportIntervalMs ←
      Toml.setting entries "export_interval_ms" Toml.readUnsigned default.exportIntervalMs
    let timeoutMs ← Toml.setting entries "timeout_ms" Toml.readUnsigned default.timeoutMs
    let detailTier ←
      Toml.setting entries "detail_tier" MetricsDetailTier.deserialize default.detailTier
    let headers ← Toml.setting entries "headers" (Toml.readMap Toml.readString) default.headers
    let resourceAttributes ← Toml.setting entries "resource_attributes"
      (Toml.readMap Toml.readString) default.resourceAttributes
    return {
      enabled, endpoint, exportIntervalMs, timeoutMs, detailTier, headers,
      resourceAttributes }
  | _ => none

structure MetricsConfigCompat where
  prometheus : Option PrometheusMetricsConfigPartial := none
  otlp : Option OtlpMetricsConfig := none
  listenAddr : Option String := none
  allowNonLoopback : Option Bool := none
  detailTier : Option MetricsDetailTier := none

def MetricsConfigCompat.deserialize : Toml F64 → Option MetricsConfigCompat
  | .table entries => do
    let prometheus ← Toml.setting entries "prometheus"
      (Toml.readOption PrometheusMetricsConfigPartial.deserialize) none
    let otlp ← Toml.setting entries "otlp" (Toml.readOption OtlpMetricsConfig.deserialize) none
    let listenAddr ← Toml.setting entries "listen_addr" (Toml.readOption Toml.readString) none
    let allowNonLoopback ←
      Toml.setting entries "allow_non_loopback" (Toml.readOption Toml.readBoolean) none
    let detailTier ←
      Toml.setting entries "detail_tier" (Toml.readOption MetricsDetailTier.deserialize) none
    return { prometheus, otlp, listenAddr, allowNonLoopback, detailTier }
  | _ => none

def PrometheusMetricsConfig.assign (prometheus : PrometheusMetricsConfig)
    (given : PrometheusMetricsConfigPartial) : PrometheusMetricsConfig where
  listenAddr := given.listenAddr.getD prometheus.listenAddr
  allowNonLoopback := given.allowNonLoopback.getD prometheus.allowNonLoopback
  detailTier := given.detailTier.getD prometheus.detailTier

/-- The flat keys first, then the table over them. -/
def MetricsConfig.deserialize (value : Toml F64) : Option MetricsConfig := do
  let compat ← MetricsConfigCompat.deserialize value
  let default : PrometheusMetricsConfig := {}
  let flat := default.assign
    { listenAddr := compat.listenAddr.map listener
      allowNonLoopback := compat.allowNonLoopback
      detailTier := compat.detailTier }
  let prometheus := match compat.prometheus with
    | some prometheusOverride => flat.assign prometheusOverride
    | none => flat
  return { prometheus, otlp := compat.otlp.getD {} }

def AppConfig.deserialize : Toml F64 → Option AppConfig
  | .table entries => do
    let default : AppConfig := {}
    let refreshMs ← Toml.setting entries "refresh_ms" Toml.readUnsigned default.refreshMs
    let discoveryIntervalMs ←
      Toml.setting entries "discovery_interval_ms" Toml.readUnsigned default.discoveryIntervalMs
    let cleanupIntervalMs ←
      Toml.setting entries "cleanup_interval_ms" Toml.readUnsigned default.cleanupIntervalMs
    let historySecs ← Toml.setting entries "history_secs" Toml.readUnsigned default.historySecs
    let maxTrackedSessions ←
      Toml.setting entries "max_tracked_sessions" Toml.readUnsigned default.maxTrackedSessions
    let maxSessionDetailPoints ← Toml.setting entries "max_session_detail_points"
      Toml.readUnsigned default.maxSessionDetailPoints
    let thresholds ←
      Toml.setting entries "thresholds" HealthThresholds.deserialize default.thresholds
    let stream ← Toml.setting entries "stream" EventStreamConfig.deserialize default.stream
    let persistence ←
      Toml.setting entries "persistence" PersistenceConfig.deserialize default.persistence
    let metrics ← Toml.setting entries "metrics" MetricsConfig.deserialize default.metrics
    return {
      refreshMs, discoveryIntervalMs, cleanupIntervalMs, historySecs, maxTrackedSessions,
      maxSessionDetailPoints, thresholds, stream, persistence, metrics }
  | _ => none

end Deserialize

section Reading

theorem detailTier_deserialize_eq_some {toml : Toml F64} {tier : MetricsDetailTier} :
    MetricsDetailTier.deserialize toml = some tier ↔ toml = tier.serialize := by
  constructor
  · intro read
    cases toml with
    | string name =>
      simp only [MetricsDetailTier.deserialize, MetricsDetailTier.variants, Toml.readVariant,
        List.lookup] at read
      split at read
      · rename_i same
        cases read
        rw [beq_iff_eq.mp same]
        rfl
      · split at read
        · rename_i same
          cases read
          rw [beq_iff_eq.mp same]
          rfl
        · contradiction
    | integer value => contradiction
    | float value => contradiction
    | boolean value => contradiction
    | table entries => contradiction
  · rintro rfl
    cases tier <;> rfl

theorem detailTier_deserialize_serialize (tier : MetricsDetailTier) :
    MetricsDetailTier.deserialize tier.serialize = some tier :=
  detailTier_deserialize_eq_some.mpr rfl

theorem readString_string (text : String) : (Toml.string text : Toml F64).readString = some text :=
  rfl

theorem HealthThresholds.deserialize_serialize {thresholds : HealthThresholds} {toml : Toml F64}
    (written : thresholds.serialize = some toml) :
    HealthThresholds.deserialize toml = some thresholds := by
  simp only [serialize, Option.bind_eq_bind, Option.bind_eq_some_iff, Option.pure_def,
    Option.some.injEq] at written
  obtain ⟨_, warnRtt, _, criticalRtt, _, warnSilence, _, criticalSilence, rfl⟩ := written
  simp [deserialize, Toml.setting, Toml.aliased, List.lookup, Toml.readFloat,
    Toml.readUnsigned_of_writeUnsigned warnRtt, Toml.readUnsigned_of_writeUnsigned criticalRtt,
    Toml.readUnsigned_of_writeUnsigned warnSilence,
    Toml.readUnsigned_of_writeUnsigned criticalSilence]

theorem EventStreamConfig.deserialize_serialize {stream : EventStreamConfig} {toml : Toml F64}
    (written : stream.serialize = some toml) :
    EventStreamConfig.deserialize toml = some stream := by
  simp only [serialize, Option.bind_eq_bind, Option.bind_eq_some_iff, Option.pure_def,
    Option.some.injEq] at written
  obtain ⟨_, heartbeat, rfl⟩ := written
  simp [deserialize, Toml.setting, List.lookup, Toml.readUnsigned_of_writeUnsigned heartbeat]

theorem PersistenceConfig.deserialize_serialize {persistence : PersistenceConfig}
    {toml : Toml F64} (written : persistence.serialize = some toml) :
    PersistenceConfig.deserialize toml = some persistence := by
  simp only [serialize, Option.bind_eq_bind, Option.bind_eq_some_iff, Option.pure_def,
    Option.some.injEq] at written
  obtain ⟨_, interval, _, days, _, samples, _, bytes, rfl⟩ := written
  simp [deserialize, Toml.setting, List.lookup, Toml.readBoolean,
    Toml.readUnsigned_of_writeUnsigned interval, Toml.readUnsigned_of_writeUnsigned days,
    Toml.readUnsigned_of_writeUnsigned samples, Toml.readUnsigned_of_writeUnsigned bytes]

theorem OtlpMetricsConfig.deserialize_serialize {otlp : OtlpMetricsConfig} {toml : Toml F64}
    (headers : Toml.Ascending otlp.headers) (attributes : Toml.Ascending otlp.resourceAttributes)
    (written : otlp.serialize = some toml) :
    OtlpMetricsConfig.deserialize toml = some otlp := by
  simp only [serialize, Option.bind_eq_bind, Option.bind_eq_some_iff, Option.pure_def,
    Option.some.injEq] at written
  obtain ⟨_, interval, _, timeout, rfl⟩ := written
  have headersRead := Toml.readMap_writeMap readString_string headers
  have attributesRead := Toml.readMap_writeMap readString_string attributes
  simp [deserialize, Toml.setting, List.lookup, Toml.readBoolean, Toml.readString,
    Toml.readUnsigned_of_writeUnsigned interval, Toml.readUnsigned_of_writeUnsigned timeout,
    detailTier_deserialize_serialize, headersRead, attributesRead]

theorem listener_of_not_blank {listenAddr : String} (visible : isBlank listenAddr = false) :
    listener listenAddr = some listenAddr := by
  rw [listener, visible]
  rfl

/-- The type itself takes a missing address for none. -/
theorem PrometheusMetricsConfig.deserialize_serialize {prometheus : PrometheusMetricsConfig}
    (visible : prometheus.listenAddr.any isBlank = false) :
    PrometheusMetricsConfig.deserialize prometheus.serialize = some prometheus := by
  obtain ⟨listenAddr, allowNonLoopback, detailTier⟩ := prometheus
  cases listenAddr with
  | none =>
    simp [deserialize, serialize, Toml.setting, Toml.writeOption, List.lookup, Toml.readBoolean,
      detailTier_deserialize_serialize]
  | some listenAddr =>
    simp only [Option.any_some] at visible
    have kept := listener_of_not_blank visible
    simp [deserialize, serialize, Toml.setting, Toml.writeOption, List.lookup, Toml.readBoolean,
      detailTier_deserialize_serialize, deserializeOptionalListenAddr, Toml.readOption,
      Toml.readString, kept]

/-- The partial form takes it for "not given". -/
theorem PrometheusMetricsConfigPartial.deserialize_serialize (prometheus : PrometheusMetricsConfig) :
    PrometheusMetricsConfigPartial.deserialize prometheus.serialize =
      some { listenAddr := prometheus.listenAddr.map listener
             allowNonLoopback := some prometheus.allowNonLoopback
             detailTier := some prometheus.detailTier } := by
  obtain ⟨listenAddr, allowNonLoopback, detailTier⟩ := prometheus
  cases listenAddr <;>
    simp [deserialize, PrometheusMetricsConfig.serialize, Toml.setting, Toml.writeOption,
      List.lookup, Toml.readBoolean, detailTier_deserialize_serialize, Toml.readOption,
      deserializeOptionalListenAddrOptional, Toml.readString]

/-- What comes back: the default listener where there is none. -/
def AppConfig.reloaded (config : AppConfig) : AppConfig :=
  { config with
    metrics.prometheus.listenAddr :=
      config.metrics.prometheus.listenAddr.or ({} : PrometheusMetricsConfig).listenAddr }

theorem MetricsConfig.deserialize_serialize {metrics : MetricsConfig} {toml : Toml F64}
    (headers : Toml.Ascending metrics.otlp.headers)
    (attributes : Toml.Ascending metrics.otlp.resourceAttributes)
    (visible : metrics.prometheus.listenAddr.any isBlank = false)
    (written : metrics.serialize = some toml) :
    MetricsConfig.deserialize toml = some
      { metrics with
        prometheus.listenAddr :=
          metrics.prometheus.listenAddr.or ({} : PrometheusMetricsConfig).listenAddr } := by
  simp only [serialize, Option.bind_eq_bind, Option.bind_eq_some_iff, Option.pure_def,
    Option.some.injEq] at written
  obtain ⟨_, otlpWritten, rfl⟩ := written
  have otlpRead := OtlpMetricsConfig.deserialize_serialize headers attributes otlpWritten
  have prometheusRead := PrometheusMetricsConfigPartial.deserialize_serialize metrics.prometheus
  have kept : (metrics.prometheus.listenAddr.map listener).getD
      ({} : PrometheusMetricsConfig).listenAddr =
        metrics.prometheus.listenAddr.or ({} : PrometheusMetricsConfig).listenAddr := by
    cases given : metrics.prometheus.listenAddr with
    | none => rfl
    | some listenAddr =>
      rw [given, Option.any_some] at visible
      rw [Option.map_some, Option.getD_some, listener_of_not_blank visible, Option.some_or]
  simp [deserialize, MetricsConfigCompat.deserialize, Toml.setting, List.lookup, Toml.readOption,
    prometheusRead, otlpRead, PrometheusMetricsConfig.assign, kept]

theorem AppConfig.deserialize_serialize {config : AppConfig} {toml : Toml F64}
    (headers : Toml.Ascending config.metrics.otlp.headers)
    (attributes : Toml.Ascending config.metrics.otlp.resourceAttributes)
    (visible : config.metrics.prometheus.listenAddr.any isBlank = false)
    (written : config.serialize = some toml) :
    AppConfig.deserialize toml = some config.reloaded := by
  simp only [serialize, Option.bind_eq_bind, Option.bind_eq_some_iff, Option.pure_def,
    Option.some.injEq] at written
  obtain ⟨_, refresh, _, discovery, _, cleanup, _, history, _, tracked, _, points, _, thresholds, _,
    stream, _, persistence, _, metrics, rfl⟩ := written
  have metricsRead := MetricsConfig.deserialize_serialize headers attributes visible metrics
  simp [deserialize, Toml.setting, List.lookup, Toml.readUnsigned_of_writeUnsigned refresh,
    Toml.readUnsigned_of_writeUnsigned discovery, Toml.readUnsigned_of_writeUnsigned cleanup,
    Toml.readUnsigned_of_writeUnsigned history, Toml.readUnsigned_of_writeUnsigned tracked,
    Toml.readUnsigned_of_writeUnsigned points, HealthThresholds.deserialize_serialize thresholds,
    EventStreamConfig.deserialize_serialize stream,
    PersistenceConfig.deserialize_serialize persistence, metricsRead, AppConfig.reloaded]

theorem AppConfig.exists_serialize {config : AppConfig}
    (fits : ∀ setting ∈ config.integers, (setting : Int) ≤ i64Max) :
    ∃ toml, config.serialize = some toml := by
  have written : ∀ setting ∈ config.integers,
      Toml.writeUnsigned setting = some (.integer setting : Toml F64) := by
    intro setting member
    have bound := fits setting member
    unfold i64Max at bound
    exact Toml.writeUnsigned_of_lt (by omega)
  simp only [AppConfig.integers, List.forall_mem_cons] at written
  obtain ⟨refresh, discovery, cleanup, history, tracked, points, warnRtt, criticalRtt, warnSilence,
    criticalSilence, heartbeat, interval, days, samples, bytes, exportInterval, timeout, -⟩ := written
  simp [AppConfig.serialize, HealthThresholds.serialize, EventStreamConfig.serialize,
    PersistenceConfig.serialize, MetricsConfig.serialize, OtlpMetricsConfig.serialize, refresh,
    discovery, cleanup, history, tracked, points, warnRtt, criticalRtt, warnSilence,
    criticalSilence, heartbeat, interval, days, samples, bytes, exportInterval, timeout]

end Reading

end Moshwatch
