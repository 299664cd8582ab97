import Moshwatch.Core.Protocol
import Moshwatch.Core.Text

namespace Moshwatch

inductive MetricsDetailTier where
  | aggregateOnly
  | perSession
  deriving DecidableEq, Repr

def MetricsDetailTier.includesSessions : MetricsDetailTier → Bool
  | .perSession => true
  | .aggregateOnly => false

structure EventStreamConfig where
  heartbeatMs : Nat := 15000
  deriving DecidableEq

structure PersistenceConfig where
  enabled : Bool := true
  sampleIntervalMs : Nat := 5000
  retentionDays : Nat := 14
  maxQuerySamples : Nat := 4096
  maxDiskBytes : Nat := 512 * 1024 * 1024
  deriving DecidableEq

structure PrometheusMetricsConfig where
  listenAddr : Option String := some "127.0.0.1:9947"
  allowNonLoopback : Bool := false
  detailTier : MetricsDetailTier := .perSession
  deriving DecidableEq

/-- The two `BTreeMap`s are lists of pairs in key order. -/
structure OtlpMetricsConfig where
  enabled : Bool := false
  endpoint : String := "http://127.0.0.1:4318/v1/metrics"
  exportIntervalMs : Nat := 15000
  timeoutMs : Nat := 5000
  detailTier : MetricsDetailTier := .aggregateOnly
  headers : List (String × String) := []
  resourceAttributes : List (String × String) := []
  deriving DecidableEq

structure MetricsConfig where
  prometheus : PrometheusMetricsConfig := {}
  otlp : OtlpMetricsConfig := {}
  deriving DecidableEq

structure AppConfig where
  refreshMs : Nat := 1000
  discoveryIntervalMs : Nat := 5000
  cleanupIntervalMs : Nat := 10000
  historySecs : Nat := 15 * 60
  maxTrackedSessions : Nat := 2048
  maxSessionDetailPoints : Nat := 15 * 60
  thresholds : HealthThresholds := {}
  stream : EventStreamConfig := {}
  persistence : PersistenceConfig := {}
  metrics : MetricsConfig := {}
  deriving DecidableEq

/-- The parts of a parsed `http::Uri` that validation looks at. -/
structure Uri where
  scheme : Option String
  hasAuthority : Bool

/-- The parsers of the `http` crate: `Uri`, `HeaderName` (its lower-case form) and
    whether `HeaderValue::from_str` accepts. -/
structure HttpCrate where
  parseUri : String → Option Uri
  parseHeaderName : String → Option String
  acceptsHeaderValue : String → Bool

/-- `anyhow::bail!` under a condition. -/
def bailIf (condition : Bool) (message : String) : Except String Unit :=
  if condition then .error message else .ok ()

def otlpResourceAttributeReservedKeys : List String :=
  ["service.name", "service.version", "service.instance.id", "moshwatch.observer.node_name",
    "moshwatch.observer.system_id"]

def eqIgnoreAsciiCase (left right : String) : Bool :=
  left.toList.map Char.toLower = right.toList.map Char.toLower

def isReservedOtlpResourceAttributeKey (key : String) : Bool :=
  otlpResourceAttributeReservedKeys.any fun reserved => eqIgnoreAsciiCase key reserved

section Validate

variable (http : HttpCrate)

def validateOtlpHeader (name value : String) : Except String Unit := do
  bailIf (isBlank name) "metrics.otlp.headers cannot contain an empty header name"
  match http.parseHeaderName name with
  | none => .error "metrics.otlp.headers contains invalid HTTP header name"
  | some headerName =>
    bailIf (headerName = "accept" || headerName = "content-type")
      "metrics.otlp.headers cannot override reserved OTLP header"
    bailIf (!http.acceptsHeaderValue value)
      "metrics.otlp.headers contains invalid HTTP header value"

/-- `endpoint.contains("://")`. -/
def containsScheme (endpoint : String) : Bool :=
  endpoint.toList.tails.any fun tail => tail.take 3 = "://".toList

def validateOtlpEndpoint (endpoint : String) : Except String Unit := do
  bailIf (!containsScheme endpoint)
    "metrics.otlp.endpoint must include http:// or https:// scheme"
  match http.parseUri endpoint with
  | none => .error "metrics.otlp.endpoint must be a valid HTTP URL"
  | some parsed =>
    match parsed.scheme with
    | none => .error "metrics.otlp.endpoint must include http:// or https:// scheme"
    | some scheme =>
      bailIf (scheme ≠ "http" && scheme ≠ "https")
        "metrics.otlp.endpoint must use http or https scheme"
      bailIf (!parsed.hasAuthority)
        "metrics.otlp.endpoint must include a host (and optional port)"

def validateOtlp (otlp : OtlpMetricsConfig) : Except String Unit :=
  if otlp.enabled then do
    bailIf (isBlank otlp.endpoint)
      "metrics.otlp.endpoint cannot be empty when OTLP export is enabled"
    bailIf (otlp.endpoint ≠ trim otlp.endpoint)
      "metrics.otlp.endpoint must not contain leading or trailing whitespace"
    validateOtlpEndpoint http (trim otlp.endpoint)
    bailIf (otlp.exportIntervalMs = 0)
      "metrics.otlp.export_interval_ms must be greater than zero"
    bailIf (otlp.timeoutMs = 0) "metrics.otlp.timeout_ms must be greater than zero"
  else .ok ()

def AppConfig.validate (config : AppConfig) : Except String Unit := do
  bailIf (config.refreshMs = 0) "refresh_ms must be greater than zero"
  bailIf (config.refreshMs < 100) "refresh_ms must be at least 100"
  bailIf (config.discoveryIntervalMs = 0) "discovery_interval_ms must be greater than zero"
  bailIf (config.discoveryIntervalMs < 500) "discovery_interval_ms must be at least 500"
  bailIf (config.cleanupIntervalMs = 0) "cleanup_interval_ms must be greater than zero"
  bailIf (config.cleanupIntervalMs < 1000) "cleanup_interval_ms must be at least 1000"
  bailIf (config.historySecs = 0) "history_secs must be greater than zero"
  bailIf (24 * 60 * 60 < config.historySecs) "history_secs must be less than or equal to 86400"
  bailIf (config.maxTrackedSessions = 0) "max_tracked_sessions must be greater than zero"
  bailIf (10000 < config.maxTrackedSessions)
    "max_tracked_sessions must be less than or equal to 10000"
  bailIf (config.maxSessionDetailPoints = 0)
    "max_session_detail_points must be greater than zero"
  bailIf (20000 < config.maxSessionDetailPoints)
    "max_session_detail_points must be less than or equal to 20000"
  bailIf (config.stream.heartbeatMs = 0) "stream.heartbeat_ms must be greater than zero"
  bailIf (config.persistence.sampleIntervalMs = 0)
    "persistence.sample_interval_ms must be greater than zero"
  bailIf (config.persistence.sampleIntervalMs < 1000)
    "persistence.sample_interval_ms must be at least 1000"
  bailIf (config.persistence.retentionDays = 0)
    "persistence.retention_days must be greater than zero"
  bailIf (366 < config.persistence.retentionDays)
    "persistence.retention_days must be less than or equal to 366"
  bailIf (config.persistence.maxQuerySamples = 0)
    "persistence.max_query_samples must be greater than zero"
  bailIf (20000 < config.persistence.maxQuerySamples)
    "persistence.max_query_samples must be less than or equal to 20000"
  bailIf (config.persistence.maxDiskBytes = 0)
    "persistence.max_disk_bytes must be greater than zero"
  bailIf (64 * 1024 * 1024 * 1024 < config.persistence.maxDiskBytes)
    "persistence.max_disk_bytes must be less than or equal to 68719476736"
  bailIf (config.thresholds.criticalRttMs < config.thresholds.warnRttMs)
    "warn_rtt_ms must be less than or equal to critical_rtt_ms"
  bailIf (!config.thresholds.warnRetransmitPct.isFinite ||
      config.thresholds.warnRetransmitPct.partialCmp (.ofNat 0) = some .lt)
    "warn_retransmit_pct must be a finite non-negative number"
  bailIf (!config.thresholds.criticalRetransmitPct.isFinite ||
      config.thresholds.criticalRetransmitPct.partialCmp (.ofNat 0) = some .lt)
    "critical_retransmit_pct must be a finite non-negative number"
  bailIf (config.thresholds.warnRetransmitPct.partialCmp
      config.thresholds.criticalRetransmitPct = some .gt)
    "warn_retransmit_pct must be less than or equal to critical_retransmit_pct"
  bailIf (config.thresholds.criticalSilenceMs < config.thresholds.warnSilenceMs)
    "warn_silence_ms must be less than or equal to critical_silence_ms"
  bailIf (config.metrics.prometheus.listenAddr.any isBlank)
    "metrics.prometheus.listen_addr cannot be empty when provided"
  validateOtlp http config.metrics.otlp
  config.metrics.otlp.headers.forM fun (name, value) => validateOtlpHeader http name value
  config.metrics.otlp.resourceAttributes.forM fun (name, _) => do
    bailIf (isBlank name) "metrics.otlp.resource_attributes cannot contain an empty key"
    bailIf (isReservedOtlpResourceAttributeKey name)
      ("metrics.otlp.resource_attributes cannot override reserved OTLP key " ++ name)
  bailIf (config.cleanupIntervalMs < config.discoveryIntervalMs)
    "cleanup_interval_ms must be greater than or equal to discovery_interval_ms"

/-- A configuration the daemon runs with: `load_config` hands out validated ones only. -/
structure ValidConfig extends AppConfig where
  valid : toAppConfig.validate http = .ok ()

/-- The settings that are unsigned integers. -/
def AppConfig.integers (config : AppConfig) : List Nat :=
  [config.refreshMs, config.discoveryIntervalMs, config.cleanupIntervalMs, config.historySecs,
    config.maxTrackedSessions, config.maxSessionDetailPoints, config.thresholds.warnRttMs,
    config.thresholds.criticalRttMs, config.thresholds.warnSilenceMs,
    config.thresholds.criticalSilenceMs, config.stream.heartbeatMs,
    config.persistence.sampleIntervalMs, config.persistence.retentionDays,
    config.persistence.maxQuerySamples, config.persistence.maxDiskBytes,
    config.metrics.otlp.exportIntervalMs, config.metrics.otlp.timeoutMs]

/-- A configuration read from a file: a TOML integer is an `i64`. -/
structure LoadedConfig extends ValidConfig http where
  written : ∀ setting ∈ toAppConfig.integers, (setting : Int) ≤ i64Max

end Validate

theorem bailIf_eq_ok {condition : Bool} {message : String} :
    bailIf condition message = .ok () ↔ condition = false := by
  cases condition <;> simp [bailIf]

theorem bind_eq_ok {first rest : Except String Unit} :
    (first >>= fun _ => rest) = .ok () ↔ first = .ok () ∧ rest = .ok () := by
  cases first with
  | ok value => exact ⟨fun passed => ⟨rfl, passed⟩, fun passed => passed.2⟩
  | error message =>
    constructor
    · intro failed; cases failed
    · intro failed; cases failed.1

structure AppConfig.InBounds (config : AppConfig) : Prop where
  discovery : 500 ≤ config.discoveryIntervalMs
  cleanup : config.discoveryIntervalMs ≤ config.cleanupIntervalMs ∧ 1000 ≤ config.cleanupIntervalMs
  history : 1 ≤ config.historySecs ∧ config.historySecs ≤ 86400
  tracked : 1 ≤ config.maxTrackedSessions ∧ config.maxTrackedSessions ≤ 10000
  points : 1 ≤ config.maxSessionDetailPoints ∧ config.maxSessionDetailPoints ≤ 20000

theorem AppConfig.validate_bounds {http : HttpCrate} {config : AppConfig}
    (valid : config.validate http = .ok ()) : config.InBounds := by
  simp only [AppConfig.validate, bind_eq_ok, bailIf_eq_ok, decide_eq_false_iff_not] at valid
  obtain ⟨-, -, -, discovery, -, cleanup, historyZero, history, trackedZero, tracked, pointsZero,
    points, -, -, -, -, -, -, -, -, -, -, -, -, -, -, -, -, -, -, order⟩ := valid
  exact ⟨by omega, ⟨by omega, by omega⟩, ⟨by omega, by omega⟩, ⟨by omega, by omega⟩,
    ⟨by omega, by omega⟩⟩

theorem ValidConfig.bounds {http : HttpCrate} (config : ValidConfig http) :
    config.toAppConfig.InBounds := AppConfig.validate_bounds config.valid

end Moshwatch
