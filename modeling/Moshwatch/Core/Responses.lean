import Moshwatch.Coherence.Redaction
import Moshwatch.Core.Config

namespace Moshwatch

def adapterContractVersion : String := "moshwatch-adapter-contract-v1"

structure ApiSessionsResponse where
  schemaVersion : Nat
  observer : ObserverInfo
  generatedAtUnixMs : Int
  totalSessions : Nat
  truncatedSessionCount : Nat
  droppedSessionsTotal : Nat
  sessions : List SessionSummary
  deriving DecidableEq

structure ApiSessionResponse where
  schemaVersion : Nat
  observer : ObserverInfo
  generatedAtUnixMs : Int
  session : SessionSnapshot
  deriving DecidableEq

structure ApiCoherenceSessionsResponse where
  schemaVersion : Nat
  observer : ObserverInfo
  generatedAtUnixMs : Int
  totalSessions : Nat
  truncatedSessionCount : Nat
  sessions : List CoherenceSessionReport
  deriving DecidableEq

structure ApiCoherenceSessionResponse where
  schemaVersion : Nat
  observer : ObserverInfo
  generatedAtUnixMs : Int
  session : CoherenceSessionReport
  deriving DecidableEq

structure ApiCoherenceExportResponse where
  schemaVersion : Nat
  observer : ObserverInfo
  generatedAtUnixMs : Int
  exported : CoherenceExportEnvelope
  deriving DecidableEq

structure AdapterExportSurface where
  surfaceId : String
  routeTemplate : String
  exportVersion : String
  privacyProfile : String
  description : String
  stableForExternalAdapters : Bool
  deriving DecidableEq

structure ApiAdapterCapabilitiesResponse where
  schemaVersion : Nat
  observer : ObserverInfo
  generatedAtUnixMs : Int
  adapterContractVersion : String
  daemonLoadsExternalCode : Bool
  exportSurfaces : List AdapterExportSurface
  deriving DecidableEq

def adapterExportSurfaces : List AdapterExportSurface :=
  [{ surfaceId := "coherence_export"
     routeTemplate := "/v1/coherence/exports/\x7bsession_id\x7d"
     exportVersion := coherenceExportVersion
     privacyProfile := "metadata-only-redaction-v1"
     description := "Redacted route-continuity export for external diagnostics adapters."
     stableForExternalAdapters := true }]

structure ApiMetricsConfig where
  listenAddr : Option String
  allowNonLoopback : Bool
  detailTier : MetricsDetailTier
  otlp : OtlpMetricsConfig
  deriving DecidableEq

structure ApiAppConfig where
  refreshMs : Nat
  discoveryIntervalMs : Nat
  cleanupIntervalMs : Nat
  historySecs : Nat
  maxTrackedSessions : Nat
  maxSessionDetailPoints : Nat
  thresholds : HealthThresholds
  stream : EventStreamConfig
  persistence : PersistenceConfig
  metrics : ApiMetricsConfig
  deriving DecidableEq

/-- `From<&AppConfig>`. -/
def AppConfig.toApi (config : AppConfig) : ApiAppConfig :=
  { refreshMs := config.refreshMs
    discoveryIntervalMs := config.discoveryIntervalMs
    cleanupIntervalMs := config.cleanupIntervalMs
    historySecs := config.historySecs
    maxTrackedSessions := config.maxTrackedSessions
    maxSessionDetailPoints := config.maxSessionDetailPoints
    thresholds := config.thresholds
    stream := config.stream
    persistence := config.persistence
    metrics :=
      { listenAddr := config.metrics.prometheus.listenAddr
        allowNonLoopback := config.metrics.prometheus.allowNonLoopback
        detailTier := config.metrics.prometheus.detailTier
        otlp := config.metrics.otlp } }

structure ApiConfigResponse where
  schemaVersion : Nat
  observer : ObserverInfo
  generatedAtUnixMs : Int
  config : ApiAppConfig
  deriving DecidableEq

structure ApiHistoryResponse where
  schemaVersion : Nat
  observer : ObserverInfo
  generatedAtUnixMs : Int
  sessionId : String
  samples : List HistorySample
  deriving DecidableEq

end Moshwatch
