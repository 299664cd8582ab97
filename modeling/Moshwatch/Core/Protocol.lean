import Moshwatch.Core.Number

namespace Moshwatch

def apiSchemaVersion : Nat := 5

inductive SessionKind where
  | instrumented
  | legacy
  deriving DecidableEq, Repr

inductive HealthState where
  | ok
  | degraded
  | critical
  | legacy
  deriving DecidableEq, Repr

inductive TelemetryEventKind where
  | sessionOpen
  | sessionTick
  | sessionClose
  deriving DecidableEq, Repr

structure RetransmitWindowBreakdown where
  transmissionsTotal : Option Nat := none
  retransmitsTotal : Option Nat := none
  stateUpdatesTotal : Option Nat := none
  emptyAcksTotal : Option Nat := none
  deriving DecidableEq

structure SessionMetrics where
  srttMs : Option F64 := none
  rttvarMs : Option F64 := none
  lastRttMs : Option F64 := none
  lastHeardAgeMs : Option Nat := none
  remoteStateAgeMs : Option Nat := none
  packetsTxTotal : Option Nat := none
  packetsRxTotal : Option Nat := none
  retransmitsTotal : Option Nat := none
  emptyAcksTxTotal : Option Nat := none
  stateUpdatesTxTotal : Option Nat := none
  stateUpdatesRxTotal : Option Nat := none
  duplicateStatesRxTotal : Option Nat := none
  outOfOrderStatesRxTotal : Option Nat := none
  retransmitPct10s : Option F64 := none
  retransmitPct60s : Option F64 := none
  retransmitWindow10sComplete : Bool := false
  retransmitWindow60sComplete : Bool := false
  retransmitWindow10sBreakdown : RetransmitWindowBreakdown := {}
  retransmitWindow60sBreakdown : RetransmitWindowBreakdown := {}
  deriving DecidableEq

structure MetricPoint where
  unixMs : Int
  srttMs : Option F64
  retransmitPct10s : Option F64
  remoteStateAgeMs : Option Nat
  currentClientAddr : Option String
  deriving DecidableEq

structure SessionPeerInfo where
  currentClientAddr : Option String := none
  lastClientAddr : Option String := none
  previousClientAddr : Option String := none
  lastClientSeenAtUnixMs : Option Int := none
  clientAddrChangedAtUnixMs : Option Int := none
  deriving DecidableEq

structure SessionSummary where
  sessionId : String
  displaySessionId : Option String
  pid : Int
  kind : SessionKind
  health : HealthState
  startedAtUnixMs : Int
  lastObservedUnixMs : Int
  counterResetUnixMs : Option Int
  bindAddr : Option String
  udpPort : Option Nat
  clientAddr : Option String
  peer : SessionPeerInfo
  cmdline : String
  metrics : SessionMetrics
  deriving DecidableEq

structure SessionSnapshot where
  summary : SessionSummary
  totalHistoryPoints : Nat
  truncatedHistoryPoints : Nat
  history : List MetricPoint
  deriving DecidableEq

structure TelemetryEvent where
  event : TelemetryEventKind
  displaySessionId : Option String := none
  pid : Int
  unixMs : Int
  startedAtUnixMs : Option Int := none
  bindAddr : Option String := none
  udpPort : Option Nat := none
  clientAddr : Option String := none
  lastHeardAgeMs : Option Nat := none
  remoteStateAgeMs : Option Nat := none
  srttMs : Option F64 := none
  rttvarMs : Option F64 := none
  lastRttMs : Option F64 := none
  packetsTxTotal : Option Nat := none
  packetsRxTotal : Option Nat := none
  retransmitsTotal : Option Nat := none
  emptyAcksTxTotal : Option Nat := none
  stateUpdatesTxTotal : Option Nat := none
  stateUpdatesRxTotal : Option Nat := none
  duplicateStatesRxTotal : Option Nat := none
  outOfOrderStatesRxTotal : Option Nat := none
  cmdline : Option String := none
  shutdown : Option Bool := none
  deriving DecidableEq

def TelemetryEvent.counters (event : TelemetryEvent) : List (Option Nat) :=
  [event.packetsTxTotal, event.packetsRxTotal, event.retransmitsTotal, event.emptyAcksTxTotal,
    event.stateUpdatesTxTotal, event.stateUpdatesRxTotal, event.duplicateStatesRxTotal,
    event.outOfOrderStatesRxTotal]

/-- The counters have the type `Option<u64>`. -/
def TelemetryEvent.fits (event : TelemetryEvent) : Bool :=
  event.counters.all fun counter => counter.all fun total => total ≤ u64Max

structure ObserverInfo where
  nodeName : String
  systemId : String
  deriving DecidableEq

structure HistorySample where
  observer : Option ObserverInfo
  recordedAtUnixMs : Int
  sessionId : String
  displaySessionId : Option String
  pid : Int
  kind : SessionKind
  health : HealthState
  startedAtUnixMs : Int
  counterResetUnixMs : Option Int
  bindAddr : Option String
  udpPort : Option Nat
  clientAddr : Option String
  currentClientAddr : Option String
  metrics : SessionMetrics
  deriving DecidableEq

structure HealthThresholds where
  warnRttMs : Nat := 400
  criticalRttMs : Nat := 1000
  warnRetransmitPct : F64 := .ofNat 2
  criticalRetransmitPct : F64 := .ofNat 10
  warnSilenceMs : Nat := 5000
  criticalSilenceMs : Nat := 15000
  deriving DecidableEq

def SessionSummary.withHistory (summary : SessionSummary) (totalHistoryPoints : Nat)
    (truncatedHistoryPoints : Nat) (history : List MetricPoint) : SessionSnapshot :=
  { summary, totalHistoryPoints, truncatedHistoryPoints, history }

def classifyHealth (kind : SessionKind) (metrics : SessionMetrics) (thresholds : HealthThresholds) :
    HealthState :=
  if kind = .legacy then .legacy
  else
    let rttCritical := metrics.srttMs.any (·.ge (.ofNat thresholds.criticalRttMs))
    let rttWarn := metrics.srttMs.any (·.ge (.ofNat thresholds.warnRttMs))
    let retransmitCritical := metrics.retransmitPct60s.any (·.ge thresholds.criticalRetransmitPct)
    let retransmitWarn := metrics.retransmitPct10s.any (·.ge thresholds.warnRetransmitPct) ||
      metrics.retransmitPct60s.any (·.ge thresholds.warnRetransmitPct)
    let silenceCritical := metrics.lastHeardAgeMs.any (thresholds.criticalSilenceMs ≤ ·)
    let silenceWarn := metrics.lastHeardAgeMs.any (thresholds.warnSilenceMs ≤ ·)
    if rttCritical || retransmitCritical || silenceCritical then .critical
    else if rttWarn || retransmitWarn || silenceWarn then .degraded
    else .ok

end Moshwatch
