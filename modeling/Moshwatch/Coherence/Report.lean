import Moshwatch.Core.Protocol
import Moshwatch.Core.Text
import Moshwatch.General.RunLength

namespace Moshwatch

structure CoherenceRouteEpoch where
  epochIndex : Nat
  startUnixMs : Int
  endUnixMs : Int
  sampleCount : Nat
  endpointLabel : Option String
  endpointValueRetained : Bool
  deriving DecidableEq

structure CoherenceContinuitySummary where
  stableSessionIdentity : Bool
  routeEpochCount : Nat
  routeShiftCount : Nat
  historySampleCount : Nat
  maxSampleGapMs : Option Int
  recoveryAfterDrift : Bool
  livenessSignalPresent : Bool
  packetCounterSignalPresent : Bool
  retransmitSignalPresent : Bool
  deriving DecidableEq

structure CoherenceAdjudication where
  decision : String
  confidenceScore : F64
  falseStitchRejected : Bool
  caveats : List String
  deriving DecidableEq

structure CoherenceSafetyBoundary where
  defensiveObservabilityOnly : Bool
  packetPayloadRetained : Bool
  rawPacketCaptureRetained : Bool
  sessionKeysRetained : Bool
  terminalContentRetained : Bool
  endpointValuesRedacted : Bool
  applicationSemanticsInferred : Bool
  deriving DecidableEq

structure CoherenceSessionSnapshot where
  sessionIdLabel : String
  kind : SessionKind
  health : HealthState
  routeShiftObserved : Bool
  endpointValuesRetained : Bool
  confidenceScore : F64
  deriving DecidableEq

structure CoherenceSessionReport where
  reportVersion : String
  observerLabel : String
  sessionIdLabel : String
  displaySessionIdPresent : Bool
  kind : SessionKind
  health : HealthState
  udpPortObserved : Bool
  routeEpochs : List CoherenceRouteEpoch
  continuity : CoherenceContinuitySummary
  adjudication : CoherenceAdjudication
  safetyBoundary : CoherenceSafetyBoundary
  deriving DecidableEq

structure CoherencePoint where
  unixMs : Int
  label : Option String
  liveness : Bool
  quality : Bool
  packets : Bool
  deriving DecidableEq

def safetyBoundary : CoherenceSafetyBoundary :=
  { defensiveObservabilityOnly := true
    packetPayloadRetained := false
    rawPacketCaptureRetained := false
    sessionKeysRetained := false
    terminalContentRetained := false
    endpointValuesRedacted := true
    applicationSemanticsInferred := false }

/-- Every term is a small whole number, so that the `f64` sum is exact. -/
def coherenceConfidenceScore (continuity : CoherenceContinuitySummary) (udpPortObserved : Bool) :
    F64 :=
  .ofNat
    ((if continuity.stableSessionIdentity then 20 else 0) +
      (if udpPortObserved then 10 else 0) +
      (if 1 ≤ continuity.routeEpochCount then 10 else 0) +
      (if 1 ≤ continuity.routeShiftCount then 20 else 0) +
      (if continuity.recoveryAfterDrift then 20 else 0) +
      (if continuity.livenessSignalPresent then 10 else 0) +
      (if continuity.packetCounterSignalPresent then 10 else 0))

def coherenceDecision (confidenceScore : F64) (routeShiftCount : Nat) : String :=
  if confidenceScore.ge (.ofNat 85) && 0 < routeShiftCount then "coherent_roaming_session_observed"
  else if confidenceScore.ge (.ofNat 70) then "coherent_session_observed_without_roaming_claim"
  else "insufficient_coherence_signal"

def continuesEpoch (epoch : CoherenceRouteEpoch) (point : CoherencePoint) : Bool :=
  epoch.endpointLabel = point.label

def extendEpoch (epoch : CoherenceRouteEpoch) (point : CoherencePoint) : CoherenceRouteEpoch :=
  { epoch with endUnixMs := point.unixMs, sampleCount := epoch.sampleCount + 1 }

def openEpoch (epochIndex : Nat) (point : CoherencePoint) : CoherenceRouteEpoch :=
  { epochIndex
    startUnixMs := point.unixMs
    endUnixMs := point.unixMs
    sampleCount := 1
    endpointLabel := point.label
    endpointValueRetained := false }

def routeEpochs (points : List CoherencePoint) : List CoherenceRouteEpoch :=
  RunLength.collect continuesEpoch extendEpoch openEpoch points

def maxSampleGapMs (points : List CoherencePoint) : Option Int :=
  (List.zipWith (fun point next => satSubI64 next.unixMs point.unixMs) points points.tail).max?

section Labels

variable (sha256Hex : String → String)

def stableDigestLabel (value label : String) : String :=
  label ++ "-" ++ String.ofList ((sha256Hex value).toList.take 12)

def endpointLabel (value : Option String) : Option String :=
  (value.filter fun value => !isBlank value).map fun value =>
    stableDigestLabel sha256Hex value "endpoint"

def observerLabel (observer : ObserverInfo) : String :=
  stableDigestLabel sha256Hex (observer.nodeName ++ ":" ++ observer.systemId) "observer"

def buildCoherenceSnapshotFromSummary (summary : SessionSummary) : CoherenceSessionSnapshot :=
  let routeShiftObserved := summary.peer.previousClientAddr.isSome &&
    summary.peer.lastClientAddr.isSome &&
    summary.peer.clientAddrChangedAtUnixMs.isSome &&
    summary.peer.previousClientAddr ≠ summary.peer.lastClientAddr
  { sessionIdLabel := stableDigestLabel sha256Hex summary.sessionId "session"
    kind := summary.kind
    health := summary.health
    routeShiftObserved
    endpointValuesRetained := false
    confidenceScore :=
      if summary.kind = .instrumented then (if routeShiftObserved then .ofNat 90 else .ofNat 72)
      else .ofNat 25 }

def historyPoint (point : MetricPoint) : CoherencePoint :=
  { unixMs := point.unixMs
    label := endpointLabel sha256Hex point.currentClientAddr
    liveness := point.remoteStateAgeMs.isSome
    quality := point.srttMs.isSome || point.retransmitPct10s.isSome
    packets := false }

/-- The point that stands in for an empty history. -/
def summaryPoint (summary : SessionSummary) : CoherencePoint :=
  { unixMs := summary.lastObservedUnixMs
    label := endpointLabel sha256Hex
      ((summary.peer.currentClientAddr.or summary.peer.lastClientAddr).or summary.clientAddr)
    liveness := summary.metrics.lastHeardAgeMs.isSome || summary.metrics.remoteStateAgeMs.isSome
    quality := summary.metrics.srttMs.isSome || summary.metrics.lastRttMs.isSome ||
      summary.metrics.retransmitPct10s.isSome || summary.metrics.retransmitPct60s.isSome
    packets := summary.metrics.packetsTxTotal.isSome || summary.metrics.packetsRxTotal.isSome }

def coherencePoints (snapshot : SessionSnapshot) : List CoherencePoint :=
  let points := snapshot.history.map (historyPoint sha256Hex)
  let points := if points = [] then [summaryPoint sha256Hex snapshot.summary] else points
  points.mergeSort fun point next => point.unixMs ≤ next.unixMs

def coherenceContinuity (snapshot : SessionSnapshot) (points : List CoherencePoint)
    (epochs : List CoherenceRouteEpoch) : CoherenceContinuitySummary :=
  let summary := snapshot.summary
  let routeShiftCount := epochs.length - 1
  let livenessSignalPresent := points.any CoherencePoint.liveness ||
    summary.metrics.lastHeardAgeMs.isSome || summary.metrics.remoteStateAgeMs.isSome
  let packetCounterSignalPresent := points.any CoherencePoint.packets ||
    summary.metrics.packetsTxTotal.isSome || summary.metrics.packetsRxTotal.isSome
  { stableSessionIdentity := !isBlank summary.sessionId && summary.kind = .instrumented
    routeEpochCount := epochs.length
    routeShiftCount
    historySampleCount := snapshot.history.length
    maxSampleGapMs := maxSampleGapMs points
    recoveryAfterDrift := 0 < routeShiftCount && livenessSignalPresent &&
      (packetCounterSignalPresent || summary.metrics.stateUpdatesRxTotal.isSome)
    livenessSignalPresent
    packetCounterSignalPresent
    retransmitSignalPresent := summary.metrics.retransmitPct10s.isSome ||
      summary.metrics.retransmitPct60s.isSome ||
      snapshot.history.any fun point => point.retransmitPct10s.isSome }

def buildCoherenceSessionReport (observer : ObserverInfo) (snapshot : SessionSnapshot) :
    CoherenceSessionReport :=
  let summary := snapshot.summary
  let points := coherencePoints sha256Hex snapshot
  let epochs := routeEpochs points
  let continuity := coherenceContinuity snapshot points epochs
  let confidenceScore := coherenceConfidenceScore continuity summary.udpPort.isSome
  let caveats := ["metadata-only defensive observability",
    "does not retain Mosh session keys, packet contents, terminal content, or packet captures"]
  { reportVersion := "moshwatch-coherence-session-report-v1"
    observerLabel := observerLabel sha256Hex observer
    sessionIdLabel := stableDigestLabel sha256Hex summary.sessionId "session"
    displaySessionIdPresent := summary.displaySessionId.isSome
    kind := summary.kind
    health := summary.health
    udpPortObserved := summary.udpPort.isSome
    routeEpochs := epochs
    continuity
    adjudication :=
      { decision := coherenceDecision confidenceScore continuity.routeShiftCount
        confidenceScore
        falseStitchRejected := true
        caveats :=
          if continuity.routeShiftCount = 0 then
            caveats ++ ["no endpoint drift observed in the exported window"]
          else caveats }
    safetyBoundary }

def CoherenceSessionReport.ClaimsShift (report : CoherenceSessionReport) : Prop :=
  0 < report.continuity.routeShiftCount ∨
    report.adjudication.decision = "coherent_roaming_session_observed"

theorem coherenceDecision_roaming {confidenceScore : F64} {routeShiftCount : Nat}
    (roaming : coherenceDecision confidenceScore routeShiftCount =
      "coherent_roaming_session_observed") : 0 < routeShiftCount := by
  unfold coherenceDecision at roaming
  split at roaming
  · rename_i claimed
    simp only [Bool.and_eq_true, decide_eq_true_eq] at claimed
    exact claimed.2
  · split at roaming <;> exact absurd roaming (by decide)

theorem routeEpochs_labelled :
    RunLength.Labelled continuesEpoch extendEpoch openEpoch CoherenceRouteEpoch.endpointLabel
      CoherencePoint.label :=
  ⟨fun _ _ => decide_eq_true_iff, fun _ _ => rfl, fun _ _ => rfl⟩

theorem claimsShift_iff (observer : ObserverInfo) (snapshot : SessionSnapshot) :
    (buildCoherenceSessionReport sha256Hex observer snapshot).ClaimsShift ↔
      1 < (routeEpochs (coherencePoints sha256Hex snapshot)).length := by
  constructor
  · rintro (shifted | roaming)
    · exact Nat.lt_of_sub_pos shifted
    · exact Nat.lt_of_sub_pos (coherenceDecision_roaming roaming)
  · intro several
    exact .inl (Nat.sub_pos_of_lt several)

theorem mem_coherencePoints {snapshot : SessionSnapshot} (nonempty : snapshot.history ≠ [])
    (point : CoherencePoint) :
    point ∈ coherencePoints sha256Hex snapshot ↔
      ∃ recorded ∈ snapshot.history, historyPoint sha256Hex recorded = point := by
  have mapped : snapshot.history.map (historyPoint sha256Hex) ≠ [] := by simpa using nonempty
  simp only [coherencePoints, if_neg mapped, List.mem_mergeSort, List.mem_map]

theorem claimsShift_iff_labels (observer : ObserverInfo) (snapshot : SessionSnapshot) :
    (buildCoherenceSessionReport sha256Hex observer snapshot).ClaimsShift ↔
      ∃ first ∈ snapshot.history, ∃ second ∈ snapshot.history,
        endpointLabel sha256Hex first.currentClientAddr ≠
          endpointLabel sha256Hex second.currentClientAddr := by
  rw [claimsShift_iff, ← not_le, routeEpochs, routeEpochs_labelled.length_le_one_iff]
  by_cases empty : snapshot.history = []
  · simp [coherencePoints, empty]
  · simp only [mem_coherencePoints sha256Hex empty]
    push Not
    constructor
    · rintro ⟨_, ⟨first, firstMember, rfl⟩, _, ⟨second, secondMember, rfl⟩, differ⟩
      exact ⟨first, firstMember, second, secondMember, differ⟩
    · rintro ⟨first, firstMember, second, secondMember, differ⟩
      exact ⟨_, ⟨first, firstMember, rfl⟩, _, ⟨second, secondMember, rfl⟩, differ⟩

theorem isSome_endpointLabel {value : Option String}
    (visible : ∀ endpoint, value = some endpoint → isBlank endpoint = false) :
    (endpointLabel sha256Hex value).isSome = value.isSome := by
  cases value with
  | none => rfl
  | some endpoint => simp [endpointLabel, Option.filter, visible endpoint rfl]

end Labels

/-- SHA-256 on the texts of the samples. -/
def sampleSha256Hex (text : String) : String :=
  if text = "198.51.100.7" then "e183220b699c10a83ca7be3433d228ed0860a5ecf9480f83e9655f16bad58908"
  else if text = "203.0.113.9" then
    "d861b7e91033ebc1c1e8e7af3929010158b3241b54ca87ef73e79c32f26400ec"
  else if text = "instrumented:10:1" then
    "5e0682ca829f237926d70ff965ee80274fbfee16bec1f46bad07ce7c2de08bed"
  else if text = "node:system" then
    "52247b54032236d3de2aa3e7c73d7eac58bc10cbbb35dce19cee3bce27ecdc44"
  else ""

end Moshwatch
