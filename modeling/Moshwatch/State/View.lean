import Moshwatch.State.Registry

namespace Moshwatch

namespace ServiceState

/-- The ages of an instrumented session grow since its last observation. -/
def agedMetrics (summary : SessionSummary) (nowMs : Int) : SessionMetrics :=
  if summary.kind = .instrumented && summary.lastObservedUnixMs < nowMs then
    let elapsedMs := (nowMs - summary.lastObservedUnixMs).toNat
    { summary.metrics with
      lastHeardAgeMs := some (satAdd (summary.metrics.lastHeardAgeMs.getD 0) elapsedMs)
      remoteStateAgeMs := some (satAdd (summary.metrics.remoteStateAgeMs.getD 0) elapsedMs) }
  else summary.metrics

def materializeSummary (config : AppConfig) (record : SessionRecord) (nowMs : Int) :
    SessionSummary :=
  let metrics := agedMetrics record.summary nowMs
  { record.summary with
    metrics
    health := classifyHealth record.summary.kind metrics config.thresholds }

def sessionSummary (state : ServiceState) (sessionId : String) (nowMs : Int) :
    Option SessionSummary :=
  (state.sessions.lookup sessionId).map fun record => materializeSummary state.config record nowMs

def sessionDetail (state : ServiceState) (sessionId : String) (nowMs : Int) :
    Option SessionSnapshot :=
  (state.sessions.lookup sessionId).map fun record =>
    let totalHistoryPoints := record.history.length
    let keptHistoryPoints := min totalHistoryPoints state.config.maxSessionDetailPoints
    let truncatedHistoryPoints := totalHistoryPoints - keptHistoryPoints
    (materializeSummary state.config record nowMs).withHistory totalHistoryPoints
      truncatedHistoryPoints (record.history.drop truncatedHistoryPoints)

theorem sessionDetail_summary (state : ServiceState) (sessionId : String) (nowMs : Int) :
    (state.sessionDetail sessionId nowMs).map SessionSnapshot.summary =
      state.sessionSummary sessionId nowMs := by
  rw [sessionDetail, sessionSummary, Option.map_map]
  rfl

end ServiceState

end Moshwatch
