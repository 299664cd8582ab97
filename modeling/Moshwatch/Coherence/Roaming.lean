import Moshwatch.Coherence.Report
import Moshwatch.State.Peer
import Moshwatch.State.View

namespace Moshwatch

open ServiceState (run)

def observedEndpoints (log : List Applied) : List String :=
  log.filterMap fun applied => sanitizeEndpoint applied.event.clientAddr

def Roamed (log : List Applied) : Prop :=
  ∃ first ∈ observedEndpoints log, ∃ second ∈ observedEndpoints log, first ≠ second

def AddressedAlike (history : List MetricPoint) : Prop :=
  ∀ first ∈ history, ∀ second ∈ history,
    first.currentClientAddr.isSome = second.currentClientAddr.isSome

namespace Traces

variable {config : AppConfig} {clocks : Set Int} {key : String} {record : SessionRecord}
  {log : List Applied}

theorem shown (traces : Traces config clocks key record log) {point : MetricPoint}
    (member : point ∈ record.history) {endpoint : String}
    (addressed : point.currentClientAddr = some endpoint) :
    endpoint ∈ observedEndpoints log ∧ isBlank endpoint = false := by
  obtain ⟨earlier, applied, later, whole, -, same⟩ := traces.recorded point member
  have sanitized : sanitizeEndpoint applied.event.clientAddr = some endpoint := by
    rw [same] at addressed
    exact addressed
  refine ⟨List.mem_filterMap.mpr ⟨applied, ?_, sanitized⟩, sanitizeEndpoint_visible sanitized⟩
  rw [whole]
  simp

structure PeerObserved (peer : SessionPeerInfo) (log : List Applied) : Prop where
  last : ∀ endpoint ∈ peer.lastClientAddr, endpoint ∈ observedEndpoints log
  previous : ∀ endpoint ∈ peer.previousClientAddr, endpoint ∈ observedEndpoints log

theorem peerObserved_blank : PeerObserved {} [] := by
  constructor <;> intro endpoint held <;> cases held

theorem peerObserved_applyClientPeer {summary : SessionSummary} (applied : Applied)
    (observed : PeerObserved summary.peer log) (observedAtUnixMs : Int) :
    PeerObserved
      (applyClientPeer summary (sanitizeEndpoint applied.event.clientAddr) observedAtUnixMs).peer
      (log ++ [applied]) := by
  have grown : ∀ endpoint, endpoint ∈ observedEndpoints (log ++ [applied]) ↔
      endpoint ∈ observedEndpoints log ∨
        sanitizeEndpoint applied.event.clientAddr = some endpoint := by
    intro endpoint
    simp [observedEndpoints, List.filterMap_append, eq_comm]
  have last : ∀ endpoint ∈ summary.peer.lastClientAddr,
      endpoint ∈ observedEndpoints (log ++ [applied]) :=
    fun endpoint held => (grown endpoint).mpr (.inl (observed.last endpoint held))
  have previous : ∀ endpoint ∈ summary.peer.previousClientAddr,
      endpoint ∈ observedEndpoints (log ++ [applied]) :=
    fun endpoint held => (grown endpoint).mpr (.inl (observed.previous endpoint held))
  cases reported : sanitizeEndpoint applied.event.clientAddr with
  | none => exact ⟨last, previous⟩
  | some clientAddr =>
    constructor
    · intro endpoint held
      cases held
      exact (grown clientAddr).mpr (.inr reported)
    · intro endpoint held
      cases known : summary.peer.lastClientAddr with
      | none =>
        simp only [applyClientPeer, known] at held
        exact previous endpoint held
      | some former =>
        simp only [applyClientPeer, known] at held
        split at held
        · cases held
          exact last _ known
        · exact previous endpoint held

theorem peerObserved (traces : Traces config clocks key record log) :
    PeerObserved record.summary.peer log := by
  induction traces with
  | discovered => exact peerObserved_blank
  | opened => exact peerObserved_blank
  | upgraded _ ih => exact ih
  | refreshed _ _ _ _ ih =>
    rw [ServiceState.refreshRecord_peer]
    exact ih
  | applied event startedAt read fits earlier ih =>
    rw [applyEvent_peer]
    exact peerObserved_applyClientPeer { before := _, event, receivedAt := _ } ih _

theorem roamed_of_snapshot (traces : Traces config clocks key record log)
    (sha256Hex : String → String) {summary : SessionSummary}
    (peer : summary.peer = record.summary.peer)
    (shifted : (buildCoherenceSnapshotFromSummary sha256Hex summary).routeShiftObserved = true) :
    Roamed log := by
  simp only [buildCoherenceSnapshotFromSummary, peer, Bool.and_eq_true, decide_eq_true_eq]
    at shifted
  obtain ⟨⟨⟨previous, last⟩, -⟩, differ⟩ := shifted
  obtain ⟨former, isPrevious⟩ := Option.isSome_iff_exists.mp previous
  obtain ⟨latest, isLast⟩ := Option.isSome_iff_exists.mp last
  refine ⟨former, traces.peerObserved.previous former isPrevious, latest,
    traces.peerObserved.last latest isLast, ?_⟩
  intro same
  rw [isPrevious, isLast, same] at differ
  exact differ rfl

theorem shift_sound_iff (traces : Traces config clocks key record log)
    (sha256Hex : String → String) (observer : ObserverInfo) {snapshot : SessionSnapshot}
    (exported : ∀ point ∈ snapshot.history, point ∈ record.history) :
    ((buildCoherenceSessionReport sha256Hex observer snapshot).ClaimsShift → Roamed log) ↔
      Roamed log ∨ AddressedAlike snapshot.history := by
  rw [claimsShift_iff_labels]
  constructor
  · intro sound
    by_contra neither
    simp only [not_or, AddressedAlike, not_forall] at neither
    obtain ⟨still, first, firstMember, second, secondMember, differ⟩ := neither
    apply still
    refine sound ⟨first, firstMember, second, secondMember, ?_⟩
    intro same
    have presence := congrArg Option.isSome same
    rw [isSome_endpointLabel sha256Hex fun _ shown =>
        (traces.shown (exported first firstMember) shown).2,
      isSome_endpointLabel sha256Hex fun _ shown =>
        (traces.shown (exported second secondMember) shown).2] at presence
    exact differ presence
  · rintro (roamed | alike) ⟨first, firstMember, second, secondMember, differ⟩
    · exact roamed
    · have presence := alike first firstMember second secondMember
      cases firstAddr : first.currentClientAddr with
      | none =>
        rw [firstAddr, Option.isSome_none, eq_comm, Option.isSome_eq_false_iff,
          Option.isNone_iff_eq_none] at presence
        exact absurd (by rw [firstAddr, presence]) differ
      | some endpoint =>
        rw [firstAddr, Option.isSome_some, eq_comm] at presence
        obtain ⟨other, secondAddr⟩ := Option.isSome_iff_exists.mp presence
        refine ⟨endpoint, (traces.shown (exported first firstMember) firstAddr).1, other,
          (traces.shown (exported second secondMember) secondAddr).1, ?_⟩
        intro same
        rw [firstAddr, secondAddr, same] at differ
        exact differ rfl

end Traces

/-- In every run, the snapshot of a session claims a shift only if its events reported two
    different endpoints. The report does so exactly if they did, or if the points of the exported
    history all carry an address or all carry none. -/
theorem coherence_sound_iff (sha256Hex : String → String) (observer : ObserverInfo)
    (config : AppConfig) (operations : List Operation) (key : String) (nowMs : Int)
    (detail : SessionSnapshot)
    (exported : (run config operations).sessionDetail key nowMs = some detail) :
    let log := (Journal.run config operations).log key
    ((buildCoherenceSnapshotFromSummary sha256Hex detail.summary).routeShiftObserved = true →
      Roamed log) ∧
    (((buildCoherenceSessionReport sha256Hex observer detail).ClaimsShift → Roamed log) ↔
      Roamed log ∨ AddressedAlike detail.history) := by
  intro log
  obtain ⟨record, found, rfl⟩ := Option.map_eq_some_iff.mp exported
  have traces : Traces config (Journal.clocks operations) key record log :=
    Journal.traces operations key record (by rw [Journal.run_state]; exact found)
  refine ⟨traces.roamed_of_snapshot sha256Hex rfl, traces.shift_sound_iff sha256Hex observer ?_⟩
  intro point member
  exact List.mem_of_mem_drop member

theorem coherence_sound_roamingTicks :
    ∃ detail, (run {} roamingTicks).sessionDetail "instrumented:10:1" 4000 = some detail ∧
      (buildCoherenceSessionReport sampleSha256Hex ⟨"node", "system"⟩ detail).ClaimsShift ∧
      Roamed ((Journal.run {} roamingTicks).log "instrumented:10:1") := by
  have addresses : ((run {} roamingTicks).sessionDetail "instrumented:10:1" 4000).map
      (fun detail => (detail.summary.peer, detail.history.map MetricPoint.currentClientAddr)) =
      some ({ currentClientAddr := some "198.51.100.7"
              lastClientAddr := some "198.51.100.7"
              previousClientAddr := some "203.0.113.9"
              lastClientSeenAtUnixMs := some 4000
              clientAddrChangedAtUnixMs := some 4000 },
        [some "198.51.100.7", some "203.0.113.9", none, some "198.51.100.7"]) := by
    decide +kernel
  obtain ⟨detail, exported, same⟩ := Option.map_eq_some_iff.mp addresses
  obtain ⟨peer, shown⟩ := Prod.mk.inj same
  have sound := coherence_sound_iff sampleSha256Hex ⟨"node", "system"⟩ {} roamingTicks _ 4000 detail
    exported
  have roamed : Roamed ((Journal.run {} roamingTicks).log "instrumented:10:1") := by
    apply sound.1
    simp [buildCoherenceSnapshotFromSummary, peer]
  refine ⟨detail, exported, ?_, roamed⟩
  rw [claimsShift_iff_labels]
  have point (addr : String) (listed : some addr ∈ detail.history.map MetricPoint.currentClientAddr) :
      ∃ point ∈ detail.history, point.currentClientAddr = some addr := List.mem_map.mp listed
  obtain ⟨first, firstMember, firstAddr⟩ := point "198.51.100.7" (by rw [shown]; simp)
  obtain ⟨second, secondMember, secondAddr⟩ := point "203.0.113.9" (by rw [shown]; simp)
  refine ⟨first, firstMember, second, secondMember, ?_⟩
  rw [firstAddr, secondAddr]
  decide +kernel

theorem unaddressed_fits :
    TelemetryEvent.fits { event := .sessionTick, pid := 1, unixMs := 2000 } = true := rfl

/-- Two ticks of one client, the second without its address. -/
def unaddressedTick : List Operation :=
  [.telemetry
      { event := .sessionTick, pid := 1, unixMs := 1000, clientAddr := some "192.0.2.1:60001" }
      10 1000 rfl,
    .telemetry { event := .sessionTick, pid := 1, unixMs := 2000 } 10 2000
      unaddressed_fits]

/-- The missing address opens a second epoch, which the report counts as a shift. -/
theorem unaddressedTick_shifts :
    ∃ detail, (run {} unaddressedTick).sessionDetail "instrumented:10:1" 2000 = some detail ∧
      ¬Roamed ((Journal.run {} unaddressedTick).log "instrumented:10:1") ∧
      ∀ sha256Hex observer,
        (buildCoherenceSessionReport sha256Hex observer detail).continuity.routeShiftCount = 1 := by
  have history : ((run {} unaddressedTick).sessionDetail "instrumented:10:1" 2000).map
      SessionSnapshot.history = some
        [{ unixMs := 1000, srttMs := none, retransmitPct10s := none, remoteStateAgeMs := none,
           currentClientAddr := some "192.0.2.1:60001" },
          { unixMs := 2000, srttMs := none, retransmitPct10s := none, remoteStateAgeMs := none,
            currentClientAddr := none }] := by decide +kernel
  have observed : observedEndpoints ((Journal.run {} unaddressedTick).log "instrumented:10:1") =
      ["192.0.2.1:60001"] := by decide +kernel
  obtain ⟨detail, exported, points⟩ := Option.map_eq_some_iff.mp history
  refine ⟨detail, exported, ?_, ?_⟩
  · rintro ⟨first, firstMember, second, secondMember, differ⟩
    rw [observed, List.mem_singleton] at firstMember secondMember
    exact differ (firstMember.trans secondMember.symm)
  · intro sha256Hex observer
    have visible : isBlank "192.0.2.1:60001" = false := by decide
    have epochs : (routeEpochs (coherencePoints sha256Hex detail)).length = 2 := by
      simp [coherencePoints, points, historyPoint, endpointLabel, Option.filter, visible, routeEpochs,
        RunLength.collect, RunLength.push, continuesEpoch, openEpoch, List.mergeSort,
        List.MergeSort.Internal.splitInTwo, List.splitAt, List.splitAt.go]
    simp only [buildCoherenceSessionReport, coherenceContinuity, epochs]

end Moshwatch
