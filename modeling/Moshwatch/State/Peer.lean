import Moshwatch.General.Changes
import Moshwatch.State.Windows

namespace Moshwatch

open Changes

/-- The addresses that the events of a log carried, each with the normalised time of its event. -/
def clientAddresses (log : List Applied) : List (String × Int) :=
  log.filterMap fun applied =>
    (sanitizeEndpoint applied.event.clientAddr).map fun clientAddr => (clientAddr, applied.unixMs)

def CarriesAddress (log : List Applied) : Prop :=
  ∃ latest, log.getLast? = some latest ∧ sanitizeEndpoint latest.event.clientAddr ≠ none

/-- What the peer fields of a summary say of the addresses seen so far. -/
structure PeerSpec (log : List Applied) (summary : SessionSummary) : Prop where
  last : summary.peer.lastClientAddr = (clientAddresses log).getLast?.map Prod.fst
  shown : summary.clientAddr = (clientAddresses log).getLast?.map Prod.fst
  last_none : summary.peer.lastClientAddr = none ↔ clientAddresses log = []
  current : (∃ final, (clientAddresses log).getLast? = some final ∧
    summary.peer.currentClientAddr = some final.1) ↔ CarriesAddress log
  current_none : ¬ CarriesAddress log → summary.peer.currentClientAddr = none
  seen : summary.peer.lastClientSeenAtUnixMs = (clientAddresses log).getLast?.map Prod.snd
  previous : ∀ address, summary.peer.previousClientAddr = some address →
    ∃ former latter, LastChange (clientAddresses log) former latter ∧ address = former.1 ∧
      summary.peer.clientAddrChangedAtUnixMs = some latter.2
  previous_none : summary.peer.previousClientAddr = none ↔ Steady (clientAddresses log)
  changed : summary.peer.clientAddrChangedAtUnixMs.isSome = summary.peer.previousClientAddr.isSome
  differs : ∀ address, summary.peer.previousClientAddr = some address →
    summary.peer.lastClientAddr ≠ some address
  changed_le : ∀ changedAt seenAt, summary.peer.clientAddrChangedAtUnixMs = some changedAt →
    summary.peer.lastClientSeenAtUnixMs = some seenAt → changedAt ≤ seenAt
  seen_le : ∀ seenAt, summary.peer.lastClientSeenAtUnixMs = some seenAt →
    seenAt ≤ summary.lastObservedUnixMs

def ChangeRecorded (addresses : List (String × Int)) (peer : SessionPeerInfo) : Prop :=
  (Steady addresses ∧ peer.previousClientAddr = none ∧ peer.clientAddrChangedAtUnixMs = none) ∨
    ∃ former latter, LastChange addresses former latter ∧
      peer.previousClientAddr = some former.1 ∧ peer.clientAddrChangedAtUnixMs = some latter.2

/-- The peer holds the last address and the last change of a list of addresses. -/
structure PeerHolds (addresses : List (String × Int)) (peer : SessionPeerInfo) : Prop where
  last : peer.lastClientAddr = addresses.getLast?.map Prod.fst
  seen : peer.lastClientSeenAtUnixMs = addresses.getLast?.map Prod.snd
  change : ChangeRecorded addresses peer

/-- The addresses are in order of time, none of them after `now`. -/
structure Chronological (now : Int) (addresses : List (String × Int)) : Prop where
  ordered : (addresses.map Prod.snd).Pairwise (· ≤ ·)
  past : ∀ address ∈ addresses, address.2 ≤ now

theorem Chronological.concat {now later : Int} {addresses : List (String × Int)}
    (chronological : Chronological now addresses) (passed : now ≤ later) (clientAddr : String) :
    Chronological later (addresses ++ [(clientAddr, later)]) := by
  constructor
  · rw [List.map_append, List.pairwise_append]
    refine ⟨chronological.ordered, List.pairwise_singleton _ _, ?_⟩
    intro time member last isLast
    obtain ⟨address, held, rfl⟩ := List.mem_map.mp member
    rw [List.mem_singleton.mp isLast]
    exact (chronological.past address held).trans passed
  · intro address member
    rcases List.mem_append.mp member with member | member
    · exact (chronological.past address member).trans passed
    · rw [List.mem_singleton.mp member]

theorem Chronological.mono {now later : Int} {addresses : List (String × Int)}
    (chronological : Chronological now addresses) (passed : now ≤ later) :
    Chronological later addresses :=
  ⟨chronological.ordered, fun address member => (chronological.past address member).trans passed⟩

theorem peerHolds_blank : PeerHolds [] {} :=
  ⟨rfl, rfl, .inl ⟨steady_nil, rfl, rfl⟩⟩

theorem PeerHolds.reported {addresses : List (String × Int)} {summary : SessionSummary}
    (holds : PeerHolds addresses summary.peer) (clientAddr : String) (observedAtUnixMs : Int) :
    PeerHolds (addresses ++ [(clientAddr, observedAtUnixMs)])
      (applyClientPeer summary (some clientAddr) observedAtUnixMs).peer := by
  refine ⟨by simp [applyClientPeer], by simp [applyClientPeer], ?_⟩
  cases isLast : addresses.getLast? with
  | none =>
    have known := holds.last
    rw [isLast, Option.map_none] at known
    have empty := List.getLast?_eq_none_iff.mp isLast
    rcases holds.change with ⟨-, previous, changedAt⟩ | ⟨former, latter, change, -⟩
    · left
      simp only [applyClientPeer, known]
      exact ⟨by rw [empty]; exact steady_singleton _, previous, changedAt⟩
    · have member := change.latter_mem
      simp [empty] at member
  | some last =>
    have known := holds.last
    rw [isLast, Option.map_some] at known
    simp only [ChangeRecorded, applyClientPeer, known]
    by_cases same : clientAddr = last.1
    · rw [if_neg (by simp [same])]
      rcases holds.change with ⟨steady, previous, changedAt⟩ | ⟨former, latter, change, recorded⟩
      · exact .inl ⟨steady.concat isLast same, previous, changedAt⟩
      · exact .inr ⟨former, latter, change.concat (same.trans (change.last_eq isLast)), recorded⟩
    · rw [if_pos (by simpa using Ne.symm same)]
      exact .inr ⟨last, _, lastChange_concat_of_ne isLast same, rfl, rfl⟩

theorem PeerHolds.silent {addresses : List (String × Int)} {summary : SessionSummary}
    (holds : PeerHolds addresses summary.peer) (observedAtUnixMs : Int) :
    PeerHolds addresses (applyClientPeer summary none observedAtUnixMs).peer :=
  ⟨holds.last, holds.seen, holds.change⟩

section Holds

variable {addresses : List (String × Int)} {peer : SessionPeerInfo}

theorem PeerHolds.previous_eq_some (holds : PeerHolds addresses peer) {address : String}
    (held : peer.previousClientAddr = some address) :
    ∃ former latter, LastChange addresses former latter ∧ address = former.1 ∧
      peer.clientAddrChangedAtUnixMs = some latter.2 := by
  rcases holds.change with ⟨-, none, -⟩ | ⟨former, latter, change, previous, changedAt⟩
  · rw [none] at held
    cases held
  · rw [previous, Option.some.injEq] at held
    exact ⟨former, latter, change, held.symm, changedAt⟩

theorem PeerHolds.changedAt_eq_some (holds : PeerHolds addresses peer) {changedAt : Int}
    (held : peer.clientAddrChangedAtUnixMs = some changedAt) :
    ∃ former latter, LastChange addresses former latter ∧ changedAt = latter.2 := by
  rcases holds.change with ⟨-, -, none⟩ | ⟨former, latter, change, -, recorded⟩
  · rw [none] at held
    cases held
  · rw [recorded, Option.some.injEq] at held
    exact ⟨former, latter, change, held.symm⟩

theorem PeerHolds.previous_eq_none (holds : PeerHolds addresses peer) :
    peer.previousClientAddr = none ↔ Steady addresses := by
  rcases holds.change with ⟨steady, none, -⟩ | ⟨former, latter, change, previous, -⟩
  · exact iff_of_true none steady
  · exact iff_of_false (by simp [previous]) change.not_steady

theorem PeerHolds.isSome_changedAt (holds : PeerHolds addresses peer) :
    peer.clientAddrChangedAtUnixMs.isSome = peer.previousClientAddr.isSome := by
  rcases holds.change with ⟨-, none, changedAt⟩ | ⟨former, latter, -, previous, changedAt⟩
  · rw [none, changedAt]
    rfl
  · rw [previous, changedAt]
    rfl

end Holds

theorem clientAddresses_concat (log : List Applied) (applied : Applied) :
    clientAddresses (log ++ [applied]) =
      match sanitizeEndpoint applied.event.clientAddr with
      | some clientAddr => clientAddresses log ++ [(clientAddr, applied.unixMs)]
      | none => clientAddresses log := by
  rw [clientAddresses, List.filterMap_append]
  cases reported : sanitizeEndpoint applied.event.clientAddr <;>
    simp [clientAddresses, reported]

structure ShowsLatest (log : List Applied) (summary : SessionSummary) : Prop where
  shown : summary.clientAddr = summary.peer.lastClientAddr
  current : summary.peer.currentClientAddr =
    log.getLast?.bind fun latest => sanitizeEndpoint latest.event.clientAddr

theorem ShowsLatest.current_eq_some {log : List Applied} {summary : SessionSummary}
    (shows : ShowsLatest log summary) (carries : CarriesAddress log) :
    ∃ final, (clientAddresses log).getLast? = some final ∧
      summary.peer.currentClientAddr = some final.1 := by
  obtain ⟨latest, isLatest, carries⟩ := carries
  obtain ⟨clientAddr, reported⟩ := Option.ne_none_iff_exists'.mp carries
  obtain ⟨front, rfl⟩ := List.getLast?_eq_some_iff.mp isLatest
  refine ⟨(clientAddr, latest.unixMs), ?_, ?_⟩
  · rw [clientAddresses_concat, reported]
    simp
  · rw [shows.current, isLatest, Option.bind_some, reported]

theorem ShowsLatest.current_eq_none {log : List Applied} {summary : SessionSummary}
    (shows : ShowsLatest log summary) (silent : ¬CarriesAddress log) :
    summary.peer.currentClientAddr = none := by
  rw [shows.current, Option.bind_eq_none_iff]
  intro latest isLatest
  by_contra carries
  exact silent ⟨latest, isLatest, carries⟩

theorem applyEvent_clientAddr (config : AppConfig) (sessionId : String) (event : TelemetryEvent)
    (startedAt receivedAt : Int) (entry : SessionRecord) :
    let applied := applyEvent config sessionId event startedAt receivedAt entry
    applied.summary.clientAddr = applied.summary.peer.lastClientAddr := by
  simp only [applyEvent, applyCmdline_clientAddr, applyCmdline_peer]
  cases sanitizeEndpoint event.clientAddr <;> rfl

namespace Traces

variable {config : AppConfig} {clocks : Set Int} {key : String} {record : SessionRecord}
  {log : List Applied}

theorem peerHolds (traces : Traces config clocks key record log) :
    PeerHolds (clientAddresses log) record.summary.peer := by
  induction traces with
  | discovered => exact peerHolds_blank
  | opened => exact peerHolds_blank
  | upgraded _ ih => exact ih
  | refreshed _ _ _ _ ih =>
    rw [ServiceState.refreshRecord_peer]
    exact ih
  | applied event startedAt read fits earlier ih =>
    rw [applyEvent_peer, clientAddresses_concat]
    cases sanitizeEndpoint event.clientAddr with
    | none => exact ih.silent _
    | some clientAddr => exact ih.reported clientAddr _

theorem showsLatest (traces : Traces config clocks key record log) :
    ShowsLatest log record.summary := by
  induction traces with
  | discovered => exact ⟨rfl, rfl⟩
  | opened => exact ⟨rfl, rfl⟩
  | upgraded _ ih => exact ⟨ih.shown, ih.current⟩
  | @refreshed key record log session nowMs read named earlier ih =>
    have kept : (ServiceState.refreshRecord config session nowMs record).summary.clientAddr =
        record.summary.clientAddr := by
      cases kind : record.summary.kind with
      | legacy => rw [ServiceState.refreshRecord_legacy kind]
      | instrumented => rw [ServiceState.refreshRecord_instrumented kind]
    constructor
    · rw [kept, ServiceState.refreshRecord_peer, ih.shown]
    · rw [ServiceState.refreshRecord_peer, ih.current]
  | applied event startedAt read fits earlier ih =>
    refine ⟨applyEvent_clientAddr config _ event startedAt _ _, ?_⟩
    rw [applyEvent_peer, applyClientPeer_currentClientAddr, List.getLast?_append_of_ne_nil _ (by simp)]
    rfl

theorem chronological (traces : Traces config clocks key record log) :
    Chronological record.summary.lastObservedUnixMs (clientAddresses log) := by
  induction traces with
  | discovered => exact ⟨List.Pairwise.nil, by simp [clientAddresses]⟩
  | opened => exact ⟨List.Pairwise.nil, by simp [clientAddresses]⟩
  | upgraded _ ih => exact ih
  | @refreshed key record log session nowMs read named earlier ih =>
    cases kind : record.summary.kind with
    | legacy =>
      rcases earlier.identified.named with ⟨instrumented, -⟩ | ⟨-, empty, -⟩
      · rw [instrumented] at kind
        cases kind
      · subst empty
        exact ⟨List.Pairwise.nil, by simp [clientAddresses]⟩
    | instrumented =>
      rw [ServiceState.refreshRecord_instrumented kind]
      exact ih
  | @applied record log event startedAt receivedAt read fits earlier ih =>
    obtain ⟨-, -, -, -, observed, -⟩ := applyEvent_identity config
      (instrumentedSessionId event.pid startedAt) event startedAt receivedAt record
    have passed := lastObserved_le_normalize record.summary event.unixMs receivedAt
    rw [observed, clientAddresses_concat]
    cases sanitizeEndpoint event.clientAddr with
    | none => exact ih.mono passed
    | some clientAddr => exact ih.concat passed clientAddr

theorem peerSpec (traces : Traces config clocks key record log) : PeerSpec log record.summary := by
  have holds := traces.peerHolds
  have latest := traces.showsLatest
  obtain ⟨ordered, past⟩ := traces.chronological
  refine
    { last := holds.last, seen := holds.seen
      shown := latest.shown.trans holds.last
      last_none := by rw [holds.last, Option.map_eq_none_iff, List.getLast?_eq_none_iff]
      current := ⟨?_, latest.current_eq_some⟩
      current_none := latest.current_eq_none
      previous := fun address => holds.previous_eq_some
      previous_none := holds.previous_eq_none
      changed := holds.isSome_changedAt
      differs := ?_, changed_le := ?_, seen_le := ?_ }
  · rintro ⟨final, -, held⟩
    by_contra silent
    rw [latest.current_eq_none silent] at held
    cases held
  · intro address held same
    obtain ⟨former, latter, change, rfl, -⟩ := holds.previous_eq_some held
    rw [holds.last, Option.map_eq_some_iff] at same
    obtain ⟨final, isLast, same⟩ := same
    exact change.1 (same.symm.trans (change.last_eq isLast))
  · intro changedAt seenAt held reported
    obtain ⟨former, latter, change, rfl⟩ := holds.changedAt_eq_some held
    rw [holds.seen, Option.map_eq_some_iff] at reported
    obtain ⟨final, isLast, rfl⟩ := reported
    exact le_last ordered isLast change.latter_mem
  · intro seenAt reported
    rw [holds.seen, Option.map_eq_some_iff] at reported
    obtain ⟨final, isLast, rfl⟩ := reported
    exact past final (List.mem_of_getLast? isLast)

end Traces

/-- The peer of every tracked record says of the addresses of its events what the fields mean. -/
theorem peer_fold (config : AppConfig) (operations : List Operation) :
    ∀ key record, (ServiceState.run config operations).sessions.lookup key = some record →
      PeerSpec ((Journal.run config operations).log key) record.summary := by
  intro key record found
  have traces : Traces config (Journal.clocks operations) key record
      ((Journal.run config operations).log key) :=
    Journal.traces operations key record (by rw [Journal.run_state]; exact found)
  exact traces.peerSpec

/-- A client that roams away, falls silent and comes back. -/
def roamingTicks : List Operation :=
  [.telemetry { event := .sessionTick, pid := 1, unixMs := 1000, clientAddr := some "198.51.100.7" }
      10 1000 rfl,
    .telemetry { event := .sessionTick, pid := 1, unixMs := 2000, clientAddr := some "203.0.113.9" }
      10 2000 rfl,
    .telemetry { event := .sessionTick, pid := 1, unixMs := 3000 } 10 3000 rfl,
    .telemetry { event := .sessionTick, pid := 1, unixMs := 4000, clientAddr := some "198.51.100.7" }
      10 4000 rfl]

theorem peer_fold_roamingTicks :
    ∃ record, (ServiceState.run {} roamingTicks).sessions.lookup "instrumented:10:1" = some record ∧
      PeerSpec ((Journal.run {} roamingTicks).log "instrumented:10:1") record.summary := by
  cases found : (ServiceState.run {} roamingTicks).sessions.lookup "instrumented:10:1" with
  | none => exact absurd found (by decide +kernel)
  | some record => exact ⟨record, rfl, peer_fold {} roamingTicks _ record found⟩

end Moshwatch
