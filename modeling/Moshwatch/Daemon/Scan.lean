import Moshwatch.Daemon.Discovered
import Moshwatch.Daemon.Terminate

namespace Moshwatch

namespace ServiceState

section Distinct

def DistinctPids (discovered : List DiscoveredSession) : Prop :=
  discovered.Pairwise fun left right => left.pid ≠ right.pid

theorem pid_eq_of_same_id {sessions : SessionMap} {left right : DiscoveredSession}
    (same : discoveredSessionId sessions left = discoveredSessionId sessions right) :
    left.pid = right.pid := by
  rcases discoveredSessionId_cases sessions left with ⟨first, -⟩ | ⟨first, -⟩ <;>
    rcases discoveredSessionId_cases sessions right with ⟨second, -⟩ | ⟨second, -⟩ <;>
    rw [first, second] at same
  · exact (instrumentedSessionId_inj.mp same).1
  · exact absurd same (instrumentedSessionId_ne_legacySessionId _ _ _ _)
  · exact absurd same.symm (instrumentedSessionId_ne_legacySessionId _ _ _ _)
  · exact (legacySessionId_inj.mp same).1

def scannedRecord (config : AppConfig) (nowMs : Int) (sessions : SessionMap)
    (session : DiscoveredSession) : SessionRecord :=
  let key := discoveredSessionId sessions session
  refreshRecord config session nowMs
    ((sessions.lookup key).getD (newLegacyRecord key session nowMs))

theorem lookup_foldl_discoverSession (config : AppConfig) (nowMs : Int)
    {discovered : List DiscoveredSession} (distinct : DistinctPids discovered) :
    ∀ (sessions : SessionMap) (seenIds : List String), ∀ session ∈ discovered,
      (discovered.foldl (discoverSession config nowMs) (sessions, seenIds)).1.lookup
          (discoveredSessionId sessions session) =
        some (scannedRecord config nowMs sessions session) := by
  induction discovered with
  | nil =>
    intro sessions seenIds session member
    cases member
  | cons first rest ih =>
    intro sessions seenIds session member
    obtain ⟨apart, distinct⟩ := List.pairwise_cons.mp distinct
    have same := fun other => @discoveredSessionId_discoverSession config nowMs sessions seenIds
      first other
    rw [List.foldl_cons]
    rcases List.mem_cons.mp member with rfl | later
    · have spec := loopSpec config nowMs rest (discoverSession config nowMs (sessions, seenIds)
        session).1 (discoverSession config nowMs (sessions, seenIds) session).2
      rw [spec.unlisted]
      · exact AList.lookup_insert _
      · intro other listed key
        rw [same] at key
        exact apart other listed (pid_eq_of_same_id key)
    · have tail := ih distinct (discoverSession config nowMs (sessions, seenIds) first).1
        (discoverSession config nowMs (sessions, seenIds) first).2 session later
      have other : discoveredSessionId sessions session ≠ discoveredSessionId sessions first :=
        fun key => apart session later (pid_eq_of_same_id key).symm
      have untouched : (discoverSession config nowMs (sessions, seenIds) first).1.lookup
          (discoveredSessionId sessions session) =
            sessions.lookup (discoveredSessionId sessions session) := by
        simp only [discoverSession, AList.lookup_insert_ne other]
      simp only [scannedRecord] at tail
      rw [same, untouched] at tail
      exact tail

variable {state : ServiceState} {discovered : List DiscoveredSession} {nowMs : Int}

theorem lookup_mergeDiscovery_of_distinct (distinct : DistinctPids discovered)
    {session : DiscoveredSession} (member : session ∈ discovered) :
    (state.mergeDiscovery discovered nowMs).sessions.lookup
        (discoveredSessionId state.sessions session) =
      some (scannedRecord state.config nowMs state.sessions session) := by
  have spec := mergeDiscovery_spec state discovered nowMs
  have placed := lookup_foldl_discoverSession state.config nowMs distinct state.sessions [] session
    member
  have seen := (spec.seen _).mpr (.inr ⟨session, member, rfl⟩)
  rw [mergeDiscovery, KeyedStore.lookup_retain, placed, Option.filter_some, if_pos]
  rw [keepsRecord, if_pos]
  simpa using seen

theorem size_foldl_discoverSession (config : AppConfig) (loop : SessionMap × List String) :
    (discovered.foldl (discoverSession config nowMs) loop).1.size ≤
      loop.1.size + discovered.length := by
  induction discovered generalizing loop with
  | nil => exact le_rfl
  | cons session rest ih =>
    have tail := ih (discoverSession config nowMs loop session)
    have grown : (discoverSession config nowMs loop session).1.size ≤ loop.1.size + 1 := by
      simp only [discoverSession]
      cases found : loop.1.lookup (discoveredSessionId loop.1 session) with
      | none => exact (KeyedStore.size_insert_of_lookup_none found _).le
      | some record =>
        rw [KeyedStore.size_insert_of_lookup found]
        exact Nat.le_succ _
    rw [List.foldl_cons, List.length_cons]
    omega

theorem size_mergeDiscovery_le :
    (state.mergeDiscovery discovered nowMs).sessions.size ≤
      state.sessions.size + discovered.length :=
  (KeyedStore.size_retain_le _ _).trans (size_foldl_discoverSession state.config _)

end Distinct

section Scanned

/-- The placeholder of a server after a scan. -/
structure Placeholder (machine : Machine) (display : Ipv6Addr → String) (nowMs : Int)
    (process : RunningProcess) (record : SessionRecord) : Prop where
  pid : record.summary.pid = process.stat.pid
  started : record.summary.startedAtUnixMs = machine.startedAtUnixMs process
  observed : record.summary.lastObservedUnixMs = nowMs
  health : record.summary.health = .legacy
  cmdline : record.summary.cmdline = sanitizeCmdline process.cmdline
  endpoint : (∃ addr port, machine.Holds process addr port) →
    ∃ addr port, machine.Holds process addr port ∧
      record.summary.bindAddr = some (addr.text display) ∧ record.summary.udpPort = some port.toNat

variable {machine : Machine} {build : Build} {currentExe : Option ExePath}
  {display : Ipv6Addr → String} {nowMs : Int} {state : ServiceState}

theorem placeholder_of_shows {process : RunningProcess} {session : DiscoveredSession}
    (shows : machine.Shows display process session) {config : AppConfig} {entry : SessionRecord}
    (legacy : entry.summary.kind = .legacy) :
    Placeholder machine display nowMs process (refreshRecord config session nowMs entry) := by
  rw [refreshRecord_legacy legacy]
  refine ⟨shows.pid, shows.started, rfl, rfl, shows.cmdline, ?_⟩
  intro ⟨addr, port, holds⟩
  cases address : session.bindAddr with
  | none => exact absurd holds (shows.unbound (.inl address) addr port)
  | some bindAddr =>
    cases number : session.udpPort with
    | none => exact absurd holds (shows.unbound (.inr number) addr port)
    | some udpPort =>
      obtain ⟨held, open_, own, rfl, rfl⟩ := shows.bound bindAddr udpPort address number
      exact ⟨held, open_, own, by simp, by simp⟩

theorem distinctPids_of_sorted {discovered : List DiscoveredSession}
    (sorted : (discovered.map DiscoveredSession.pid).Pairwise (· < ·)) : DistinctPids discovered :=
  (List.pairwise_map.mp sorted).imp fun order => order.ne

theorem tracksAs_of_listed (identities : state.Identities) {sessions : SessionMap}
    {session : DiscoveredSession} {record : SessionRecord}
    (tracked : state.sessions.lookup (discoveredSessionId sessions session) = some record) :
    state.TracksAs session.pid session.startedAtUnixMs record := by
  refine ⟨_, tracked, ?_⟩
  rcases (identities.identified _ record tracked).2 with ⟨-, own⟩ | ⟨-, own⟩ <;>
    rcases discoveredSessionId_cases sessions session with ⟨named, -⟩ | ⟨named, -⟩ <;>
    rw [named] at own
  · have same := instrumentedSessionId_inj.mp own
    exact ⟨same.1.symm, same.2.symm⟩
  · exact absurd own.symm (instrumentedSessionId_ne_legacySessionId _ _ _ _)
  · exact absurd own (instrumentedSessionId_ne_legacySessionId _ _ _ _)
  · have same := legacySessionId_inj.mp own
    exact ⟨same.1.symm, same.2.symm⟩

variable {config : AppConfig} {operations : List Operation}

/-- What a scan of a machine that stands still has found where the cap has room, and the state that
    it leaves. -/
theorem discoveryTick_machine
    (room : (run config operations).sessions.size +
      (machine.sessions currentExe display).length ≤ config.maxTrackedSessions) :
    ∃ sessions : List DiscoveredSession,
      DistinctPids sessions ∧
      (∀ process ∈ machine.processes, machine.Serves currentExe process →
        ∃ session ∈ sessions, machine.Shows display process session) ∧
      (∀ session ∈ sessions, ∃ process ∈ machine.processes, machine.Serves currentExe process ∧
        machine.Shows display process session) ∧
      (run config operations).discoveryTick
          (machine.procFs.discoverMoshSessions build currentExe display) nowMs =
        (run config operations).mergeDiscovery sessions nowMs ∧
      (run config operations).mergeDiscovery sessions nowMs =
        run config (operations ++ [.discovery sessions nowMs]) := by
  have scanned := @Machine.discoverMoshSessions_procFs machine build currentExe display
  have distinct := distinctPids_of_sorted (machine.sessions_pids currentExe display)
  have complete := @Machine.session_of_serves machine currentExe display
  have sound := @Machine.serves_of_session machine currentExe display
  have length := @List.length_mergeSort _ (fun left right : DiscoveredSession =>
    decide (left.pid ≤ right.pid)) (machine.sessions currentExe display)
  generalize (machine.sessions currentExe display).mergeSort (fun left right =>
    left.pid ≤ right.pid) = sessions at scanned distinct complete sound length
  have within : ((run config operations).mergeDiscovery sessions nowMs).sessions.size ≤
      ((run config operations).mergeDiscovery sessions nowMs).config.maxTrackedSessions := by
    have grown := @size_mergeDiscovery_le (run config operations) sessions nowMs
    rw [mergeDiscovery_config, run_config]
    omega
  have merged : (run config operations).refreshDiscovery sessions nowMs =
      (run config operations).mergeDiscovery sessions nowMs := enforceSessionCap_of_le within
  refine ⟨sessions, distinct, fun process => complete, fun session => sound, ?_, ?_⟩
  · rw [scanned]
    exact merged
  · rw [run_concat]
    exact merged.symm

theorem tracks_servers
    (room : (run config operations).sessions.size +
      (machine.sessions currentExe display).length ≤ config.maxTrackedSessions)
    {process : RunningProcess} (member : process ∈ machine.processes)
    (serves : machine.Serves currentExe process) :
    ∃ record, ((run config operations).discoveryTick
      (machine.procFs.discoverMoshSessions build currentExe display) nowMs).TracksAs
        process.stat.pid (machine.startedAtUnixMs process) record := by
  obtain ⟨sessions, -, complete, -, merged, reached⟩ :=
    @discoveryTick_machine machine build currentExe display nowMs config operations room
  obtain ⟨session, listed, shows⟩ := complete process member serves
  obtain ⟨record, tracked⟩ :=
    @lookup_mergeDiscovery_listed (run config operations) _ nowMs _ ⟨session, listed, rfl⟩
  have own := tracksAs_of_listed (reached ▸ identities_run config _) tracked
  rw [shows.pid, shows.started] at own
  rw [merged]
  exact ⟨record, own⟩

end Scanned

/-- Where the cap has room, a scan of a machine that stands still tracks each of its servers, and
    every placeholder that is tracked after it is that of a server, as the kernel shows it, or has
    been observed within its grace. -/
theorem scan_tracks (config : AppConfig) (operations : List Operation) (fit : config.CutoffsFit)
    (machine : Machine) (build : Build) (currentExe : Option ExePath)
    (display : Ipv6Addr → String) (nowMs : Int)
    (room : (run config operations).sessions.size +
      (machine.sessions currentExe display).length ≤ config.maxTrackedSessions) :
    let before := run config operations
    let after := before.discoveryTick
      (machine.procFs.discoverMoshSessions build currentExe display) nowMs
    (∀ process ∈ machine.processes, machine.Serves currentExe process →
      ∃ record, after.TracksAs process.stat.pid (machine.startedAtUnixMs process) record) ∧
    ∀ key record, after.sessions.lookup key = some record → record.summary.kind = .legacy →
      (∃ process ∈ machine.processes, machine.Serves currentExe process ∧
        Placeholder machine display nowMs process record) ∨
      before.sessions.lookup key = some record ∧
        nowMs - record.summary.lastObservedUnixMs < max (config.discoveryIntervalMs : Int) 5000 := by
  intro before after
  refine ⟨fun process member serves => tracks_servers room member serves, ?_⟩
  obtain ⟨sessions, distinct, -, sound, merged, -⟩ :=
    @discoveryTick_machine machine build currentExe display nowMs config operations room
  have config_eq : before.config = config := run_config config operations
  intro key record found legacy
  change (before.discoveryTick _ nowMs).sessions.lookup key = some record at found
  rw [merged] at found
  by_cases lists : before.Lists sessions key
  · left
    obtain ⟨session, listed, rfl⟩ := lists
    obtain ⟨process, member, serves, shows⟩ := sound session listed
    rw [lookup_mergeDiscovery_of_distinct distinct listed, Option.some.injEq] at found
    subst found
    rw [scannedRecord, refreshRecord_kind] at legacy
    exact ⟨process, member, serves, placeholder_of_shows shows legacy⟩
  · right
    rw [lookup_mergeDiscovery_unlisted lists, Option.filter_eq_some_iff, config_eq,
      keepsRecord_unseen fit, decide_eq_true_eq, SessionRecord.graceMs, if_neg] at found
    · exact found
    · simp [legacy]

theorem room_smallMachine :
    (run {} []).sessions.size + (smallMachine.sessions none fun _ => "").length ≤
      ({} : AppConfig).maxTrackedSessions := by
  have few : (smallMachine.sessions none fun _ => "").length ≤ 1 := by
    rw [Machine.sessions, List.length_map]
    exact List.length_filter_le _ smallMachine.processes
  have none : (run {} []).sessions.size = 0 := rfl
  have cap : ({} : AppConfig).maxTrackedSessions = 2048 := rfl
  omega

theorem scan_tracks_tricky :
    ∃ record, ((run {} []).discoveryTick
      (smallMachine.procFs.discoverMoshSessions .debug none fun _ => "") 2000).TracksAs 7
        (smallMachine.startedAtUnixMs trickyServer) record :=
  (scan_tracks {} [] ⟨by decide, by decide⟩ smallMachine .debug none (fun _ => "") 2000
    room_smallMachine).1 trickyServer mem_smallMachine serves_trickyServer

end ServiceState

end Moshwatch
