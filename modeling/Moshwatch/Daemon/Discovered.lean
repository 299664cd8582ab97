import Moshwatch.Daemon.Machine

namespace Moshwatch

namespace Machine

section Sockets

variable (machine : Machine) (display : Ipv6Addr → String)

def sockets : UdpSockets := withRows display (withRows display ∅ machine.udp) machine.udp6

theorem loadUdpSockets_procFs :
    machine.procFs.loadUdpSockets display = .ok (machine.sockets display) := by
  have first := addUdpSockets_udpTable display ∅ machine.headers_plain.1 machine.udp
  have second := addUdpSockets_udpTable display (withRows display ∅ machine.udp)
    machine.headers_plain.2 machine.udp6
  simp only [ProcFs.loadUdpSockets, procFs, context, bind, Except.bind, first, second, sockets]

def Holds (process : RunningProcess) (addr : IpAddr) (port : UInt16) : Prop :=
  ∃ row ∈ machine.udp ++ machine.udp6, .socket row.inode ∈ process.descriptors ∧ row.addr = addr ∧
    row.port = port

theorem lookup_sockets {inode : Nat} {info : UdpSocketInfo}
    (found : (machine.sockets display).lookup inode = some info) :
    ∃ row ∈ machine.udp ++ machine.udp6, row.inode = inode ∧ row.info display = info := by
  rcases lookup_withRows display found with ⟨row, listed, shown⟩ | earlier
  · exact ⟨row, List.mem_append_right _ listed, shown⟩
  · rcases lookup_withRows display earlier with ⟨row, listed, shown⟩ | absent
    · exact ⟨row, List.mem_append_left _ listed, shown⟩
    · rw [AList.lookup_empty] at absent
      cases absent

theorem lookup_sockets_of_mem {row : UdpRow} (listed : row ∈ machine.udp ++ machine.udp6) :
    (machine.sockets display).lookup row.inode ≠ none := by
  apply lookup_withRows_of_mem
  rcases List.mem_append.mp listed with first | second
  · exact .inl (lookup_withRows_of_mem display (.inr ⟨row, first, rfl⟩))
  · exact .inr ⟨row, second, rfl⟩

variable {machine} {process : RunningProcess} (member : process ∈ machine.processes)
  (readable : process.readable = true)

include member readable

theorem readProcessSocket_procFs :
    machine.procFs.readProcessSocket process.pid (machine.sockets display) =
      (process.descriptors.map Descriptor.target).findSome? fun target =>
        (socketInodeFromFdTarget (Utf8.lossy target)).bind (machine.sockets display).lookup := by
  have fds : (machine.procFs.dir process.pid).fds =
      some (process.descriptors.map fun descriptor => some descriptor.target) := by
    rw [dir_procFs member]
    simp only [RunningProcess.dir, readable, if_true]
  have links : (process.descriptors.map fun descriptor => some descriptor.target).reduceOption =
      process.descriptors.map Descriptor.target := by
    simp [List.reduceOption, List.filterMap_map]
  simp only [ProcFs.readProcessSocket, fds, Option.bind_eq_bind, Option.bind_some, links]

theorem holds_of_found {info : UdpSocketInfo}
    (found : machine.procFs.readProcessSocket process.pid (machine.sockets display) = some info) :
    ∃ addr port, machine.Holds process addr port ∧ info = ⟨addr.text display, port⟩ := by
  rw [readProcessSocket_procFs display member readable] at found
  obtain ⟨target, link, lookedUp⟩ := List.exists_of_findSome?_eq_some found
  obtain ⟨descriptor, held, rfl⟩ := List.mem_map.mp link
  rw [Descriptor.socketInodeFromFdTarget_target (process.descriptors_printed descriptor held)]
    at lookedUp
  obtain ⟨inode, own, tracked⟩ := Option.bind_eq_some_iff.mp lookedUp
  obtain ⟨row, listed, rfl, shown⟩ := machine.lookup_sockets display tracked
  cases descriptor with
  | socket other =>
    cases own
    exact ⟨row.addr, row.port, ⟨row, listed, held, rfl, rfl⟩, shown.symm⟩
  | other target => cases own

theorem not_holds_of_none
    (absent : machine.procFs.readProcessSocket process.pid (machine.sockets display) = none)
    (addr : IpAddr) (port : UInt16) : ¬ machine.Holds process addr port := by
  rw [readProcessSocket_procFs display member readable] at absent
  intro ⟨row, listed, held, _⟩
  have unread := List.findSome?_eq_none_iff.mp absent _ (List.mem_map_of_mem held)
  rw [Descriptor.socketInodeFromFdTarget_target (process.descriptors_printed _ held)] at unread
  exact machine.lookup_sockets_of_mem display listed unread

end Sockets

section Entries

/-- The daemon may read the process, and it runs an executable that the daemon supports. -/
def Serves (machine : Machine) (currentExe : Option ExePath) (process : RunningProcess) : Prop :=
  process.readable = true ∧ (machine.shown process).IsMoshServer currentExe

instance (machine : Machine) (currentExe : Option ExePath) (process : RunningProcess) :
    Decidable (machine.Serves currentExe process) := inferInstanceAs (Decidable (_ ∧ _ = true))

/-- The entry of discovery for a process. -/
def session (machine : Machine) (display : Ipv6Addr → String) (process : RunningProcess) :
    DiscoveredSession :=
  let socket := machine.procFs.readProcessSocket process.pid (machine.sockets display)
  { pid := process.pid.toInt
    startedAtUnixMs := machine.startedAtUnixMs process
    bindAddr := socket.map UdpSocketInfo.bindAddr
    udpPort := socket.map fun value => value.udpPort.toNat
    cmdline := sanitizeCmdline process.cmdline }

def sessions (machine : Machine) (currentExe : Option ExePath) (display : Ipv6Addr → String) :
    List DiscoveredSession :=
  (machine.processes.filter fun process => machine.Serves currentExe process).map
    (machine.session display)

theorem exists_fileName {currentExe : Option ExePath} {exePath : ExePath}
    (supported : isSupportedMoshServerPath currentExe exePath = true) :
    ∃ exeName, (exePath.fileName.filter fun name => name ≠ "") = some exeName := by
  cases base : exePath.fileName with
  | none => simp [isSupportedMoshServerPath, base] at supported
  | some exeName =>
    have named : exeName ≠ "" := by
      rintro rfl
      simp [isSupportedMoshServerPath, base, isSupportedMoshServerExe] at supported
    exact ⟨exeName, by simp [named]⟩

variable {machine : Machine} {build : Build} {currentExe : Option ExePath}
  {display : Ipv6Addr → String}

theorem discoverEntry_process {process : RunningProcess} (member : process ∈ machine.processes) :
    machine.procFs.discoverEntry build currentExe (machine.sockets display) machine.clock
        (some process.name) =
      .ok (if machine.Serves currentExe process then some (machine.session display process)
        else none) := by
  have pid : (some process.name).bind (fun name => parseI32 name.toList) = some process.pid :=
    process.parseI32_name
  simp only [ProcFs.discoverEntry, pid]
  cases readable : process.readable with
  | false =>
    have hidden : ¬ machine.Serves currentExe process := by simp [Serves, readable]
    rw [readProcessMetadataWithClock_unreadable member build readable, if_neg hidden]
  | true =>
    rw [readProcessMetadataWithClock_procFs member build readable]
    cases supported : isSupportedMoshServerPath currentExe (normalizeProcExePath process.exe) with
    | true =>
      have serves : machine.Serves currentExe process := ⟨readable, supported⟩
      obtain ⟨exeName, base⟩ := exists_fileName supported
      simp only [base, context, Except.map, isSupportedMoshServerMetadata, shown, supported,
        Bool.not_true, Bool.false_eq_true, if_false, if_pos serves, session]
    | false =>
      have other : ¬ machine.Serves currentExe process := by
        intro serves
        have holds := serves.2
        simp [Process.IsMoshServer, shown, supported] at holds
      rw [if_neg other]
      cases (normalizeProcExePath process.exe).fileName.filter fun name => name ≠ "" with
      | none => rfl
      | some exeName =>
        simp only [context, Except.map, isSupportedMoshServerMetadata, shown, supported,
          Bool.not_false, if_true]

theorem discoverEntry_other {name : Option String} (member : .inr name ∈ machine.entries) :
    machine.procFs.discoverEntry build currentExe (machine.sockets display) machine.clock name =
      .ok none := by
  cases name with
  | none => rfl
  | some name =>
    have unparsed : (some name).bind (fun name => parseI32 name.toList) = none :=
      machine.others name member
    simp only [ProcFs.discoverEntry, unparsed]

theorem rounds_entries {entries : List (RunningProcess ⊕ Option String)}
    (listed : entries ⊆ machine.entries) :
    ∃ rounds, (entries.map entryName).mapM
        (machine.procFs.discoverEntry build currentExe (machine.sockets display) machine.clock) =
          .ok rounds ∧
      rounds.reduceOption = ((entries.filterMap Sum.getLeft?).filter fun process =>
        machine.Serves currentExe process).map (machine.session display) := by
  induction entries with
  | nil => exact ⟨[], rfl, rfl⟩
  | cons entry entries ih =>
    rw [List.cons_subset] at listed
    obtain ⟨rounds, read, found⟩ := ih listed.2
    cases entry with
    | inl process =>
      have member : process ∈ machine.processes :=
        List.mem_filterMap.mpr ⟨.inl process, listed.1, rfl⟩
      refine ⟨(if machine.Serves currentExe process then some (machine.session display process)
        else none) :: rounds, ?_, ?_⟩
      · rw [List.map_cons, List.mapM_cons, entryName, discoverEntry_process member, read]
        rfl
      · by_cases serves : machine.Serves currentExe process <;> simp [serves, found]
    | inr name =>
      refine ⟨none :: rounds, ?_, ?_⟩
      · rw [List.map_cons, List.mapM_cons, entryName, discoverEntry_other listed.1, read]
        rfl
      · rw [List.reduceOption_cons_of_none, found, List.filterMap_cons_none rfl]

theorem discoverMoshSessions_procFs :
    machine.procFs.discoverMoshSessions build currentExe display =
      .ok ((machine.sessions currentExe display).mergeSort fun left right => left.pid ≤ right.pid) := by
  obtain ⟨rounds, read, found⟩ := @rounds_entries machine build currentExe display _
    (List.Subset.refl machine.entries)
  have sockets := machine.loadUdpSockets_procFs display
  have boot := machine.readBootTimeSeconds_procFs
  have ticks := machine.readClockTicksPerSecond_procFs
  rw [clock] at read
  have entries : machine.procFs.entries = some (machine.entries.map entryName) := rfl
  simp only [ProcFs.discoverMoshSessions, sockets, boot, ticks, entries, context, bind, Except.bind,
    read, found]
  rfl

end Entries

section Discovers

structure Shows (machine : Machine) (display : Ipv6Addr → String) (process : RunningProcess)
    (session : DiscoveredSession) : Prop where
  pid : session.pid = process.stat.pid
  started : session.startedAtUnixMs = machine.startedAtUnixMs process
  cmdline : session.cmdline = sanitizeCmdline process.cmdline
  bound : ∀ bindAddr udpPort, session.bindAddr = some bindAddr → session.udpPort = some udpPort →
    ∃ addr port, machine.Holds process addr port ∧ addr.text display = bindAddr ∧
      port.toNat = udpPort
  unbound : session.bindAddr = none ∨ session.udpPort = none →
    ∀ addr port, ¬ machine.Holds process addr port

variable {machine : Machine} {currentExe : Option ExePath} {display : Ipv6Addr → String}

theorem shows_session {process : RunningProcess} (member : process ∈ machine.processes)
    (readable : process.readable = true) :
    machine.Shows display process (machine.session display process) := by
  constructor
  · exact process.toInt_pid
  · rfl
  · rfl
  · intro bindAddr udpPort address number
    cases found : machine.procFs.readProcessSocket process.pid (machine.sockets display) with
    | none => simp [session, found] at address
    | some info =>
      obtain ⟨addr, port, holds, rfl⟩ := holds_of_found display member readable found
      simp only [session, found, Option.map_some, Option.some.injEq] at address number
      exact ⟨addr, port, holds, address, number⟩
  · intro unbound addr port
    apply not_holds_of_none display member readable
    simpa [session] using unbound

theorem mem_sessions {session : DiscoveredSession} :
    session ∈ machine.sessions currentExe display ↔
      ∃ process ∈ machine.processes, machine.Serves currentExe process ∧
        machine.session display process = session := by
  simp [sessions, and_assoc]

theorem sessions_pids (machine : Machine) (currentExe : Option ExePath)
    (display : Ipv6Addr → String) :
    (((machine.sessions currentExe display).mergeSort fun left right => left.pid ≤ right.pid).map
      DiscoveredSession.pid).Pairwise (· < ·) := by
  have distinct : (machine.sessions currentExe display).Pairwise fun left right =>
      left.pid ≠ right.pid := by
    rw [sessions, List.pairwise_map]
    have pids := (List.pairwise_map.mp machine.pids_distinct).filter fun process =>
      machine.Serves currentExe process
    refine pids.imp fun {left right} other same => other ?_
    simp only [session, left.toInt_pid, right.toInt_pid, Int.natCast_inj] at same
    exact same
  have sorted := @List.pairwise_mergeSort DiscoveredSession
    (fun left right => decide (left.pid ≤ right.pid)) (fun a b c => by simp; omega)
    (fun a b => by simp; omega) (machine.sessions currentExe display)
  have apart := distinct.perm (List.mergeSort_perm _ fun left right => left.pid ≤ right.pid).symm
    fun other => Ne.symm other
  rw [List.pairwise_map]
  refine (sorted.and apart).imp fun {left right} both => ?_
  have order := of_decide_eq_true both.1
  have other := both.2
  omega

theorem session_of_serves {process : RunningProcess} (member : process ∈ machine.processes)
    (serves : machine.Serves currentExe process) :
    ∃ session ∈ (machine.sessions currentExe display).mergeSort fun left right =>
      left.pid ≤ right.pid, machine.Shows display process session := by
  refine ⟨machine.session display process, ?_, shows_session member serves.1⟩
  rw [List.mem_mergeSort]
  exact mem_sessions.mpr ⟨process, member, serves, rfl⟩

theorem serves_of_session {session : DiscoveredSession}
    (listed : session ∈ (machine.sessions currentExe display).mergeSort fun left right =>
      left.pid ≤ right.pid) :
    ∃ process ∈ machine.processes, machine.Serves currentExe process ∧
      machine.Shows display process session := by
  rw [List.mem_mergeSort] at listed
  obtain ⟨process, member, serves, rfl⟩ := mem_sessions.mp listed
  exact ⟨process, member, serves, shows_session member serves.1⟩

/-- A scan of a machine that stands still finds exactly its servers, each once and in the order of
    their pids, whatever its processes have for names, arguments and descriptors. -/
theorem discovers (machine : Machine) (build : Build) (currentExe : Option ExePath)
    (display : Ipv6Addr → String) :
    ∃ sessions, machine.procFs.discoverMoshSessions build currentExe display = .ok sessions ∧
      (sessions.map DiscoveredSession.pid).Pairwise (· < ·) ∧
      (∀ process ∈ machine.processes, machine.Serves currentExe process →
        ∃ session ∈ sessions, machine.Shows display process session) ∧
      ∀ session ∈ sessions, ∃ process ∈ machine.processes, machine.Serves currentExe process ∧
        machine.Shows display process session := by
  refine ⟨_, discoverMoshSessions_procFs, ?_, ?_, ?_⟩
  · exact machine.sessions_pids currentExe display
  · exact fun process member serves => session_of_serves member serves
  · exact fun session listed => serves_of_session listed

end Discovers

end Machine

section Sample

/-- A server with a socket, whose name looks like the end of its `/proc/<pid>/stat`. -/
def trickyServer : RunningProcess where
  stat := trickyLine
  exe := ["usr", "bin", "mosh-server (deleted)"]
  args := [asBytes "mosh-server", asBytes "new", []]
  descriptors := [.other (asBytes "/dev/null"), .socket 4242]
  readable := true
  pid_pos := by decide
  pid_lt := by decide
  args_plain := by decide +kernel
  descriptors_printed := by
    intro descriptor member
    simp only [List.mem_cons, List.not_mem_nil, or_false] at member
    rcases member with rfl | rfl
    · change ¬ socketPrefix <+: Utf8.lossy (asBytes "/dev/null")
      decide +kernel
    · change 4242 ≤ u64Max
      decide

def serverRow : UdpRow where
  addr := .v4 #v[127, 0, 0, 1]
  port := 60001
  inode := 4242
  slot := "12:".toList
  middle := List.replicate 7 "00".toList
  rest := []
  lead := 3
  padding := fun _ => 0
  trail := 2
  middle_length := rfl
  inode_u64 := by decide
  slot_column := by simp [IsColumn, Fields.IsWord]; decide
  middle_columns := by
    intro column member
    rw [List.eq_of_mem_replicate member]
    simp [IsColumn, Fields.IsWord]
    decide
  rest_columns := by simp

def smallMachine : Machine where
  entries := [.inr (some "self"), .inl trickyServer, .inr none]
  udpHeader := "sl local_address".toList
  udp := [serverRow]
  udp6Header := "sl local_address".toList
  udp6 := []
  statBefore := ["cpu 1".toList]
  statAfter := []
  bootTimeSeconds := 1000
  ticksPerSecond := 100
  pids_distinct := by decide
  others := by
    intro name member
    simp only [List.mem_cons, Sum.inr.injEq, Option.some.injEq, reduceCtorEq, List.not_mem_nil,
      or_false] at member
    subst member
    decide +kernel
  headers_plain := by decide +kernel
  stat_plain := by decide +kernel
  stat_before := by decide +kernel
  ticks_pos := by decide
  clock_fits := by decide +kernel
  boot_fits := by decide

example : ((smallMachine.procFs.discoverMoshSessions .debug none fun _ => "").toOption =
    some [⟨7, 1002500, some "127.0.0.1", some 60001, "mosh-server new"⟩]) := by decide +kernel

theorem mem_smallMachine : trickyServer ∈ smallMachine.processes := List.mem_cons_self

theorem serves_trickyServer : smallMachine.Serves none trickyServer := by decide +kernel

end Sample

end Moshwatch
