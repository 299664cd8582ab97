import Moshwatch.Daemon.Scan

namespace Moshwatch

namespace Machine

section Table

variable (machine : Machine) (members : Int → List (Int × Process))

/-- The processes of a machine, and what a pid of zero or below names there. -/
def table : ProcessTable where
  entry pid :=
    (machine.processes.find? fun process => (process.stat.pid : Int) = pid).map machine.shown
  members
  positive := by
    intro pid process found
    obtain ⟨running, listed, -⟩ := Option.map_eq_some_iff.mp found
    have named : (running.stat.pid : Int) = pid := by simpa using List.find?_some listed
    have positive := running.pid_pos
    omega

variable {machine} {process : RunningProcess} (member : process ∈ machine.processes)

include member

theorem entry_table :
    (machine.table members).entry process.stat.pid = some (machine.shown process) := by
  have found : (machine.processes.find? fun other => (other.stat.pid : Int) = process.stat.pid) =
      some process := by
    cases first : machine.processes.find? fun other =>
        (other.stat.pid : Int) = process.stat.pid with
    | none =>
      have other := List.find?_eq_none.mp first process member
      simp at other
    | some other =>
      have same : other.stat.pid = process.stat.pid := by simpa using List.find?_some first
      rw [List.inj_on_of_nodup_map machine.pids_distinct (List.mem_of_find?_eq_some first) member
        same]
  simp only [table, found, Option.map_some]

omit member in
theorem readProcessMetadata_procFs (build : Build) (pid : Int32) :
    machine.procFs.readProcessMetadata build pid =
      machine.procFs.readProcessMetadataWithClock build pid machine.clock := by
  simp only [ProcFs.readProcessMetadata, machine.readBootTimeSeconds_procFs,
    machine.readClockTicksPerSecond_procFs, bind, Except.bind]
  rfl

/-- The reads of a call over the process table come to what the daemon reads from the files. -/
theorem reads_metadata (build : Build) (request : TerminateRequest) {summary : SessionSummary}
    (own : summary.pid = process.stat.pid) :
    (([.handler (!process.readable), .handler (!process.readable),
        .handler (!process.readable)] : List TerminateEvent).foldl request.step
          ⟨machine.table members, .readExe summary, []⟩).stage =
      match machine.procFs.readProcessMetadata build process.pid with
      | .ok metadata => request.checkMetadata summary metadata
      | .error _ => .answered TerminateRequest.noLongerAvailable := by
  have entry := entry_table members member
  rw [← own] at entry
  rw [readProcessMetadata_procFs]
  cases readable : process.readable with
  | false =>
    rw [readProcessMetadataWithClock_unreadable member build readable]
    rfl
  | true =>
    rw [readProcessMetadataWithClock_procFs member build readable]
    cases base : (normalizeProcExePath process.exe).fileName.filter fun name => name ≠ "" with
    | none =>
      simp only [List.foldl_cons, List.foldl_nil, TerminateRequest.step, TerminateRequest.advance,
        TerminateRequest.readEntry, Bool.not_true, Bool.false_eq_true, if_false, entry, shown, base,
        context]
      rfl
    | some exeName =>
      simp only [List.foldl_cons, List.foldl_nil, TerminateRequest.step, TerminateRequest.advance,
        TerminateRequest.readEntry, Bool.not_true, Bool.false_eq_true, if_false, entry, shown, base,
        context]
      rfl

end Table

end Machine

namespace TerminateRequest

section Delivery

variable {request : TerminateRequest} {summary : SessionSummary} {process : Process}

/-- The process keeps its pid, and no system call fails. -/
def Spares (pid : Int) (process : Process) : TerminateEvent → Prop
  | .changed table => table.entry pid = some process
  | .handler fault => fault = false

/-- Where a call that nothing hinders stands, and what it has signalled. -/
inductive OnTrack (request : TerminateRequest) (summary : SessionSummary) (process : Process) :
    TerminateStage → List (Int × Process) → Prop where
  | lookUp : OnTrack request summary process .lookUp []
  | readExe : OnTrack request summary process (.readExe summary) []
  | readStat (exeName : String) :
      OnTrack request summary process
        (.readStat summary exeName (normalizeProcExePath process.exe)) []
  | readCmdline (exeName : String) :
      OnTrack request summary process
        (.readCmdline summary exeName (normalizeProcExePath process.exe) process.startedAtUnixMs) []
  | signal : OnTrack request summary process (.signal summary) []
  | answered :
      OnTrack request summary process (.answered (.terminated (request.response summary)))
        [(summary.pid, process)]

variable (found : request.state.sessionSummary request.sessionId request.nowMs = some summary)
  (recorded : process.startedAtUnixMs = summary.startedAtUnixMs)
  (supported : process.IsMoshServer request.currentExe)

include found recorded supported

theorem onTrack_advance {table : ProcessTable} (entry : table.entry summary.pid = some process)
    {stage : TerminateStage} {signalled : List (Int × Process)}
    (onTrack : OnTrack request summary process stage signalled) :
    OnTrack request summary process (request.advance table false stage).1
      (signalled ++ (request.advance table false stage).2) := by
  cases onTrack with
  | lookUp =>
    simp only [advance, found]
    exact .readExe
  | readExe =>
    obtain ⟨exeName, base⟩ := Machine.exists_fileName supported
    simp only [advance, readEntry, Bool.false_eq_true, if_false, entry, base]
    exact .readStat exeName
  | readStat exeName =>
    simp only [advance, readEntry, Bool.false_eq_true, if_false, entry]
    exact .readCmdline exeName
  | readCmdline exeName =>
    have path : isSupportedMoshServerPath request.currentExe (normalizeProcExePath process.exe) =
      true := supported
    simp only [advance, readEntry, Bool.false_eq_true, if_false, entry, checkMetadata, recorded,
      isSupportedMoshServerMetadata, path, ne_eq, not_true_eq_false, Bool.not_true]
    exact .signal
  | signal =>
    rw [advance_signal entry]
    exact .answered
  | answered =>
    simp only [advance]
    exact .answered

theorem onTrack_run {events : List TerminateEvent}
    (spares : ∀ event ∈ events, Spares summary.pid process event) {run : TerminateRun}
    (entry : run.table.entry summary.pid = some process)
    (onTrack : OnTrack request summary process run.stage run.signalled) :
    OnTrack request summary process (events.foldl request.step run).stage
      (events.foldl request.step run).signalled := by
  induction events generalizing run with
  | nil => exact onTrack
  | cons event rest ih =>
    rw [List.forall_mem_cons] at spares
    rw [List.foldl_cons]
    cases event with
    | changed table => exact ih spares.2 spares.1 onTrack
    | handler fault =>
      have sound : fault = false := spares.1
      subst sound
      exact ih spares.2 entry (onTrack_advance found recorded supported entry onTrack)

theorem delivered_run {table : ProcessTable} (entry : table.entry summary.pid = some process)
    {events : List TerminateEvent}
    (spares : ∀ event ∈ events, Spares summary.pid process event)
    (enough : 5 ≤ handlerSteps events) :
    (request.run table events).stage = .answered (.terminated (request.response summary)) ∧
      (request.run table events).signalled = [(summary.pid, process)] := by
  have started : (start table).table.entry summary.pid = some process := entry
  have onTrack := onTrack_run found recorded supported spares started .lookUp
  have spent := remaining_run request events (start table) standing_start
  have none_left : (request.run table events).stage.remaining = 0 := by
    change _ ≤ 5 - _ at spent
    change (events.foldl request.step (start table)).stage.remaining = 0
    omega
  change OnTrack request summary process (request.run table events).stage
    (request.run table events).signalled at onTrack
  generalize (request.run table events).stage = stage at onTrack none_left ⊢
  generalize (request.run table events).signalled = signalled at onTrack ⊢
  cases onTrack with
  | answered => exact ⟨rfl, rfl⟩
  | _ => cases none_left

end Delivery

end TerminateRequest

/-- Each server that a scan finds has an id under which a call signals it, and nothing else, as long
    as the process keeps its pid and no system call fails. -/
theorem scanned_terminates (config : AppConfig) (operations : List Operation) (machine : Machine)
    (build : Build) (currentExe : Option ExePath) (display : Ipv6Addr → String) (nowMs : Int)
    (room : (ServiceState.run config operations).sessions.size +
      (machine.sessions currentExe display).length ≤ config.maxTrackedSessions)
    (process : RunningProcess) (member : process ∈ machine.processes)
    (serves : machine.Serves currentExe process) :
    ∃ sessionId, ∀ call : TerminateRequest,
      call.state = (ServiceState.run config operations).discoveryTick
        (machine.procFs.discoverMoshSessions build currentExe display) nowMs →
      call.currentExe = currentExe → call.sessionId = sessionId →
      ∀ (members : Int → List (Int × Process)) (events : List TerminateEvent),
        (∀ event ∈ events,
          TerminateRequest.Spares process.stat.pid (machine.shown process) event) →
        5 ≤ TerminateRequest.handlerSteps events →
        (∃ response, (call.run (machine.table members) events).stage =
            .answered (.terminated response) ∧
          response.sessionId = sessionId ∧ response.pid = process.stat.pid) ∧
        (call.run (machine.table members) events).signalled =
          [((process.stat.pid : Int), machine.shown process)] := by
  obtain ⟨record, key, tracked, pid, started⟩ :=
    @ServiceState.tracks_servers machine build currentExe display nowMs config operations room
      process member serves
  refine ⟨key, ?_⟩
  rintro call state rfl rfl members events spares enough
  have found : call.state.sessionSummary call.sessionId call.nowMs =
      some (ServiceState.materializeSummary call.state.config record call.nowMs) := by
    rw [ServiceState.sessionSummary, state, tracked, Option.map_some]
  have own : (ServiceState.materializeSummary call.state.config record call.nowMs).pid =
      process.stat.pid := pid
  have entry := Machine.entry_table members member
  rw [← own] at entry spares
  obtain ⟨stage, signalled⟩ := TerminateRequest.delivered_run found started.symm serves.2 entry spares
    enough
  have named : record.summary.sessionId = call.sessionId := by
    obtain ⟨reachedConfig, reachedBy, reached⟩ := call.reached
    rw [← state, reached] at tracked
    exact ((ServiceState.identities_run reachedConfig reachedBy).identified _ record tracked).1
  refine ⟨⟨_, stage, named, own⟩, ?_⟩
  rw [signalled, own]

theorem scanned_terminates_tricky :
    ∃ sessionId, ∀ call : TerminateRequest,
      call.state = (ServiceState.run {} []).discoveryTick
        (smallMachine.procFs.discoverMoshSessions .debug none fun _ => "") 2000 →
      call.currentExe = none → call.sessionId = sessionId →
      (call.run (smallMachine.table fun _ => []) (List.replicate 5 (.handler false))).signalled =
        [(7, smallMachine.shown trickyServer)] := by
  obtain ⟨sessionId, delivers⟩ := scanned_terminates {} [] smallMachine .debug none (fun _ => "") 2000
    ServiceState.room_smallMachine trickyServer mem_smallMachine serves_trickyServer
  refine ⟨sessionId, ?_⟩
  intro call state exe named
  refine (delivers call state exe named (fun _ => []) _ ?_ (by decide)).2
  intro event member
  cases List.eq_of_mem_replicate member
  rfl

end Moshwatch
