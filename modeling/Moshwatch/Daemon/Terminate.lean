import Moshwatch.Daemon.Processes
import Moshwatch.General.Guarded
import Moshwatch.State.Identity
import Moshwatch.State.View
import Moshwatch.State.Windows

namespace Moshwatch

inductive SessionControlAction where
  | terminate
  deriving DecidableEq

structure ApiSessionControlResponse where
  schemaVersion : Nat
  observer : ObserverInfo
  generatedAtUnixMs : Int
  sessionId : String
  pid : Int
  action : SessionControlAction
  deriving DecidableEq

/-- The `Result` of `terminate_session`: a refusal has a JSON body whose one field `error` is the
    message. -/
inductive TerminateAnswer where
  | refused (status : Nat) (message : String)
  | failed (message : String)
  | terminated (response : ApiSessionControlResponse)
  deriving DecidableEq

def TerminateAnswer.isTerminated : TerminateAnswer → Bool
  | .terminated _ => true
  | _ => false

/-- Where `terminate_session` stands between its looks at the registry and at `/proc`. -/
inductive TerminateStage where
  | lookUp
  | readExe (summary : SessionSummary)
  | readStat (summary : SessionSummary) (exeName : String) (exePath : ExePath)
  | readCmdline (summary : SessionSummary) (exeName : String) (exePath : ExePath)
      (startedAtUnixMs : Int)
  | signal (summary : SessionSummary)
  | answered (answer : TerminateAnswer)

namespace TerminateStage

def tracked : TerminateStage → Option SessionSummary
  | .readExe summary | .readStat summary _ _ | .readCmdline summary _ _ _ | .signal summary =>
    some summary
  | _ => none

/-- The summary of a call that has seen its pid in `/proc` and has not answered. -/
def checked : TerminateStage → Option SessionSummary
  | .readStat summary _ _ | .readCmdline summary _ _ _ | .signal summary => some summary
  | _ => none

def answer : TerminateStage → Option TerminateAnswer
  | .answered answer => some answer
  | _ => none

theorem eq_answered {stage : TerminateStage} {given : TerminateAnswer}
    (answered : stage.answer = some given) : stage = .answered given := by
  cases stage <;> cases answered
  rfl

def remaining : TerminateStage → Nat
  | .lookUp => 5
  | .readExe _ => 4
  | .readStat _ _ _ => 3
  | .readCmdline _ _ _ _ => 2
  | .signal _ => 1
  | .answered _ => 0

end TerminateStage

/-- A call of `terminate_session`, with the registry that it finds. -/
structure TerminateRequest where
  state : ServiceState
  reached : ∃ config operations, state = ServiceState.run config operations
  observer : ObserverInfo
  currentExe : Option ExePath
  sessionId : String
  nowMs : Int

/-- The process table under a call, how far the call is and which processes it has signalled. -/
structure TerminateRun where
  table : ProcessTable
  stage : TerminateStage
  signalled : List (Int × Process)

/-- The table becomes another one, or the handler takes a step, whose system call may fail. -/
inductive TerminateEvent where
  | changed (table : ProcessTable)
  | handler (fault : Bool)

namespace TerminateRequest

def noLongerAvailable : TerminateAnswer := .refused 409 "tracked process is no longer available"

def checkMetadata (request : TerminateRequest) (summary : SessionSummary)
    (metadata : ProcessMetadata) : TerminateStage :=
  if metadata.startedAtUnixMs ≠ summary.startedAtUnixMs then
    .answered (.refused 409 "tracked pid no longer matches the recorded session")
  else if !isSupportedMoshServerMetadata request.currentExe metadata then
    .answered (.refused 409 "tracked pid is no longer a supported mosh server")
  else .signal summary

def response (request : TerminateRequest) (summary : SessionSummary) : ApiSessionControlResponse :=
  { schemaVersion := apiSchemaVersion
    observer := request.observer
    generatedAtUnixMs := request.nowMs
    sessionId := summary.sessionId
    pid := summary.pid
    action := .terminate }

/-- What `/proc/<pid>` shows a read that does not fail. -/
def readEntry (table : ProcessTable) (pid : Int) (fault : Bool) : Option Process :=
  if fault then none else table.entry pid

/-- One step of `terminate_session`: the next stage and the processes that it signals. -/
def advance (request : TerminateRequest) (table : ProcessTable) (fault : Bool) :
    TerminateStage → TerminateStage × List (Int × Process)
  | .lookUp =>
    match request.state.sessionSummary request.sessionId request.nowMs with
    | none => (.answered (.refused 404 "session not found"), [])
    | some summary => (.readExe summary, [])
  | .readExe summary =>
    match readEntry table summary.pid fault with
    | none => (.answered noLongerAvailable, [])
    | some process =>
      let exePath := normalizeProcExePath process.exe
      match exePath.fileName.filter fun exeName => exeName ≠ "" with
      | none => (.answered noLongerAvailable, [])
      | some exeName => (.readStat summary exeName exePath, [])
  | .readStat summary exeName exePath =>
    match readEntry table summary.pid fault with
    | none => (.answered noLongerAvailable, [])
    | some process => (.readCmdline summary exeName exePath process.startedAtUnixMs, [])
  | .readCmdline summary exeName exePath startedAtUnixMs =>
    match readEntry table summary.pid fault with
    | none => (.answered noLongerAvailable, [])
    | some process =>
      let cmdline := sanitizeCmdline process.cmdline
      (request.checkMetadata summary { startedAtUnixMs, cmdline, exeName, exePath }, [])
  | .signal summary =>
    match table.kill summary.pid fault with
    | .noSuchProcess =>
      (.answered (.refused 409 "tracked process exited before signal delivery"), [])
    | .failed => (.answered (.failed s!"send SIGTERM to pid {summary.pid}"), [])
    | .delivered receivers => (.answered (.terminated (request.response summary)), receivers)
  | .answered answer => (.answered answer, [])

def step (request : TerminateRequest) (run : TerminateRun) : TerminateEvent → TerminateRun
  | .changed table => { run with table }
  | .handler fault =>
    let (stage, receivers) := request.advance run.table fault run.stage
    { run with stage, signalled := run.signalled ++ receivers }

def start (table : ProcessTable) : TerminateRun := { table, stage := .lookUp, signalled := [] }

def run (request : TerminateRequest) (table : ProcessTable) (events : List TerminateEvent) :
    TerminateRun := events.foldl request.step (start table)

/-- The process the registry has recorded for the session, which is the one its id names. -/
def Records (request : TerminateRequest) (pid startedAtUnixMs : Int) : Prop :=
  (∃ record, request.state.sessions.lookup request.sessionId = some record ∧
    record.summary.pid = pid ∧ record.summary.startedAtUnixMs = startedAtUnixMs) ∧
  (request.sessionId = instrumentedSessionId pid startedAtUnixMs ∨
    request.sessionId = legacySessionId pid startedAtUnixMs)

/-- A signal reaches the recorded process only, and without one there is a refusal or a failure. -/
def Promise (request : TerminateRequest) (run : TerminateRun) : Prop :=
  match run.stage with
  | .answered (.terminated response) =>
    ∃ process, run.signalled = [(response.pid, process)] ∧
      request.Records response.pid process.startedAtUnixMs ∧
      process.IsMoshServer request.currentExe
  | .answered (.refused status _) => (status = 404 ∨ status = 409) ∧ run.signalled = []
  | .answered (.failed _) => run.signalled = []
  | _ => run.signalled = []

/-- Once the call has looked at the pid in `/proc`, its process may exit, but no other takes the
    pid until the signal is sent. -/
def Undisturbed (run : TerminateRun) : TerminateEvent → Prop
  | .changed table => ∀ summary, run.stage.checked = some summary →
      table.entry summary.pid = run.table.entry summary.pid ∨ table.entry summary.pid = none
  | .handler _ => True

/-- When the signal is sent, the pid is vacant or still that of a supported process with the
    recorded start time. -/
def SafeSignal (request : TerminateRequest) (run : TerminateRun) : TerminateEvent → Prop
  | .changed _ => True
  | .handler fault => ∀ summary process, run.stage = .signal summary → fault = false →
      run.table.entry summary.pid = some process →
      process.startedAtUnixMs = summary.startedAtUnixMs ∧ process.IsMoshServer request.currentExe

inductive Advance (request : TerminateRequest) (table : ProcessTable) (fault : Bool) :
    TerminateStage → TerminateStage → List (Int × Process) → Prop where
  | found (summary : SessionSummary)
      (tracked : request.state.sessionSummary request.sessionId request.nowMs = some summary) :
      Advance request table fault .lookUp (.readExe summary) []
  | exe (summary : SessionSummary) (process : Process) (exeName : String)
      (entry : table.entry summary.pid = some process) :
      Advance request table fault (.readExe summary)
        (.readStat summary exeName (normalizeProcExePath process.exe)) []
  | stat (summary : SessionSummary) (process : Process) (exeName : String) (exePath : ExePath)
      (entry : table.entry summary.pid = some process) :
      Advance request table fault (.readStat summary exeName exePath)
        (.readCmdline summary exeName exePath process.startedAtUnixMs) []
  | checked (summary : SessionSummary) (exeName : String) (exePath : ExePath)
      (supported : isSupportedMoshServerPath request.currentExe exePath = true) :
      Advance request table fault (.readCmdline summary exeName exePath summary.startedAtUnixMs)
        (.signal summary) []
  | refused (stage : TerminateStage) (status : Nat) (message : String)
      (code : status = 404 ∨ status = 409) (unanswered : stage.answer = none) :
      Advance request table fault stage (.answered (.refused status message)) []
  | failed (summary : SessionSummary) (message : String) :
      Advance request table fault (.signal summary) (.answered (.failed message)) []
  | delivered (summary : SessionSummary) (process : Process)
      (sent : fault = false) (entry : table.entry summary.pid = some process) :
      Advance request table fault (.signal summary) (.answered (.terminated (request.response summary)))
        [(summary.pid, process)]
  | done (answer : TerminateAnswer) :
      Advance request table fault (.answered answer) (.answered answer) []

section Steps

variable {request : TerminateRequest} {table : ProcessTable} {fault : Bool} {stage : TerminateStage}

theorem readEntry_eq_some {pid : Int} {process : Process}
    (shown : readEntry table pid fault = some process) : table.entry pid = some process := by
  cases fault with
  | true => cases shown
  | false => exact shown

theorem advance_checkMetadata (summary : SessionSummary) (exeName cmdline : String)
    (exePath : ExePath) (startedAtUnixMs : Int) :
    Advance request table fault (.readCmdline summary exeName exePath startedAtUnixMs)
      (request.checkMetadata summary { startedAtUnixMs, cmdline, exeName, exePath }) [] := by
  unfold checkMetadata
  split
  · exact .refused _ _ _ (.inr rfl) rfl
  · rename_i same
    rw [not_not] at same
    subst same
    split
    · exact .refused _ _ _ (.inr rfl) rfl
    · rename_i supported
      refine .checked summary exeName exePath ?_
      simpa [isSupportedMoshServerMetadata] using supported

theorem advance_spec (placed : ∀ summary, stage = .signal summary → 0 < summary.pid)
    (fault : Bool) :
    Advance request table fault stage (request.advance table fault stage).1
      (request.advance table fault stage).2 := by
  cases stage with
  | lookUp =>
    simp only [advance]
    split
    · exact .refused _ _ _ (.inl rfl) rfl
    · rename_i summary tracked
      exact .found summary tracked
  | readExe summary =>
    simp only [advance]
    split
    · exact .refused _ _ _ (.inr rfl) rfl
    · rename_i process shown
      split
      · exact .refused _ _ _ (.inr rfl) rfl
      · exact .exe summary process _ (readEntry_eq_some shown)
  | readStat summary exeName exePath =>
    simp only [advance]
    split
    · exact .refused _ _ _ (.inr rfl) rfl
    · rename_i process shown
      exact .stat summary process exeName exePath (readEntry_eq_some shown)
  | readCmdline summary exeName exePath startedAtUnixMs =>
    simp only [advance]
    split
    · exact .refused _ _ _ (.inr rfl) rfl
    · exact advance_checkMetadata summary exeName _ exePath startedAtUnixMs
  | signal summary =>
    simp only [advance]
    rcases table.kill_cases (placed summary rfl) fault with
      ⟨-, killed⟩ | ⟨process, entry, ⟨-, killed⟩ | ⟨sent, killed⟩⟩ <;> rw [killed]
    · exact .refused _ _ _ (.inr rfl) rfl
    · exact .failed summary _
    · exact .delivered summary process sent entry
  | answered answer => exact .done answer

theorem advance_signal {summary : SessionSummary} {process : Process}
    (entry : table.entry summary.pid = some process) :
    request.advance table false (.signal summary) =
      (.answered (.terminated (request.response summary)), [(summary.pid, process)]) := by
  simp [advance, ProcessTable.kill, ProcessTable.targets_of_entry entry]

end Steps

/-- What holds of a call wherever it stands and whatever became of the process table. -/
structure Standing (request : TerminateRequest) (run : TerminateRun) : Prop where
  recorded : ∀ summary, run.stage.tracked = some summary →
    request.Records summary.pid summary.startedAtUnixMs
  placed : ∀ summary, run.stage.checked = some summary → 0 < summary.pid
  refused : ∀ status message, run.stage.answer = some (.refused status message) →
    status = 404 ∨ status = 409
  silent : (∀ response, run.stage.answer ≠ some (.terminated response)) → run.signalled = []
  sent : ∀ response, run.stage.answer = some (.terminated response) →
    ∃ startedAtUnixMs process, run.signalled = [(response.pid, process)] ∧
      request.Records response.pid startedAtUnixMs

section Runs

variable {request : TerminateRequest} {table : ProcessTable} {run : TerminateRun}

theorem Records.start_unique {pid startedAtUnixMs otherStart : Int}
    (recorded : request.Records pid startedAtUnixMs) (other : request.Records pid otherStart) :
    startedAtUnixMs = otherStart := by
  obtain ⟨⟨record, found, -, started⟩, -⟩ := recorded
  obtain ⟨⟨same, foundSame, -, startedSame⟩, -⟩ := other
  rw [found, Option.some.injEq] at foundSame
  rw [← started, ← startedSame, foundSame]

theorem records_of_sessionSummary {summary : SessionSummary}
    (tracked : request.state.sessionSummary request.sessionId request.nowMs = some summary) :
    request.Records summary.pid summary.startedAtUnixMs := by
  obtain ⟨config, operations, reached⟩ := request.reached
  rw [ServiceState.sessionSummary, Option.map_eq_some_iff] at tracked
  obtain ⟨record, found, rfl⟩ := tracked
  refine ⟨⟨record, found, rfl, rfl⟩, ?_⟩
  rw [reached] at found
  rcases ((ServiceState.identities_run config operations).identified _ _ found).2 with
    ⟨-, named⟩ | ⟨-, named⟩
  · exact .inl named
  · exact .inr named

theorem standing_start : Standing request (start table) where
  recorded := by intro summary tracked; cases tracked
  placed := by intro summary checked; cases checked
  refused := by intro status message answered; cases answered
  silent := fun _ => rfl
  sent := by intro response answered; cases answered

theorem Standing.changed (standing : Standing request run) (table : ProcessTable) :
    Standing request { run with table } :=
  ⟨standing.recorded, standing.placed, standing.refused, standing.silent, standing.sent⟩

theorem Standing.moved (standing : Standing request run) {stage : TerminateStage}
    (unanswered : run.stage.answer = none) (still : stage.answer = none)
    (recorded : ∀ summary, stage.tracked = some summary →
      request.Records summary.pid summary.startedAtUnixMs)
    (placed : ∀ summary, stage.checked = some summary → 0 < summary.pid) :
    Standing request { run with stage, signalled := run.signalled ++ [] } where
  recorded := recorded
  placed := placed
  refused := by
    intro status message answered
    rw [still] at answered
    cases answered
  silent := by
    intro _
    rw [List.append_nil]
    exact standing.silent fun response answered => by rw [unanswered] at answered; cases answered
  sent := by
    intro response answered
    rw [still] at answered
    cases answered

theorem Standing.answered (standing : Standing request run) {answer : TerminateAnswer}
    (unanswered : run.stage.answer = none)
    (quiet : (∃ status message, answer = .refused status message ∧ (status = 404 ∨ status = 409)) ∨
      ∃ message, answer = .failed message) :
    Standing request { run with stage := .answered answer, signalled := run.signalled ++ [] } where
  recorded := by intro summary tracked; cases tracked
  placed := by intro summary checked; cases checked
  refused := by
    intro status message answered
    cases answered
    rcases quiet with ⟨_, _, same, code⟩ | ⟨_, same⟩
    · cases same
      exact code
    · cases same
  silent := by
    intro _
    rw [List.append_nil]
    exact standing.silent fun response answered => by rw [unanswered] at answered; cases answered
  sent := by
    intro response answered
    cases answered
    rcases quiet with ⟨_, _, same, -⟩ | ⟨_, same⟩ <;> cases same

theorem Standing.advanced (standing : Standing request run) {fault : Bool} {stage : TerminateStage}
    {receivers : List (Int × Process)}
    (advance : Advance request run.table fault run.stage stage receivers) :
    Standing request { run with stage, signalled := run.signalled ++ receivers } := by
  obtain ⟨table, before, signalled⟩ := run
  cases advance with
  | found summary tracked =>
    refine standing.moved rfl rfl ?_ ?_
    · rintro _ ⟨⟩
      exact records_of_sessionSummary tracked
    · rintro _ ⟨⟩
  | exe summary process exeName entry =>
    refine standing.moved rfl rfl standing.recorded ?_
    rintro _ ⟨⟩
    exact table.positive summary.pid process entry
  | stat summary process exeName exePath entry =>
    exact standing.moved rfl rfl standing.recorded standing.placed
  | checked summary exeName exePath supported =>
    exact standing.moved rfl rfl standing.recorded standing.placed
  | refused _ status message code unanswered =>
    exact standing.answered unanswered (.inl ⟨status, message, rfl, code⟩)
  | failed summary message => exact standing.answered rfl (.inr ⟨message, rfl⟩)
  | delivered summary process sent entry =>
    have silent : signalled = [] := standing.silent fun response answered => by cases answered
    refine ⟨?_, ?_, ?_, ?_, ?_⟩
    · rintro _ ⟨⟩
    · rintro _ ⟨⟩
    · rintro _ _ ⟨⟩
    · exact fun unsent => absurd rfl (unsent (request.response summary))
    · rintro _ ⟨⟩
      exact ⟨summary.startedAtUnixMs, process, by rw [silent]; rfl, standing.recorded summary rfl⟩
  | done answer =>
    rw [List.append_nil]
    exact standing

theorem Standing.spec (standing : Standing request run) (fault : Bool) :
    Advance request run.table fault run.stage (request.advance run.table fault run.stage).1
      (request.advance run.table fault run.stage).2 := by
  refine advance_spec ?_ fault
  intro summary signal
  exact standing.placed summary (by rw [signal]; rfl)

theorem standing_step (standing : Standing request run) (event : TerminateEvent) :
    Standing request (request.step run event) := by
  cases event with
  | changed table => exact standing.changed table
  | handler fault => exact standing.advanced (standing.spec fault)

theorem Standing.promise (standing : Standing request run)
    (unsent : ∀ response, run.stage.answer ≠ some (.terminated response)) :
    request.Promise run := by
  have silent := standing.silent unsent
  obtain ⟨table, stage, signalled⟩ := run
  rcases stage with _ | _ | _ | _ | _ | ⟨⟨status, message⟩ | message | response⟩
  · exact silent
  · exact silent
  · exact silent
  · exact silent
  · exact silent
  · exact ⟨standing.refused status message rfl, silent⟩
  · exact silent
  · exact absurd rfl (unsent response)

/-- The signal keeps the promise exactly when it meets the process the checks were made on. -/
theorem Standing.promise_of_delivered (standing : Standing request run) {summary : SessionSummary}
    (signal : run.stage = .signal summary) (process : Process) :
    request.Promise { run with
      stage := .answered (.terminated (request.response summary))
      signalled := run.signalled ++ [(summary.pid, process)] } ↔
    process.startedAtUnixMs = summary.startedAtUnixMs ∧
      process.IsMoshServer request.currentExe := by
  have recorded := standing.recorded summary (by rw [signal]; rfl)
  have silent : run.signalled = [] :=
    standing.silent fun response answered => by rw [signal] at answered; cases answered
  constructor
  · rintro ⟨receiver, signalled, receives, supported⟩
    rw [silent] at signalled
    cases signalled
    exact ⟨receives.start_unique recorded, supported⟩
  · rintro ⟨started, supported⟩
    refine ⟨process, by rw [silent]; rfl, ?_, supported⟩
    rw [started]
    exact recorded

theorem Advance.terminated {fault : Bool} {stage : TerminateStage}
    {receivers : List (Int × Process)} {response : ApiSessionControlResponse}
    (advance : Advance request table fault stage (.answered (.terminated response)) receivers) :
    (∃ summary process, stage = .signal summary ∧ fault = false ∧
        table.entry summary.pid = some process ∧ response = request.response summary ∧
        receivers = [(summary.pid, process)]) ∨
      (stage = .answered (.terminated response) ∧ receivers = []) := by
  cases advance with
  | delivered summary process sent entry =>
    exact .inl ⟨summary, process, rfl, sent, entry, rfl, rfl⟩
  | done answer => exact .inr ⟨rfl, rfl⟩

theorem promise_kept (standing : Standing request run) (promise : request.Promise run)
    {event : TerminateEvent} (safe : request.SafeSignal run event) :
    request.Promise (request.step run event) := by
  cases event with
  | changed table => exact promise
  | handler fault =>
    by_cases unsent : ∀ response,
        (request.step run (.handler fault)).stage.answer ≠ some (.terminated response)
    · exact (standing_step standing (.handler fault)).promise unsent
    · push Not at unsent
      obtain ⟨response, sent⟩ := unsent
      have spec := standing.spec fault
      have stage : (request.advance run.table fault run.stage).1 =
          .answered (.terminated response) := TerminateStage.eq_answered sent
      rw [stage] at spec
      rcases spec.terminated with ⟨summary, process, signal, live, entry, rfl, receivers⟩ |
        ⟨before, receivers⟩
      · have kept := (standing.promise_of_delivered signal process).mpr
          (safe summary process signal live entry)
        simpa only [step, stage, receivers] using kept
      · have same : request.step run (.handler fault) = run := by
          simp only [step, stage, receivers, List.append_nil, ← before]
        rw [same]
        exact promise

theorem promise_broken (standing : Standing request run) {event : TerminateEvent}
    (unsafeStep : ¬ request.SafeSignal run event) : ¬ request.Promise (request.step run event) := by
  cases event with
  | changed table => exact absurd trivial unsafeStep
  | handler fault =>
    simp only [SafeSignal] at unsafeStep
    push Not at unsafeStep
    obtain ⟨summary, process, signal, live, entry, stranger⟩ := unsafeStep
    subst live
    have delivered : request.step run (.handler false) =
        { run with
          stage := .answered (.terminated (request.response summary))
          signalled := run.signalled ++ [(summary.pid, process)] } := by
      simp only [step, signal, advance_signal entry]
    rw [delivered, standing.promise_of_delivered signal process]
    exact fun recorded => stranger recorded.1 recorded.2

theorem promise_not_regained (standing : Standing request run) (broken : ¬ request.Promise run)
    (event : TerminateEvent) : ¬ request.Promise (request.step run event) := by
  cases event with
  | changed table => exact broken
  | handler fault =>
    have answered : ∃ response, run.stage.answer = some (.terminated response) := by
      by_contra unsent
      push Not at unsent
      exact broken (standing.promise unsent)
    obtain ⟨response, sent⟩ := answered
    have stage := TerminateStage.eq_answered sent
    have same : request.step run (.handler fault) = run := by
      simp only [step, stage, advance, List.append_nil]
      rw [← stage]
    rw [same]
    exact broken

/-- What the reads so far have shown is true of the process that has the pid. -/
def Current (request : TerminateRequest) (run : TerminateRun) : Prop :=
  match run.stage with
  | .readStat summary _ exePath => ∀ process, run.table.entry summary.pid = some process →
      exePath = normalizeProcExePath process.exe
  | .readCmdline summary _ exePath startedAtUnixMs => ∀ process,
      run.table.entry summary.pid = some process →
      exePath = normalizeProcExePath process.exe ∧ startedAtUnixMs = process.startedAtUnixMs
  | .signal summary => ∀ process, run.table.entry summary.pid = some process →
      process.startedAtUnixMs = summary.startedAtUnixMs ∧ process.IsMoshServer request.currentExe
  | _ => True

theorem current_changed (current : request.Current run) {table : ProcessTable}
    (undisturbed : Undisturbed run (.changed table)) : request.Current { run with table } := by
  obtain ⟨before, stage, signalled⟩ := run
  have earlier : ∀ summary process, stage.checked = some summary →
      table.entry summary.pid = some process → before.entry summary.pid = some process := by
    intro summary process checked entry
    rcases undisturbed summary checked with same | vacant
    · exact same.symm.trans entry
    · rw [vacant] at entry
      cases entry
  cases stage with
  | readStat summary exeName exePath =>
    exact fun process entry => current process (earlier summary process rfl entry)
  | readCmdline summary exeName exePath startedAtUnixMs =>
    exact fun process entry => current process (earlier summary process rfl entry)
  | signal summary => exact fun process entry => current process (earlier summary process rfl entry)
  | _ => trivial

theorem current_advanced (current : request.Current run) {fault : Bool} {stage : TerminateStage}
    {receivers : List (Int × Process)}
    (advance : Advance request run.table fault run.stage stage receivers) :
    request.Current { run with stage, signalled := run.signalled ++ receivers } := by
  obtain ⟨table, before, signalled⟩ := run
  cases advance with
  | exe summary process exeName entry =>
    intro other found
    rw [entry, Option.some.injEq] at found
    rw [found]
  | stat summary process exeName exePath entry =>
    intro other found
    have path := current process entry
    rw [entry, Option.some.injEq] at found
    subst found
    exact ⟨path, rfl⟩
  | checked summary exeName exePath supported =>
    intro process entry
    obtain ⟨path, started⟩ := current process entry
    refine ⟨started.symm, ?_⟩
    rw [Process.IsMoshServer, ← path]
    exact supported
  | _ => trivial

theorem current_step (standing : Standing request run) (current : request.Current run)
    {event : TerminateEvent} (undisturbed : Undisturbed run event) :
    request.Current (request.step run event) := by
  cases event with
  | changed table => exact current_changed current undisturbed
  | handler fault => exact current_advanced current (standing.spec fault)

theorem safeSignal_of_current (current : request.Current run) (event : TerminateEvent) :
    request.SafeSignal run event := by
  cases event with
  | changed table => trivial
  | handler fault =>
    intro summary process signal _ entry
    simp only [Current, signal] at current
    exact current process entry

theorem Advance.remaining {fault : Bool} {before after : TerminateStage}
    {receivers : List (Int × Process)}
    (advance : Advance request table fault before after receivers) :
    after.remaining ≤ before.remaining - 1 := by
  cases advance <;> simp [TerminateStage.remaining]

end Runs

def handlerSteps (events : List TerminateEvent) : Nat :=
  events.countP fun event => match event with
    | .changed _ => false
    | .handler _ => true

theorem remaining_run (request : TerminateRequest) (events : List TerminateEvent) :
    ∀ run, Standing request run →
      (events.foldl request.step run).stage.remaining ≤ run.stage.remaining - handlerSteps events := by
  induction events with
  | nil =>
    intro run _
    exact Nat.le_refl _
  | cons event rest ih =>
    intro run standing
    have tail := ih (request.step run event) (standing_step standing event)
    cases event with
    | changed table => simpa [handlerSteps, step] using tail
    | handler fault =>
      have count : handlerSteps (.handler fault :: rest) = handlerSteps rest + 1 := by
        simp [handlerSteps]
      have lower : (request.step run (.handler fault)).stage.remaining ≤ run.stage.remaining - 1 :=
        (standing.spec fault).remaining
      rw [List.foldl_cons, count]
      omega

theorem standing_run (request : TerminateRequest) (table : ProcessTable)
    (events : List TerminateEvent) : Standing request (request.run table events) := by
  induction events using List.reverseRecOn with
  | nil => exact standing_start
  | append_singleton events event ih =>
    rw [run, List.foldl_concat]
    exact standing_step ih event

theorem promise_run (request : TerminateRequest) (table : ProcessTable)
    (events : List TerminateEvent) :
    request.Promise (request.run table events) ↔
      Guarded.EveryStep request.step request.SafeSignal (start table) events := by
  refine Guarded.foldl_iff_everyStep (Standing request) request.Promise
    (fun _ event standing => standing_step standing event) ?_ ?_ ?_ events (start table)
    standing_start rfl
  · exact fun _ _ standing promise safe => promise_kept standing promise safe
  · exact fun _ _ standing stranger => promise_broken standing stranger
  · exact fun _ event standing broken => promise_not_regained standing broken event

/-- In whatever order the process table changes and the handler takes its steps, a call answers
    after five of them. It keeps its promise exactly if the pid is vacant or still that of the
    recorded process when the signal is sent, and so whenever no other process takes the pid after
    the call has first looked at it. -/
theorem terminate_promise (request : TerminateRequest) (table : ProcessTable)
    (events : List TerminateEvent) :
    (request.Promise (request.run table events) ↔
      Guarded.EveryStep request.step request.SafeSignal (start table) events) ∧
    (Guarded.EveryStep request.step Undisturbed (start table) events →
      request.Promise (request.run table events)) ∧
    (5 ≤ handlerSteps events → ∃ answer, (request.run table events).stage = .answered answer) := by
  have exactly := request.promise_run table events
  refine ⟨exactly, ?_, ?_⟩
  · intro undisturbed
    refine exactly.mpr (Guarded.EveryStep.weaken
      (fun run => Standing request run ∧ request.Current run) ?_ ?_ events (start table)
      ⟨standing_start, trivial⟩ undisturbed)
    · exact fun _ event both kept => ⟨standing_step both.1 event, current_step both.1 both.2 kept⟩
    · exact fun _ event both _ => safeSignal_of_current both.2 event
  · intro enough
    have spent := remaining_run request events (start table) standing_start
    have none_left : (request.run table events).stage.remaining = 0 := by
      change _ ≤ 5 - _ at spent
      change (events.foldl request.step (start table)).stage.remaining = 0
      omega
    cases stage : (request.run table events).stage with
    | answered answer => exact ⟨answer, rfl⟩
    | _ =>
      rw [stage] at none_left
      cases none_left

end TerminateRequest

section Recycled

def moshProcess : Process :=
  { startedAtUnixMs := 10, exe := ["usr", "bin", "mosh-server"], cmdline := "mosh-server new" }

def bashProcess : Process :=
  { startedAtUnixMs := 99, exe := ["usr", "bin", "bash"], cmdline := "bash" }

def onlyProcess (process : Process) : ProcessTable where
  entry pid := if pid = 1 then some process else none
  members _ := []
  positive := by
    intro pid _ found
    split at found
    · rename_i first
      omega
    · cases found

def twoTicksRequest : TerminateRequest where
  state := ServiceState.run {} twoTicks
  reached := ⟨{}, twoTicks, rfl⟩
  observer := { nodeName := "node", systemId := "system" }
  currentExe := none
  sessionId := "instrumented:10:1"
  nowMs := 11000

/-- Another process takes the pid between the checks and the signal. -/
def recycledEvents : List TerminateEvent :=
  [.handler false, .handler false, .handler false, .handler false,
    .changed (onlyProcess bashProcess), .handler false]

/-- The signal reaches a process that the registry has not recorded. -/
theorem recycled_is_signalled :
    (twoTicksRequest.run (onlyProcess moshProcess) recycledEvents).signalled = [(1, bashProcess)] ∧
      ¬ twoTicksRequest.Promise
        (twoTicksRequest.run (onlyProcess moshProcess) recycledEvents) := by
  have signalled : (twoTicksRequest.run (onlyProcess moshProcess) recycledEvents).signalled =
      [(1, bashProcess)] := by decide +kernel
  have answered : ((twoTicksRequest.run (onlyProcess moshProcess) recycledEvents).stage.answer).map
      TerminateAnswer.isTerminated = some true := by decide +kernel
  refine ⟨signalled, ?_⟩
  rw [Option.map_eq_some_iff] at answered
  obtain ⟨answer, stage, terminated⟩ := answered
  cases answer with
  | terminated response =>
    rw [TerminateRequest.Promise, TerminateStage.eq_answered stage, signalled]
    rintro ⟨process, same, -, supported⟩
    have stranger : bashProcess = process := (Prod.mk.inj (List.cons.inj same).1).2
    rw [← stranger, Process.IsMoshServer] at supported
    exact absurd supported (by decide +kernel)
  | refused status message => cases terminated
  | failed message => cases terminated

end Recycled

end Moshwatch
