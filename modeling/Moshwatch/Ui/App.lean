import Moshwatch.Core.Responses
import Moshwatch.Daemon.Terminate

namespace Moshwatch

structure PendingTerminate where
  sessionId : String
  pid : Int
  label : String
  deriving DecidableEq

/-- The state of the terminal interface, without what only the drawing reads. -/
structure App where
  thresholds : HealthThresholds := {}
  snapshotStale : Bool := false
  snapshotGeneratedAtUnixMs : Option Int := none
  totalSessions : Nat := 0
  truncatedSessionCount : Nat := 0
  droppedSessionsTotal : Nat := 0
  summaries : List SessionSummary := []
  detail : Option SessionSnapshot := none
  currentSessionId : Option String := none
  initialSelectionResolved : Bool := false
  selected : Nat := 0
  pendingTerminate : Option PendingTerminate := none
  lastNotice : Option String := none
  lastError : Option String := none

/-- What a refresh gets from the daemon, for each path it asks for, and what the detection of the
    current session finds among the summaries. An error is its text. -/
structure Answers where
  listing : Except String ApiSessionsResponse
  config : Except String ApiConfigResponse
  current : List SessionSummary → Option String
  detail : String → Except String ApiSessionResponse

def sessionLabel (summary : SessionSummary) : String :=
  summary.displaySessionId.getD summary.sessionId

def displaySessionLabel (summary : SessionSummary) (currentSessionId : Option String) : String :=
  let label := sessionLabel summary
  if currentSessionId = some summary.sessionId then label ++ " [here]" else label

def positionOf (summaries : List SessionSummary) (sessionId : String) : Option Nat :=
  summaries.findIdx? fun summary => summary.sessionId = sessionId

def nextSelectedIndex (summaries : List SessionSummary) (previousId currentSessionId : Option String)
    (selected : Nat) (initialSelectionResolved : Bool) : Nat × Bool :=
  if summaries = [] then (0, initialSelectionResolved)
  else
    match (if initialSelectionResolved then none else currentSessionId.bind (positionOf summaries)),
      previousId.bind (positionOf summaries) with
    | some position, _ => (position, true)
    | none, some position => (position, true)
    | none, none => (min selected (summaries.length - 1), true)

def sessionPath (sessionId : String) : String := "/v1/sessions/" ++ sessionId

def terminatePath (sessionId : String) : String := "/v1/sessions/" ++ sessionId ++ "/terminate"

namespace App

def selectedSummary (app : App) : Option SessionSummary := app.summaries[app.selected]?

def selectedId (app : App) : Option String := app.selectedSummary.map SessionSummary.sessionId

def armTerminate (app : App) : App :=
  match app.selectedSummary with
  | none => { app with lastNotice := some "no session selected" }
  | some summary =>
    { app with
      pendingTerminate := some
        { sessionId := summary.sessionId
          pid := summary.pid
          label := displaySessionLabel summary app.currentSessionId }
      lastNotice := none
      lastError := none }

def cancelTerminate (app : App) : App :=
  { app with
    pendingTerminate := none
    lastNotice := some "terminate cancelled"
    lastError := none }

/-- The listing of a successful request takes the place of the old one. -/
def takeListing (app : App) (answers : Answers) (response : ApiSessionsResponse) : App :=
  let previousId := app.selectedId
  let currentSessionId := answers.current response.sessions
  let (selected, initialSelectionResolved) :=
    nextSelectedIndex response.sessions previousId currentSessionId app.selected
      app.initialSelectionResolved
  { app with
    snapshotGeneratedAtUnixMs := some response.generatedAtUnixMs
    thresholds :=
      match answers.config with
      | .ok config => config.config.thresholds
      | .error _ => app.thresholds
    totalSessions := response.totalSessions
    truncatedSessionCount := response.truncatedSessionCount
    droppedSessionsTotal := response.droppedSessionsTotal
    snapshotStale := false
    summaries := response.sessions
    currentSessionId
    selected
    initialSelectionResolved
    detail := none }

/-- The detail of the selected session; `before` is the state the refresh began with. -/
def takeDetail (app before : App) (answers : Answers) : App :=
  match app.selectedId with
  | none => { app with lastError := none }
  | some sessionId =>
    match answers.detail (sessionPath sessionId) with
    | .ok response =>
      { app with
        snapshotGeneratedAtUnixMs := some response.generatedAtUnixMs
        detail := some response.session
        lastError := none }
    | .error error =>
      { app with
        detail := if before.selectedId = some sessionId then before.detail else none
        lastError := some ("detail refresh failed: " ++ error) }

def refresh (app : App) (answers : Answers) : App :=
  match answers.listing with
  | .ok response => (app.takeListing answers response).takeDetail app answers
  | .error error =>
    { app with lastError := some ("session refresh failed: " ++ error), snapshotStale := true }

def confirmTerminate (app : App) (control : Except String ApiSessionControlResponse)
    (answers : Answers) : App :=
  match app.pendingTerminate with
  | none => { app with lastNotice := some "no terminate action pending" }
  | some pending =>
    let app := { app with pendingTerminate := none }
    match control with
    | .ok response =>
      if response.action ≠ .terminate then
        { app with lastError := some "terminate failed: unexpected control response" }
      else
        { app with
          lastNotice := some s!"SIGTERM requested for pid {pending.pid} ({pending.label})"
          lastError := none }.refresh answers
    | .error error =>
      { app with
        lastError := some s!"terminate failed for pid {pending.pid} ({pending.label}): {error}" }

/-- `move_selection`, in `isize`. -/
def moveSelection (app : App) (delta : Int) : App :=
  if app.summaries = [] then { app with selected := 0 }
  else
    { app with
      selected := (max 0 (min ((app.selected : Int) + delta) (app.summaries.length - 1))).toNat }

end App

inductive KeyCode where
  | char (ch : Char)
  | enter
  | esc
  | up
  | down
  | other
  deriving DecidableEq

namespace KeyCode

def confirms (code : KeyCode) : Bool := code = .char 'y' || code = .enter

def cancels (code : KeyCode) : Bool := code = .char 'n' || code = .esc

end KeyCode

/-- The refresh interval has passed, or a key is pressed; with what the requests made then get. -/
inductive AppEvent where
  | elapsed (answers : Answers)
  | press (code : KeyCode) (control : Except String ApiSessionControlResponse) (answers : Answers)

/-- The loop of `run_app`: the paths it has posted to and whether it has returned. -/
structure AppRun where
  app : App
  posted : List String
  returned : Bool

namespace AppRun

/-- A key while no termination is pending. -/
def navigate (run : AppRun) (code : KeyCode) (answers : Answers) : AppRun :=
  match code with
  | .char 'q' => { run with returned := true }
  | .down | .char 'j' => { run with app := (run.app.moveSelection 1).refresh answers }
  | .up | .char 'k' => { run with app := (run.app.moveSelection (-1)).refresh answers }
  | .char 'g' => { run with app := { run.app with selected := 0 }.refresh answers }
  | .char 'G' =>
    if run.app.summaries = [] then run
    else
      { run with
        app := { run.app with selected := run.app.summaries.length - 1 }.refresh answers }
  | .char 'x' => { run with app := run.app.armTerminate }
  | .char 'r' => { run with app := run.app.refresh answers }
  | _ => run

def step (run : AppRun) : AppEvent → AppRun
  | .elapsed answers => if run.returned then run else { run with app := run.app.refresh answers }
  | .press code control answers =>
    if run.returned then run
    else
      match run.app.pendingTerminate with
      | none => run.navigate code answers
      | some pending =>
        if code.confirms then
          { run with
            app := run.app.confirmTerminate control answers
            posted := run.posted ++ [terminatePath pending.sessionId] }
        else if code.cancels then { run with app := run.app.cancelTerminate }
        else run

/-- `main` refreshes once before the loop. -/
def start (answers : Answers) : AppRun :=
  { app := App.refresh {} answers, posted := [], returned := false }

def run (answers : Answers) (events : List AppEvent) : AppRun := events.foldl step (start answers)

end AppRun

end Moshwatch
