import Moshwatch.Ui.App

namespace Moshwatch

namespace KeyCode

def moves (code : KeyCode) : Bool :=
  code = .down || code = .char 'j' || code = .up || code = .char 'k' || code = .char 'g' ||
    code = .char 'G'

end KeyCode

namespace AppEvent

def answers : AppEvent → Answers
  | .elapsed answers => answers
  | .press _ _ answers => answers

def moves : AppEvent → Bool
  | .elapsed _ => false
  | .press code _ _ => code.moves

end AppEvent

namespace Answers

/-- The daemon's answer to a request for a session that it lists is about that session. -/
def Honest (answers : Answers) : Prop :=
  ∀ listed, answers.listing = .ok listed → ∀ summary ∈ listed.sessions, ∀ response,
    answers.detail (sessionPath summary.sessionId) = .ok response →
      response.session.summary.sessionId = summary.sessionId

def Complete (answers : Answers) : Prop :=
  ∃ response, answers.listing = .ok response ∧ ∀ summary ∈ response.sessions,
    ∃ reply, answers.detail (sessionPath summary.sessionId) = .ok reply

end Answers

section Position

variable {summaries : List SessionSummary} {sessionId : String}

theorem positionOf_eq_some {position : Nat} (found : positionOf summaries sessionId = some position) :
    ∃ summary, summaries[position]? = some summary ∧ summary.sessionId = sessionId := by
  obtain ⟨bound, named, -⟩ := List.findIdx?_eq_some_iff_getElem.mp found
  exact ⟨summaries[position], List.getElem?_eq_getElem bound, decide_eq_true_eq.mp named⟩

theorem positionOf_of_mem {summary : SessionSummary} (member : summary ∈ summaries)
    (named : summary.sessionId = sessionId) : ∃ position, positionOf summaries sessionId = some position := by
  rw [← Option.isSome_iff_exists, positionOf, List.findIdx?_isSome, List.any_eq_true]
  exact ⟨summary, member, decide_eq_true named⟩

variable {previousId currentSessionId : Option String} {selected : Nat} {resolved : Bool}

theorem nextSelectedIndex_placed (listed : summaries ≠ []) :
    (nextSelectedIndex summaries previousId currentSessionId selected resolved).1 <
      summaries.length := by
  have positive := List.length_pos_iff.mpr listed
  have within : ∀ {name : Option String} {position : Nat},
      name.bind (positionOf summaries) = some position → position < summaries.length := by
    intro name position found
    obtain ⟨sessionId, -, here⟩ := Option.bind_eq_some_iff.mp found
    obtain ⟨summary, row, -⟩ := positionOf_eq_some here
    exact (List.getElem?_eq_some_iff.mp row).1
  rw [nextSelectedIndex, if_neg listed]
  split
  · rename_i found
    split at found
    · cases found
    · exact within found
  · rename_i found
    exact within found
  · exact lt_of_le_of_lt (Nat.min_le_right _ _) (by omega)

theorem nextSelectedIndex_resolved (listed : summaries ≠ []) :
    (nextSelectedIndex summaries previousId currentSessionId selected resolved).2 = true := by
  rw [nextSelectedIndex, if_neg listed]
  split <;> rfl

theorem nextSelectedIndex_previous {position : Nat}
    (found : positionOf summaries sessionId = some position) :
    nextSelectedIndex summaries (some sessionId) currentSessionId selected true =
      (position, true) := by
  have listed : summaries ≠ [] := by
    rintro rfl
    cases found
  simp only [nextSelectedIndex, if_neg listed, if_true, Option.bind_some, found]

end Position

namespace App

variable {app : App} {answers : Answers}

def Placed (app : App) : Prop :=
  app.selected < app.summaries.length ∨ app.summaries = [] ∧ app.selected = 0

/-- The initial selection is open only while nothing was listed. -/
def Opening (app : App) : Prop := app.initialSelectionResolved = false → app.summaries = []

def Paired (app : App) : Prop :=
  ∀ detail, app.detail = some detail → app.selectedId = some detail.summary.sessionId

/-- What `takeDetail` leaves alone. -/
theorem takeDetail_frame (app before : App) (answers : Answers) :
    (app.takeDetail before answers).summaries = app.summaries ∧
      (app.takeDetail before answers).selected = app.selected ∧
      (app.takeDetail before answers).initialSelectionResolved = app.initialSelectionResolved ∧
      (app.takeDetail before answers).pendingTerminate = app.pendingTerminate ∧
      (app.takeDetail before answers).currentSessionId = app.currentSessionId := by
  unfold takeDetail
  split
  · exact ⟨rfl, rfl, rfl, rfl, rfl⟩
  · split <;> exact ⟨rfl, rfl, rfl, rfl, rfl⟩

theorem selectedId_takeDetail (app before : App) (answers : Answers) :
    (app.takeDetail before answers).selectedId = app.selectedId := by
  obtain ⟨summaries, selected, -⟩ := takeDetail_frame app before answers
  rw [selectedId, selectedSummary, summaries, selected]
  rfl

theorem refresh_ok {response : ApiSessionsResponse} (listed : answers.listing = .ok response) :
    app.refresh answers = (app.takeListing answers response).takeDetail app answers := by
  rw [refresh, listed]

theorem refresh_error {error : String} (failed : answers.listing = .error error) :
    app.refresh answers =
      { app with
        lastError := some ("session refresh failed: " ++ error)
        snapshotStale := true } := by
  rw [refresh, failed]

theorem pendingTerminate_refresh (app : App) (answers : Answers) :
    (app.refresh answers).pendingTerminate = app.pendingTerminate := by
  cases listed : answers.listing with
  | ok response =>
    rw [refresh_ok listed, (takeDetail_frame _ _ _).2.2.2.1]
    rfl
  | error error =>
    rw [refresh_error listed]

theorem placed_refresh (placed : app.Placed) : (app.refresh answers).Placed := by
  cases listed : answers.listing with
  | ok response =>
    rw [refresh_ok listed]
    obtain ⟨summaries, selected, -⟩ := takeDetail_frame (app.takeListing answers response) app answers
    rw [Placed, summaries, selected]
    by_cases empty : response.sessions = []
    · right
      simp [takeListing, nextSelectedIndex, empty]
    · left
      exact nextSelectedIndex_placed empty
  | error error =>
    rw [refresh_error listed]
    exact placed

theorem opening_refresh (opening : app.Opening) : (app.refresh answers).Opening := by
  cases listed : answers.listing with
  | ok response =>
    rw [refresh_ok listed]
    obtain ⟨summaries, -, resolved, -⟩ := takeDetail_frame (app.takeListing answers response) app answers
    rw [Opening, summaries, resolved]
    intro unresolved
    by_contra listing
    have settled := @nextSelectedIndex_resolved response.sessions app.selectedId
      (answers.current response.sessions) app.selected app.initialSelectionResolved listing
    exact Bool.false_ne_true (unresolved.symm.trans settled)
  | error error =>
    rw [refresh_error listed]
    exact opening

theorem placed_moveSelection (app : App) (delta : Int) : (app.moveSelection delta).Placed := by
  unfold moveSelection
  split
  · rename_i empty
    exact .inr ⟨empty, rfl⟩
  · rename_i listed
    have positive := List.length_pos_iff.mpr listed
    left
    change (max 0 (min ((app.selected : Int) + delta) (app.summaries.length - 1))).toNat <
      app.summaries.length
    omega

theorem selectedId_refresh {sessionId : String} (resolved : app.initialSelectionResolved = true)
    (selected : app.selectedId = some sessionId)
    (lists : ∀ response, answers.listing = .ok response →
      ∃ summary ∈ response.sessions, summary.sessionId = sessionId) :
    (app.refresh answers).selectedId = some sessionId ∧
      (app.refresh answers).initialSelectionResolved = true := by
  cases listed : answers.listing with
  | error error =>
    rw [refresh_error listed]
    exact ⟨selected, resolved⟩
  | ok response =>
    obtain ⟨summary, member, named⟩ := lists response listed
    obtain ⟨position, found⟩ := positionOf_of_mem member named
    have next : nextSelectedIndex response.sessions app.selectedId
        (answers.current response.sessions) app.selected app.initialSelectionResolved =
          (position, true) := by
      rw [selected, resolved]
      exact nextSelectedIndex_previous found
    obtain ⟨row, here, same⟩ := positionOf_eq_some found
    have index : (app.takeListing answers response).selected = position := congrArg Prod.fst next
    have settled : (app.takeListing answers response).initialSelectionResolved = true :=
      congrArg Prod.snd next
    have shown : (app.takeListing answers response).summaries[position]? = some row := here
    rw [refresh_ok listed, selectedId_takeDetail, (takeDetail_frame _ _ _).2.2.1]
    refine ⟨?_, settled⟩
    rw [selectedId, selectedSummary, index, shown, Option.map_some, same]

/-- A refresh keeps the detail with the selection if it belongs to the selection it finds, whatever
    requests fail. -/
theorem paired_refresh (honest : answers.Honest) (paired : app.Paired) :
    (app.refresh answers).Paired := by
  cases listed : answers.listing with
  | error error =>
    rw [refresh_error listed]
    exact paired
  | ok response =>
    rw [refresh_ok listed]
    intro detail shown
    rw [selectedId_takeDetail]
    unfold takeDetail at shown
    split at shown
    · cases shown
    · rename_i sessionId selected
      rw [selected]
      split at shown
      · rename_i reply answered
        cases shown
        obtain ⟨summary, row, named⟩ := Option.map_eq_some_iff.mp selected
        rw [← named] at answered
        rw [honest response listed summary (List.mem_of_getElem? row) reply answered, named]
      · simp only at shown
        split at shown
        · rename_i same
          rw [← same]
          exact paired detail shown
        · cases shown

/-- So does one after a move of the selection, if the daemon answers. -/
theorem paired_refresh_complete (honest : answers.Honest) (complete : answers.Complete) :
    (app.refresh answers).Paired := by
  obtain ⟨response, listed, answered⟩ := complete
  rw [refresh_ok listed]
  intro detail shown
  rw [selectedId_takeDetail]
  unfold takeDetail at shown
  split at shown
  · cases shown
  · rename_i sessionId selected
    rw [selected]
    obtain ⟨summary, row, named⟩ := Option.map_eq_some_iff.mp selected
    have member : summary ∈ response.sessions := List.mem_of_getElem? row
    obtain ⟨reply, replied⟩ := answered summary member
    rw [← named, replied] at shown
    cases shown
    rw [honest response listed summary member reply replied, named]

structure SameView (app changed : App) : Prop where
  summaries : changed.summaries = app.summaries
  selected : changed.selected = app.selected
  detail : changed.detail = app.detail
  resolved : changed.initialSelectionResolved = app.initialSelectionResolved

variable {changed : App}

theorem SameView.rfl : app.SameView app := ⟨Eq.refl _, Eq.refl _, Eq.refl _, Eq.refl _⟩

theorem SameView.selectedId (same : app.SameView changed) : changed.selectedId = app.selectedId := by
  rw [App.selectedId, selectedSummary, same.summaries, same.selected]
  exact Eq.refl _

theorem SameView.placed (same : app.SameView changed) (placed : app.Placed) : changed.Placed := by
  rw [Placed, same.summaries, same.selected]
  exact placed

theorem SameView.opening (same : app.SameView changed) (opening : app.Opening) : changed.Opening := by
  rw [Opening, same.summaries, same.resolved]
  exact opening

theorem SameView.paired (same : app.SameView changed) (paired : app.Paired) : changed.Paired := by
  intro shown here
  rw [same.selectedId]
  exact paired shown (same.detail ▸ here)

theorem sameView_armTerminate (app : App) : app.SameView app.armTerminate := by
  unfold armTerminate
  split <;> exact ⟨Eq.refl _, Eq.refl _, Eq.refl _, Eq.refl _⟩

end App

namespace AppRun

variable {run : AppRun} {event : AppEvent}

theorem run_concat (answers : Answers) (events : List AppEvent) (event : AppEvent) :
    AppRun.run answers (events ++ [event]) = (AppRun.run answers events).step event :=
  List.foldl_concat ..

inductive Stepped (run : AppRun) (event : AppEvent) : App → Prop where
  | kept (app : App) (same : run.app.SameView app) : Stepped run event app
  | refreshed (app : App) (same : run.app.SameView app) :
      Stepped run event (app.refresh event.answers)
  | moved (app : App) (index : app = { run.app with selected := app.selected }) (placed : app.Placed)
      (moves : event.moves = true) : Stepped run event (app.refresh event.answers)

theorem stepped_confirmTerminate {code : KeyCode}
    {control : Except String ApiSessionControlResponse} {answers : Answers} :
    run.Stepped (.press code control answers) (run.app.confirmTerminate control answers) := by
  unfold App.confirmTerminate
  split
  · exact .kept _ ⟨rfl, rfl, rfl, rfl⟩
  · split
    · dsimp only
      split
      · exact .kept _ ⟨rfl, rfl, rfl, rfl⟩
      · exact .refreshed _ ⟨rfl, rfl, rfl, rfl⟩
    · exact .kept _ ⟨rfl, rfl, rfl, rfl⟩

theorem stepped_moveSelection {code : KeyCode}
    {control : Except String ApiSessionControlResponse} {answers : Answers} (delta : Int)
    (moves : code.moves = true) :
    run.Stepped (.press code control answers) ((run.app.moveSelection delta).refresh answers) := by
  refine .moved _ ?_ (App.placed_moveSelection run.app delta) moves
  unfold App.moveSelection
  split <;> rfl

theorem stepped_navigate {code : KeyCode} {control : Except String ApiSessionControlResponse}
    {answers : Answers} :
    run.Stepped (.press code control answers) (run.navigate code answers).app := by
  unfold navigate
  split
  · exact .kept _ .rfl
  · exact stepped_moveSelection 1 rfl
  · exact stepped_moveSelection 1 rfl
  · exact stepped_moveSelection (-1) rfl
  · exact stepped_moveSelection (-1) rfl
  · refine .moved { run.app with selected := 0 } rfl ?_ rfl
    by_cases empty : run.app.summaries = []
    · exact .inr ⟨empty, rfl⟩
    · exact .inl (List.length_pos_iff.mpr empty)
  · split
    · exact .kept _ .rfl
    · rename_i listed
      refine .moved { run.app with selected := run.app.summaries.length - 1 } rfl (.inl ?_) rfl
      have positive := List.length_pos_iff.mpr listed
      change run.app.summaries.length - 1 < run.app.summaries.length
      omega
  · exact .kept _ (App.sameView_armTerminate run.app)
  · exact .refreshed _ .rfl
  · exact .kept _ .rfl

theorem stepped (run : AppRun) (event : AppEvent) : run.Stepped event (run.step event).app := by
  cases event with
  | elapsed answers =>
    rw [step]
    split
    · exact .kept _ .rfl
    · exact .refreshed _ .rfl
  | press code control answers =>
    rw [step]
    split
    · exact .kept _ .rfl
    · split
      · exact stepped_navigate
      · split
        · exact stepped_confirmTerminate
        · split
          · exact .kept _ ⟨rfl, rfl, rfl, rfl⟩
          · exact .kept _ .rfl

theorem Stepped.placed {app : App} (stepped : run.Stepped event app) (placed : run.app.Placed) :
    app.Placed := by
  cases stepped with
  | kept app same => exact same.placed placed
  | refreshed app same => exact App.placed_refresh (same.placed placed)
  | moved app index inside moves => exact App.placed_refresh inside

theorem Stepped.opening {app : App} (stepped : run.Stepped event app) (opening : run.app.Opening) :
    app.Opening := by
  cases stepped with
  | kept app same => exact same.opening opening
  | refreshed app same => exact App.opening_refresh (same.opening opening)
  | moved app index inside moves =>
    apply App.opening_refresh
    rw [index]
    exact opening

variable (answers : Answers)

theorem selection_run (events : List AppEvent) :
    (AppRun.run answers events).app.Placed ∧ (AppRun.run answers events).app.Opening := by
  induction events using List.reverseRecOn with
  | nil => exact ⟨App.placed_refresh (.inr ⟨rfl, rfl⟩), App.opening_refresh fun _ => rfl⟩
  | append_singleton events event ih =>
    rw [run_concat]
    exact ⟨(stepped _ event).placed ih.1, (stepped _ event).opening ih.2⟩

/-- A key that moves the selection is not among the events, and the listings that arrive have the
    session. -/
def KeepsListing (sessionId : String) (event : AppEvent) : Prop :=
  event.moves = false ∧ ∀ response, event.answers.listing = .ok response →
    ∃ summary ∈ response.sessions, summary.sessionId = sessionId

theorem Stepped.selectedId {app : App} {sessionId : String} (stepped : run.Stepped event app)
    (keeps : KeepsListing sessionId event) (resolved : run.app.initialSelectionResolved = true)
    (selected : run.app.selectedId = some sessionId) :
    app.selectedId = some sessionId ∧ app.initialSelectionResolved = true := by
  cases stepped with
  | kept app same => exact ⟨same.selectedId.trans selected, same.resolved.trans resolved⟩
  | refreshed app same =>
    exact App.selectedId_refresh (same.resolved.trans resolved) (same.selectedId.trans selected)
      keeps.2
  | moved app index inside moves => exact absurd (keeps.1.symm.trans moves) (by decide)

/-- The selection is always on a row, if there is one. While no key moves it, it stays with its
    session as long as the listings have that session, wherever its row goes and whatever the
    detection of the current session finds. -/
theorem selection_follows_session (events : List AppEvent) :
    ((AppRun.run answers events).app.summaries ≠ [] →
      ∃ sessionId, (AppRun.run answers events).app.selectedId = some sessionId) ∧
    ∀ later sessionId, (AppRun.run answers events).app.selectedId = some sessionId →
      (∀ event ∈ later, KeepsListing sessionId event) →
      (AppRun.run answers (events ++ later)).app.selectedId = some sessionId := by
  obtain ⟨placed, opening⟩ := selection_run answers events
  refine ⟨?_, ?_⟩
  · intro listed
    have inside := placed.resolve_right fun empty => listed empty.1
    exact ⟨_, by rw [App.selectedId, App.selectedSummary, List.getElem?_eq_getElem inside]; rfl⟩
  · intro later sessionId selected keeps
    have resolved : (AppRun.run answers events).app.initialSelectionResolved = true := by
      by_contra unresolved
      have empty := opening (Bool.eq_false_iff.mpr unresolved)
      rw [App.selectedId, App.selectedSummary, empty] at selected
      cases selected
    suffices (AppRun.run answers (events ++ later)).app.selectedId = some sessionId ∧
        (AppRun.run answers (events ++ later)).app.initialSelectionResolved = true from this.1
    induction later using List.reverseRecOn with
    | nil => simpa using And.intro selected resolved
    | append_singleton later event ih =>
      have before := ih fun earlier member => keeps earlier (List.mem_append_left _ member)
      rw [← List.append_assoc, run_concat]
      exact (stepped _ event).selectedId (keeps event (by simp)) before.2 before.1

theorem Stepped.paired {app : App} (stepped : run.Stepped event app) (honest : event.answers.Honest)
    (complete : event.moves = true → event.answers.Complete) (paired : run.app.Paired) :
    app.Paired := by
  cases stepped with
  | kept app same => exact same.paired paired
  | refreshed app same => exact App.paired_refresh honest (same.paired paired)
  | moved app index inside moves => exact App.paired_refresh_complete honest (complete moves)

theorem paired_run {answers : Answers} {events : List AppEvent} (opened : answers.Honest)
    (honest : ∀ event ∈ events, event.answers.Honest)
    (complete : ∀ event ∈ events, event.moves = true → event.answers.Complete) :
    (AppRun.run answers events).app.Paired := by
  induction events using List.reverseRecOn with
  | nil => exact App.paired_refresh opened fun detail shown => by cases shown
  | append_singleton events event ih =>
    have before := ih (fun earlier member => honest earlier (List.mem_append_left _ member))
      fun earlier member => complete earlier (List.mem_append_left _ member)
    rw [run_concat]
    exact (stepped _ event).paired (honest event (by simp)) (complete event (by simp)) before

/-- The detail shown is that of the selected session, whatever requests fail, as long as those made
    by a key that moves the selection do not. -/
theorem detail_of_selected_session {answers : Answers} {events : List AppEvent}
    (opened : answers.Honest) (honest : ∀ event ∈ events, event.answers.Honest)
    (complete : ∀ event ∈ events, event.moves = true → event.answers.Complete) :
    ∀ detail, (AppRun.run answers events).app.detail = some detail →
      (AppRun.run answers events).app.selectedId = some detail.summary.sessionId :=
  paired_run opened honest complete

section Sample

def listedSummary (pid : Int) : SessionSummary where
  sessionId := instrumentedSessionId pid 1000
  displaySessionId := none
  pid
  kind := .instrumented
  health := .ok
  startedAtUnixMs := 1000
  lastObservedUnixMs := 2000
  counterResetUnixMs := none
  bindAddr := none
  udpPort := none
  clientAddr := none
  peer := {}
  cmdline := "mosh-server-real"
  metrics := {}

def sampleObserver : ObserverInfo := { nodeName := "node-1", systemId := "system-1" }

/-- A daemon with two sessions; `answersDetail` says which requests for a session it answers. -/
def pairAnswers (answersDetail : Int → Bool) : Answers where
  listing := .ok
    { schemaVersion := apiSchemaVersion
      observer := sampleObserver
      generatedAtUnixMs := 3000
      totalSessions := 2
      truncatedSessionCount := 0
      droppedSessionsTotal := 0
      sessions := [listedSummary 41, listedSummary 42] }
  config := .error "connect timed out"
  current := fun _ => none
  detail := fun path =>
    match [(41 : Int), 42].find? fun pid => path = sessionPath (instrumentedSessionId pid 1000) with
    | none => .error "request failed: HTTP/1.1 404 Not Found"
    | some pid =>
      if answersDetail pid then
        .ok
          { schemaVersion := apiSchemaVersion
            observer := sampleObserver
            generatedAtUnixMs := 3000
            session := (listedSummary pid).withHistory 0 0 [] }
      else .error "read response timed out"

theorem pairAnswers_honest (answersDetail : Int → Bool) : (pairAnswers answersDetail).Honest := by
  intro listed _ summary _ response answered
  simp only [pairAnswers] at answered
  split at answered
  · cases answered
  · rename_i pid found
    split at answered
    · cases answered
      have same := List.find?_some found
      simp only [decide_eq_true_eq, sessionPath, String.append_right_inj] at same
      exact same.symm
    · cases answered

theorem pairAnswers_complete : (pairAnswers fun _ => true).Complete := by
  refine ⟨_, rfl, ?_⟩
  intro summary member
  simp only [List.mem_cons, List.not_mem_nil, or_false] at member
  rcases member with rfl | rfl
  · exact ⟨_, rfl⟩
  · exact ⟨_, rfl⟩

/-- The listing of the two sessions in the other order. -/
def reversedAnswers : Answers :=
  { pairAnswers fun _ => true with
    listing := .ok
      { schemaVersion := apiSchemaVersion
        observer := sampleObserver
        generatedAtUnixMs := 4000
        totalSessions := 2
        truncatedSessionCount := 0
        droppedSessionsTotal := 0
        sessions := [listedSummary 42, listedSummary 41] } }

theorem selection_follows_session_reversed :
    (AppRun.run (pairAnswers fun _ => true) [.elapsed reversedAnswers]).app.selected = 1 ∧
      (AppRun.run (pairAnswers fun _ => true) [.elapsed reversedAnswers]).app.selectedId =
        some (instrumentedSessionId 41 1000) := by
  have follows := (selection_follows_session (pairAnswers fun _ => true) []).2
    [.elapsed reversedAnswers] (instrumentedSessionId 41 1000) rfl
  refine ⟨rfl, follows ?_⟩
  intro event member
  rw [List.mem_singleton.mp member]
  refine ⟨rfl, ?_⟩
  intro response listed
  cases listed
  exact ⟨listedSummary 41, by simp, rfl⟩

def downUnanswered : List AppEvent :=
  [.press .down (.error "") (pairAnswers fun _ => true), .elapsed (pairAnswers fun _ => false)]

theorem detail_of_selected_session_moved :
    ∃ detail,
      (AppRun.run (pairAnswers fun _ => true) downUnanswered).app.detail = some detail ∧
      (AppRun.run (pairAnswers fun _ => true) downUnanswered).app.selectedId =
        some detail.summary.sessionId := by
  have shown :
      (AppRun.run (pairAnswers fun _ => true) downUnanswered).app.detail.isSome = true := rfl
  obtain ⟨detail, found⟩ := Option.isSome_iff_exists.mp shown
  refine ⟨detail, found, detail_of_selected_session (pairAnswers_honest _) ?_ ?_ detail found⟩
  · intro event member
    simp only [downUnanswered, List.mem_cons, List.not_mem_nil, or_false] at member
    rcases member with rfl | rfl <;> exact pairAnswers_honest _
  · intro event member moves
    simp only [downUnanswered, List.mem_cons, List.not_mem_nil, or_false] at member
    rcases member with rfl | rfl
    · exact pairAnswers_complete
    · cases moves

/-- A move whose request for the new session fails leaves the detail of the session before under
    the new selection: `previous_id` is taken after the move. -/
theorem detail_of_session_before :
    let app := (AppRun.run (pairAnswers fun _ => true)
      [.press .down (.error "") (pairAnswers fun _ => false)]).app
    app.selectedId = some (instrumentedSessionId 42 1000) ∧
      app.detail.map (fun detail => detail.summary.sessionId) =
        some (instrumentedSessionId 41 1000) :=
  ⟨rfl, rfl⟩

end Sample

end AppRun

end Moshwatch
