import Moshwatch.Ui.Selection

namespace Moshwatch

namespace AppEvent

def decides : AppEvent → Bool
  | .elapsed _ => false
  | .press code _ _ => code.confirms || code.cancels

def confirms : AppEvent → Bool
  | .elapsed _ => false
  | .press code _ _ => code.confirms

def arms : AppEvent → Bool
  | .elapsed _ => false
  | .press code _ _ => code = .char 'x'

end AppEvent

namespace App

def prompt (app : App) : Option PendingTerminate :=
  app.selectedSummary.map fun summary =>
    { sessionId := summary.sessionId
      pid := summary.pid
      label := displaySessionLabel summary app.currentSessionId }

variable {app : App}

theorem pendingTerminate_armTerminate (none : app.pendingTerminate = none) :
    app.armTerminate.pendingTerminate = app.prompt := by
  unfold armTerminate prompt
  cases app.selectedSummary with
  | none => exact none
  | some summary => rfl

theorem pendingTerminate_confirmTerminate (control : Except String ApiSessionControlResponse)
    (answers : Answers) {pending : PendingTerminate} (here : app.pendingTerminate = some pending) :
    (app.confirmTerminate control answers).pendingTerminate = none := by
  unfold confirmTerminate
  rw [here]
  cases control with
  | error error => rfl
  | ok response =>
    dsimp only
    split
    · rfl
    · rw [pendingTerminate_refresh]

theorem pendingTerminate_moveSelection (app : App) (delta : Int) :
    (app.moveSelection delta).pendingTerminate = app.pendingTerminate := by
  unfold moveSelection
  split <;> rfl

end App

namespace AppRun

variable {run : AppRun} {event : AppEvent}

theorem pendingTerminate_navigate {code : KeyCode} {answers : Answers}
    (unprompted : run.app.pendingTerminate = none) :
    (run.navigate code answers).app.pendingTerminate =
      if code = .char 'x' then run.app.prompt else none := by
  unfold navigate
  split
  · exact unprompted
  · rw [App.pendingTerminate_refresh, App.pendingTerminate_moveSelection]
    exact unprompted
  · rw [App.pendingTerminate_refresh, App.pendingTerminate_moveSelection]
    exact unprompted
  · rw [App.pendingTerminate_refresh, App.pendingTerminate_moveSelection]
    exact unprompted
  · rw [App.pendingTerminate_refresh, App.pendingTerminate_moveSelection]
    exact unprompted
  · rw [App.pendingTerminate_refresh]
    exact unprompted
  · split
    · exact unprompted
    · rw [App.pendingTerminate_refresh]
      exact unprompted
  · exact App.pendingTerminate_armTerminate unprompted
  · rw [App.pendingTerminate_refresh]
    exact unprompted
  · rw [if_neg ‹code = .char 'x' → False›]
    exact unprompted

theorem posted_navigate (code : KeyCode) (answers : Answers) :
    (run.navigate code answers).posted = run.posted := by
  unfold navigate
  split <;> try rfl
  split <;> rfl

theorem returned_navigate {code : KeyCode} {answers : Answers} (armed : code = .char 'x') :
    (run.navigate code answers).returned = run.returned := by
  subst armed
  rfl

theorem pendingTerminate_step (run : AppRun) (event : AppEvent) :
    (run.step event).app.pendingTerminate =
      if run.returned then run.app.pendingTerminate
      else
        match run.app.pendingTerminate with
        | none => if event.arms then run.app.prompt else none
        | some pending => if event.decides then none else some pending := by
  cases event with
  | elapsed answers =>
    rw [step]
    split
    · rfl
    · rw [App.pendingTerminate_refresh]
      cases run.app.pendingTerminate <;> rfl
  | press code control answers =>
    rw [step]
    split
    · rfl
    · cases prompted : run.app.pendingTerminate with
      | none => simpa [AppEvent.arms] using pendingTerminate_navigate prompted
      | some pending =>
        by_cases confirms : code.confirms = true
        · simp only [confirms, if_true, AppEvent.decides, Bool.true_or]
          exact App.pendingTerminate_confirmTerminate control answers prompted
        · by_cases cancels : code.cancels = true
          · simp [confirms, cancels, AppEvent.decides, App.cancelTerminate]
          · simp [confirms, cancels, AppEvent.decides, prompted]

theorem posted_step (run : AppRun) (event : AppEvent) :
    (run.step event).posted =
      run.posted ++
        match run.app.pendingTerminate with
        | some pending =>
          if event.confirms && !run.returned then [terminatePath pending.sessionId] else []
        | none => [] := by
  cases event with
  | elapsed answers =>
    rw [step]
    split <;> cases run.app.pendingTerminate <;> simp [AppEvent.confirms]
  | press code control answers =>
    rw [step]
    split
    · rename_i returned
      cases run.app.pendingTerminate <;> simp [returned]
    · rename_i running
      cases run.app.pendingTerminate with
      | none =>
        rw [List.append_nil]
        exact posted_navigate code answers
      | some pending =>
        by_cases confirms : code.confirms = true
        · simp [confirms, running, AppEvent.confirms]
        · by_cases cancels : code.cancels = true
          · simp [confirms, cancels, AppEvent.confirms]
          · simp [confirms, cancels, AppEvent.confirms]

theorem unprompted_of_returned (answers : Answers) (events : List AppEvent) :
    (AppRun.run answers events).returned = true →
      (AppRun.run answers events).app.pendingTerminate = none := by
  induction events using List.reverseRecOn with
  | nil =>
    intro returned
    cases returned
  | append_singleton events event ih =>
    rw [run_concat]
    generalize AppRun.run answers events = run at ih
    intro returned
    rw [pendingTerminate_step]
    by_cases before : run.returned = true
    · rw [if_pos before]
      exact ih before
    · rw [if_neg before]
      cases event with
      | elapsed answers => simp [step, before] at returned
      | press code control answers =>
        cases prompted : run.app.pendingTerminate with
        | none =>
          by_cases arms : code = .char 'x'
          · rw [step, if_neg before, prompted] at returned
            dsimp only at returned
            rw [returned_navigate arms] at returned
            exact absurd returned before
          · simp [AppEvent.arms, arms]
        | some pending =>
          rw [step, if_neg before, prompted] at returned
          dsimp only at returned
          split at returned
          · exact absurd returned before
          · split at returned
            · exact absurd returned before
            · exact absurd returned before

/-- `x` was pressed on a row and no key decided since: the prompt names the session and the pid
    of that row. -/
inductive Prompted (answers : Answers) : List AppEvent → PendingTerminate → Prop where
  | asked (before : List AppEvent) (arming : AppEvent) (after : List AppEvent)
      (pending : PendingTerminate) (arms : arming.arms = true)
      (running : (AppRun.run answers before).returned = false)
      (unprompted : (AppRun.run answers before).app.pendingTerminate = none)
      (row : (AppRun.run answers before).app.prompt = some pending)
      (undecided : ∀ event ∈ after, event.decides = false) :
      Prompted answers (before ++ arming :: after) pending

variable {answers : Answers} {events : List AppEvent} {pending : PendingTerminate}

theorem prompted_concat (event : AppEvent) :
    Prompted answers (events ++ [event]) pending ↔
      (Prompted answers events pending ∧ event.decides = false) ∨
        (event.arms = true ∧ (AppRun.run answers events).returned = false ∧
          (AppRun.run answers events).app.pendingTerminate = none ∧
          (AppRun.run answers events).app.prompt = some pending) := by
  constructor
  · intro prompted
    generalize whole : events ++ [event] = all at prompted
    obtain ⟨before, arming, after, pending, arms, running, unprompted, row, undecided⟩ := prompted
    rcases List.eq_nil_or_concat after with rfl | ⟨front, last, rfl⟩
    · obtain ⟨rfl, same⟩ := List.append_inj' whole rfl
      cases same
      exact .inr ⟨arms, running, unprompted, row⟩
    · rw [List.concat_eq_append, ← List.cons_append, ← List.append_assoc] at whole
      obtain ⟨rfl, same⟩ := List.append_inj' whole rfl
      cases same
      refine .inl ⟨.asked before arming front pending arms running unprompted row ?_, ?_⟩
      · exact fun earlier member => undecided earlier (by simp [member])
      · exact undecided event (by simp)
  · rintro (⟨⟨before, arming, after, pending, arms, running, unprompted, row, undecided⟩, quiet⟩ |
      ⟨arms, running, unprompted, row⟩)
    · rw [List.append_assoc, List.cons_append]
      refine .asked before arming (after ++ [event]) pending arms running unprompted row ?_
      intro later member
      rcases List.mem_append.mp member with inside | last
      · exact undecided later inside
      · rw [List.mem_singleton.mp last]
        exact quiet
    · exact .asked events event [] pending arms running unprompted row fun _ member => by
        cases member

/-- The state has a prompt exactly if `x` asked for it and nothing was decided since. -/
theorem pendingTerminate_run :
    (AppRun.run answers events).app.pendingTerminate = some pending ↔
      Prompted answers events pending := by
  induction events using List.reverseRecOn with
  | nil =>
    refine iff_of_false ?_ ?_
    · intro shown
      rw [AppRun.run, List.foldl_nil, start, App.pendingTerminate_refresh] at shown
      cases shown
    · intro prompted
      generalize whole : ([] : List AppEvent) = all at prompted
      cases prompted
      exact List.append_ne_nil_of_right_ne_nil _ (List.cons_ne_nil _ _) whole.symm
  | append_singleton events event ih =>
    rw [prompted_concat, run_concat, ← ih, pendingTerminate_step]
    have idle := unprompted_of_returned answers events
    generalize AppRun.run answers events = run at idle
    by_cases returned : run.returned = true
    · simp [idle returned, returned]
    · cases run.app.pendingTerminate with
      | none => simp [returned]
      | some other => simp [returned]; grind

/-- The interface posts a termination exactly when a key confirms a prompt, and the session it
    names is the one that was selected when `x` made the prompt, whatever the listing and the
    selection have become since. -/
theorem terminates_what_was_confirmed (answers : Answers) (events : List AppEvent)
    (event : AppEvent) :
    (∃ pending, Prompted answers events pending ∧ event.confirms = true ∧
      (AppRun.run answers (events ++ [event])).posted =
        (AppRun.run answers events).posted ++ [terminatePath pending.sessionId]) ∨
    ((event.confirms = true → ¬ ∃ pending, Prompted answers events pending) ∧
      (AppRun.run answers (events ++ [event])).posted = (AppRun.run answers events).posted) := by
  rw [run_concat, posted_step]
  cases prompted : (AppRun.run answers events).app.pendingTerminate with
  | none =>
    right
    refine ⟨?_, List.append_nil _⟩
    rintro - ⟨pending, made⟩
    rw [pendingTerminate_run.mpr made] at prompted
    cases prompted
  | some pending =>
    have running : (AppRun.run answers events).returned = false := by
      by_contra returned
      rw [unprompted_of_returned answers events (by simpa using returned)] at prompted
      cases prompted
    by_cases confirms : event.confirms = true
    · left
      exact ⟨pending, pendingTerminate_run.mp prompted, confirms, by simp [confirms, running]⟩
    · right
      exact ⟨fun confirmed => absurd confirmed confirms, by simp [confirms]⟩

end AppRun

end Moshwatch
