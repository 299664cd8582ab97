import Moshwatch.General.Guarded
import Moshwatch.History.Torn

namespace Moshwatch

structure HistoryQuery where
  sessionId : String
  sinceUnixMs : Int
  limit : Nat

/-- Before the listing, between two files (the newest that is not yet read comes first), or back
    with a result. -/
inductive QueryStage where
  | asked
  | reading (pending : List String) (kept : List HistorySample)
  | done (result : Option (List HistorySample))
  deriving DecidableEq

/-- A store with one query of it. The last two fields are kept for the proofs: the files that the
    query selected, and the directories that there have been from then to its end. -/
structure QueryRun where
  history : HistoryState
  stage : QueryStage := .asked
  listed : List String := []
  seen : List HistoryDir := []

inductive QueryEvent where
  | records (call : RecordCall)
  | query

def QueryEvent.isQuery : QueryEvent → Bool
  | .records _ => false
  | .query => true

namespace HistoryQuery

variable (query : HistoryQuery) (store : HistoryStore) (codec : HistoryCodec)
  (buffering : Buffering)

def found (content : Bytes) : List HistorySample :=
  fileMatches codec buffering query.sessionId query.sinceUnixMs content

def bound : Nat := min query.limit store.maxQuerySamples

def readFile (run : QueryRun) (path : String) (older : List String) (kept : List HistorySample) :
    QueryRun :=
  match openHistoryFileForRead run.history.files path with
  | none => { run with stage := .done none }
  | some content =>
    let kept := (query.found codec buffering content).reverse.foldl
      (Buckets.push (query.bound store)) kept
    if query.bound store ≤ kept.length then { run with stage := .done (some kept.reverse) }
    else { run with stage := .reading older kept }

def advance (run : QueryRun) : QueryRun :=
  match run.stage with
  | .asked =>
    let listed := historyFilesFrom run.history.files query.sinceUnixMs
    let run := { run with listed, seen := [run.history.files] }
    if query.bound store = 0 then { run with stage := .done (some []) }
    else { run with stage := .reading listed.reverse [] }
  | .reading [] kept => { run with stage := .done (some kept.reverse) }
  | .reading (path :: older) kept => query.readFile store codec buffering run path older kept
  | .done _ => run

/-- A call of `record_summaries`, between two steps of the query. -/
def recordBetween (run : QueryRun) (call : RecordCall) : QueryRun :=
  let history := (store.recordSummaries codec call run.history).2
  match run.stage with
  | .reading _ _ => { run with history, seen := run.seen ++ [history.files] }
  | _ => { run with history }

def step (run : QueryRun) : QueryEvent → QueryRun
  | .records call => recordBetween store codec run call
  | .query => query.advance store codec buffering run

def FromSeen (run : QueryRun) (paths : List String) (contents : String → Bytes) : Prop :=
  ∀ path ∈ paths, ∃ files ∈ run.seen, contents path = fileContent files path

/-- The query selected from the directory that it saw first. -/
def Selected (run : QueryRun) : Prop :=
  ∃ first, run.seen.head? = some first ∧ run.listed = historyFilesFrom first query.sinceUnixMs

/-- The newest matches of the selected files, each file as it was at some moment of the query:
    without a file only its own matches are missing, and a file that stays as it is has them all. -/
def Answers (run : QueryRun) (samples : List HistorySample) : Prop :=
  query.Selected run ∧ ∃ contents, FromSeen run run.listed contents ∧
    samples = (run.listed.flatMap fun path =>
      query.found codec buffering (contents path)).rtake (query.bound store)

/-- The file that is about to be opened is still there. -/
def OpensPresent (run : QueryRun) : QueryEvent → Prop
  | .records _ => True
  | .query => ∀ path older kept, run.stage = .reading (path :: older) kept →
      ∃ content, run.history.files.lookup path = some (.file content)

def scanOf (contents : String → Bytes) (pending : List String) (kept : List HistorySample) :
    Option (List HistorySample) :=
  Buckets.scan (query.bound store) (fun path => some (query.found codec buffering (contents path)))
    pending kept

/-- What is kept comes from the files that were read, and the scan goes on from there. -/
def Midway (run : QueryRun) (pending : List String) (kept : List HistorySample) : Prop :=
  ∃ scanned contents, run.listed.reverse = scanned ++ pending ∧ FromSeen run scanned contents ∧
    ∀ other, (∀ path ∈ scanned, other path = contents path) →
      query.scanOf store codec buffering other run.listed.reverse [] =
        query.scanOf store codec buffering other pending kept

def Sound (run : QueryRun) : Prop :=
  match run.stage with
  | .asked => True
  | .reading pending kept =>
    query.Selected run ∧ query.Midway store codec buffering run pending kept ∧
      run.history.files ∈ run.seen
  | .done none => True
  | .done (some samples) => query.Answers store codec buffering run samples

variable {query store codec buffering} {run : QueryRun}

theorem nodup_of_selected (selected : query.Selected run) : run.listed.Nodup := by
  obtain ⟨first, -, listed⟩ := selected
  rw [listed]
  exact historyFilesFrom_nodup first query.sinceUnixMs

theorem FromSeen.mono {later : QueryRun} {paths : List String} {contents : String → Bytes}
    (fromSeen : FromSeen run paths contents) (grown : ∀ files ∈ run.seen, files ∈ later.seen) :
    FromSeen later paths contents := by
  intro path member
  obtain ⟨files, seen, content⟩ := fromSeen path member
  exact ⟨files, grown files seen, content⟩

theorem answers_of_scan {scanned : List String} {contents : String → Bytes}
    {kept : List HistorySample} (selected : query.Selected run)
    (fromSeen : FromSeen run scanned contents)
    (ends : ∀ other, (∀ path ∈ scanned, other path = contents path) →
      query.scanOf store codec buffering other run.listed.reverse [] = some kept) :
    query.Answers store codec buffering run kept.reverse := by
  obtain ⟨first, seenFirst, chosen⟩ := id selected
  let whole : String → Bytes := fun path =>
    if path ∈ scanned then contents path else fileContent first path
  have scan := ends whole fun path member => if_pos member
  refine ⟨selected, whole, ?_, ?_⟩
  · intro path member
    by_cases read : path ∈ scanned
    · obtain ⟨files, seen, content⟩ := fromSeen path read
      exact ⟨files, seen, (if_pos read).trans content⟩
    · exact ⟨first, List.mem_of_head? seenFirst, if_neg read⟩
  · have answer := @Buckets.scan_reverse _ _ (query.bound store)
      (fun path => some (query.found codec buffering (whole path)))
      (fun path => query.found codec buffering (whole path)) run.listed fun _ _ => rfl
    change (query.scanOf store codec buffering whole run.listed.reverse []).map _ = _ at answer
    rw [scan, Option.map_some, Option.some.injEq] at answer
    exact answer

theorem content_of_opened {files : HistoryDir} {path : String} {content : Bytes}
    (opened : openHistoryFileForRead files path = some content) :
    content = fileContent files path := by
  unfold openHistoryFileForRead at opened
  split at opened
  · rename_i found
    rw [fileContent, found]
    exact (Option.some.inj opened).symm
  · cases opened

theorem sound_readFile {path : String} {older : List String} {kept : List HistorySample}
    (selected : query.Selected run)
    (midway : query.Midway store codec buffering run (path :: older) kept)
    (current : run.history.files ∈ run.seen) :
    query.Sound store codec buffering (query.readFile store codec buffering run path older kept) := by
  obtain ⟨scanned, contents, listed, fromSeen, scan⟩ := midway
  unfold readFile
  cases opened : openHistoryFileForRead run.history.files path with
  | none => trivial
  | some content =>
    have unread : ∀ other ∈ scanned, other ≠ path := by
      have nodup := List.nodup_reverse.mpr (nodup_of_selected selected)
      rw [listed, List.nodup_append] at nodup
      exact fun other member => nodup.2.2 other member path List.mem_cons_self
    have held := content_of_opened opened
    -- The contents that the scan has met so far, with those of this file.
    let met : String → Bytes := fun other => if other = path then content else contents other
    have metSeen : FromSeen run (scanned ++ [path]) met := by
      intro other member
      rcases List.mem_append.mp member with member | member
      · obtain ⟨files, seen, same⟩ := fromSeen other member
        exact ⟨files, seen, (if_neg (unread other member)).trans same⟩
      · rw [List.mem_singleton.mp member]
        exact ⟨run.history.files, current, (if_pos rfl).trans held⟩
    have next : ∀ other, (∀ file ∈ scanned ++ [path], other file = met file) →
        query.scanOf store codec buffering other run.listed.reverse [] =
          query.scanOf store codec buffering other (path :: older) kept ∧ other path = content := by
      intro other agrees
      refine ⟨scan other ?_, ?_⟩
      · intro earlier member
        rw [agrees earlier (List.mem_append_left _ member)]
        exact if_neg (unread earlier member)
      · rw [agrees path (by simp)]
        exact if_pos rfl
    simp only
    split
    · rename_i full
      refine @answers_of_scan _ _ _ _ run (scanned ++ [path]) met _ selected metSeen ?_
      intro other agrees
      obtain ⟨same, read⟩ := next other agrees
      rw [same, scanOf, Buckets.scan, read]
      exact if_pos full
    · rename_i room
      refine ⟨selected, ⟨scanned ++ [path], met,
        by rw [listed, List.append_assoc, List.singleton_append], metSeen, ?_⟩, current⟩
      intro other agrees
      obtain ⟨same, read⟩ := next other agrees
      rw [same, scanOf, Buckets.scan, read]
      exact if_neg room

theorem sound_advance (sound : query.Sound store codec buffering run) :
    query.Sound store codec buffering (query.advance store codec buffering run) := by
  unfold advance
  cases stage : run.stage with
  | asked =>
    have selected : query.Selected { run with
        listed := historyFilesFrom run.history.files query.sinceUnixMs
        seen := [run.history.files] } := ⟨run.history.files, rfl, rfl⟩
    simp only
    split
    · rename_i zero
      refine ⟨selected, fileContent run.history.files, ?_, ?_⟩
      · exact fun path _ => ⟨run.history.files, by simp, rfl⟩
      · rw [zero, List.rtake_zero]
    · refine ⟨selected, ⟨[], fun _ => [], rfl, ?_, fun _ _ => rfl⟩, by simp⟩
      exact fun path member => absurd member List.not_mem_nil
  | reading pending kept =>
    rw [Sound, stage] at sound
    obtain ⟨selected, midway, current⟩ := sound
    cases pending with
    | nil =>
      obtain ⟨scanned, contents, listed, fromSeen, scan⟩ := midway
      obtain ⟨chosen, whole, wholeSeen, answer⟩ :=
        answers_of_scan selected fromSeen fun other agrees => scan other agrees
      exact ⟨chosen, whole, wholeSeen, answer⟩
    | cons path older => exact sound_readFile selected midway current
  | done result =>
    simp only
    exact sound

theorem sound_recordBetween (call : RecordCall) (sound : query.Sound store codec buffering run) :
    query.Sound store codec buffering (recordBetween store codec run call) := by
  unfold recordBetween
  cases stage : run.stage with
  | asked =>
    simp only [Sound]
  | reading pending kept =>
    rw [Sound, stage] at sound
    obtain ⟨⟨first, seenFirst, chosen⟩, ⟨scanned, contents, listed, fromSeen, scan⟩, current⟩ := sound
    simp only [Sound]
    refine ⟨⟨first, ?_, chosen⟩, ⟨scanned, contents, listed, ?_, scan⟩, by simp⟩
    · simp only [List.head?_append, seenFirst, Option.some_or]
    · exact fromSeen.mono fun files seen => List.mem_append_left _ seen
  | done result =>
    rw [Sound, stage] at sound
    cases result with
    | none => trivial
    | some samples => exact sound

theorem sound_step (run : QueryRun) (event : QueryEvent)
    (sound : query.Sound store codec buffering run) :
    query.Sound store codec buffering (query.step store codec buffering run event) := by
  cases event with
  | records call => exact sound_recordBetween call sound
  | query => exact sound_advance sound

def Unfailed (run : QueryRun) : Prop := ∀ result, run.stage = .done result → result ≠ none

theorem advance_of_done {result : Option (List HistorySample)} (stage : run.stage = .done result) :
    query.advance store codec buffering run = run := by
  rw [advance, stage]

theorem openHistoryFileForRead_eq_none {files : HistoryDir} {path : String} :
    openHistoryFileForRead files path = none ↔
      ¬ ∃ content, files.lookup path = some (.file content) := by
  unfold openHistoryFileForRead
  split
  · rename_i found
    simp [found]
  · rename_i other
    refine iff_of_true rfl ?_
    rintro ⟨content, found⟩
    exact other content found

theorem unfailed_readFile_iff {path : String} {older : List String} {kept : List HistorySample} :
    Unfailed (query.readFile store codec buffering run path older kept) ↔
      ∃ content, run.history.files.lookup path = some (.file content) := by
  unfold readFile
  cases opened : openHistoryFileForRead run.history.files path with
  | none =>
    refine iff_of_false (fun unfailed => unfailed none rfl rfl) ?_
    exact openHistoryFileForRead_eq_none.mp opened
  | some content =>
    have present := mt openHistoryFileForRead_eq_none.mpr (by rw [opened]; simp)
    refine iff_of_true ?_ (not_not.mp present)
    intro result stage
    simp only at stage
    split at stage
    · cases stage
      simp
    · cases stage

theorem unfailed_advance_iff (unfailed : Unfailed run) :
    Unfailed (query.advance store codec buffering run) ↔ OpensPresent run .query := by
  cases stage : run.stage with
  | asked =>
    refine iff_of_true ?_ fun path older kept reading => absurd (stage.symm.trans reading) (by simp)
    intro result finished
    simp only [advance, stage] at finished
    split at finished
    · cases finished
      simp
    · cases finished
  | reading pending kept =>
    cases pending with
    | nil =>
      refine iff_of_true ?_ fun path older kept reading => absurd (stage.symm.trans reading) (by simp)
      intro result finished
      simp only [advance, stage] at finished
      cases finished
      simp
    | cons path older =>
      rw [advance, stage]
      simp only
      rw [unfailed_readFile_iff]
      constructor
      · intro present other others kept' reading
        rw [stage, QueryStage.reading.injEq, List.cons.injEq] at reading
        obtain ⟨⟨rfl, -⟩, -⟩ := reading
        exact present
      · exact fun opens => opens path older kept stage
  | done result =>
    rw [advance_of_done stage]
    refine iff_of_true unfailed fun path older kept reading => ?_
    exact absurd (stage.symm.trans reading) (by simp)

theorem stage_recordBetween (run : QueryRun) (call : RecordCall) :
    (recordBetween store codec run call).stage = run.stage := by
  unfold recordBetween
  cases stage : run.stage <;> rfl

/-- How many steps the query has made, from where it is. -/
def MadeSteps (run : QueryRun) (made : Nat) : Prop :=
  match run.stage with
  | .asked => made = 0
  | .reading pending _ => made + pending.length = run.listed.length + 1
  | .done _ => True

theorem madeSteps_advance {made : Nat} (steps : MadeSteps run made) :
    MadeSteps (query.advance store codec buffering run) (made + 1) := by
  unfold advance
  cases stage : run.stage with
  | asked =>
    rw [MadeSteps, stage] at steps
    simp only
    split
    · trivial
    · simp only [MadeSteps, List.length_reverse]
      omega
  | reading pending kept =>
    cases pending with
    | nil => trivial
    | cons path older =>
      simp only [MadeSteps, stage, List.length_cons] at steps
      simp only [readFile]
      split
      · trivial
      · split
        · trivial
        · simp only [MadeSteps]
          omega
  | done result =>
    simp only [MadeSteps, stage]

theorem madeSteps_recordBetween {made : Nat} (call : RecordCall) (steps : MadeSteps run made) :
    MadeSteps (recordBetween store codec run call) made := by
  unfold recordBetween
  rw [MadeSteps] at steps
  cases stage : run.stage <;> simp only [stage] at steps ⊢ <;> exact steps

theorem madeSteps_foldl (events : List QueryEvent) :
    ∀ (run : QueryRun) (made : Nat), MadeSteps run made →
      MadeSteps (events.foldl (query.step store codec buffering) run)
        (made + events.countP QueryEvent.isQuery) := by
  induction events with
  | nil => exact fun run made steps => steps
  | cons event rest ih =>
    intro run made steps
    rw [List.foldl_cons]
    cases event with
    | records call => exact ih _ made (madeSteps_recordBetween call steps)
    | query =>
      have later := ih _ (made + 1) (@madeSteps_advance query store codec buffering run made steps)
      rw [List.countP_cons_of_pos rfl]
      rw [show made + (List.countP QueryEvent.isQuery rest + 1) =
        made + 1 + List.countP QueryEvent.isQuery rest by omega]
      exact later

theorem done_of_madeSteps {made : Nat} (steps : MadeSteps run made)
    (enough : run.listed.length + 2 ≤ made) : ∃ result, run.stage = .done result := by
  cases stage : run.stage with
  | asked =>
    rw [MadeSteps, stage] at steps
    omega
  | reading pending kept =>
    rw [MadeSteps, stage] at steps
    omega
  | done result => exact ⟨result, rfl⟩

theorem foldl_query_of_done {result : Option (List HistorySample)} (stage : run.stage = .done result)
    (steps : Nat) :
    (List.replicate steps .query).foldl (query.step store codec buffering) run = run := by
  induction steps with
  | zero => rfl
  | succ steps ih =>
    rw [List.replicate_succ, List.foldl_cons, step, advance_of_done stage]
    exact ih

theorem stage_of_reading (pending : List String) :
    ∀ (run : QueryRun) (kept : List HistorySample), run.stage = .reading pending kept →
      ∀ steps, pending.length + 1 ≤ steps →
        ((List.replicate steps .query).foldl (query.step store codec buffering) run).stage =
          .done ((Buckets.scan (query.bound store)
            (fun path => (openHistoryFileForRead run.history.files path).map
              (query.found codec buffering)) pending kept).map List.reverse) := by
  induction pending with
  | nil =>
    intro run kept stage steps enough
    obtain ⟨steps, rfl⟩ := Nat.exists_eq_add_of_le' (Nat.one_le_of_lt enough)
    rw [List.replicate_succ, List.foldl_cons, step, advance, stage]
    simp only
    rw [foldl_query_of_done rfl]
    rfl
  | cons path older ih =>
    intro run kept stage steps enough
    rw [List.length_cons] at enough
    obtain ⟨steps, rfl⟩ := Nat.exists_eq_add_of_le' (show 1 ≤ steps by omega)
    rw [List.replicate_succ, List.foldl_cons, step, advance, stage]
    simp only [readFile]
    rw [Buckets.scan]
    cases opened : openHistoryFileForRead run.history.files path with
    | none =>
      simp only
      rw [foldl_query_of_done rfl]
      rfl
    | some content =>
      simp only [Option.map_some, Option.bind_eq_bind, Option.bind_some]
      split
      · rw [foldl_query_of_done rfl]
        rfl
      · exact ih _ _ rfl steps (by omega)

/-- Without calls in between, the steps make up `query_session`. -/
theorem stage_of_query_alone (history : HistoryState) (steps : Nat)
    (enough : (historyFilesFrom history.files query.sinceUnixMs).length + 2 ≤ steps) :
    ((List.replicate steps .query).foldl (query.step store codec buffering) { history }).stage =
      .done (store.querySession codec buffering history.files query.sessionId query.sinceUnixMs
        query.limit) := by
  obtain ⟨steps, rfl⟩ := Nat.exists_eq_add_of_le' (show 1 ≤ steps by omega)
  rw [List.replicate_succ, List.foldl_cons, step, advance]
  simp only
  by_cases zero : query.bound store = 0
  · have nothing : store.querySession codec buffering history.files query.sessionId
        query.sinceUnixMs query.limit = some [] := if_pos zero
    rw [if_pos zero, foldl_query_of_done rfl, nothing]
  · rw [if_neg zero, HistoryStore.querySession, HistoryStore.queryFiles]
    refine (stage_of_reading _ _ _ rfl steps (by rw [List.length_reverse]; omega)).trans ?_
    exact congrArg QueryStage.done (if_neg zero).symm

theorem unfailed_step {event : QueryEvent} (unfailed : Unfailed run)
    (opens : OpensPresent run event) : Unfailed (query.step store codec buffering run event) := by
  cases event with
  | records call =>
    intro result stage
    rw [step, stage_recordBetween] at stage
    exact unfailed result stage
  | query => exact (unfailed_advance_iff unfailed).mpr opens

theorem failed_step_of_gone {event : QueryEvent} (gone : ¬OpensPresent run event) :
    ¬Unfailed (query.step store codec buffering run event) := by
  cases event with
  | records call => exact absurd trivial gone
  | query =>
    have unfailed : Unfailed run := by
      intro result finished
      refine absurd ?_ gone
      intro path older kept reading
      exact absurd (finished.symm.trans reading) (by simp)
    exact mt (unfailed_advance_iff unfailed).mp gone

/-- A call that has returned an error does not resume. -/
theorem failed_step {event : QueryEvent} (failed : ¬Unfailed run) :
    ¬Unfailed (query.step store codec buffering run event) := by
  intro still
  apply failed
  intro result stage
  refine still result ?_
  cases event with
  | records call => rw [step, stage_recordBetween, stage]
  | query => rw [step, advance_of_done stage, stage]

theorem unfailed_iff_everyStep (events : List QueryEvent) (unfailed : Unfailed run) :
    Unfailed (events.foldl (query.step store codec buffering) run) ↔
      Guarded.EveryStep (query.step store codec buffering) OpensPresent run events :=
  Guarded.foldl_iff_everyStep (fun _ => True) Unfailed (fun _ _ _ => trivial)
    (fun _ _ _ => unfailed_step) (fun _ _ _ => failed_step_of_gone) (fun _ _ _ => failed_step)
    events run trivial unfailed

end HistoryQuery

/-- A query comes back when it has made a step for the listing, for each file and for its end, and
    it has an answer, never an error, exactly if no file is gone when it opens it. -/
theorem query_survives_iff (store : HistoryStore) (codec : HistoryCodec) (buffering : Buffering)
    (query : HistoryQuery) (history : HistoryState) (events : List QueryEvent) :
    let run := events.foldl (query.step store codec buffering) { history }
    (run.listed.length + 2 ≤ events.countP QueryEvent.isQuery →
      ∃ result, run.stage = .done result) ∧
    ((∀ result, run.stage = .done result →
        ∃ samples, result = some samples ∧ query.Answers store codec buffering run samples) ↔
      Guarded.EveryStep (query.step store codec buffering) HistoryQuery.OpensPresent { history }
        events) := by
  intro run
  constructor
  · intro enough
    have steps := @HistoryQuery.madeSteps_foldl query store codec buffering events { history } 0 rfl
    rw [Nat.zero_add] at steps
    exact HistoryQuery.done_of_madeSteps steps enough
  · have sound : query.Sound store codec buffering run :=
      Guarded.foldl_preserved (query.Sound store codec buffering) HistoryQuery.sound_step events
        trivial
    have unfailed : HistoryQuery.Unfailed run ↔ _ :=
      HistoryQuery.unfailed_iff_everyStep events fun result stage => by cases stage
    rw [← unfailed]
    constructor
    · intro answered result stage none
      obtain ⟨samples, some, -⟩ := answered result stage
      rw [none] at some
      cases some
    · intro never result stage
      obtain ⟨samples, rfl⟩ := Option.ne_none_iff_exists'.mp (never result stage)
      rw [HistoryQuery.Sound, stage] at sound
      exact ⟨samples, rfl, sound⟩

/-- The file of the first day, and a query for a session of it. -/
def firstDayDir : HistoryDir := AList.singleton "day-0.jsonl" (.file [])

def firstDayQuery : HistoryQuery := ⟨"instrumented:10:1", 0, 16⟩

/-- A call of the tenth day, when seven days are kept, comes between the listing and the opening. -/
def prunedBetween : List QueryEvent :=
  [.query, .records (quietCall 864000000 {} (by decide) (by decide)), .query]

theorem prunedBetween_fails :
    let run := prunedBetween.foldl (firstDayQuery.step quietStore quietCodec wholeBuffering)
      { history := HistoryStore.new firstDayDir }
    ¬ ∀ result, run.stage = .done result → ∃ samples, result = some samples ∧
      firstDayQuery.Answers quietStore quietCodec wholeBuffering run samples := by
  intro run answered
  have failed : run.stage = .done none := by decide +kernel
  obtain ⟨samples, some, -⟩ := answered none failed
  cases some

end Moshwatch
