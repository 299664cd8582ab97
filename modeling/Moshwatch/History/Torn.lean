import Moshwatch.History.Recall

namespace Moshwatch

def HoldsLines (codec : HistoryCodec) (content : Bytes) (samples : List HistorySample) : Prop :=
  ∃ whole rest, content = whole ++ rest ∧ Ended whole ∧
    (samples.map (historyLine codec)).Sublist (Framing.lines 10 whole)

theorem HoldsLines.none (codec : HistoryCodec) (content : Bytes) : HoldsLines codec content [] :=
  ⟨[], content, rfl, .inl rfl, List.nil_sublist _⟩

theorem HoldsLines.part {codec : HistoryCodec} {content : Bytes} {samples : List HistorySample}
    (holds : HoldsLines codec content samples) (part : Bytes) :
    HoldsLines codec (content ++ part) samples := by
  obtain ⟨whole, rest, rfl, ended, lines⟩ := holds
  exact ⟨whole, rest ++ part, List.append_assoc _ _ _, ended, lines⟩

theorem HoldsLines.full {codec : HistoryCodec} {content : Bytes} {samples : List HistorySample}
    (holds : HoldsLines codec content samples) (ended : Ended content)
    (added : List HistorySample) :
    HoldsLines codec (content ++ encodeHistoryPayload codec added) (samples ++ added) := by
  refine ⟨_, [], (List.append_nil _).symm, ended.append (ended_encodeHistoryPayload codec added), ?_⟩
  obtain ⟨whole, rest, rfl, front, lines⟩ := holds
  rw [Framing.lines_append ended, Framing.lines_append front, lines_encodeHistoryPayload,
    List.map_append]
  exact (lines.trans (List.sublist_append_left _ _)).append (List.Sublist.refl _)

theorem HoldsLines.matches {codec : HistoryCodec} {content : Bytes} {samples : List HistorySample}
    (holds : HoldsLines codec content samples) (buffering : Buffering) (sessionId : String)
    (sinceUnixMs : Int) :
    (samples.filterMap (recalled codec sessionId sinceUnixMs)).Sublist
      (fileMatches codec buffering sessionId sinceUnixMs content) := by
  obtain ⟨whole, rest, rfl, ended, lines⟩ := holds
  rw [fileMatches_eq, Framing.lines_append ended]
  have found := (lines.trans (List.sublist_append_left _ (Framing.lines 10 rest))).filterMap
    fun line => outcomeMatch codec sessionId sinceUnixMs (Framing.bound maxHistoryLineBytes line)
  rw [List.filterMap_map] at found
  exact found

namespace HistoryStore

variable {store : HistoryStore} {codec : HistoryCodec}

/-- The call appends its whole payload to a file whose last line is unfinished. -/
def AppendsBehindTorn (store : HistoryStore) (codec : HistoryCodec) (call : RecordCall)
    (state : HistoryState) : Prop :=
  store.samples call ≠ [] ∧ call.faults.write = .complete ∧
    ∃ projected room,
      store.makeRoom (store.payload codec call).length call state = (.granted projected, room) ∧
      ¬Ended (fileContent room.files (filePathFor call.recordedAtUnixMs))

/-- Every sample of the ledger is still found, and a query answers with the end of what is found,
    whatever its limit and the cap of the store. -/
def StillReturned (store : HistoryStore) (codec : HistoryCodec) (buffering : Buffering)
    (run : HistoryState × List HistorySample) : Prop :=
  ∀ sessionId sinceUnixMs, ∃ found,
    (run.2.filterMap (recalled codec sessionId sinceUnixMs)).Subperm found ∧
      ∀ limit maxQuerySamples,
        { store with maxQuerySamples }.querySession codec buffering run.1.files sessionId
          sinceUnixMs limit = some (found.rtake (min limit maxQuerySamples))

theorem granted_of_appended {call : RecordCall} {state : HistoryState}
    (appended : (store.recordSummaries codec call state).1 = .appended) :
    store.samples call ≠ [] ∧ call.faults.write = .complete ∧
      ∃ projected, store.makeRoom (store.payload codec call).length call state =
        (.granted projected, store.roomFor codec call state) := by
  have effect := @recordSummaries_effect store codec call state
  rw [appended] at effect
  have active : store.samples call ≠ [] ∧ call.faults.write = .complete := by
    generalize (store.recordSummaries codec call state).2.files = files at effect
    cases effect with
    | unchanged other => exact absurd rfl other
    | appended active complete regular => exact ⟨active, complete⟩
  refine ⟨active.1, active.2, ?_⟩
  rw [roomFor, if_neg active.1]
  obtain ⟨⟨decision, room⟩, made⟩ : ∃ result,
    store.makeRoom (store.payload codec call).length call state = result := ⟨_, rfl⟩
  rw [made]
  cases decision with
  | failed =>
    rw [recordSummaries_unroomed active.1 made] at appended
    cases appended
  | refused =>
    rw [recordSummaries_refused active.1 made] at appended
    cases appended
  | granted projected => exact ⟨projected, rfl⟩

theorem ledgerRun_concat (calls : List RecordCall) (call : RecordCall) (start : HistoryState) :
    store.ledgerRun codec (calls ++ [call]) start =
      store.recordStep codec (store.ledgerRun codec calls start) call := by
  rw [ledgerRun, List.foldl_append]
  rfl

theorem record_concat (calls : List RecordCall) (call : RecordCall) (start : HistoryState) :
    store.record codec (calls ++ [call]) start =
      (store.recordSummaries codec call (store.record codec calls start)).2 := by
  rw [record, List.foldl_append]
  rfl

theorem ledgerRun_fst (calls : List RecordCall) (start : HistoryState) :
    (store.ledgerRun codec calls start).1 = store.record codec calls start := by
  induction calls using List.reverseRecOn with
  | nil => rfl
  | append_singleton calls call ih =>
    rw [ledgerRun_concat, record_concat, ← ih]
    rfl

theorem holdsLines_ledgerRun {files : HistoryDir} {calls : List RecordCall}
    (whole : ∀ earlier call, earlier ++ [call] <+: calls →
      ¬store.AppendsBehindTorn codec call (store.record codec earlier (new files))) :
    Held (HoldsLines codec) (store.ledgerRun codec calls (new files)).1.files
      (store.ledgerRun codec calls (new files)).2 := by
  induction calls using List.reverseRecOn with
  | nil => exact ⟨by simp [ledgerRun], by simp [ledgerRun], fun path => .none codec _⟩
  | append_singleton calls call ih =>
    have held := ih fun earlier other before =>
      whole earlier other (before.trans (List.prefix_append _ _))
    rw [ledgerRun_concat]
    refine held_recordStep (.none codec []) (fun _ content part samples holds => holds.part part)
      ?_ held
    intro appended content samples found holds
    obtain ⟨active, complete, projected, granted⟩ := granted_of_appended appended
    refine holds.full ?_ (store.samples call)
    by_contra torn
    rw [found] at torn
    refine whole calls call (List.prefix_refl _) ⟨active, complete, projected, _, ?_, torn⟩
    rw [← ledgerRun_fst]
    exact granted

/-- No failed append hides a sample of another call, in any run that does not append behind an
    unfinished line. -/
theorem stillReturned_of_whole (codec : HistoryCodec) (buffering : Buffering) (files : HistoryDir)
    (calls : List RecordCall)
    (whole : ∀ earlier call, earlier ++ [call] <+: calls →
      ¬store.AppendsBehindTorn codec call (store.record codec earlier (new files))) :
    store.StillReturned codec buffering (store.ledgerRun codec calls (new files)) := by
  intro sessionId sinceUnixMs
  have held := holdsLines_ledgerRun whole
  refine ⟨_, ⟨_, recalled_perm held, ?_⟩, fun limit maxQuerySamples =>
    querySession_eq { store with maxQuerySamples } codec buffering _ sessionId sinceUnixMs limit⟩
  exact List.Sublist.flatMap_right _ fun path _ =>
    (held.contents path).matches buffering sessionId sinceUnixMs

end HistoryStore

/-- A reader that gets every file in one piece. -/
def wholeBuffering : Buffering where
  split bytes := if bytes = [] then [] else [bytes]
  whole bytes := by split <;> simp_all
  nonempty bytes := by split <;> simp_all

/-- After a write that stops in the middle, the next call succeeds, but its sample is lost. -/
theorem tornAppend_hides :
    ¬∀ (store : HistoryStore) (codec : HistoryCodec) (buffering : Buffering) (files : HistoryDir)
      (calls : List RecordCall),
      store.StillReturned codec buffering
        (store.ledgerRun codec calls (HistoryStore.new files)) := by
  intro returned
  have answer :
      let run := quietStore.ledgerRun quietCodec [tornCall, nextCall] (HistoryStore.new ∅)
      quietStore.querySession quietCodec wholeBuffering run.1.files "instrumented:7:10" 0 16 =
          some [] ∧
        run.2.filterMap (recalled quietCodec "instrumented:7:10" 0) ≠ [] := by
    decide +kernel
  obtain ⟨found, contains, query⟩ :=
    returned quietStore quietCodec wholeBuffering ∅ [tornCall, nextCall] "instrumented:7:10" 0
  have none : found.rtake (min 16 quietStore.maxQuerySamples) = [] :=
    Option.some.inj ((query 16 quietStore.maxQuerySamples).symm.trans answer.1)
  have empty : found = [] := by
    rw [List.rtake_eq_reverse_take_reverse, List.reverse_eq_nil_iff, List.take_eq_nil_iff] at none
    rcases none with zero | none
    · exact absurd zero (by decide)
    · exact List.reverse_eq_nil_iff.mp none
  rw [empty, List.subperm_nil] at contains
  exact answer.2 contains

theorem eq_of_prefix_pair {earlier : List RecordCall} {call first second : RecordCall}
    (before : earlier ++ [call] <+: [first, second]) :
    (earlier = [] ∧ call = first) ∨ (earlier = [first] ∧ call = second) := by
  cases earlier with
  | nil => exact .inl ⟨rfl, (List.cons_prefix_cons.mp before).1⟩
  | cons other earlier =>
    obtain ⟨same, later⟩ := List.cons_prefix_cons.mp before
    cases earlier with
    | nil => exact .inr ⟨by rw [same], (List.cons_prefix_cons.mp later).1⟩
    | cons third earlier =>
      have length := later.length_le
      simp at length

/-- A write that stops in the middle does no harm if nothing is appended behind it. -/
theorem HistoryStore.stillReturned_of_tornLast :
    let calls := [quietCall 1000 {} (by decide) (by decide),
      quietCall 2000 { write := .stopped 5 } (by decide) (by decide)]
    quietStore.StillReturned quietCodec wholeBuffering
      (quietStore.ledgerRun quietCodec calls (new ∅)) := by
  intro calls
  refine stillReturned_of_whole quietCodec wholeBuffering ∅ calls ?_
  rintro earlier call before ⟨-, complete, projected, room, made, torn⟩
  rcases eq_of_prefix_pair before with ⟨rfl, rfl⟩ | ⟨rfl, rfl⟩
  · have removes := (@removal_makeRoom quietStore
      (quietStore.payload quietCodec (quietCall 1000 {} (by decide) (by decide))).length
      (quietCall 1000 {} (by decide) (by decide)) (new ∅)).files
    rw [show quietStore.makeRoom _ _ (new ∅) = _ from made] at removes
    have absent : room.files.lookup (filePathFor 1000) = none := by
      rcases removes (filePathFor 1000) with same | gone
      · exact same
      · exact gone
    apply torn
    left
    change fileContent room.files (filePathFor 1000) = []
    rw [fileContent, absent]
  · cases complete

end Moshwatch
