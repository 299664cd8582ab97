import Moshwatch.General.Ranking
import Moshwatch.History.Presentable
import Moshwatch.History.Torn

namespace Moshwatch

instance : Std.TransCmp HistoryStore.compareHistoryFiles :=
  inferInstanceAs (Std.TransCmp (compareLex (compareOn HistoryFile.day) (compareOn HistoryFile.path)))

theorem day_le_of_compareHistoryFiles {left right : HistoryFile}
    (ordered : HistoryStore.compareHistoryFiles left right ≠ .gt) : left.day ≤ right.day := by
  by_contra above
  apply ordered
  rw [HistoryStore.compareHistoryFiles, compare_gt_iff_gt.mpr (not_le.mp above)]
  rfl

theorem sortHistoryFiles_sorted (files : List HistoryFile) :
    (HistoryStore.sortHistoryFiles files).Pairwise fun left right => left.day ≤ right.day :=
  (@Ranking.sort_sorted _ HistoryStore.compareHistoryFiles _ files).imp
    day_le_of_compareHistoryFiles

def sortedFiles (files : HistoryDir) (recent : HistoryFile → Bool) : List HistoryFile :=
  HistoryStore.sortHistoryFiles ((historyFilesWithSizesInDir files).filter recent)

theorem mem_sortedFiles {files : HistoryDir} {recent : HistoryFile → Bool} {file : HistoryFile} :
    file ∈ sortedFiles files recent ↔ Listed files file ∧ recent file = true := by
  rw [sortedFiles, HistoryStore.sortHistoryFiles, List.mem_mergeSort, List.mem_filter,
    mem_historyFiles]

theorem sortedFiles_paths_nodup (files : HistoryDir) (recent : HistoryFile → Bool) :
    (sortedFiles files recent).Pairwise fun left right => left.path ≠ right.path := by
  have distinct := (historyFiles_paths_nodup files).sublist (List.filter_sublist (p := recent))
  have perm : (sortedFiles files recent).Perm ((historyFilesWithSizesInDir files).filter recent) :=
    List.mergeSort_perm _ _
  exact distinct.perm perm.symm fun differ => differ.symm

def HoldsExactly (codec : HistoryCodec) (content : Bytes) (samples : List HistorySample) : Prop :=
  content = encodeHistoryPayload codec samples

/-- Every name in the directory is one that the store gives to a day file. -/
def Canonical (files : HistoryDir) : Prop :=
  ∀ path entry, files.lookup path = some entry → ∃ recordedAtUnixMs, path = filePathFor recordedAtUnixMs ∧
    i64Min ≤ recordedAtUnixMs ∧ recordedAtUnixMs ≤ i64Max

theorem canonical_removes {before after : HistoryDir} (canonical : Canonical before)
    (removes : Removes before after) : Canonical after := by
  intro path entry found
  rcases removes path with same | gone
  · exact canonical path entry (same ▸ found)
  · rw [gone] at found
    cases found

namespace HistoryStore

variable {store : HistoryStore} {codec : HistoryCodec}

theorem canonical_recordSummaries {call : RecordCall} {state : HistoryState}
    (canonical : Canonical state.files) :
    Canonical (store.recordSummaries codec call state).2.files := by
  have room := canonical_removes canonical (@removes_roomFor store codec call state)
  have effect := @recordSummaries_effect store codec call state
  have append : ∀ bytes, Canonical (appendFile (store.roomFor codec call state).files
      (filePathFor call.recordedAtUnixMs) bytes) := by
    intro bytes path entry found
    by_cases here : path = filePathFor call.recordedAtUnixMs
    · exact ⟨_, here, call.lower, call.upper⟩
    · rw [lookup_appendFile_of_ne here] at found
      exact room path entry found
  generalize (store.recordSummaries codec call state).2.files = files at effect ⊢
  generalize (store.recordSummaries codec call state).1 = outcome at effect
  cases effect with
  | unchanged other => exact room
  | partly part regular => exact append part
  | appended active complete regular => exact append _

theorem ledgerRun_sublist (calls : List RecordCall) (start : HistoryState) :
    (store.ledgerRun codec calls start).2.Sublist (calls.flatMap store.samples) := by
  induction calls using List.reverseRecOn with
  | nil => exact List.Sublist.refl _
  | append_singleton calls call ih =>
    rw [ledgerRun_concat, List.flatMap_append, List.flatMap_singleton]
    have kept := (List.filter_sublist (p := fun sample : HistorySample => KeyedStore.contains
      (store.roomFor codec call (store.ledgerRun codec calls start).1).files
      (filePathFor sample.recordedAtUnixMs))).trans ih
    simp only [recordStep, keepLedger]
    split
    · exact kept.append (List.Sublist.refl _)
    · exact kept.trans (List.sublist_append_left _ _)

/-- Everything that one run of successful calls promises of the directory. -/
structure Faithfully (codec : HistoryCodec) (files : HistoryDir) (ledger : List HistorySample) :
    Prop where
  held : Held (HoldsExactly codec) files ledger
  canonical : Canonical files
  sorted : ledger.Pairwise fun left right => left.recordedAtUnixMs ≤ right.recordedAtUnixMs
  recalls : ∀ sample ∈ ledger, ∀ sessionId sinceUnixMs,
    recalled codec sessionId sinceUnixMs sample =
      if sampleMatches sessionId sinceUnixMs sample then some sample else none

theorem held_ledgerRun {calls : List RecordCall} (succeeds : ∀ earlier call,
      earlier ++ [call] <+: calls →
        (store.recordSummaries codec call (store.record codec earlier (new ∅))).1 ≠ .failed) :
    Held (HoldsExactly codec) (store.ledgerRun codec calls (new ∅)).1.files
        (store.ledgerRun codec calls (new ∅)).2 ∧
      Canonical (store.ledgerRun codec calls (new ∅)).1.files := by
  induction calls using List.reverseRecOn with
  | nil =>
    refine ⟨⟨by simp [ledgerRun], by simp [ledgerRun], fun path => rfl⟩, ?_⟩
    intro path entry found
    cases found
  | append_singleton calls call ih =>
    obtain ⟨held, canonical⟩ := ih fun earlier other before =>
      succeeds earlier other (before.trans (List.prefix_append _ _))
    have success := succeeds calls call (List.prefix_refl _)
    rw [← ledgerRun_fst] at success
    rw [ledgerRun_concat]
    refine ⟨held_recordStep rfl (fun failed => absurd failed success) ?_ held,
      canonical_recordSummaries canonical⟩
    intro appended content samples found holds
    rw [HoldsExactly, holds, payload, encodeHistoryPayload, encodeHistoryPayload,
      encodeHistoryPayload, List.flatMap_append]

end HistoryStore

section Read

variable {codec : HistoryCodec} {files : HistoryDir} {ledger : List HistorySample}

theorem filterMap_recalled (faithful : HistoryStore.Faithfully codec files ledger)
    {samples : List HistorySample} (part : samples ⊆ ledger) (sessionId : String)
    (sinceUnixMs : Int) :
    samples.filterMap (recalled codec sessionId sinceUnixMs) =
      samples.filter (sampleMatches sessionId sinceUnixMs) := by
  rw [← List.filterMap_eq_filter]
  apply List.filterMap_congr
  intro sample member
  rw [faithful.recalls sample (part member)]
  rfl

theorem fileMatches_eq_filter (faithful : HistoryStore.Faithfully codec files ledger)
    (buffering : Buffering) (sessionId : String) (sinceUnixMs : Int) (path : String) :
    fileMatches codec buffering sessionId sinceUnixMs (fileContent files path) =
      (writtenTo path ledger).filter (sampleMatches sessionId sinceUnixMs) := by
  have content : fileContent files path = encodeHistoryPayload codec (writtenTo path ledger) :=
    faithful.held.contents path
  have part : writtenTo path ledger ⊆ ledger := List.filter_sublist.subset
  rw [fileMatches_eq, content, lines_encodeHistoryPayload, List.filterMap_map,
    ← filterMap_recalled faithful part]
  rfl

theorem writtenTo_listed (faithful : HistoryStore.Faithfully codec files ledger)
    {file : HistoryFile} (listed : Listed files file) :
    writtenTo file.path ledger =
      ledger.filter fun sample => dayBucket sample.recordedAtUnixMs = file.day := by
  obtain ⟨content, found, -⟩ := listed.content
  obtain ⟨recordedAt, path, lower, upper⟩ := faithful.canonical _ _ found
  have day := fileDayBucket_filePathFor lower upper
  rw [← path, listed.day, Option.some.injEq] at day
  apply List.filter_congr
  intro sample member
  obtain ⟨sampleLower, sampleUpper⟩ := faithful.held.ranged sample member
  rw [decide_eq_decide, day]
  constructor
  · intro same
    have sampleDay := fileDayBucket_filePathFor sampleLower sampleUpper
    rw [same, listed.day, day] at sampleDay
    exact (Option.some.inj sampleDay).symm
  · intro same
    rw [path]
    exact filePathFor_eq_of_day same

theorem days_strict (canonical : Canonical files) (recent : HistoryFile → Bool) :
    ((sortedFiles files recent).map HistoryFile.day).Pairwise (· < ·) := by
  rw [List.pairwise_map]
  refine ((sortHistoryFiles_sorted _).and (sortedFiles_paths_nodup files recent)).imp_of_mem ?_
  intro left right leftIn rightIn ⟨ordered, differ⟩
  refine lt_of_le_of_ne ordered ?_
  intro sameDay
  apply differ
  have leftListed := (mem_sortedFiles.mp leftIn).1
  have rightListed := (mem_sortedFiles.mp rightIn).1
  obtain ⟨leftContent, leftFound, -⟩ := leftListed.content
  obtain ⟨rightContent, rightFound, -⟩ := rightListed.content
  obtain ⟨leftTime, leftPath, leftLower, leftUpper⟩ := canonical _ _ leftFound
  obtain ⟨rightTime, rightPath, rightLower, rightUpper⟩ := canonical _ _ rightFound
  have leftDay := fileDayBucket_filePathFor leftLower leftUpper
  have rightDay := fileDayBucket_filePathFor rightLower rightUpper
  rw [← leftPath, leftListed.day, Option.some.injEq] at leftDay
  rw [← rightPath, rightListed.day, Option.some.injEq] at rightDay
  rw [leftPath, rightPath]
  exact filePathFor_eq_of_day (leftDay.symm.trans (sameDay.trans rightDay))

theorem matchesIn_byDay (faithful : HistoryStore.Faithfully codec files ledger)
    (buffering : Buffering) (sessionId : String) (sinceUnixMs : Int) (recent : HistoryFile → Bool) :
    matchesIn codec buffering files sessionId sinceUnixMs
        ((sortedFiles files recent).map HistoryFile.path) =
      ((sortedFiles files recent).map HistoryFile.day).flatMap fun day =>
        (ledger.filter (sampleMatches sessionId sinceUnixMs)).filter fun sample =>
          dayBucket sample.recordedAtUnixMs = day := by
  rw [matchesIn, List.flatMap_map, List.flatMap_map]
  apply List.flatMap_congr
  intro file member
  rw [fileMatches_eq_filter faithful, writtenTo_listed faithful (mem_sortedFiles.mp member).1,
    List.filter_filter, List.filter_filter]
  apply List.filter_congr
  intro sample _
  rw [Bool.and_comm]

/-- Reading the day files in order yields the matching samples in the order of the ledger, if no
    file with a match is passed over. -/
theorem matchesIn_eq (faithful : HistoryStore.Faithfully codec files ledger)
    (buffering : Buffering) (sessionId : String) (sinceUnixMs : Int) (recent : HistoryFile → Bool)
    (complete : ∀ file : HistoryFile, dayBucket sinceUnixMs ≤ file.day → recent file = true) :
    matchesIn codec buffering files sessionId sinceUnixMs
        ((sortedFiles files recent).map HistoryFile.path) =
      ledger.filter (sampleMatches sessionId sinceUnixMs) := by
  rw [matchesIn_byDay faithful]
  refine Buckets.flatMap_filter_of_sorted (days_strict faithful.canonical recent) ?_ ?_
  · refine (faithful.sorted.sublist List.filter_sublist).imp ?_
    intro left right ordered
    unfold dayBucket dayMs
    omega
  · intro sample member
    obtain ⟨inside, matched⟩ := List.mem_filter.mp member
    obtain ⟨content, found⟩ := faithful.held.present sample inside
    obtain ⟨lower, upper⟩ := faithful.held.ranged sample inside
    simp only [sampleMatches, Bool.and_eq_true, decide_eq_true_eq] at matched
    have later : dayBucket sinceUnixMs ≤ dayBucket sample.recordedAtUnixMs := by
      have recentEnough := matched.2
      unfold dayBucket dayMs
      omega
    have listed : Listed files ⟨dayBucket sample.recordedAtUnixMs,
        filePathFor sample.recordedAtUnixMs, content.length⟩ :=
      ⟨fileDayBucket_filePathFor lower upper, content, found, rfl⟩
    exact List.mem_map.mpr ⟨_, mem_sortedFiles.mpr ⟨listed, complete _ later⟩, rfl⟩

end Read

namespace HistoryStore

variable {store : HistoryStore} {codec : HistoryCodec}

theorem faithfully_ledgerRun {calls : List RecordCall}
    (observed : sanitizeObserverInfo store.observer = some store.observer)
    (ordered : calls.Pairwise fun left right => left.recordedAtUnixMs ≤ right.recordedAtUnixMs)
    (presentable : ∀ call ∈ calls, ∀ summary ∈ call.sessions, summary.kind = .instrumented →
      Presentable summary)
    (faithful : ∀ call ∈ calls, ∀ sample ∈ store.samples call, codec.Faithful sample)
    (succeeds : ∀ earlier call, earlier ++ [call] <+: calls →
      (store.recordSummaries codec call (store.record codec earlier (new ∅))).1 ≠ .failed) :
    Faithfully codec (store.ledgerRun codec calls (new ∅)).1.files
      (store.ledgerRun codec calls (new ∅)).2 := by
  obtain ⟨held, canonical⟩ := held_ledgerRun succeeds
  have part := @ledgerRun_sublist store codec calls (new ∅)
  refine ⟨held, canonical, List.Pairwise.sublist part ?_, ?_⟩
  · refine List.pairwise_flatMap.mpr ⟨fun call _ => ?_, ordered.imp ?_⟩
    · refine List.pairwise_of_forall_mem_list ?_
      intro left leftIn right rightIn
      rw [mem_samples leftIn, mem_samples rightIn]
    · intro earlier later before left leftIn right rightIn
      rw [mem_samples leftIn, mem_samples rightIn]
      exact before
  · intro sample member sessionId sinceUnixMs
    obtain ⟨call, called, recorded⟩ := List.mem_flatMap.mp (part.subset member)
    have encoded := faithful call called sample recorded
    obtain ⟨summary, listed, rfl⟩ := List.mem_map.mp recorded
    obtain ⟨inside, kind⟩ := List.mem_filter.mp listed
    have instrumented := of_decide_eq_true kind
    have sound := presentable call called summary inside instrumented
    exact recalled_of_faithful encoded
      (sanitizeHistorySample_historySample observed sound instrumented)
      (sampleChars_historySample observed sound) sessionId sinceUnixMs

theorem suffix_ledgerRun {calls earlier : List RecordCall} {call : RecordCall}
    (succeeds : ∀ earlier call, earlier ++ [call] <+: calls →
      (store.recordSummaries codec call (store.record codec earlier (new ∅))).1 ≠ .failed)
    (before : earlier ++ [call] <+: calls)
    (room : store.HasRoom codec call (store.record codec earlier (new ∅))) :
    store.samples call <:+ (store.ledgerRun codec (earlier ++ [call]) (new ∅)).2 := by
  by_cases idle : store.samples call = []
  · rw [idle]
    exact List.nil_suffix
  have appended := appended_of_room idle room (succeeds earlier call before)
  rw [← ledgerRun_fst] at appended
  rw [ledgerRun_concat, recordStep]
  simp only [appended, if_true]
  exact List.suffix_append _ _

/-- A query returns the last of the matching samples that were appended and not removed since. It
    is what reading every file in order and taking the last matches yields. Every call that has room
    for its samples appends them. -/
theorem query_round_trip (buffering : Buffering) (calls : List RecordCall)
    (observed : sanitizeObserverInfo store.observer = some store.observer)
    (ordered : calls.Pairwise fun left right => left.recordedAtUnixMs ≤ right.recordedAtUnixMs)
    (presentable : ∀ call ∈ calls, ∀ summary ∈ call.sessions, summary.kind = .instrumented →
      Presentable summary)
    (faithful : ∀ call ∈ calls, ∀ sample ∈ store.samples call, codec.Faithful sample)
    (succeeds : ∀ earlier call, earlier ++ [call] <+: calls →
      (store.recordSummaries codec call (store.record codec earlier (new ∅))).1 ≠ .failed)
    (sessionId : String) (sinceUnixMs : Int) (limit : Nat) :
    let run := store.ledgerRun codec calls (new ∅)
    let matching := run.2.filter (sampleMatches sessionId sinceUnixMs)
    store.querySession codec buffering run.1.files sessionId sinceUnixMs limit =
        some (matching.rtake (min limit store.maxQuerySamples)) ∧
      matchesIn codec buffering run.1.files sessionId sinceUnixMs
        ((sortedFiles run.1.files fun _ => true).map HistoryFile.path) = matching ∧
      ∀ earlier call, earlier ++ [call] <+: calls →
        store.HasRoom codec call (store.record codec earlier (new ∅)) →
          store.samples call <:+ (store.ledgerRun codec (earlier ++ [call]) (new ∅)).2 := by
  intro run matching
  have kept := faithfully_ledgerRun observed ordered presentable faithful succeeds
  have listed := matchesIn_eq kept buffering sessionId sinceUnixMs
    (fun file => dayBucket sinceUnixMs ≤ file.day) fun file => decide_eq_true
  refine ⟨?_, matchesIn_eq kept buffering sessionId sinceUnixMs _ fun _ _ => rfl,
    fun earlier call => suffix_ledgerRun succeeds⟩
  rw [querySession_eq]
  exact congrArg (fun found : List HistorySample =>
    some (found.rtake (min limit store.maxQuerySamples))) listed

end HistoryStore

theorem presentable_quietSummary : Presentable quietSummary := by
  refine ⟨by decide, by decide +kernel, rfl, rfl, rfl, rfl, ?_, ?_, ?_, ?_, ?_⟩ <;>
    exact fun number reported => (by cases reported)

theorem faithful_quietSample {recordedAtUnixMs : Int}
    (known : recordedAtUnixMs = 1000 ∨ recordedAtUnixMs = 2000) :
    quietCodec.Faithful (quietSample recordedAtUnixMs) := by
  rcases known with rfl | rfl
  · exact ⟨by decide +kernel, by decide +kernel⟩
  · exact ⟨by decide +kernel, by decide +kernel⟩

/-- Two calls on one day, of which a query for one sample returns the later. -/
theorem HistoryStore.query_round_trip_twoCalls :
    let calls := [quietCall 1000 {} (by decide) (by decide), nextCall]
    let run := quietStore.ledgerRun quietCodec calls (new ∅)
    let matching := run.2.filter (sampleMatches "instrumented:7:10" 0)
    quietStore.querySession quietCodec wholeBuffering run.1.files "instrumented:7:10" 0 1 =
        some (matching.rtake (min 1 quietStore.maxQuerySamples)) ∧
      matchesIn quietCodec wholeBuffering run.1.files "instrumented:7:10" 0
        ((sortedFiles run.1.files fun _ => true).map HistoryFile.path) = matching ∧
      [quietSample 2000] <:+ run.2 := by
  intro calls
  have sessions : ∀ call ∈ calls, call.sessions = [quietSummary] ∧
      (call.recordedAtUnixMs = 1000 ∨ call.recordedAtUnixMs = 2000) := by
    intro call called
    simp only [calls, List.mem_cons, List.not_mem_nil, or_false] at called
    rcases called with rfl | rfl
    · exact ⟨rfl, .inl rfl⟩
    · exact ⟨rfl, .inr rfl⟩
  have presentable : ∀ call ∈ calls, ∀ summary ∈ call.sessions, summary.kind = .instrumented →
      Presentable summary := by
    intro call called summary member _
    rw [(sessions call called).1, List.mem_singleton] at member
    rw [member]
    exact presentable_quietSummary
  have faithful : ∀ call ∈ calls, ∀ sample ∈ quietStore.samples call,
      quietCodec.Faithful sample := by
    intro call called sample recorded
    obtain ⟨same, time⟩ := sessions call called
    rw [samples, same] at recorded
    have only : sample = quietSample call.recordedAtUnixMs := List.mem_singleton.mp recorded
    rw [only]
    exact faithful_quietSample time
  have succeeds : ∀ earlier call, earlier ++ [call] <+: calls →
      (quietStore.recordSummaries quietCodec call
        (quietStore.record quietCodec earlier (new ∅))).1 ≠ .failed := by
    intro earlier call before
    rcases eq_of_prefix_pair before with ⟨rfl, rfl⟩ | ⟨rfl, rfl⟩
    · decide +kernel
    · decide +kernel
  have observed : sanitizeObserverInfo quietStore.observer = some quietStore.observer := by
    decide +kernel
  obtain ⟨query, scan, recorded⟩ := query_round_trip wholeBuffering calls observed (by decide)
    presentable faithful succeeds "instrumented:7:10" 0 1
  refine ⟨query, scan, recorded [_] nextCall (List.prefix_refl _) ⟨fun _ => rfl, ?_⟩⟩
  decide +kernel

end Moshwatch
