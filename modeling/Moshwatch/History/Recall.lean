import Moshwatch.History.Ledger

namespace Moshwatch

def historyLine (codec : HistoryCodec) (sample : HistorySample) : Bytes :=
  codec.encode sample ++ [10]

/-- What a query finds in the line of a sample, if nothing but it is in the file. -/
def recalled (codec : HistoryCodec) (sessionId : String) (sinceUnixMs : Int)
    (sample : HistorySample) : Option HistorySample :=
  outcomeMatch codec sessionId sinceUnixMs
    (Framing.bound maxHistoryLineBytes (historyLine codec sample))

def Ended (content : Bytes) : Prop := content = [] ∨ ∃ body, content = body ++ [10]

theorem Ended.append {front back : Bytes} (first : Ended front) (second : Ended back) :
    Ended (front ++ back) := by
  rcases second with rfl | ⟨body, rfl⟩
  · rw [List.append_nil]
    exact first
  · exact .inr ⟨front ++ body, (List.append_assoc _ _ _).symm⟩

theorem ended_historyLine (codec : HistoryCodec) (sample : HistorySample) :
    Ended (historyLine codec sample) := .inr ⟨_, rfl⟩

theorem ended_encodeHistoryPayload (codec : HistoryCodec) (samples : List HistorySample) :
    Ended (encodeHistoryPayload codec samples) := by
  induction samples with
  | nil => exact .inl rfl
  | cons sample samples ih =>
    rw [encodeHistoryPayload, List.flatMap_cons]
    exact (ended_historyLine codec sample).append ih

theorem lines_encodeHistoryPayload (codec : HistoryCodec) (samples : List HistorySample) :
    Framing.lines 10 (encodeHistoryPayload codec samples) = samples.map (historyLine codec) := by
  have unbroken : ∀ body ∈ samples.map codec.encode, 10 ∉ body :=
    List.forall_mem_map.mpr fun sample _ => codec.unbroken sample
  have whole := Framing.lines_flatMap unbroken
  rw [List.flatMap_map, List.map_map] at whole
  exact whole

theorem outcomeMatch_eq_some {codec : HistoryCodec} {sessionId : String} {sinceUnixMs : Int}
    {line : Bytes} {result : HistorySample}
    (found : outcomeMatch codec sessionId sinceUnixMs (Framing.bound maxHistoryLineBytes line) =
      some result) :
    lineSample codec line = some result ∧ sampleMatches sessionId sinceUnixMs result = true := by
  unfold Framing.bound at found
  split at found
  · cases found
  · exact Option.filter_eq_some_iff.mp found

theorem sanitizeHistorySample_recordedAt {sample result : HistorySample}
    (sanitized : sanitizeHistorySample sample = some result) :
    result.recordedAtUnixMs = sample.recordedAtUnixMs := by
  unfold sanitizeHistorySample at sanitized
  split at sanitized
  · cases sanitized
  · split at sanitized
    · cases sanitized
    · split at sanitized
      · cases sanitized
      · cases sanitized
        rfl

theorem stripLineEnd_historyLine (codec : HistoryCodec) (sample : HistorySample) :
    stripLineEnd (historyLine codec sample) = codec.encode sample := by
  obtain ⟨body, closed⟩ := codec.closed sample
  rw [stripLineEnd, historyLine, closed, List.rdropWhile_concat_pos _ _ _ (by decide),
    List.rdropWhile_concat_neg _ _ _ (by decide)]

theorem lineSample_historyLine (codec : HistoryCodec) (sample : HistorySample) :
    lineSample codec (historyLine codec sample) =
      (codec.decode (codec.encode sample)).bind sanitizeHistorySample := by
  have some : codec.encode sample ≠ [] := by
    obtain ⟨body, closed⟩ := codec.closed sample
    rw [closed]
    simp
  rw [lineSample, stripLineEnd_historyLine]
  exact if_neg some

theorem recalled_spec {codec : HistoryCodec} {sessionId : String} {sinceUnixMs : Int}
    {sample result : HistorySample} (found : recalled codec sessionId sinceUnixMs sample = some result) :
    result.recordedAtUnixMs = sample.recordedAtUnixMs ∧ result.sessionId = sessionId ∧
      sinceUnixMs ≤ result.recordedAtUnixMs := by
  obtain ⟨read, matched⟩ := outcomeMatch_eq_some found
  rw [lineSample_historyLine, Option.bind_eq_some_iff] at read
  obtain ⟨decoded, decodes, sanitized⟩ := read
  simp only [sampleMatches, Bool.and_eq_true, decide_eq_true_eq] at matched
  exact ⟨(sanitizeHistorySample_recordedAt sanitized).trans (codec.stamped _ _ decodes), matched⟩

theorem historyFilesFrom_nodup (files : HistoryDir) (sinceUnixMs : Int) :
    (historyFilesFrom files sinceUnixMs).Nodup := by
  have distinct := (historyFiles_paths_nodup files).sublist
    (List.filter_sublist (p := fun file : HistoryFile => dayBucket sinceUnixMs ≤ file.day))
  exact List.pairwise_map.mpr
    (distinct.perm (List.mergeSort_perm _ _).symm fun differ => differ.symm)

variable {codec : HistoryCodec} {files : HistoryDir} {ledger : List HistorySample}
  {holds : Bytes → List HistorySample → Prop} {sessionId : String} {sinceUnixMs : Int}

theorem mem_historyFilesFrom_of_recalled (held : Held holds files ledger) {result : HistorySample}
    (member : result ∈ ledger.filterMap (recalled codec sessionId sinceUnixMs)) :
    filePathFor result.recordedAtUnixMs ∈ historyFilesFrom files sinceUnixMs := by
  obtain ⟨sample, inside, found⟩ := List.mem_filterMap.mp member
  obtain ⟨stamp, -, recent⟩ := recalled_spec found
  obtain ⟨content, present⟩ := held.present sample inside
  obtain ⟨lower, upper⟩ := held.ranged sample inside
  rw [stamp] at recent ⊢
  refine mem_historyFilesFrom.mpr ⟨_, content, fileDayBucket_filePathFor lower upper, ?_, present⟩
  unfold dayBucket dayMs
  omega

theorem filter_recalled (path : String) :
    ((ledger.filterMap (recalled codec sessionId sinceUnixMs)).filter fun result =>
      filePathFor result.recordedAtUnixMs = path) =
      (writtenTo path ledger).filterMap (recalled codec sessionId sinceUnixMs) := by
  rw [List.filter_filterMap, writtenTo, List.filterMap_filter]
  apply List.filterMap_congr
  intro sample _
  cases found : recalled codec sessionId sinceUnixMs sample with
  | none => simp
  | some result =>
    obtain ⟨stamp, -, -⟩ := recalled_spec found
    by_cases here : filePathFor sample.recordedAtUnixMs = path
    · simp [Option.filter, stamp, here]
    · simp [Option.filter, stamp, here]

theorem recalled_perm (held : Held holds files ledger) :
    ((historyFilesFrom files sinceUnixMs).flatMap fun path =>
      (writtenTo path ledger).filterMap (recalled codec sessionId sinceUnixMs)).Perm
      (ledger.filterMap (recalled codec sessionId sinceUnixMs)) := by
  have buckets := Buckets.perm_flatMap_filter (historyFilesFrom_nodup files sinceUnixMs)
    (fun result member => @mem_historyFilesFrom_of_recalled codec _ _ _ sessionId _ held _ member)
  simpa only [filter_recalled] using buckets

end Moshwatch
