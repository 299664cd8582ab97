import Moshwatch.History.Query

namespace Moshwatch

namespace HistoryStore

variable (store : HistoryStore) (codec : HistoryCodec)

def roomFor (call : RecordCall) (state : HistoryState) : HistoryState :=
  if store.samples call = [] then
    (store.pruneOldFiles call.recordedAtUnixMs call.faults state).getD state
  else (store.makeRoom (store.payload codec call).length call state).2

inductive Effect (call : RecordCall) (room : HistoryDir) : RecordOutcome → HistoryDir → Prop where
  | unchanged {outcome : RecordOutcome} (other : outcome ≠ .appended) : Effect call room outcome room
  | partly (part : Bytes) (regular : room.lookup (filePathFor call.recordedAtUnixMs) ≠ some .other) :
      Effect call room .failed (appendFile room (filePathFor call.recordedAtUnixMs) part)
  | appended (active : store.samples call ≠ []) (complete : call.faults.write = .complete)
      (regular : room.lookup (filePathFor call.recordedAtUnixMs) ≠ some .other) :
      Effect call room .appended
        (appendFile room (filePathFor call.recordedAtUnixMs) (store.payload codec call))

variable {store codec}

theorem removes_roomFor (call : RecordCall) (state : HistoryState) :
    Removes state.files (store.roomFor codec call state).files := by
  unfold roomFor
  split
  · cases pruned : store.pruneOldFiles call.recordedAtUnixMs call.faults state with
    | none => exact Removes.refl _
    | some after => exact (pruneOldFiles_removal pruned).files
  · exact (removal_makeRoom _ _ _).files

theorem writePayload_effect {call : RecordCall} {projected : Nat} {room : HistoryState}
    (active : store.samples call ≠ []) :
    let written := writePayload (filePathFor call.recordedAtUnixMs) (store.payload codec call)
      projected call.faults room
    store.Effect codec call room.files written.1 written.2.files := by
  unfold writePayload
  by_cases special : room.files.lookup (filePathFor call.recordedAtUnixMs) = some .other
  · simp only [special, if_true, recordFailure_files]
    exact .unchanged (by decide)
  · simp only [special, if_false]
    cases complete : call.faults.write with
    | openFailed created =>
      simp only [recordFailure_files]
      cases created with
      | true => exact .partly [] special
      | false => exact .unchanged (by decide)
    | stopped written =>
      simp only [recordFailure_files]
      exact .partly _ special
    | complete => exact .appended active complete special

theorem recordSummaries_effect (call : RecordCall) (state : HistoryState) :
    store.Effect codec call (store.roomFor codec call state).files
      (store.recordSummaries codec call state).1 (store.recordSummaries codec call state).2.files := by
  unfold roomFor
  by_cases idle : store.samples call = []
  · rw [if_pos idle]
    cases pruned : store.pruneOldFiles call.recordedAtUnixMs call.faults state with
    | none =>
      have failed : store.recordSummaries codec call state =
          (.failed, state.recordFailure call.faults) := by
        rw [recordSummaries, if_pos idle, pruned]
      rw [failed, Option.getD_none, recordFailure_files]
      exact .unchanged (by simp)
    | some after =>
      rw [recordSummaries_idle idle pruned, Option.getD_some]
      exact .unchanged (by simp)
  · rw [if_neg idle]
    obtain ⟨⟨decision, room⟩, made⟩ : ∃ result,
      store.makeRoom (store.payload codec call).length call state = result := ⟨_, rfl⟩
    rw [made]
    cases decision with
    | failed =>
      rw [recordSummaries_unroomed idle made, recordFailure_files]
      exact .unchanged (by simp)
    | refused =>
      rw [recordSummaries_refused idle made]
      exact .unchanged (by simp)
    | granted projected =>
      rw [recordSummaries_granted idle made]
      exact writePayload_effect idle

theorem writePayload_outcome (path : String) (payload : Bytes) (projected : Nat) (faults : Faults)
    (state : HistoryState) :
    (writePayload path payload projected faults state).1 = .failed ∨
      (writePayload path payload projected faults state).1 = .appended := by
  unfold writePayload
  split
  · exact .inl rfl
  · split
    · exact .inl rfl
    · exact .inl rfl
    · exact .inr rfl

variable (store codec)

/-- The payload fits beside the files that the call may not evict, and every eviction works. -/
structure HasRoom (call : RecordCall) (state : HistoryState) : Prop where
  evicts : ∀ path, call.faults.budgetRemoval path = false
  fits : bytesFrom (dayBucket call.recordedAtUnixMs) state.files +
    (store.payload codec call).length ≤ store.maxDiskBytes

variable {store codec}

/-- A call that has samples and room for them appends them, or it fails. -/
theorem appended_of_room {call : RecordCall} {state : HistoryState}
    (active : store.samples call ≠ []) (room : store.HasRoom codec call state)
    (succeeds : (store.recordSummaries codec call state).1 ≠ .failed) :
    (store.recordSummaries codec call state).1 = .appended := by
  obtain ⟨⟨decision, after⟩, made⟩ : ∃ result,
    store.makeRoom (store.payload codec call).length call state = result := ⟨_, rfl⟩
  have worked : (store.makeRoom (store.payload codec call).length call state).1 ≠ .failed := by
    intro failed
    rw [made] at failed
    cases failed
    rw [recordSummaries_unroomed active made] at succeeds
    exact succeeds rfl
  obtain ⟨projected, granted⟩ := makeRoom_granted room.evicts room.fits worked
  rw [made] at granted
  cases granted
  rw [recordSummaries_granted active made] at succeeds ⊢
  rcases writePayload_outcome _ _ projected call.faults after with failed | appended
  · exact absurd failed succeeds
  · exact appended

variable (store codec)

def keepLedger (files : HistoryDir) (ledger : List HistorySample) : List HistorySample :=
  ledger.filter fun sample => KeyedStore.contains files (filePathFor sample.recordedAtUnixMs)

/-- One call, along with the ledger of what has been appended to the files that are there. -/
def recordStep (run : HistoryState × List HistorySample) (call : RecordCall) :
    HistoryState × List HistorySample :=
  let kept := keepLedger (store.roomFor codec call run.1).files run.2
  let (outcome, after) := store.recordSummaries codec call run.1
  (after, if outcome = .appended then kept ++ store.samples call else kept)

def ledgerRun (calls : List RecordCall) (start : HistoryState) : HistoryState × List HistorySample :=
  calls.foldl (store.recordStep codec) (start, [])

end HistoryStore

def writtenTo (path : String) (ledger : List HistorySample) : List HistorySample :=
  ledger.filter fun sample => filePathFor sample.recordedAtUnixMs = path

/-- The files hold what the ledger says, as far as `holds` relates the two. -/
structure Held (holds : Bytes → List HistorySample → Prop) (files : HistoryDir)
    (ledger : List HistorySample) : Prop where
  present : ∀ sample ∈ ledger, ∃ content,
    files.lookup (filePathFor sample.recordedAtUnixMs) = some (.file content)
  ranged : ∀ sample ∈ ledger,
    i64Min ≤ sample.recordedAtUnixMs ∧ sample.recordedAtUnixMs ≤ i64Max
  contents : ∀ path, holds (fileContent files path) (writtenTo path ledger)

namespace HistoryStore

variable {store : HistoryStore} {codec : HistoryCodec} {holds : Bytes → List HistorySample → Prop}

theorem mem_samples {call : RecordCall} {sample : HistorySample}
    (member : sample ∈ store.samples call) : sample.recordedAtUnixMs = call.recordedAtUnixMs := by
  obtain ⟨summary, -, rfl⟩ := List.mem_map.mp member
  rfl

theorem writtenTo_samples_self (call : RecordCall) :
    writtenTo (filePathFor call.recordedAtUnixMs) (store.samples call) = store.samples call := by
  refine List.filter_eq_self.mpr ?_
  intro sample member
  rw [mem_samples member]
  exact decide_eq_true rfl

theorem writtenTo_samples_of_ne {call : RecordCall} {path : String}
    (differ : path ≠ filePathFor call.recordedAtUnixMs) :
    writtenTo path (store.samples call) = [] := by
  refine List.filter_eq_nil_iff.mpr ?_
  intro sample member
  rw [mem_samples member, decide_eq_true_eq]
  exact differ.symm

theorem writtenTo_keepLedger {files : HistoryDir} {ledger : List HistorySample} {path : String} :
    writtenTo path (keepLedger files ledger) =
      if KeyedStore.contains files path then writtenTo path ledger else [] := by
  unfold writtenTo keepLedger
  rw [List.filter_filter]
  split
  · rename_i kept
    apply List.filter_congr
    intro sample _
    by_cases here : filePathFor sample.recordedAtUnixMs = path
    · simp [here, kept]
    · simp [here]
  · rename_i gone
    refine List.filter_eq_nil_iff.mpr ?_
    intro sample _
    by_cases here : filePathFor sample.recordedAtUnixMs = path
    · simp [here, gone]
    · simp [here]

theorem held_removes {before after : HistoryDir} {ledger : List HistorySample}
    (empty : holds [] []) (removes : Removes before after) (held : Held holds before ledger) :
    Held holds after (keepLedger after ledger) := by
  refine ⟨?_, ?_, ?_⟩
  · intro sample member
    obtain ⟨inside, kept⟩ := List.mem_filter.mp member
    obtain ⟨content, found⟩ := held.present sample inside
    rcases removes (filePathFor sample.recordedAtUnixMs) with same | gone
    · exact ⟨content, same.trans found⟩
    · rw [KeyedStore.contains, gone] at kept
      cases kept
  · exact fun sample member => held.ranged sample (List.mem_of_mem_filter member)
  · intro path
    rw [writtenTo_keepLedger]
    rcases removes path with same | gone
    · have content : fileContent after path = fileContent before path := by
        rw [fileContent, fileContent, same]
      rw [content]
      split
      · exact held.contents path
      · rename_i absent
        have none : before.lookup path = none := by
          rw [← same]
          simpa [KeyedStore.contains] using absent
        rw [fileContent, none]
        exact empty
    · rw [KeyedStore.contains, gone, fileContent, gone]
      exact empty

theorem fileContent_appendFile {files : HistoryDir} {path : String} {bytes : Bytes}
    (regular : files.lookup path ≠ some .other) (other : String) :
    fileContent (appendFile files path bytes) other =
      if other = path then fileContent files path ++ bytes else fileContent files other := by
  split
  · rename_i same
    rw [same, fileContent, lookup_appendFile regular]
  · rename_i differ
    rw [fileContent, fileContent, lookup_appendFile_of_ne differ]

theorem present_appendFile {files : HistoryDir} {path other : String} {bytes content : Bytes}
    (found : files.lookup other = some (.file content)) :
    ∃ content, (appendFile files path bytes).lookup other = some (.file content) := by
  by_cases same : other = path
  · rw [same] at found ⊢
    exact ⟨_, lookup_appendFile (by simp [found])⟩
  · exact ⟨content, by rw [lookup_appendFile_of_ne same, found]⟩

theorem held_appendPart {files : HistoryDir} {path : String} {part : Bytes}
    {ledger : List HistorySample} (regular : files.lookup path ≠ some .other)
    (partly : ∀ content samples, holds content samples → holds (content ++ part) samples)
    (held : Held holds files ledger) : Held holds (appendFile files path part) ledger := by
  refine ⟨?_, held.ranged, ?_⟩
  · intro sample member
    obtain ⟨content, found⟩ := held.present sample member
    exact present_appendFile found
  · intro other
    rw [fileContent_appendFile regular]
    split
    · rename_i same
      rw [same]
      exact partly _ _ (held.contents _)
    · exact held.contents other

theorem held_appendSamples {files : HistoryDir} {ledger : List HistorySample} {call : RecordCall}
    (regular : files.lookup (filePathFor call.recordedAtUnixMs) ≠ some .other)
    (appended : ∀ samples, holds (fileContent files (filePathFor call.recordedAtUnixMs)) samples →
      holds (fileContent files (filePathFor call.recordedAtUnixMs) ++ store.payload codec call)
        (samples ++ store.samples call))
    (held : Held holds files ledger) :
    Held holds (appendFile files (filePathFor call.recordedAtUnixMs) (store.payload codec call))
      (ledger ++ store.samples call) := by
  refine ⟨?_, ?_, ?_⟩
  · intro sample member
    rcases List.mem_append.mp member with old | new
    · obtain ⟨content, found⟩ := held.present sample old
      exact present_appendFile found
    · rw [mem_samples new]
      exact ⟨_, lookup_appendFile regular⟩
  · intro sample member
    rcases List.mem_append.mp member with old | new
    · exact held.ranged sample old
    · rw [mem_samples new]
      exact ⟨call.lower, call.upper⟩
  · intro path
    rw [fileContent_appendFile regular, writtenTo, List.filter_append]
    change holds _ (writtenTo path ledger ++ writtenTo path (store.samples call))
    split
    · rename_i same
      rw [same, writtenTo_samples_self]
      exact appended _ (held.contents _)
    · rename_i differ
      rw [writtenTo_samples_of_ne differ, List.append_nil]
      exact held.contents path

theorem held_recordStep {call : RecordCall} {run : HistoryState × List HistorySample}
    (empty : holds [] [])
    (partly : (store.recordSummaries codec call run.1).1 = .failed →
      ∀ content part samples, holds content samples → holds (content ++ part) samples)
    (appended : (store.recordSummaries codec call run.1).1 = .appended →
      ∀ content samples,
        content = fileContent (store.roomFor codec call run.1).files
          (filePathFor call.recordedAtUnixMs) →
        holds content samples →
          holds (content ++ store.payload codec call) (samples ++ store.samples call))
    (held : Held holds run.1.files run.2) :
    Held holds (store.recordStep codec run call).1.files (store.recordStep codec run call).2 := by
  have kept := held_removes empty (@removes_roomFor store codec call run.1) held
  have effect := @recordSummaries_effect store codec call run.1
  unfold recordStep
  obtain ⟨⟨outcome, after⟩, result⟩ : ∃ result, store.recordSummaries codec call run.1 = result :=
    ⟨_, rfl⟩
  simp only [result] at effect partly appended ⊢
  generalize keepLedger (store.roomFor codec call run.1).files run.2 = ledger at kept ⊢
  generalize after.files = files at effect ⊢
  cases effect with
  | unchanged other =>
    rw [if_neg other]
    exact kept
  | partly part regular =>
    exact held_appendPart regular (fun content => partly rfl content part) kept
  | appended active complete regular =>
    rw [if_pos rfl]
    exact held_appendSamples regular (fun samples => appended rfl _ samples rfl) kept

end HistoryStore

end Moshwatch
