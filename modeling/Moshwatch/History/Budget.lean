import Moshwatch.History.Removal

namespace Moshwatch

def Faults.Lists (faults : Faults) : Prop :=
  faults.pruneListing = false ∧ faults.budgetListing = false ∧ faults.refreshListing = false

/-- A history directory whose bytes a `u64` can count. -/
structure HistoryDisk where
  files : HistoryDir
  fits : historyDirBytes files ≤ u64Max

structure HistoryState.Tracked (state : HistoryState) : Prop where
  gauge : state.currentBytes = historyDirBytes state.files
  fits : historyDirBytes state.files ≤ u64Max

def fileContent (files : HistoryDir) (path : String) : Bytes :=
  match files.lookup path with
  | some (.file content) => content
  | _ => []

theorem lookup_appendFile {files : HistoryDir} {path : String} {bytes : Bytes}
    (regular : files.lookup path ≠ some .other) :
    (appendFile files path bytes).lookup path = some (.file (fileContent files path ++ bytes)) := by
  cases found : files.lookup path with
  | none => simp [appendFile, fileContent, found]
  | some entry =>
    cases entry with
    | other => exact absurd found regular
    | file content => simp [appendFile, fileContent, found]

theorem lookup_appendFile_of_ne {files : HistoryDir} {path other : String} {bytes : Bytes}
    (differ : other ≠ path) : (appendFile files path bytes).lookup other = files.lookup other := by
  unfold appendFile
  split
  · exact AList.lookup_insert_ne differ
  · rfl
  · exact AList.lookup_insert_ne differ

theorem historyDirBytes_appendFile {files : HistoryDir} {path : String} {bytes : Bytes} {day : Int}
    (named : fileDayBucket path = some day) (regular : files.lookup path ≠ some .other) :
    historyDirBytes (appendFile files path bytes) = historyDirBytes files + bytes.length := by
  have weight : ∀ content, entryBytes path (.file content) = content.length := by
    intro content
    simp [entryBytes, historyFile, named]
  simp only [historyDirBytes_eq]
  unfold appendFile
  split
  · rename_i content found
    have erased := KeyedStore.total_erase entryBytes found
    rw [weight] at erased
    rw [KeyedStore.total_insert, weight, List.length_append]
    omega
  · rename_i other
    exact absurd other regular
  · rename_i absent
    rw [KeyedStore.total_insert, weight, KeyedStore.total_erase_of_absent entryBytes absent]
    omega

theorem encodeHistoryPayload_length {codec : HistoryCodec} {samples : List HistorySample}
    (some : samples ≠ []) : 0 < (encodeHistoryPayload codec samples).length := by
  cases samples with
  | nil => exact absurd rfl some
  | cons sample rest =>
    simp only [encodeHistoryPayload, List.flatMap_cons, List.length_append, List.length_cons]
    omega

theorem refreshCurrentBytes_gauge {state : HistoryState} {faults : Faults} (lists : faults.Lists) :
    (state.recordFailure faults).currentBytes = historyDirBytes state.files := by
  simp [HistoryState.recordFailure, HistoryState.refreshCurrentBytesFromDisk, lists.2.2]

@[simp] theorem recordFailure_files (state : HistoryState) (faults : Faults) :
    (state.recordFailure faults).files = state.files := by
  unfold HistoryState.recordFailure HistoryState.refreshCurrentBytesFromDisk
  split <;> rfl

@[simp] theorem recordFailure_written (state : HistoryState) (faults : Faults) :
    (state.recordFailure faults).writtenBytesTotal = state.writtenBytesTotal := by
  unfold HistoryState.recordFailure HistoryState.refreshCurrentBytesFromDisk
  split <;> rfl

@[simp] theorem recordFailure_dropped (state : HistoryState) (faults : Faults) :
    (state.recordFailure faults).droppedSamplesTotal = state.droppedSamplesTotal := by
  unfold HistoryState.recordFailure HistoryState.refreshCurrentBytesFromDisk
  split <;> rfl

namespace HistoryStore

variable {store : HistoryStore} {faults : Faults}

/-- What a decision about room for a payload promises of the directory it leaves. -/
structure Decided (store : HistoryStore) (payloadBytes : Nat) (decision : Option Nat)
    (after : HistoryState) : Prop where
  granted : ∀ projected, decision = some projected →
    projected = historyDirBytes after.files + payloadBytes ∧ projected ≤ store.maxDiskBytes
  refused : decision = none → after.currentBytes = historyDirBytes after.files

theorem ensureDiskBudget_spec {recordedAtUnixMs : Int} {incomingBytes : Nat}
    {before : HistoryState} (lists : faults.Lists) (incoming : 0 < incomingBytes)
    (gauge : before.currentBytes = historyDirBytes before.files) :
    ∃ decision after,
      store.ensureDiskBudget recordedAtUnixMs incomingBytes faults before = some (decision, after) ∧
        Decided store incomingBytes decision after := by
  unfold ensureDiskBudget
  rw [if_neg (by omega)]
  split
  · exact ⟨none, before, rfl, fun _ granted => (by cases granted), fun _ => gauge⟩
  · rw [if_neg (by simp [lists.2.1])]
    simp only
    split
    · rename_i room
      refine ⟨_, _, rfl, ?_, fun refused => (by cases refused)⟩
      intro projected granted
      cases granted
      have limit := store.bounded
      refine ⟨satAdd_of_le ?_, room⟩
      unfold satAdd u64Max at *
      omega
    · have sorted : Listing before.files
          (sortHistoryFiles (historyFilesWithSizesInDir before.files)) :=
        (listing_historyFiles before.files).perm (List.mergeSort_perm _ _)
      obtain ⟨granted, refused⟩ := @evict_spec store (dayBucket recordedAtUnixMs)
        incomingBytes faults.budgetRemoval _ (historyDirBytes before.files)
        { before with currentBytes := historyDirBytes before.files } sorted rfl
      exact ⟨_, _, rfl, granted, refused⟩

theorem makeRoom_spec {payloadBytes : Nat} {call : RecordCall} {before : HistoryState}
    (lists : call.faults.Lists) (some : 0 < payloadBytes) (tracked : before.Tracked) :
    let made := store.makeRoom payloadBytes call before
    (∀ projected, made.1 = .granted projected →
      projected = historyDirBytes made.2.files + payloadBytes ∧ projected ≤ store.maxDiskBytes) ∧
    (made.1 = .refused → made.2.currentBytes = historyDirBytes made.2.files) := by
  unfold makeRoom
  split
  · exact ⟨fun _ granted => (by cases granted), fun refused => (by cases refused)⟩
  · split
    · exact ⟨fun _ granted => (by cases granted), fun refused => (by cases refused)⟩
    · rename_i pruned pruneWorks
      obtain ⟨decision, after, budget, decided⟩ := @ensureDiskBudget_spec store _
        call.recordedAtUnixMs _ _ lists some
        (pruneOldFiles_gauge pruneWorks tracked.fits tracked.gauge)
      rw [budget]
      cases decision with
      | none => exact ⟨fun _ granted => (by cases granted), fun _ => decided.refused rfl⟩
      | some projected =>
        refine ⟨?_, fun refused => (by cases refused)⟩
        intro other granted
        cases granted
        exact decided.granted _ rfl

/-- What the write to the day file leaves, whether it succeeds or not. -/
structure Written (path : String) (payload : Bytes) (outcome : RecordOutcome)
    (room after : HistoryState) : Prop where
  bytes : historyDirBytes after.files ≤ historyDirBytes room.files + payload.length
  gauge : after.currentBytes = historyDirBytes after.files
  full : after.files.lookup path = some (.file (fileContent room.files path ++ payload)) ↔
    outcome = .appended
  written : after.writtenBytesTotal =
    room.writtenBytesTotal + if outcome = .appended then payload.length else 0
  dropped : after.droppedSamplesTotal = room.droppedSamplesTotal

theorem written_of_appendFile {path : String} {payload part : Bytes} {day : Int}
    {room : HistoryState} (lists : faults.Lists) (named : fileDayBucket path = some day)
    (regular : room.files.lookup path ≠ some .other) (short : part.length < payload.length) :
    Written path payload .failed room
      ({ room with files := appendFile room.files path part }.recordFailure faults) := by
  have bytes := @historyDirBytes_appendFile _ _ part _ named regular
  refine ⟨?_, ?_, ?_, ?_, ?_⟩
  · simp only [recordFailure_files]
    omega
  · rw [refreshCurrentBytes_gauge lists, recordFailure_files]
  · simp only [recordFailure_files, lookup_appendFile regular, Option.some.injEq,
      DirEntry.file.injEq, List.append_cancel_left_eq, reduceCtorEq, iff_false]
    intro same
    rw [same] at short
    omega
  · simp
  · simp

theorem written_of_unchanged {path : String} {payload : Bytes} {room : HistoryState}
    (lists : faults.Lists)
    (differs : room.files.lookup path ≠ some (.file (fileContent room.files path ++ payload))) :
    Written path payload .failed room (room.recordFailure faults) := by
  refine ⟨?_, ?_, ?_, ?_, ?_⟩
  · simp only [recordFailure_files]
    omega
  · rw [refreshCurrentBytes_gauge lists, recordFailure_files]
  · simpa using differs
  · simp
  · simp

theorem writePayload_spec {path : String} {payload : Bytes} {day : Int} {projected : Nat}
    {room : HistoryState} (lists : faults.Lists) (named : fileDayBucket path = some day)
    (some : 0 < payload.length)
    (exact : projected = historyDirBytes room.files + payload.length) :
    Written path payload (writePayload path payload projected faults room).1 room
      (writePayload path payload projected faults room).2 := by
  unfold writePayload
  by_cases special : room.files.lookup path = Option.some .other
  · rw [if_pos special]
    exact written_of_unchanged lists (by rw [special]; simp)
  · rw [if_neg special]
    cases faults.write with
    | openFailed created =>
      cases created with
      | true => exact written_of_appendFile lists named special (by simpa using some)
      | false =>
        refine written_of_unchanged lists ?_
        intro same
        have content : fileContent room.files path = fileContent room.files path ++ payload := by
          conv => lhs; rw [fileContent, same]
        have length := congrArg List.length content
        rw [List.length_append] at length
        omega
    | stopped written =>
      refine written_of_appendFile lists named special ?_
      simp only [List.length_take, List.length_dropLast]
      omega
    | complete =>
      have bytes := @historyDirBytes_appendFile _ _ payload _ named special
      refine ⟨bytes.le, ?_, ?_, ?_, rfl⟩
      · rw [bytes, exact]
      · simp only [lookup_appendFile special]
      · simp

def payload (store : HistoryStore) (codec : HistoryCodec) (call : RecordCall) : Bytes :=
  encodeHistoryPayload codec (store.samples call)

def AppendedInFull (store : HistoryStore) (codec : HistoryCodec) (call : RecordCall)
    (before after : HistoryState) : Prop :=
  let path := filePathFor call.recordedAtUnixMs
  store.samples call ≠ [] ∧
    ∃ projected room,
      store.makeRoom (store.payload codec call).length call before = (.granted projected, room) ∧
      after.files.lookup path =
        some (.file (fileContent room.files path ++ store.payload codec call))

def Refused (store : HistoryStore) (codec : HistoryCodec) (call : RecordCall)
    (before : HistoryState) : Prop :=
  store.samples call ≠ [] ∧
    (store.makeRoom (store.payload codec call).length call before).1 = .refused

/-- The disk budget, the gauge and the counters over one call. -/
structure Accounted (store : HistoryStore) (codec : HistoryCodec) (call : RecordCall)
    (before after : HistoryState) : Prop where
  bytes : historyDirBytes after.files ≤ max (historyDirBytes before.files) store.maxDiskBytes
  gauge : after.currentBytes = historyDirBytes after.files
  writtenInFull : store.AppendedInFull codec call before after →
    after.writtenBytesTotal = before.writtenBytesTotal + (store.payload codec call).length
  notWritten : ¬store.AppendedInFull codec call before after →
    after.writtenBytesTotal = before.writtenBytesTotal
  dropped : store.Refused codec call before →
    after.droppedSamplesTotal = before.droppedSamplesTotal + (store.samples call).length
  notDropped : ¬store.Refused codec call before →
    after.droppedSamplesTotal = before.droppedSamplesTotal

theorem recordSummaries_idle {codec : HistoryCodec} {call : RecordCall} {before after : HistoryState}
    (idle : store.samples call = [])
    (pruned : store.pruneOldFiles call.recordedAtUnixMs call.faults before = some after) :
    store.recordSummaries codec call before = (.idle, after) := by
  rw [recordSummaries, if_pos idle, pruned]

theorem recordSummaries_unroomed {codec : HistoryCodec} {call : RecordCall}
    {before room : HistoryState} (active : store.samples call ≠ [])
    (made : store.makeRoom (store.payload codec call).length call before = (.failed, room)) :
    store.recordSummaries codec call before = (.failed, room.recordFailure call.faults) := by
  rw [payload] at made
  rw [recordSummaries, if_neg active]
  simp only [made]

theorem recordSummaries_refused {codec : HistoryCodec} {call : RecordCall}
    {before room : HistoryState} (active : store.samples call ≠ [])
    (made : store.makeRoom (store.payload codec call).length call before = (.refused, room)) :
    store.recordSummaries codec call before =
      (.refused, { room with
        droppedSamplesTotal := room.droppedSamplesTotal + (store.samples call).length }) := by
  rw [payload] at made
  rw [recordSummaries, if_neg active]
  simp only [made]

theorem recordSummaries_granted {codec : HistoryCodec} {call : RecordCall} {projected : Nat}
    {before room : HistoryState} (active : store.samples call ≠ [])
    (made : store.makeRoom (store.payload codec call).length call before =
      (.granted projected, room)) :
    store.recordSummaries codec call before =
      writePayload (filePathFor call.recordedAtUnixMs) (store.payload codec call) projected
        call.faults room := by
  rw [payload] at made ⊢
  rw [recordSummaries, if_neg active]
  simp only [made]

theorem not_appendedInFull {codec : HistoryCodec} {call : RecordCall} {before room : HistoryState}
    {decision : RoomDecision} (after : HistoryState)
    (made : store.makeRoom (store.payload codec call).length call before = (decision, room))
    (ungranted : ∀ projected, decision ≠ .granted projected) :
    ¬store.AppendedInFull codec call before after := by
  rintro ⟨-, projected, other, granted, -⟩
  rw [made, Prod.mk.injEq] at granted
  exact ungranted projected granted.1

theorem refused_iff {codec : HistoryCodec} {call : RecordCall} {before room : HistoryState}
    {decision : RoomDecision} (active : store.samples call ≠ [])
    (made : store.makeRoom (store.payload codec call).length call before = (decision, room)) :
    store.Refused codec call before ↔ decision = .refused := by
  rw [Refused, made]
  simp [active]

theorem appendedInFull_iff {codec : HistoryCodec} {call : RecordCall} {before room : HistoryState}
    {projected : Nat} (after : HistoryState) (active : store.samples call ≠ [])
    (made : store.makeRoom (store.payload codec call).length call before =
      (.granted projected, room)) :
    store.AppendedInFull codec call before after ↔
      after.files.lookup (filePathFor call.recordedAtUnixMs) =
        some (.file (fileContent room.files (filePathFor call.recordedAtUnixMs) ++
          store.payload codec call)) := by
  constructor
  · rintro ⟨-, other, inside, granted, lookup⟩
    rw [made] at granted
    cases granted
    exact lookup
  · exact fun lookup => ⟨active, projected, room, made, lookup⟩

section Accounting

variable {codec : HistoryCodec} {call : RecordCall} {before : HistoryState}

theorem accounted_idle (lists : call.faults.Lists) (tracked : before.Tracked)
    (idle : store.samples call = []) :
    store.Accounted codec call before (store.recordSummaries codec call before).2 := by
  cases pruned : store.pruneOldFiles call.recordedAtUnixMs call.faults before with
  | none =>
    rw [pruneOldFiles, if_neg (by simp [lists.1])] at pruned
    cases pruned
  | some after =>
    have removal := pruneOldFiles_removal pruned
    rw [recordSummaries_idle idle pruned]
    exact ⟨removal.bytes.trans (le_max_left _ _),
      pruneOldFiles_gauge pruned tracked.fits tracked.gauge,
      fun appended => absurd idle appended.1, fun _ => removal.written,
      fun refused => absurd idle refused.1, fun _ => removal.dropped⟩

theorem accounted_unroomed (lists : call.faults.Lists) (active : store.samples call ≠ [])
    {room : HistoryState}
    (made : store.makeRoom (store.payload codec call).length call before = (.failed, room)) :
    store.Accounted codec call before (store.recordSummaries codec call before).2 := by
  have removal := @removal_makeRoom store (store.payload codec call).length call before
  rw [made] at removal
  have refused := refused_iff active made
  rw [recordSummaries_unroomed active made]
  refine ⟨?_, ?_, ?_, ?_, ?_, ?_⟩
  · simpa using Or.inl removal.bytes
  · rw [refreshCurrentBytes_gauge lists, recordFailure_files]
  · exact fun appended => absurd appended (not_appendedInFull _ made (by simp))
  · simpa using fun _ => removal.written
  · simp [refused]
  · simpa using fun _ => removal.dropped

theorem accounted_refused (active : store.samples call ≠ []) {room : HistoryState}
    (made : store.makeRoom (store.payload codec call).length call before = (.refused, room))
    (gauge : room.currentBytes = historyDirBytes room.files) :
    store.Accounted codec call before (store.recordSummaries codec call before).2 := by
  have removal := @removal_makeRoom store (store.payload codec call).length call before
  rw [made] at removal
  have refused := refused_iff active made
  rw [recordSummaries_refused active made]
  refine ⟨removal.bytes.trans (le_max_left _ _), gauge, ?_, fun _ => removal.written, ?_, ?_⟩
  · exact fun appended => absurd appended (not_appendedInFull _ made (by simp))
  · exact fun _ => by rw [← removal.dropped]
  · exact fun unrefused => absurd (refused.mpr rfl) unrefused

theorem accounted_granted (lists : call.faults.Lists) (active : store.samples call ≠ [])
    {room : HistoryState} {projected : Nat}
    (made : store.makeRoom (store.payload codec call).length call before =
      (.granted projected, room))
    (exact : projected = historyDirBytes room.files + (store.payload codec call).length)
    (limit : projected ≤ store.maxDiskBytes) :
    store.Accounted codec call before (store.recordSummaries codec call before).2 := by
  have removal := @removal_makeRoom store (store.payload codec call).length call before
  rw [made] at removal
  have refused := refused_iff active made
  have some : 0 < (store.payload codec call).length := encodeHistoryPayload_length active
  have named := fileDayBucket_filePathFor call.lower call.upper
  have written : Written (filePathFor call.recordedAtUnixMs) (store.payload codec call)
      (writePayload (filePathFor call.recordedAtUnixMs) (store.payload codec call) projected
        call.faults room).1 room
      (writePayload (filePathFor call.recordedAtUnixMs) (store.payload codec call) projected
        call.faults room).2 := writePayload_spec lists named some exact
  rw [recordSummaries_granted active made]
  have full := (appendedInFull_iff _ active made).trans written.full
  refine ⟨?_, written.gauge, ?_, ?_, ?_, ?_⟩
  · calc
      _ ≤ historyDirBytes room.files + (store.payload codec call).length := written.bytes
      _ = projected := exact.symm
      _ ≤ store.maxDiskBytes := limit
      _ ≤ _ := le_max_right _ _
  · intro appended
    rw [written.written, if_pos (full.mp appended), removal.written]
  · intro short
    rw [written.written, if_neg (mt full.mpr short), removal.written]
    rfl
  · simp [refused]
  · intro unrefused
    rw [written.dropped, removal.dropped]

theorem recordSummaries_accounted (lists : call.faults.Lists) (tracked : before.Tracked) :
    store.Accounted codec call before (store.recordSummaries codec call before).2 := by
  by_cases idle : store.samples call = []
  · exact accounted_idle lists tracked idle
  · have some : 0 < (store.payload codec call).length := encodeHistoryPayload_length idle
    obtain ⟨granted, gauge⟩ := @makeRoom_spec store _ _ _ lists some tracked
    cases made : store.makeRoom (store.payload codec call).length call before with
    | mk decision room =>
      rw [made] at granted gauge
      cases decision with
      | failed => exact accounted_unroomed lists idle made
      | refused => exact accounted_refused idle made (gauge rfl)
      | granted projected =>
        obtain ⟨exact, limit⟩ := granted projected rfl
        exact accounted_granted lists idle made exact limit

end Accounting

def record (store : HistoryStore) (codec : HistoryCodec) (calls : List RecordCall)
    (state : HistoryState) : HistoryState :=
  calls.foldl (fun state call => (store.recordSummaries codec call state).2) state

theorem tracked_record {codec : HistoryCodec} {calls : List RecordCall} {state : HistoryState}
    (lists : ∀ call ∈ calls, call.faults.Lists) (tracked : state.Tracked) :
    (store.record codec calls state).Tracked := by
  induction calls generalizing state with
  | nil => exact tracked
  | cons call rest ih =>
    have accounted := @recordSummaries_accounted store codec _ _
      (lists call List.mem_cons_self) tracked
    refine ih (fun other member => lists other (List.mem_cons_of_mem _ member)) ⟨accounted.gauge, ?_⟩
    change historyDirBytes (store.recordSummaries codec call state).2.files ≤ u64Max
    have bytes := accounted.bytes
    have limit := store.bounded
    have fits := tracked.fits
    unfold u64Max at *
    omega

/-- Every call of every run keeps the disk budget, the gauge and the counters. -/
theorem disk_budget (codec : HistoryCodec) (disk : HistoryDisk) (earlier : List RecordCall)
    (call : RecordCall) (lists : ∀ other ∈ earlier ++ [call], other.faults.Lists) :
    let before := store.record codec earlier (new disk.files)
    before.currentBytes = historyDirBytes before.files ∧
      store.Accounted codec call before (store.recordSummaries codec call before).2 := by
  have start : (new disk.files).Tracked := ⟨rfl, disk.fits⟩
  have tracked := @tracked_record store codec earlier _
    (fun other member => lists other (List.mem_append_left _ member)) start
  exact ⟨tracked.gauge, recordSummaries_accounted (lists call (by simp)) tracked⟩

end HistoryStore

def quietSummary : SessionSummary :=
  { sessionId := "instrumented:7:10"
    displaySessionId := none
    pid := 7
    kind := .instrumented
    health := .ok
    startedAtUnixMs := 10
    lastObservedUnixMs := 1000
    counterResetUnixMs := none
    bindAddr := none
    udpPort := none
    clientAddr := none
    peer := {}
    cmdline := "mosh-server-real"
    metrics := {} }

def quietStore : HistoryStore :=
  { observer := ⟨"n", "s"⟩
    retentionDays := 7
    maxQuerySamples := 128
    maxDiskBytes := 1048576
    bounded := by decide }

def quietSample (recordedAtUnixMs : Int) : HistorySample :=
  historySample quietStore.observer recordedAtUnixMs quietSummary

def utf8 (text : String) : Bytes := text.toUTF8.data.toList

/-- What `serde_json` writes for such a sample. -/
def quietJson (recordedAt : String) : Bytes :=
  let breakdown := ["\x7b\"transmissions_total\":null,\"retransmits_total\":null,",
    "\"state_updates_total\":null,\"empty_acks_total\":null\x7d"]
  let fields := ["\x7b\"observer\":\x7b\"node_name\":\"n\",\"system_id\":\"s\"\x7d,",
    "\"recorded_at_unix_ms\":", recordedAt, ",\"session_id\":\"instrumented:7:10\",",
    "\"display_session_id\":null,\"pid\":7,\"kind\":\"instrumented\",\"health\":\"ok\",",
    "\"started_at_unix_ms\":10,\"bind_addr\":null,\"udp_port\":null,\"client_addr\":null,",
    "\"metrics\":\x7b\"srtt_ms\":null,\"rttvar_ms\":null,\"last_rtt_ms\":null,",
    "\"last_heard_age_ms\":null,\"remote_state_age_ms\":null,\"packets_tx_total\":null,",
    "\"packets_rx_total\":null,\"retransmits_total\":null,\"empty_acks_tx_total\":null,",
    "\"state_updates_tx_total\":null,\"state_updates_rx_total\":null,",
    "\"duplicate_states_rx_total\":null,\"out_of_order_states_rx_total\":null,",
    "\"retransmit_pct_10s\":null,\"retransmit_pct_60s\":null,",
    "\"retransmit_window_10s_complete\":false,\"retransmit_window_60s_complete\":false,",
    "\"retransmit_window_10s_breakdown\":"] ++ breakdown ++
    [",\"retransmit_window_60s_breakdown\":"] ++ breakdown ++ ["\x7d\x7d"]
  fields.flatMap utf8

def quietCodec : HistoryCodec where
  encode sample :=
    if sample = quietSample 1000 then quietJson "1000"
    else if sample = quietSample 2000 then quietJson "2000"
    else [123, 125]
  decode line :=
    if line = quietJson "1000" then some (quietSample 1000)
    else if line = quietJson "2000" then some (quietSample 2000)
    else none
  unbroken := by
    intro sample
    split
    · decide +kernel
    · split <;> decide +kernel
  closed := by
    intro sample
    split
    · exact ⟨(quietJson "1000").dropLast, by decide +kernel⟩
    · split
      · exact ⟨(quietJson "2000").dropLast, by decide +kernel⟩
      · exact ⟨[123], rfl⟩
  stamped := by
    have differ : quietJson "2000" ≠ quietJson "1000" := by decide +kernel
    have bare : [123, 125] ≠ quietJson "1000" ∧ [123, 125] ≠ quietJson "2000" := by decide +kernel
    intro sample result decodes
    split at decodes
    · rename_i first
      rw [if_pos rfl, Option.some.injEq] at decodes
      rw [first, decodes]
    · split at decodes
      · rename_i second
        rw [if_pos rfl, Option.some.injEq] at decodes
        rw [second, decodes]
      · rw [if_neg bare.1, if_neg bare.2] at decodes
        cases decodes

def quietCall (recordedAtUnixMs : Int) (faults : Faults)
    (lower : i64Min ≤ recordedAtUnixMs) (upper : recordedAtUnixMs ≤ i64Max) : RecordCall :=
  { recordedAtUnixMs, sessions := [quietSummary], faults, lower, upper }

/-- A write that stops after five bytes, then one that is complete. -/
def tornCall : RecordCall := quietCall 1000 { write := .stopped 5 } (by decide) (by decide)

def nextCall : RecordCall := quietCall 2000 {} (by decide) (by decide)

theorem HistoryStore.disk_budget_torn :
    (∀ other ∈ [tornCall] ++ [nextCall], other.faults.Lists) ∧
      (let before := quietStore.record quietCodec [tornCall] (new ∅)
      before.currentBytes = historyDirBytes before.files ∧
        quietStore.Accounted quietCodec nextCall before
          (quietStore.recordSummaries quietCodec nextCall before).2) := by
  have lists : ∀ other ∈ [tornCall] ++ [nextCall], other.faults.Lists := by
    intro other member
    simp only [List.cons_append, List.nil_append, List.mem_cons, List.not_mem_nil, or_false] at member
    rcases member with rfl | rfl <;> exact ⟨rfl, rfl, rfl⟩
  exact ⟨lists, disk_budget quietCodec ⟨∅, by decide⟩ [tornCall] nextCall lists⟩

end Moshwatch
