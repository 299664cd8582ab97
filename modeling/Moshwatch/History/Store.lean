import Moshwatch.Core.Config
import Moshwatch.History.Directory

namespace Moshwatch

/-- `serde_json` on history samples: `to_writer` emits one object without line breaks, whose
    integers and strings `from_slice` reads back as they were. -/
structure HistoryCodec where
  encode : HistorySample → Bytes
  decode : Bytes → Option HistorySample
  unbroken : ∀ sample, 10 ∉ encode sample
  closed : ∀ sample, ∃ body, encode sample = body ++ [125]
  stamped : ∀ sample result, decode (encode sample) = some result →
    result.recordedAtUnixMs = sample.recordedAtUnixMs

/-- The settings of a store. They come from a validated configuration. -/
structure HistoryStore where
  observer : ObserverInfo
  retentionDays : Nat
  maxQuerySamples : Nat
  maxDiskBytes : Nat
  bounded : maxDiskBytes ≤ 64 * 1024 * 1024 * 1024

structure HistoryState where
  files : HistoryDir
  currentBytes : Nat
  writtenBytesTotal : Nat
  writeFailuresTotal : Nat
  pruneFailuresTotal : Nat
  droppedSamplesTotal : Nat

/-- How the write to the day file goes: the open fails, with or without creating the file; an
    error stops the write after some of the bytes; or all are written. -/
inductive WriteOutcome where
  | openFailed (created : Bool)
  | stopped (written : Nat)
  | complete

/-- Which system calls of one `record_summaries` fail. -/
structure Faults where
  createDir : Bool := false
  pruneListing : Bool := false
  budgetListing : Bool := false
  refreshListing : Bool := false
  pruneRemoval : String → Bool := fun _ => false
  budgetRemoval : String → Bool := fun _ => false
  write : WriteOutcome := .complete

/-- One call of `record_summaries`; the time is an `i64`. -/
structure RecordCall where
  recordedAtUnixMs : Int
  sessions : List SessionSummary
  faults : Faults := {}
  lower : i64Min ≤ recordedAtUnixMs
  upper : recordedAtUnixMs ≤ i64Max

/-- The branch a call leaves by. It returns `Ok(())` unless it failed. -/
inductive RecordOutcome where
  | idle
  | appended
  | refused
  | failed
  deriving DecidableEq, Repr

/-- Whether there is room for a payload, and the bytes the directory will hold with it. -/
inductive RoomDecision where
  | failed
  | refused
  | granted (projectedTotalBytes : Nat)

def historySample (observer : ObserverInfo) (recordedAtUnixMs : Int) (summary : SessionSummary) :
    HistorySample :=
  { observer := some observer
    recordedAtUnixMs
    sessionId := summary.sessionId
    displaySessionId := summary.displaySessionId
    pid := summary.pid
    kind := summary.kind
    health := summary.health
    startedAtUnixMs := summary.startedAtUnixMs
    counterResetUnixMs := summary.counterResetUnixMs
    bindAddr := summary.bindAddr
    udpPort := summary.udpPort
    clientAddr := summary.peer.lastClientAddr
    currentClientAddr := summary.peer.currentClientAddr
    metrics := summary.metrics }

def encodeHistoryPayload (codec : HistoryCodec) (samples : List HistorySample) : Bytes :=
  samples.flatMap fun sample => codec.encode sample ++ [10]

def appendFile (files : HistoryDir) (path : String) (bytes : Bytes) : HistoryDir :=
  match files.lookup path with
  | some (.file content) => files.insert path (.file (content ++ bytes))
  | some .other => files
  | none => files.insert path (.file bytes)

namespace HistoryState

def refreshCurrentBytesFromDisk (state : HistoryState) (faults : Faults) : HistoryState :=
  if faults.refreshListing then state
  else { state with currentBytes := historyDirBytes state.files }

/-- `write_failures_total` and, but for an encoding error, the gauge after an error. -/
def recordFailure (state : HistoryState) (faults : Faults) : HistoryState :=
  refreshCurrentBytesFromDisk { state with writeFailuresTotal := state.writeFailuresTotal + 1 }
    faults

end HistoryState

namespace HistoryStore

variable (store : HistoryStore)

/-- `HistoryStore::new`, on a directory that can be listed. -/
def new (files : HistoryDir) : HistoryState :=
  { files
    currentBytes := historyDirBytes files
    writtenBytesTotal := 0
    writeFailuresTotal := 0
    pruneFailuresTotal := 0
    droppedSamplesTotal := 0 }

/-- The body of the loop of `prune_old_files`; the number counts the removed bytes. -/
def pruneFile (oldestDay : Int) (fails : String → Bool) (loop : HistoryState × Nat)
    (file : HistoryFile) : HistoryState × Nat :=
  let (state, removedBytes) := loop
  if file.day < oldestDay then
    if fails file.path then
      ({ state with pruneFailuresTotal := state.pruneFailuresTotal + 1 }, removedBytes)
    else
      ({ state with files := state.files.erase file.path }, satAdd removedBytes file.size)
  else (state, removedBytes)

/-- `none` if the directory cannot be listed. -/
def pruneOldFiles (recordedAtUnixMs : Int) (faults : Faults) (state : HistoryState) :
    Option HistoryState :=
  if faults.pruneListing then none
  else
    let oldestDay := dayBucket recordedAtUnixMs - asI64 store.retentionDays + 1
    let (state, removedBytes) := (historyFilesWithSizesInDir state.files).foldl
      (pruneFile oldestDay faults.pruneRemoval) (state, 0)
    some { state with currentBytes := state.currentBytes - removedBytes }

def compareHistoryFiles (left right : HistoryFile) : Ordering :=
  (compare left.day right.day).then (compare left.path right.path)

def sortHistoryFiles (files : List HistoryFile) : List HistoryFile :=
  files.mergeSort fun left right => compareHistoryFiles left right ≠ .gt

/-- The eviction loop of `ensure_disk_budget` and what follows it. -/
def evict (currentDay : Int) (incomingBytes : Nat) (fails : String → Bool) :
    List HistoryFile → Nat → HistoryState → Option Nat × HistoryState
  | [], totalBytes, state =>
    let state := { state with currentBytes := totalBytes }
    if store.maxDiskBytes < satAdd totalBytes incomingBytes then (none, state)
    else (some (satAdd totalBytes incomingBytes), state)
  | file :: rest, totalBytes, state =>
    if currentDay ≤ file.day then evict currentDay incomingBytes fails rest totalBytes state
    else if satAdd totalBytes incomingBytes ≤ store.maxDiskBytes then
      (some (satAdd totalBytes incomingBytes), state)
    else if fails file.path then
      (none, { state with
        pruneFailuresTotal := state.pruneFailuresTotal + 1
        currentBytes := totalBytes })
    else
      evict currentDay incomingBytes fails rest (totalBytes - file.size)
        { state with files := state.files.erase file.path }

/-- `none` if the directory cannot be listed. -/
def ensureDiskBudget (recordedAtUnixMs : Int) (incomingBytes : Nat) (faults : Faults)
    (state : HistoryState) : Option (Option Nat × HistoryState) :=
  if incomingBytes = 0 then some (some state.currentBytes, state)
  else if store.maxDiskBytes < incomingBytes then some (none, state)
  else if faults.budgetListing then none
  else
    let files := historyFilesWithSizesInDir state.files
    let totalBytes := (files.map HistoryFile.size).sum
    let state := { state with currentBytes := totalBytes }
    if satAdd totalBytes incomingBytes ≤ store.maxDiskBytes then
      some (some (satAdd totalBytes incomingBytes), state)
    else
      some (store.evict (dayBucket recordedAtUnixMs) incomingBytes faults.budgetRemoval
        (sortHistoryFiles files) totalBytes state)

/-- Open the day file, append the payload and flush. An interrupted write lacks at least the
    last byte. -/
def writePayload (path : String) (payload : Bytes) (projectedTotalBytes : Nat) (faults : Faults)
    (state : HistoryState) : RecordOutcome × HistoryState :=
  if state.files.lookup path = some .other then (.failed, state.recordFailure faults)
  else
    match faults.write with
    | .openFailed created =>
      let files := if created then appendFile state.files path [] else state.files
      (.failed, { state with files }.recordFailure faults)
    | .stopped written =>
      let files := appendFile state.files path (payload.dropLast.take written)
      (.failed, { state with files }.recordFailure faults)
    | .complete =>
      (.appended, { state with
        files := appendFile state.files path payload
        currentBytes := projectedTotalBytes
        writtenBytesTotal := state.writtenBytesTotal + payload.length })

def samples (call : RecordCall) : List HistorySample :=
  (call.sessions.filter fun summary => summary.kind = .instrumented).map fun summary =>
    historySample store.observer call.recordedAtUnixMs summary

/-- What a call does before it opens the day file: prune the old files and make room. -/
def makeRoom (payloadBytes : Nat) (call : RecordCall) (state : HistoryState) :
    RoomDecision × HistoryState :=
  if call.faults.createDir then (.failed, state)
  else
    match store.pruneOldFiles call.recordedAtUnixMs call.faults state with
    | none => (.failed, state)
    | some state =>
      match store.ensureDiskBudget call.recordedAtUnixMs payloadBytes call.faults state with
      | none => (.failed, state)
      | some (none, state) => (.refused, state)
      | some (some projectedTotalBytes, state) => (.granted projectedTotalBytes, state)

def recordSummaries (codec : HistoryCodec) (call : RecordCall) (state : HistoryState) :
    RecordOutcome × HistoryState :=
  let samples := store.samples call
  if samples = [] then
    match store.pruneOldFiles call.recordedAtUnixMs call.faults state with
    | some state => (.idle, state)
    | none => (.failed, state.recordFailure call.faults)
  else
    let payload := encodeHistoryPayload codec samples
    match store.makeRoom payload.length call state with
    | (.failed, state) => (.failed, state.recordFailure call.faults)
    | (.refused, state) =>
      (.refused, { state with
        droppedSamplesTotal := state.droppedSamplesTotal + samples.length })
    | (.granted projectedTotalBytes, state) =>
      writePayload (filePathFor call.recordedAtUnixMs) payload projectedTotalBytes call.faults state

end HistoryStore

end Moshwatch
