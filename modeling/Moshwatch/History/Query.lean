import Moshwatch.Core.Sanitize
import Moshwatch.General.Buckets
import Moshwatch.General.Framing
import Moshwatch.History.Budget

namespace Moshwatch

def maxHistoryLineBytes : Nat := 64 * 1024

/-- How a buffered reader hands out the bytes of a file. -/
structure Buffering where
  split : Bytes → List Bytes
  whole : ∀ bytes, (split bytes).flatten = bytes
  nonempty : ∀ bytes, ∀ chunk ∈ split bytes, chunk ≠ []

/-- The outcomes of `read_bounded_line` up to the end of a file. -/
def historyLines (buffering : Buffering) (content : Bytes) : List (Framing.Outcome UInt8) :=
  Framing.readAll 10 maxHistoryLineBytes (content.length + 1) (buffering.split content)

def stripLineEnd (line : Bytes) : Bytes := line.rdropWhile fun byte => byte = 10 || byte = 13

def lineSample (codec : HistoryCodec) (line : Bytes) : Option HistorySample :=
  let line := stripLineEnd line
  if line = [] then none else (codec.decode line).bind sanitizeHistorySample

def sampleMatches (sessionId : String) (sinceUnixMs : Int) (sample : HistorySample) : Bool :=
  sample.sessionId = sessionId && sinceUnixMs ≤ sample.recordedAtUnixMs

/-- The body of the loop over the lines of a file. -/
def outcomeMatch (codec : HistoryCodec) (sessionId : String) (sinceUnixMs : Int) :
    Framing.Outcome UInt8 → Option HistorySample
  | .eof => none
  | .oversized _ => none
  | .frame line => (lineSample codec line).filter (sampleMatches sessionId sinceUnixMs)

def fileMatches (codec : HistoryCodec) (buffering : Buffering) (sessionId : String)
    (sinceUnixMs : Int) (content : Bytes) : List HistorySample :=
  (historyLines buffering content).filterMap (outcomeMatch codec sessionId sinceUnixMs)

def historyFilesFrom (files : HistoryDir) (sinceUnixMs : Int) : List String :=
  let minDay := dayBucket sinceUnixMs
  (HistoryStore.sortHistoryFiles
    ((historyFilesWithSizesInDir files).filter fun file => minDay ≤ file.day)).map HistoryFile.path

def openHistoryFileForRead (files : HistoryDir) (path : String) : Option Bytes :=
  match files.lookup path with
  | some (.file content) => some content
  | _ => none

namespace HistoryStore

variable (store : HistoryStore) (codec : HistoryCodec) (buffering : Buffering)

/-- What `query_session` does with the files it has listed; `none` if one cannot be opened. -/
def queryFiles (openFile : String → Option Bytes) (paths : List String) (sessionId : String)
    (sinceUnixMs : Int) (limit : Nat) : Option (List HistorySample) :=
  let limit := min limit store.maxQuerySamples
  if limit = 0 then some []
  else
    (Buckets.scan limit
      (fun path => (openFile path).map (fileMatches codec buffering sessionId sinceUnixMs))
      paths.reverse []).map List.reverse

def querySession (files : HistoryDir) (sessionId : String) (sinceUnixMs : Int) (limit : Nat) :
    Option (List HistorySample) :=
  store.queryFiles codec buffering (openHistoryFileForRead files)
    (historyFilesFrom files sinceUnixMs) sessionId sinceUnixMs limit

end HistoryStore

def matchesIn (codec : HistoryCodec) (buffering : Buffering) (files : HistoryDir)
    (sessionId : String) (sinceUnixMs : Int) (paths : List String) : List HistorySample :=
  paths.flatMap fun path =>
    fileMatches codec buffering sessionId sinceUnixMs (fileContent files path)

theorem historyLines_eq (buffering : Buffering) (content : Bytes) :
    historyLines buffering content =
      (Framing.lines 10 content).map (Framing.bound maxHistoryLineBytes) := by
  rw [historyLines, Framing.readAll_eq _ _ (buffering.nonempty content), buffering.whole]
  rw [buffering.whole]
  exact Nat.lt_succ_self _

theorem fileMatches_eq (codec : HistoryCodec) (buffering : Buffering) (sessionId : String)
    (sinceUnixMs : Int) (content : Bytes) :
    fileMatches codec buffering sessionId sinceUnixMs content =
      (Framing.lines 10 content).filterMap fun line =>
        outcomeMatch codec sessionId sinceUnixMs (Framing.bound maxHistoryLineBytes line) := by
  rw [fileMatches, historyLines_eq, List.filterMap_map]
  rfl

theorem mem_historyFilesFrom {files : HistoryDir} {sinceUnixMs : Int} {path : String} :
    path ∈ historyFilesFrom files sinceUnixMs ↔
      ∃ day content, fileDayBucket path = some day ∧ dayBucket sinceUnixMs ≤ day ∧
        files.lookup path = some (.file content) := by
  unfold historyFilesFrom HistoryStore.sortHistoryFiles
  simp only [List.mem_map, List.mem_mergeSort, List.mem_filter, mem_historyFiles,
    decide_eq_true_eq]
  constructor
  · rintro ⟨file, ⟨listed, recent⟩, rfl⟩
    obtain ⟨content, found, -⟩ := listed.content
    exact ⟨file.day, content, listed.day, recent, found⟩
  · rintro ⟨day, content, named, recent, found⟩
    exact ⟨⟨day, path, content.length⟩, ⟨⟨named, content, found, rfl⟩, recent⟩, rfl⟩

theorem openHistoryFileForRead_eq {files : HistoryDir} {path : String} {content : Bytes}
    (found : files.lookup path = some (.file content)) :
    openHistoryFileForRead files path = some (fileContent files path) := by
  rw [openHistoryFileForRead, fileContent, found]

/-- The scan from the newest file, which stops early, finds the last of all matches. -/
theorem querySession_eq (store : HistoryStore) (codec : HistoryCodec) (buffering : Buffering)
    (files : HistoryDir) (sessionId : String) (sinceUnixMs : Int) (limit : Nat) :
    store.querySession codec buffering files sessionId sinceUnixMs limit =
      some ((matchesIn codec buffering files sessionId sinceUnixMs
        (historyFilesFrom files sinceUnixMs)).rtake (min limit store.maxQuerySamples)) := by
  unfold HistoryStore.querySession HistoryStore.queryFiles
  by_cases none : min limit store.maxQuerySamples = 0
  · simp [none]
  · simp only [none, if_false]
    refine Buckets.scan_reverse ?_
    intro path member
    obtain ⟨day, content, -, -, found⟩ := mem_historyFilesFrom.mp member
    rw [openHistoryFileForRead_eq found, Option.map_some]

end Moshwatch
