import Moshwatch.Core.Number
import Moshwatch.General.KeyedStore

namespace Moshwatch

abbrev Bytes := List UInt8

/-- What a name in the history directory stands for: a regular file or anything else. -/
inductive DirEntry where
  | file (content : Bytes)
  | other
  deriving DecidableEq

/-- The entries of the history directory whose names are UTF-8, in the order that `read_dir`
    lists them. A directory that does not exist is one without entries. -/
abbrev HistoryDir := KeyedStore String DirEntry

structure HistoryStatsSnapshot where
  currentBytes : Nat := 0
  writtenBytesTotal : Nat := 0
  writeFailuresTotal : Nat := 0
  pruneFailuresTotal : Nat := 0
  droppedSamplesTotal : Nat := 0

def dayMs : Int := 86400000

/-- `unix_ms.div_euclid(DAY_MS)`. -/
def dayBucket (unixMs : Int) : Int := unixMs / dayMs

def splitSign : List Char → Bool × List Char
  | '-' :: digits => (true, digits)
  | '+' :: digits => (false, digits)
  | digits => (false, digits)

/-- `str::parse::<i64>`: an optional sign, then digits only, in range. -/
def parseI64 (text : List Char) : Option Int :=
  let (negative, digits) := splitSign text
  if digits = [] || !digits.all Char.isDigit then none
  else
    let magnitude : Int := Nat.ofDigitChars 10 digits 0
    let value := if negative then -magnitude else magnitude
    if i64Min ≤ value ∧ value ≤ i64Max then some value else none

def stripPrefix (front text : List Char) : Option (List Char) :=
  if text.take front.length = front then some (text.drop front.length) else none

def stripSuffix (text back : List Char) : Option (List Char) :=
  if text.drop (text.length - back.length) = back then some (text.take (text.length - back.length))
  else none

def fileDayBucket (name : String) : Option Int := do
  let rest ← stripPrefix "day-".toList name.toList
  let day ← stripSuffix rest ".jsonl".toList
  parseI64 day

def filePathFor (recordedAtUnixMs : Int) : String :=
  "day-" ++ toString (dayBucket recordedAtUnixMs) ++ ".jsonl"

structure HistoryFile where
  day : Int
  path : String
  size : Nat
  deriving DecidableEq

def historyFile (path : String) : DirEntry → Option HistoryFile
  | .file content => (fileDayBucket path).map fun day => { day, path, size := content.length }
  | .other => none

def historyFilesWithSizesInDir (dir : HistoryDir) : List HistoryFile :=
  dir.entries.filterMap fun entry => historyFile entry.1 entry.2

/-- The sizes of files fit a `u64`, and so does their sum. -/
def historyDirBytes (dir : HistoryDir) : Nat :=
  ((historyFilesWithSizesInDir dir).map HistoryFile.size).sum

theorem toDigits_all (magnitude : Nat) :
    (Nat.toDigits 10 magnitude).all Char.isDigit = true := by
  rw [List.all_eq_true]
  intro ch member
  exact Nat.isDigit_of_mem_toDigits (by decide) (by decide) member

theorem splitSign_toDigits (magnitude : Nat) :
    splitSign (Nat.toDigits 10 magnitude) = (false, Nat.toDigits 10 magnitude) := by
  have digits := toDigits_all magnitude
  unfold splitSign
  split
  · rename_i rest whole
    rw [whole] at digits
    simp at digits
  · rename_i rest whole
    rw [whole] at digits
    simp at digits
  · rfl

theorem parseI64_of_splitSign {text : List Char} {negative : Bool} {magnitude : Nat}
    (sign : splitSign text = (negative, Nat.toDigits 10 magnitude))
    (lower : i64Min ≤ if negative then -(magnitude : Int) else magnitude)
    (upper : (if negative then -(magnitude : Int) else magnitude) ≤ i64Max) :
    parseI64 text = some (if negative then -(magnitude : Int) else magnitude) := by
  have nonempty : Nat.toDigits 10 magnitude ≠ [] := Nat.toDigits_ne_nil
  simp only [parseI64, sign, toDigits_all, nonempty, decide_false, Bool.not_true, Bool.or_self,
    Bool.false_eq_true, if_false, Nat.ofDigitChars_ten_toDigits]
  exact if_pos ⟨lower, upper⟩

theorem parseI64_toString {value : Int} (lower : i64Min ≤ value) (upper : value ≤ i64Max) :
    parseI64 (toString value).toList = some value := by
  cases value with
  | ofNat magnitude =>
    have text : (toString (Int.ofNat magnitude)).toList = Nat.toDigits 10 magnitude :=
      Nat.toList_repr
    rw [text]
    exact parseI64_of_splitSign (splitSign_toDigits magnitude) lower upper
  | negSucc magnitude =>
    have text : (toString (Int.negSucc magnitude)).toList =
        '-' :: Nat.toDigits 10 (magnitude + 1) := by
      change ("-" ++ Nat.repr (magnitude + 1)).toList = _
      rw [String.toList_append, Nat.toList_repr]
      rfl
    have sign : splitSign ('-' :: Nat.toDigits 10 (magnitude + 1)) =
        (true, Nat.toDigits 10 (magnitude + 1)) := rfl
    have value : Int.negSucc magnitude = if true then -((magnitude + 1 : Nat) : Int)
        else ((magnitude + 1 : Nat) : Int) := by
      rw [if_pos rfl, Int.negSucc_eq]
      rfl
    rw [text]
    rw [value] at lower upper ⊢
    exact parseI64_of_splitSign sign lower upper

theorem stripPrefix_append (front text : List Char) :
    stripPrefix front (front ++ text) = some text := by
  simp [stripPrefix]

theorem stripSuffix_append (text back : List Char) :
    stripSuffix (text ++ back) back = some text := by
  simp [stripSuffix]

theorem fileDayBucket_filePathFor {recordedAtUnixMs : Int} (lower : i64Min ≤ recordedAtUnixMs)
    (upper : recordedAtUnixMs ≤ i64Max) :
    fileDayBucket (filePathFor recordedAtUnixMs) = some (dayBucket recordedAtUnixMs) := by
  have text : (filePathFor recordedAtUnixMs).toList =
      "day-".toList ++ ((toString (dayBucket recordedAtUnixMs)).toList ++ ".jsonl".toList) := by
    rw [filePathFor, String.toList_append, String.toList_append, List.append_assoc]
  rw [fileDayBucket, text, stripPrefix_append]
  simp only [Option.bind_eq_bind, Option.bind_some, stripSuffix_append]
  apply parseI64_toString
  · unfold dayBucket dayMs i64Min at *
    omega
  · unfold dayBucket dayMs i64Max at *
    omega

theorem filePathFor_eq_of_day {first second : Int} (same : dayBucket first = dayBucket second) :
    filePathFor first = filePathFor second := by
  rw [filePathFor, filePathFor, same]

end Moshwatch
