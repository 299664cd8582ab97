import Moshwatch.Core.Parse
import Moshwatch.Daemon.PeerCheck
import Moshwatch.Ui.CurrentSession

namespace Moshwatch

/-- A debug build panics where an integer overflows, a release build wraps. -/
inductive Build where
  | debug
  | release
  deriving DecidableEq, Repr

def Build.i64 : Build → Int → Option Int
  | .debug => checkedI64
  | .release => wrappedI64

def Build.u64 : Build → Nat → Option Nat
  | .debug, value => if value ≤ u64Max then some value else none
  | .release, value => some (value % 2 ^ 64)

def panicking {ε α : Type} : Option α → Except (Failure ε) α
  | some value => .ok value
  | none => .error .panic

def context {α : Type} (reason : String) : Option α → Except (Failure String) α
  | some value => .ok value
  | none => .error (.error reason)

/-- `boot_time_seconds * 1000 + (start_ticks * 1000 / ticks_per_second) as i64`. -/
def startedAtUnixMs (build : Build) (bootTimeSeconds : Int) (startTicks ticksPerSecond : Nat) :
    Except (Failure String) Int := do
  let boot ← panicking (build.i64 (bootTimeSeconds * 1000))
  let scaled ← panicking (build.u64 (startTicks * 1000))
  let uptime ← panicking (if ticksPerSecond = 0 then none else some (scaled / ticksPerSecond))
  panicking (build.i64 (boot + asI64 uptime))

/-- `read_started_at_unix_ms` of the daemon, on the text of `/proc/<pid>/stat`. -/
def readStartedAtUnixMs (build : Build) (raw : List Char) (bootTimeSeconds : Int)
    (ticksPerSecond : Nat) : Except (Failure String) Int := do
  let last ← context "missing comm terminator" (rfind raw ')')
  let rest ← panicking (sliceFrom raw (last + 2))
  let fields := splitWhitespace rest
  let startTicks ← context "missing starttime field" fields[19]?
  let startTicks ← context "parse process starttime" (parseU64 startTicks)
  startedAtUnixMs build bootTimeSeconds startTicks ticksPerSecond

def parseI32 (text : List Char) : Option Int32 := do
  let value ← parseI64 text
  if -2 ^ 31 ≤ value ∧ value < 2 ^ 31 then some (Int32.ofInt value) else none

structure ProcClock where
  bootTimeSeconds : Int
  ticksPerSecond : Nat

/-- `read_process_identity` of the UI. -/
def readProcessIdentity (build : Build) (pid : Int32) (raw : List Char) (clock : ProcClock) :
    Except (Failure String) ProcessIdentity := do
  let last ← context "missing comm terminator in /proc stat" (rfind raw ')')
  let rest ← panicking (sliceFrom raw (last + 2))
  let fields := splitWhitespace rest
  let parentPid ← context "missing ppid field" fields[1]?
  let parentPid ← context "parse parent pid" (parseI32 parentPid)
  let startTicks ← context "missing starttime field" fields[19]?
  let startTicks ← context "parse process starttime" (parseU64 startTicks)
  let startedAtUnixMs ←
    startedAtUnixMs build clock.bootTimeSeconds startTicks clock.ticksPerSecond
  return { pid, parentPid, startedAtUnixMs }

/-- A field that the kernel prints after `comm`: no blanks and no parenthesis in it. -/
def IsStatField (field : List Char) : Prop :=
  field ≠ [] ∧ ∀ ch ∈ field, isWhitespace ch = false ∧ ch ≠ ')'

/-- The contents of `/proc/<pid>/stat`, with any text as `comm`. -/
structure StatLine where
  pid : Nat
  comm : List Char
  state : List Char
  parentPid : Int32
  /-- Fields 5 to 21. -/
  middle : List (List Char)
  startTicks : Nat
  /-- The fields from 23 on. -/
  rest : List (List Char)
  middle_length : middle.length = 17
  startTicks_u64 : startTicks ≤ u64Max
  state_field : IsStatField state
  middle_fields : ∀ field ∈ middle, IsStatField field
  rest_fields : ∀ field ∈ rest, IsStatField field

namespace StatLine

def fields (line : StatLine) : List (List Char) :=
  line.state :: (toString line.parentPid.toInt).toList ::
    (line.middle ++ Nat.toDigits 10 line.startTicks :: line.rest)

def text (line : StatLine) : List Char :=
  Nat.toDigits 10 line.pid ++ ' ' :: '(' :: line.comm ++
    ')' :: (line.fields.flatMap (' ' :: ·) ++ ['\n'])

end StatLine

section Fields

theorem isStatField_of_digits {field : List Char} (decimal : field.all Char.isDigit = true)
    (nonempty : field ≠ []) : IsStatField field := by
  refine ⟨nonempty, ?_⟩
  intro ch member
  have digit := List.all_eq_true.mp decimal ch member
  simp only [Char.isDigit, Bool.and_eq_true, decide_eq_true_eq, UInt32.le_iff_toNat_le] at digit
  have lower : 48 ≤ ch.toNat := digit.1
  have upper : ch.toNat ≤ 57 := digit.2
  constructor
  · simp [isWhitespace]
    omega
  · rintro rfl
    contradiction

theorem isStatField_toDigits (value : Nat) : IsStatField (Nat.toDigits 10 value) :=
  isStatField_of_digits (toDigits_all value) Nat.toDigits_ne_nil

theorem isStatField_toString (value : Int) : IsStatField (toString value).toList := by
  cases value with
  | ofNat magnitude =>
    have text : (toString (Int.ofNat magnitude)).toList = Nat.toDigits 10 magnitude :=
      Nat.toList_repr
    rw [text]
    exact isStatField_toDigits magnitude
  | negSucc magnitude =>
    have text : (toString (Int.negSucc magnitude)).toList =
        '-' :: Nat.toDigits 10 (magnitude + 1) := by
      change ("-" ++ Nat.repr (magnitude + 1)).toList = _
      rw [String.toList_append, Nat.toList_repr]
      rfl
    rw [text]
    obtain ⟨-, digits⟩ := isStatField_toDigits (magnitude + 1)
    refine ⟨by simp, ?_⟩
    intro ch member
    rcases List.mem_cons.mp member with rfl | member
    · decide
    · exact digits ch member

variable (line : StatLine)

theorem StatLine.fields_isStatField : ∀ field ∈ line.fields, IsStatField field := by
  intro field member
  simp only [fields, List.mem_cons, List.mem_append] at member
  rcases member with rfl | rfl | member | rfl | member
  · exact line.state_field
  · exact isStatField_toString _
  · exact line.middle_fields field member
  · exact isStatField_toDigits _
  · exact line.rest_fields field member

theorem splitWhitespace_fields (first : List Char) (rest : List (List Char))
    (fields : ∀ field ∈ first :: rest, IsStatField field) :
    splitWhitespace (first ++ (rest.flatMap (' ' :: ·) ++ ['\n'])) = first :: rest := by
  induction rest generalizing first with
  | nil =>
    obtain ⟨nonempty, visible⟩ := fields first (by simp)
    have blankless := fun ch member => (visible ch member).1
    rw [List.flatMap_nil, List.nil_append,
      splitWhitespace_word blankless nonempty (by decide), splitWhitespace_nil]
  | cons second rest ih =>
    obtain ⟨nonempty, visible⟩ := fields first (by simp)
    have blankless := fun ch member => (visible ch member).1
    have later := ih second fun field member => fields field (List.mem_cons_of_mem _ member)
    rw [List.flatMap_cons, List.append_assoc, List.cons_append,
      splitWhitespace_word blankless nonempty (by decide), later]

theorem not_mem_flatMap_fields {fields : List (List Char)}
    (printed : ∀ field ∈ fields, IsStatField field) :
    ')' ∉ fields.flatMap (' ' :: ·) ++ ['\n'] := by
  intro member
  simp only [List.mem_append, List.mem_flatMap, List.mem_cons] at member
  rcases member with ⟨field, listed, blank | inside⟩ | newline
  · contradiction
  · exact ((printed field listed).2 _ inside).2 rfl
  · simp at newline

/-- The last parenthesis ends `comm`, whatever `comm` holds. -/
theorem StatLine.rfind_text :
    rfind line.text ')' =
      some (byteLen (Nat.toDigits 10 line.pid ++ ' ' :: '(' :: line.comm)) :=
  rfind_of_not_mem _ (not_mem_flatMap_fields line.fields_isStatField)

theorem StatLine.sliceFrom_text :
    sliceFrom line.text
        (byteLen (Nat.toDigits 10 line.pid ++ ' ' :: '(' :: line.comm) + 2) =
      some (line.state ++ (line.fields.tail.flatMap (' ' :: ·) ++ ['\n'])) := by
  have front : byteLen (Nat.toDigits 10 line.pid ++ ' ' :: '(' :: line.comm) + 2 =
      byteLen (Nat.toDigits 10 line.pid ++ ' ' :: '(' :: line.comm ++ [')', ' ']) := by
    rw [byteLen_append _ [')', ' ']]
    rfl
  have text : line.text = (Nat.toDigits 10 line.pid ++ ' ' :: '(' :: line.comm ++ [')', ' ']) ++
      (line.state ++ (line.fields.tail.flatMap (' ' :: ·) ++ ['\n'])) := by
    simp [StatLine.text, StatLine.fields]
  rw [front, text, sliceFrom_append]

theorem StatLine.splitWhitespace_text :
    splitWhitespace (line.state ++ (line.fields.tail.flatMap (' ' :: ·) ++ ['\n'])) =
      line.fields :=
  splitWhitespace_fields line.state line.fields.tail line.fields_isStatField

theorem StatLine.fields_parent : line.fields[1]? = some (toString line.parentPid.toInt).toList := rfl

theorem StatLine.fields_start : line.fields[19]? = some (Nat.toDigits 10 line.startTicks) := by
  have index : 17 = line.middle.length := line.middle_length.symm
  simp only [fields, List.getElem?_cons_succ]
  rw [index, List.getElem?_append_right le_rfl, Nat.sub_self, List.getElem?_cons_zero]

end Fields

theorem parseI32_toString (pid : Int32) : parseI32 (toString pid.toInt).toList = some pid := by
  have lower := pid.le_toInt
  have upper := pid.toInt_lt
  have read : parseI64 (toString pid.toInt).toList = some pid.toInt := by
    apply parseI64_toString
    · unfold i64Min
      omega
    · unfold i64Max
      omega
  simp only [parseI32, read, Option.bind_eq_bind, Option.bind_some, lower, upper, and_self, if_true,
    Int32.ofInt_toInt]

/-- The products fit, and where a build checks the sum, so does the sum. -/
structure ClockFits (build : Build) (startTicks : Nat) (clock : ProcClock) : Prop where
  ticks_pos : 0 < clock.ticksPerSecond
  boot : InI64 (clock.bootTimeSeconds * 1000)
  ticks : startTicks * 1000 ≤ u64Max
  sum : build = .debug →
    InI64 (clock.bootTimeSeconds * 1000 + asI64 (startTicks * 1000 / clock.ticksPerSecond))

theorem ClockFits.startedAtUnixMs_eq {build : Build} {startTicks : Nat} {clock : ProcClock}
    (fits : ClockFits build startTicks clock) :
    startedAtUnixMs build clock.bootTimeSeconds startTicks clock.ticksPerSecond =
      .ok (wrapI64 (clock.bootTimeSeconds * 1000 +
        asI64 (startTicks * 1000 / clock.ticksPerSecond))) := by
  have positive : clock.ticksPerSecond ≠ 0 := fits.ticks_pos.ne'
  cases build with
  | debug =>
    have sum := fits.sum rfl
    simp only [startedAtUnixMs, Build.i64, Build.u64, checkedI64, fits.boot, fits.ticks, sum,
      if_true, if_neg positive, panicking, bind, Except.bind, wrapI64_of_in sum]
  | release =>
    have scaled : startTicks * 1000 % 2 ^ 64 = startTicks * 1000 := by
      have bound := fits.ticks
      unfold u64Max at bound
      omega
    simp only [startedAtUnixMs, Build.i64, Build.u64, wrappedI64, wrapI64_of_in fits.boot, scaled,
      if_neg positive, panicking, bind, Except.bind]

theorem StatLine.readStartedAtUnixMs_eq (line : StatLine) (build : Build) (bootTimeSeconds : Int)
    (ticksPerSecond : Nat) :
    readStartedAtUnixMs build line.text bootTimeSeconds ticksPerSecond =
      startedAtUnixMs build bootTimeSeconds line.startTicks ticksPerSecond := by
  have start : parseU64 (Nat.toDigits 10 line.startTicks) = some line.startTicks :=
    fromStrRadix_toDigits line.startTicks_u64
  simp only [readStartedAtUnixMs, line.rfind_text, context, panicking, bind, Except.bind,
    line.sliceFrom_text, line.splitWhitespace_text, line.fields_start, start]

theorem StatLine.readProcessIdentity_eq (line : StatLine) (build : Build) (pid : Int32)
    (clock : ProcClock) :
    readProcessIdentity build pid line.text clock =
      (startedAtUnixMs build clock.bootTimeSeconds line.startTicks clock.ticksPerSecond).map
        fun startedAtUnixMs => ⟨pid, line.parentPid, startedAtUnixMs⟩ := by
  have start : parseU64 (Nat.toDigits 10 line.startTicks) = some line.startTicks :=
    fromStrRadix_toDigits line.startTicks_u64
  simp only [readProcessIdentity, line.rfind_text, context, panicking, bind, Except.bind,
    line.sliceFrom_text, line.splitWhitespace_text, line.fields_parent, line.fields_start, start,
    parseI32_toString]
  rfl

/-- The daemon and the UI read the same start time from a line of the kernel, for any `comm`, so
    that the UI finds exactly the summaries that the daemon has published for the process. -/
theorem start_time_keys_agree (build : Build) (line : StatLine) (pid : Int32) (clock : ProcClock)
    (fits : ClockFits build line.startTicks clock) :
    ∃ identity, readProcessIdentity build pid line.text clock = .ok identity ∧
      identity.pid = pid ∧ identity.parentPid = line.parentPid ∧
      identity.startedAtUnixMs = wrapI64 (clock.bootTimeSeconds * 1000 +
        asI64 (line.startTicks * 1000 / clock.ticksPerSecond)) ∧
      readStartedAtUnixMs build line.text clock.bootTimeSeconds clock.ticksPerSecond =
        .ok identity.startedAtUnixMs ∧
      ∀ summary : SessionSummary, summary.pid = pid.toInt →
        (readStartedAtUnixMs build line.text clock.bootTimeSeconds clock.ticksPerSecond =
            .ok summary.startedAtUnixMs ↔
          CurrentSession.Matches identity.pid identity.startedAtUnixMs summary) := by
  rw [line.readProcessIdentity_eq, line.readStartedAtUnixMs_eq, fits.startedAtUnixMs_eq]
  refine ⟨_, rfl, rfl, rfl, rfl, rfl, ?_⟩
  intro summary samePid
  simp only [CurrentSession.Matches, samePid, Except.ok.injEq, true_and]
  exact eq_comm

/-- A process whose name looks like the rest of such a line. -/
def trickyLine : StatLine :=
  { pid := 7
    comm := "x) S 1 2 3".toList
    state := ['R']
    parentPid := 40
    middle := List.replicate 17 ['0']
    startTicks := 250
    rest := []
    middle_length := rfl
    startTicks_u64 := by decide
    state_field := by simp [IsStatField]; decide
    middle_fields := by
      intro field member
      cases List.eq_of_mem_replicate member
      simp [IsStatField]
      decide
    rest_fields := by simp }

theorem tricky_line_is_read :
    readProcessIdentity .debug 7 trickyLine.text ⟨1000, 100⟩ = .ok ⟨7, 40, 1002500⟩ ∧
      readStartedAtUnixMs .debug trickyLine.text 1000 100 = .ok 1002500 := by
  have fits : ClockFits .debug trickyLine.startTicks ⟨1000, 100⟩ :=
    ⟨by decide, by decide, by decide, fun _ => by decide⟩
  obtain ⟨identity, read, pid, parent, started, published, -⟩ :=
    start_time_keys_agree .debug trickyLine 7 ⟨1000, 100⟩ fits
  have time : identity.startedAtUnixMs = 1002500 := by
    rw [started]
    decide
  have same : identity = ⟨7, 40, 1002500⟩ := by
    cases identity
    simp only at pid parent time
    rw [pid, parent, time]
    rfl
  rw [read, published, time, same]
  exact ⟨rfl, rfl⟩

/-- The same process, started one second after the boot. -/
def startedAfterBoot : StatLine := { trickyLine with startTicks := 100, startTicks_u64 := by decide }

/-- Where both products fit and their sum does not, a debug build panics in both functions. -/
theorem startedAfterBoot_panics :
    InI64 (9223372036854775 * 1000) ∧ startedAfterBoot.startTicks * 1000 ≤ u64Max ∧
      readProcessIdentity .debug 7 startedAfterBoot.text ⟨9223372036854775, 100⟩ = .error .panic ∧
      readStartedAtUnixMs .debug startedAfterBoot.text 9223372036854775 100 = .error .panic := by
  have overflows : startedAtUnixMs .debug 9223372036854775 100 100 = .error .panic := by decide
  refine ⟨by decide, by decide, ?_, ?_⟩
  · rw [StatLine.readProcessIdentity_eq]
    exact congrArg _ overflows
  · rw [StatLine.readStartedAtUnixMs_eq]
    exact overflows

end Moshwatch
