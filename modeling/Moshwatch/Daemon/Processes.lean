import Moshwatch.Core.Sanitize
import Moshwatch.Daemon.Telemetry

namespace Moshwatch

/-- The components of an absolute path. -/
abbrev ExePath := List String

namespace ExePath

def fileName (path : ExePath) : Option String := path.getLast?.filter fun name => name ≠ ".."

def parent (path : ExePath) : Option ExePath := if path = [] then none else some path.dropLast

/-- `Path::with_file_name` on a path that has one. -/
def withFileName (path : ExePath) (name : String) : ExePath :=
  path.dropLast ++ if name = "" || name = "." then [] else [name]

end ExePath

/-- A process as `/proc/<pid>` shows it: the start time that `read_started_at_unix_ms` computes,
    the target of the `exe` link and what `read_cmdline` returns. -/
structure Process where
  startedAtUnixMs : Int
  exe : ExePath
  cmdline : String
  deriving DecidableEq

structure ProcessTable where
  entry : Int → Option Process
  members : Int → List (Int × Process)
  positive : ∀ pid process, entry pid = some process → 0 < pid

def ProcessTable.targets (table : ProcessTable) (pid : Int) : List (Int × Process) :=
  if 0 < pid then (table.entry pid).toList.map fun process => (pid, process)
  else table.members pid

inductive KillResult where
  | delivered (receivers : List (Int × Process))
  | noSuchProcess
  | failed

/-- `kill(2)` with `SIGTERM`. It fails with `ESRCH` if the pid names no process, else only if it is
    `denied`. -/
def ProcessTable.kill (table : ProcessTable) (pid : Int) (denied : Bool) : KillResult :=
  match table.targets pid with
  | [] => .noSuchProcess
  | receivers => if denied then .failed else .delivered receivers

structure ProcessMetadata where
  startedAtUnixMs : Int
  cmdline : String
  exeName : String
  exePath : ExePath

def deletedSuffix : List Char := [' ', '(', 'd', 'e', 'l', 'e', 't', 'e', 'd', ')']

/-- The `exe` link of a replaced binary ends in ` (deleted)`. -/
def normalizeProcExePath (path : ExePath) : ExePath :=
  match path.fileName with
  | none => path
  | some fileName =>
    if deletedSuffix <:+ fileName.toList then
      path.withFileName (String.ofList (fileName.toList.rdrop deletedSuffix.length))
    else path

def expectedInstrumentedServerPath (currentExe : Option ExePath) : Option ExePath := do
  let binDir ← (← currentExe).parent
  return binDir ++ ["mosh-server-real"]

def isNixStoreMoshServerPath : ExePath → Bool
  | [nix, store, _, bin, moshServer] =>
    nix = "nix" && store = "store" && bin = "bin" && moshServer = "mosh-server"
  | _ => false

def isSupportedStockMoshServerPath (exePath : ExePath) : Bool :=
  exePath = ["usr", "bin", "mosh-server"] || exePath = ["usr", "local", "bin", "mosh-server"] ||
    exePath = ["bin", "mosh-server"] || isNixStoreMoshServerPath exePath

def isSupportedMoshServerPath (currentExe : Option ExePath) (exePath : ExePath) : Bool :=
  match exePath.fileName with
  | none => false
  | some exeName =>
    if !isSupportedMoshServerExe exeName then false
    else if exeName = "mosh-server-real" then
      expectedInstrumentedServerPath currentExe = some exePath
    else if exeName = "mosh-server" then isSupportedStockMoshServerPath exePath
    else false

def isSupportedMoshServerMetadata (currentExe : Option ExePath) (metadata : ProcessMetadata) :
    Bool := isSupportedMoshServerPath currentExe metadata.exePath

def Process.IsMoshServer (process : Process) (currentExe : Option ExePath) : Prop :=
  isSupportedMoshServerPath currentExe (normalizeProcExePath process.exe) = true

namespace ProcessTable

variable {table : ProcessTable} {pid : Int} {process : Process}

theorem targets_of_entry (found : table.entry pid = some process) :
    table.targets pid = [(pid, process)] := by
  rw [targets, if_pos (table.positive pid process found), found]
  rfl

theorem targets_of_vacant (placed : 0 < pid) (vacant : table.entry pid = none) :
    table.targets pid = [] := by
  rw [targets, if_pos placed, vacant]
  rfl

theorem kill_cases (placed : 0 < pid) (denied : Bool) :
    (table.entry pid = none ∧ table.kill pid denied = .noSuchProcess) ∨
    ∃ process, table.entry pid = some process ∧
      ((denied = true ∧ table.kill pid denied = .failed) ∨
        (denied = false ∧ table.kill pid denied = .delivered [(pid, process)])) := by
  cases found : table.entry pid with
  | none => exact .inl ⟨rfl, by simp only [kill, targets_of_vacant placed found]⟩
  | some process =>
    refine .inr ⟨process, rfl, ?_⟩
    cases denied with
    | true => exact .inl ⟨rfl, by simp [kill, targets_of_entry found]⟩
    | false => exact .inr ⟨rfl, by simp [kill, targets_of_entry found]⟩

end ProcessTable

end Moshwatch
