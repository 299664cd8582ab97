import Moshwatch.Daemon.Endpoint
import Moshwatch.Daemon.Processes
import Moshwatch.General.Utf8
import Moshwatch.History.Directory
import Moshwatch.State.Registry
import Moshwatch.Ui.StartTime

namespace Moshwatch

inductive FileRead (α : Type) where
  | unopened
  | unread
  | contents (bytes : α)

/-- What the reads of `/proc/<pid>` give, `none` for one that fails. Nothing ties one read to
    another: between them the process can end and its pid be used again. -/
structure ProcDir where
  exe : Option ExePath
  stat : Option (List Char)
  cmdline : FileRead (List UInt8)
  comm : Option (List Char)
  /-- The targets of the links, `none` for one that is not read. -/
  fds : Option (List (Option (List UInt8)))

structure ProcFs where
  /-- The names under `/proc`, `none` for one that is not read or is no text. -/
  entries : Option (List (Option String))
  dir : Int32 → ProcDir
  stat : Option (List Char)
  netUdp : Option (List Char)
  netUdp6 : Option (List Char)
  /-- `sysconf(_SC_CLK_TCK)`. -/
  clockTicks : Int

structure UdpSocketInfo where
  bindAddr : String
  udpPort : UInt16
  deriving DecidableEq

abbrev UdpSockets := KeyedStore Nat UdpSocketInfo

def maxCmdlineBytes : Nat := 8 * 1024

def procPath (pid : Int32) (name : String) : String := "/proc/" ++ toString pid.toInt ++ "/" ++ name

def socketPrefix : List Char := ['s', 'o', 'c', 'k', 'e', 't', ':', '[']

def socketInodeFromFdTarget (target : List Char) : Option Nat := do
  let rest ← stripPrefix socketPrefix target
  parseU64 (← stripSuffixChar rest ']')

section Display

-- `Display` of `Ipv6Addr`.
variable (display : Ipv6Addr → String)

/-- One round of the inner loop of `load_udp_sockets`. -/
def addUdpSocket (sockets : UdpSockets) (line : List Char) :
    Except (Failure String) UdpSockets :=
  let parts := splitWhitespace line
  if short : parts.length < 10 then .ok sockets
  else
    have long : 10 ≤ parts.length := Nat.le_of_not_lt short
    match parseU64 parts[9] with
    | none => .ok sockets
    | some inode =>
      match parseLocalEndpoint display parts[1] with
      | .error .panic => .error .panic
      | .error (.error _) => .ok sockets
      | .ok (bindAddr, udpPort) => .ok (sockets.insert inode { bindAddr, udpPort })

def addUdpSockets (sockets : UdpSockets) (raw : List Char) : Except (Failure String) UdpSockets :=
  ((strLines raw).drop 1).foldlM (addUdpSocket display) sockets

def ProcFs.loadUdpSockets (fs : ProcFs) : Except (Failure String) UdpSockets := do
  let sockets ← addUdpSockets display ∅ (← context "read /proc/net/udp" fs.netUdp)
  addUdpSockets display sockets (← context "read /proc/net/udp6" fs.netUdp6)

end Display

namespace ProcFs

variable (fs : ProcFs)

def readBootTimeSeconds : Except (Failure String) Int := do
  let raw ← context "read /proc/stat" fs.stat
  match (strLines raw).findSome? (stripPrefix "btime ".toList) with
  | some value => context "parse btime from /proc/stat" (parseI64 (trimChars value))
  | none => throw (.error "missing btime in /proc/stat")

def readClockTicksPerSecond : Except (Failure String) Nat :=
  if fs.clockTicks ≤ 0 then .error (.error "sysconf(_SC_CLK_TCK) failed")
  else .ok fs.clockTicks.toNat

def readExePath (pid : Int32) : Except (Failure String) ExePath :=
  context ("read " ++ procPath pid "exe") ((fs.dir pid).exe.map normalizeProcExePath)

/-- The words of a command line, which end in NUL bytes, with blanks between them. -/
def joinPieces (raw : List UInt8) : List Char :=
  [' '].intercalate (((raw.splitOn 0).filter (· ≠ [])).map Utf8.lossy)

def readCmdline (pid : Int32) : Except (Failure String) String :=
  match (fs.dir pid).cmdline with
  | .unopened => .error (.error ("open " ++ procPath pid "cmdline"))
  | .unread => .error (.error ("read " ++ procPath pid "cmdline"))
  | .contents bytes =>
    let raw := bytes.take (maxCmdlineBytes + 1)
    if raw = [] then
      context ("read " ++ procPath pid "comm")
        ((fs.dir pid).comm.map fun value => String.ofList (trimChars value))
    else
      let cmdline := String.ofList (joinPieces (raw.take maxCmdlineBytes))
      .ok (if maxCmdlineBytes < raw.length then cmdline ++ " ..." else cmdline)

def readProcessSocket (pid : Int32) (sockets : UdpSockets) : Option UdpSocketInfo := do
  let entries ← (fs.dir pid).fds
  entries.reduceOption.findSome? fun target =>
    (socketInodeFromFdTarget (Utf8.lossy target)).bind sockets.lookup

section Metadata

variable (build : Build)

def readProcessMetadataWithClock (pid : Int32) (clock : ProcClock) :
    Except (Failure String) ProcessMetadata := do
  let exePath ← fs.readExePath pid
  let exeName ← context "missing executable basename" (exePath.fileName.filter fun name => name ≠ "")
  let raw ← context ("read " ++ procPath pid "stat") (fs.dir pid).stat
  let startedAtUnixMs ← readStartedAtUnixMs build raw clock.bootTimeSeconds clock.ticksPerSecond
  let cmdline := sanitizeCmdline (← fs.readCmdline pid)
  return { startedAtUnixMs, cmdline, exeName, exePath }

/-- What telemetry and the termination of a session read of a process. -/
def readProcessMetadata (pid : Int32) : Except (Failure String) ProcessMetadata := do
  let bootTimeSeconds ← fs.readBootTimeSeconds
  let ticksPerSecond ← fs.readClockTicksPerSecond
  fs.readProcessMetadataWithClock build pid { bootTimeSeconds, ticksPerSecond }

variable (currentExe : Option ExePath)

/-- One round of the loop of `discover_mosh_sessions`; `none` stands for its `continue`. -/
def discoverEntry (sockets : UdpSockets) (clock : ProcClock) (entry : Option String) :
    Except (Failure String) (Option DiscoveredSession) :=
  match entry.bind fun name => parseI32 name.toList with
  | none => .ok none
  | some pid =>
    match fs.readProcessMetadataWithClock build pid clock with
    | .error .panic => .error .panic
    | .error (.error _) => .ok none
    | .ok metadata =>
      if !isSupportedMoshServerMetadata currentExe metadata then .ok none
      else
        let socket := fs.readProcessSocket pid sockets
        .ok <| some
          { pid := pid.toInt
            startedAtUnixMs := metadata.startedAtUnixMs
            bindAddr := socket.map UdpSocketInfo.bindAddr
            udpPort := socket.map fun value => value.udpPort.toNat
            cmdline := metadata.cmdline }

def discoverMoshSessions (display : Ipv6Addr → String) :
    Except (Failure String) (List DiscoveredSession) := do
  let sockets ← fs.loadUdpSockets display
  let bootTimeSeconds ← fs.readBootTimeSeconds
  let ticksPerSecond ← fs.readClockTicksPerSecond
  let entries ← context "read /proc" fs.entries
  let rounds ← entries.mapM (fs.discoverEntry build currentExe sockets
    { bootTimeSeconds, ticksPerSecond })
  return rounds.reduceOption.mergeSort fun left right => left.pid ≤ right.pid

end Metadata

end ProcFs

/-- One tick of `spawn_discovery_loop`, which logs an error and survives a panic. -/
def ServiceState.discoveryTick (state : ServiceState)
    (found : Except (Failure String) (List DiscoveredSession)) (nowMs : Int) : ServiceState :=
  match found with
  | .ok sessions => state.refreshDiscovery sessions nowMs
  | .error _ => state

end Moshwatch
