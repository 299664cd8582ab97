import Moshwatch.Daemon.ProcFs
import Moshwatch.Daemon.Routing
import Moshwatch.General.Fields
import Moshwatch.State.Retention

namespace Moshwatch

abbrev IsColumn (text : List Char) : Prop := Fields.IsWord isWhitespace text

/-- A socket as its row of `/proc/net/udp` or `/proc/net/udp6` shows it. -/
structure UdpRow where
  addr : IpAddr
  port : UInt16
  inode : Nat
  slot : List Char
  /-- The columns between the local endpoint and the inode. -/
  middle : List (List Char)
  rest : List (List Char)
  /-- The blanks before the first column, how many more than one are before each of the others, and
      those at the end. -/
  lead : Nat
  padding : Nat → Nat
  trail : Nat
  middle_length : middle.length = 7
  inode_u64 : inode ≤ u64Max
  slot_column : IsColumn slot
  middle_columns : ∀ column ∈ middle, IsColumn column
  rest_columns : ∀ column ∈ rest, IsColumn column

namespace UdpRow

variable (row : UdpRow)

def columns : List (List Char) :=
  procNetEndpoint row.addr row.port :: (row.middle ++ Nat.toDigits 10 row.inode :: row.rest)

def spaced : List (List Char × List Char) :=
  row.columns.mapIdx fun index column => (List.replicate (row.padding index + 1) ' ', column)

def line : List Char :=
  Fields.print ((List.replicate row.lead ' ', row.slot) :: row.spaced) ++
    List.replicate row.trail ' '

def info (display : Ipv6Addr → String) : UdpSocketInfo := ⟨row.addr.text display, row.port⟩

theorem visible_printHex {width value : Nat} : ∀ ch ∈ printHex width value, isWhitespace ch = false := by
  have table : ∀ digit < 16, isWhitespace (hexDigit digit) = false := by decide
  intro ch member
  obtain ⟨index, -, rfl⟩ := List.mem_map.mp member
  exact table _ (Nat.mod_lt _ (by decide))

theorem isColumn_endpoint (addr : IpAddr) (port : UInt16) : IsColumn (procNetEndpoint addr port) := by
  constructor
  · simp [procNetEndpoint]
  · intro ch member
    rw [procNetEndpoint, List.mem_append, List.mem_cons] at member
    rcases member with address | rfl | digit
    · cases addr <;> simp only [procNetAddr, List.mem_append] at address
      · exact visible_printHex ch address
      · rcases address with ((word | word) | word) | word
        · exact visible_printHex ch word
        · exact visible_printHex ch word
        · exact visible_printHex ch word
        · exact visible_printHex ch word
    · decide
    · exact visible_printHex ch digit

theorem isColumn_toDigits (value : Nat) : IsColumn (Nat.toDigits 10 value) := by
  obtain ⟨nonempty, visible⟩ := isStatField_toDigits value
  exact ⟨nonempty, fun ch member => (visible ch member).1⟩

theorem columns_isColumn : ∀ column ∈ row.columns, IsColumn column := by
  intro column member
  simp only [columns, List.mem_cons, List.mem_append] at member
  rcases member with rfl | member | rfl | member
  · exact isColumn_endpoint _ _
  · exact row.middle_columns column member
  · exact isColumn_toDigits _
  · exact row.rest_columns column member

theorem mem_spaced {column : List Char × List Char} (member : column ∈ row.spaced) :
    (∃ count, column.1 = List.replicate (count + 1) ' ') ∧ column.2 ∈ row.columns := by
  obtain ⟨index, bound, rfl⟩ := List.mem_mapIdx.mp member
  exact ⟨⟨_, rfl⟩, List.getElem_mem bound⟩

theorem spaced_words : row.spaced.map Prod.snd = row.columns := by
  apply List.ext_getElem?
  intro index
  simp [spaced]

theorem blank_of_replicate {count : Nat} {ch : Char} (member : ch ∈ List.replicate count ' ') :
    isWhitespace ch = true := by
  rw [List.eq_of_mem_replicate member]
  rfl

theorem splitWhitespace_line : splitWhitespace row.line = row.slot :: row.columns := by
  have read := @Fields.words_print Char isWhitespace
    ((List.replicate row.lead ' ', row.slot) :: row.spaced) (List.replicate row.trail ' ')
  rw [List.map_cons, row.spaced_words] at read
  apply read
  · intro column member
    rcases List.mem_cons.mp member with rfl | later
    · exact row.slot_column
    · exact row.columns_isColumn _ (row.mem_spaced later).2
  · intro column member
    rcases List.mem_cons.mp member with rfl | later
    · exact fun ch inside => blank_of_replicate inside
    · obtain ⟨count, gap⟩ := (row.mem_spaced later).1
      rw [gap]
      exact fun ch inside => blank_of_replicate inside
  · intro column member
    obtain ⟨count, gap⟩ := (row.mem_spaced member).1
    rw [gap]
    exact List.cons_ne_nil _ _
  · exact fun ch inside => blank_of_replicate inside

theorem columns_inode : row.columns[8]? = some (Nat.toDigits 10 row.inode) := by
  have index : 7 = row.middle.length := row.middle_length.symm
  rw [columns, List.getElem?_cons_succ, index, List.getElem?_append_right le_rfl, Nat.sub_self,
    List.getElem?_cons_zero]

variable (display : Ipv6Addr → String)

theorem addUdpSocket_line (sockets : UdpSockets) :
    addUdpSocket display sockets row.line = .ok (sockets.insert row.inode (row.info display)) := by
  have inode : parseU64 (Nat.toDigits 10 row.inode) = some row.inode :=
    fromStrRadix_toDigits row.inode_u64
  have long : 9 < (row.slot :: row.columns).length := by
    simp [columns, row.middle_length]
    omega
  have ninth : (row.slot :: row.columns)[9] = Nat.toDigits 10 row.inode :=
    (List.getElem_eq_iff long).mpr row.columns_inode
  have first : (row.slot :: row.columns)[1] = procNetEndpoint row.addr row.port := rfl
  simp only [addUdpSocket, row.splitWhitespace_line]
  rw [dif_neg (by omega)]
  simp only [ninth, inode, first, parseLocalEndpoint_procNet]
  rfl

theorem line_plain : '\n' ∉ row.line ∧ '\r' ∉ row.line := by
  have printed : ∀ ch ∈ row.line, ch = ' ' ∨ isWhitespace ch = false := by
    intro ch member
    simp only [line, Fields.print, List.mem_append, List.mem_flatMap, List.mem_cons] at member
    rcases member with ⟨column, rfl | later, inside⟩ | blank
    · rcases inside with blank | inside
      · exact .inl (List.eq_of_mem_replicate blank)
      · exact .inr (row.slot_column.2 ch inside)
    · obtain ⟨⟨count, gap⟩, listed⟩ := row.mem_spaced later
      rcases inside with blank | inside
      · rw [gap] at blank
        exact .inl (List.eq_of_mem_replicate blank)
      · exact .inr ((row.columns_isColumn _ listed).2 ch inside)
    · exact .inl (List.eq_of_mem_replicate blank)
  constructor
  · intro member
    rcases printed _ member with blank | visible
    · contradiction
    · simp [isWhitespace] at visible
  · intro member
    rcases printed _ member with blank | visible
    · contradiction
    · simp [isWhitespace] at visible

end UdpRow

section Tables

theorem stripLineEnding_line (line : List Char) :
    stripLineEnding (line ++ ['\n']) = (stripSuffixChar line '\r').getD line := by
  rw [stripLineEnding, stripSuffixChar_concat]

theorem strLines_lines {lines : List (List Char)} (unbroken : ∀ line ∈ lines, '\n' ∉ line) :
    strLines (lines.flatMap (· ++ ['\n'])) =
      lines.map fun line => (stripSuffixChar line '\r').getD line := by
  rw [strLines, Framing.lines_flatMap unbroken, List.map_map]
  exact List.map_congr_left fun line _ => stripLineEnding_line line

theorem stripSuffixChar_of_not_mem {text : List Char} {suffix : Char} (absent : suffix ∉ text) :
    stripSuffixChar text suffix = none :=
  if_neg fun last => absent (List.mem_of_getLast? last)

/-- The contents of `/proc/net/udp` or `/proc/net/udp6`. -/
def udpTable (header : List Char) (rows : List UdpRow) : List Char :=
  (header :: rows.map UdpRow.line).flatMap (· ++ ['\n'])

variable (display : Ipv6Addr → String)

/-- The sockets of a table, of which a later row replaces an earlier one. -/
def withRows (sockets : UdpSockets) (rows : List UdpRow) : UdpSockets :=
  rows.foldl (fun sockets row => sockets.insert row.inode (row.info display)) sockets

theorem addUdpSockets_udpTable (sockets : UdpSockets) {header : List Char} (plain : '\n' ∉ header)
    (rows : List UdpRow) :
    addUdpSockets display sockets (udpTable header rows) = .ok (withRows display sockets rows) := by
  have unbroken : ∀ line ∈ header :: rows.map UdpRow.line, '\n' ∉ line := by
    intro line member
    rcases List.mem_cons.mp member with rfl | listed
    · exact plain
    · obtain ⟨row, -, rfl⟩ := List.mem_map.mp listed
      exact row.line_plain.1
  rw [addUdpSockets, udpTable, strLines_lines unbroken, List.map_cons, List.drop_succ_cons,
    List.drop_zero]
  clear unbroken
  induction rows generalizing sockets with
  | nil => rfl
  | cons row rows ih =>
    have uncut := stripSuffixChar_of_not_mem row.line_plain.2
    rw [List.map_cons, List.map_cons, uncut, Option.getD_none, List.foldlM_cons,
      row.addUdpSocket_line]
    exact ih _

theorem lookup_withRows {sockets : UdpSockets} {rows : List UdpRow} {inode : Nat}
    {info : UdpSocketInfo} (found : (withRows display sockets rows).lookup inode = some info) :
    (∃ row ∈ rows, row.inode = inode ∧ row.info display = info) ∨
      sockets.lookup inode = some info := by
  induction rows generalizing sockets with
  | nil => exact .inr found
  | cons row rows ih =>
    rcases ih found with ⟨later, listed, shown⟩ | earlier
    · exact .inl ⟨later, List.mem_cons_of_mem _ listed, shown⟩
    · by_cases same : inode = row.inode
      · rw [same, AList.lookup_insert, Option.some.injEq] at earlier
        exact .inl ⟨row, List.mem_cons_self, same.symm, earlier⟩
      · rw [AList.lookup_insert_ne same] at earlier
        exact .inr earlier

theorem lookup_withRows_of_mem {sockets : UdpSockets} {rows : List UdpRow} {inode : Nat}
    (shown : sockets.lookup inode ≠ none ∨ ∃ row ∈ rows, row.inode = inode) :
    (withRows display sockets rows).lookup inode ≠ none := by
  induction rows generalizing sockets with
  | nil =>
    rcases shown with earlier | ⟨row, listed, -⟩
    · exact earlier
    · cases listed
  | cons row rows ih =>
    apply ih
    by_cases same : inode = row.inode
    · left
      rw [same, AList.lookup_insert]
      simp
    · rw [AList.lookup_insert_ne same]
      rcases shown with earlier | ⟨other, listed, named⟩
      · exact .inl earlier
      · rcases List.mem_cons.mp listed with rfl | later
        · exact absurd named.symm same
        · exact .inr ⟨other, later, named⟩

end Tables

/-- The target of a link of `/proc/<pid>/fd`. -/
inductive Descriptor where
  | socket (inode : Nat)
  | other (target : List UInt8)

namespace Descriptor

def target : Descriptor → List UInt8
  | .socket inode => asBytes (String.ofList (socketPrefix ++ (Nat.toDigits 10 inode ++ [']'])))
  | .other target => target

def inode? : Descriptor → Option Nat
  | .socket inode => some inode
  | .other _ => none

/-- A number that the kernel has, and the text of another file, which is never a socket's. -/
def Printed : Descriptor → Prop
  | .socket inode => inode ≤ u64Max
  | .other target => ¬ socketPrefix <+: Utf8.lossy target

theorem socketInodeFromFdTarget_target {descriptor : Descriptor} (printed : descriptor.Printed) :
    socketInodeFromFdTarget (Utf8.lossy descriptor.target) = descriptor.inode? := by
  cases descriptor with
  | socket inode =>
    have read : parseU64 (Nat.toDigits 10 inode) = some inode := fromStrRadix_toDigits printed
    rw [target, asBytes_eq_flatMap, String.toList_ofList, Utf8.lossy_flatMap,
      socketInodeFromFdTarget, stripPrefix_append]
    simp only [Option.bind_eq_bind, Option.bind_some, stripSuffixChar_concat, read]
    rfl
  | other target =>
    rw [Descriptor.target, socketInodeFromFdTarget, stripPrefix_absent printed]
    rfl

end Descriptor

/-- A process, and what the kernel prints of it. -/
structure RunningProcess where
  stat : StatLine
  exe : ExePath
  args : List (List UInt8)
  descriptors : List Descriptor
  /-- Whether the daemon may read the links. -/
  readable : Bool
  pid_pos : 0 < stat.pid
  pid_lt : stat.pid < 2 ^ 31
  args_plain : ∀ arg ∈ args, ∀ byte ∈ arg, (byte == 0) = false
  descriptors_printed : ∀ descriptor ∈ descriptors, descriptor.Printed

namespace RunningProcess

variable (process : RunningProcess)

def pid : Int32 := Int32.ofNat process.stat.pid

def name : String := String.ofList (Nat.toDigits 10 process.stat.pid)

def argBytes : List UInt8 := process.args.flatMap (· ++ [0])

/-- The command line: the arguments with blanks between them, or the name of a process without
    any. -/
def cmdline : String :=
  if process.args = [] then String.ofList (trimChars process.stat.comm)
  else if process.argBytes.length ≤ maxCmdlineBytes then
    String.ofList ([' '].intercalate ((process.args.filter (· ≠ [])).map Utf8.lossy))
  else String.ofList (ProcFs.joinPieces (process.argBytes.take maxCmdlineBytes)) ++ " ..."

def dir : ProcDir where
  exe := if process.readable then some process.exe else none
  stat := some process.stat.text
  cmdline := .contents process.argBytes
  comm := some (process.stat.comm ++ ['\n'])
  fds := if process.readable then some (process.descriptors.map fun descriptor =>
    some descriptor.target) else none

theorem toInt_pid : process.pid.toInt = process.stat.pid := Int32.toInt_ofNat_of_lt process.pid_lt

theorem parseI32_name : parseI32 process.name.toList = some process.pid := by
  have text : process.name.toList = (toString process.pid.toInt).toList := by
    rw [process.toInt_pid, name, String.toList_ofList]
    exact Nat.toList_repr.symm
  rw [text, parseI32_toString]

theorem joinPieces_argBytes :
    ProcFs.joinPieces process.argBytes =
      [' '].intercalate ((process.args.filter (· ≠ [])).map Utf8.lossy) := by
  have read := Fields.words_flatMap process.args_plain (by rfl : ((0 : UInt8) == 0) = true)
  rw [ProcFs.joinPieces, ← read]
  rfl

theorem argBytes_eq_nil : process.argBytes = [] ↔ process.args = [] := by
  unfold argBytes
  cases process.args <;> simp

end RunningProcess

def btime : List Char := ['b', 't', 'i', 'm', 'e', ' ']

/-- A machine that stands still while the daemon scans it. -/
structure Machine where
  /-- The entries of `/proc`: processes, and other names. -/
  entries : List (RunningProcess ⊕ Option String)
  udpHeader : List Char
  udp : List UdpRow
  udp6Header : List Char
  udp6 : List UdpRow
  /-- The lines of `/proc/stat` around the one with the time of the boot. -/
  statBefore : List (List Char)
  statAfter : List (List Char)
  bootTimeSeconds : Nat
  ticksPerSecond : Nat
  pids_distinct : ((entries.filterMap Sum.getLeft?).map fun process => process.stat.pid).Nodup
  others : ∀ name, Sum.inr (some name) ∈ entries → parseI32 name.toList = none
  headers_plain : '\n' ∉ udpHeader ∧ '\n' ∉ udp6Header
  stat_plain : ∀ line ∈ statBefore ++ statAfter, '\n' ∉ line
  stat_before : ∀ line ∈ statBefore, ¬ btime <+: line
  ticks_pos : 0 < ticksPerSecond
  /-- Start times are before the end of the 64-bit time. -/
  clock_fits : ∀ process ∈ entries.filterMap Sum.getLeft?, process.stat.startTicks * 1000 ≤ u64Max ∧
    ((bootTimeSeconds * 1000 + process.stat.startTicks * 1000 / ticksPerSecond : Nat) : Int) ≤ i64Max
  boot_fits : (bootTimeSeconds * 1000 : Int) ≤ i64Max

namespace Machine

variable (machine : Machine)

def processes : List RunningProcess := machine.entries.filterMap Sum.getLeft?

def clock : ProcClock := ⟨machine.bootTimeSeconds, machine.ticksPerSecond⟩

def startedAtUnixMs (process : RunningProcess) : Int :=
  (machine.bootTimeSeconds * 1000 + process.stat.startTicks * 1000 / machine.ticksPerSecond : Nat)

/-- The process as the termination of a session sees it. -/
def shown (process : RunningProcess) : Process :=
  { startedAtUnixMs := machine.startedAtUnixMs process
    exe := process.exe
    cmdline := process.cmdline }

def statLines : List (List Char) :=
  machine.statBefore ++ (btime ++ (toString (machine.bootTimeSeconds : Int)).toList) ::
    machine.statAfter

def entryName : RunningProcess ⊕ Option String → Option String
  | .inl process => some process.name
  | .inr name => name

def vacant : ProcDir := ⟨none, none, .unopened, none, none⟩

def procFs : ProcFs where
  entries := some (machine.entries.map entryName)
  dir pid := ((machine.processes.find? fun process => process.pid = pid).map
    RunningProcess.dir).getD vacant
  stat := some (machine.statLines.flatMap (· ++ ['\n']))
  netUdp := some (udpTable machine.udpHeader machine.udp)
  netUdp6 := some (udpTable machine.udp6Header machine.udp6)
  clockTicks := machine.ticksPerSecond

section Clock

theorem readClockTicksPerSecond_procFs :
    machine.procFs.readClockTicksPerSecond = .ok machine.ticksPerSecond := by
  have positive := machine.ticks_pos
  have ticks : machine.procFs.clockTicks = machine.ticksPerSecond := rfl
  rw [ProcFs.readClockTicksPerSecond, ticks, if_neg (by omega), Int.toNat_natCast]

theorem btime_not_prefix {line : List Char} (absent : ¬ btime <+: line) :
    stripPrefix btime ((stripSuffixChar line '\r').getD line) = none := by
  apply stripPrefix_absent
  intro found
  apply absent
  cases stripped : stripSuffixChar line '\r' with
  | none => simpa only [stripped, Option.getD_none] using found
  | some rest =>
    simp only [stripped, Option.getD_some] at found
    rw [stripSuffixChar] at stripped
    split at stripped
    · cases stripped
      exact found.trans (List.dropLast_prefix line)
    · cases stripped

theorem digits_plain {value : Int} : '\r' ∉ (toString value).toList ∧ '\n' ∉ (toString value).toList := by
  have visible := (isStatField_toString value).2
  constructor
  · intro member
    have blank := (visible _ member).1
    simp [isWhitespace] at blank
  · intro member
    have blank := (visible _ member).1
    simp [isWhitespace] at blank

theorem trimChars_visible {text : List Char} (visible : ∀ ch ∈ text, isWhitespace ch = false) :
    trimChars text = text := by
  have front : text.dropWhile isWhitespace = text := by
    rw [List.dropWhile_eq_self_iff]
    intro nonempty
    simp [visible _ (List.getElem_mem nonempty)]
  rw [trimChars, front, List.rdropWhile_eq_self_iff]
  intro nonempty
  simp [visible _ (List.getLast_mem nonempty)]

theorem readBootTimeSeconds_procFs :
    machine.procFs.readBootTimeSeconds = .ok (machine.bootTimeSeconds : Int) := by
  have digits := @digits_plain (machine.bootTimeSeconds : Int)
  have unbroken : ∀ line ∈ machine.statLines, '\n' ∉ line := by
    intro line member
    rw [statLines, List.mem_append, List.mem_cons] at member
    rcases member with before | rfl | after
    · exact machine.stat_plain line (List.mem_append_left _ before)
    · rw [List.mem_append, not_or]
      exact ⟨by decide, digits.2⟩
    · exact machine.stat_plain line (List.mem_append_right _ after)
  have before : (machine.statBefore.map fun line => (stripSuffixChar line '\r').getD line).findSome?
      (stripPrefix btime) = none := by
    rw [List.findSome?_eq_none_iff]
    intro line member
    obtain ⟨whole, listed, rfl⟩ := List.mem_map.mp member
    exact btime_not_prefix (machine.stat_before whole listed)
  have own : '\r' ∉ btime ++ (toString (machine.bootTimeSeconds : Int)).toList := by
    rw [List.mem_append, not_or]
    exact ⟨by decide, digits.1⟩
  have found : (strLines (machine.statLines.flatMap (· ++ ['\n']))).findSome? (stripPrefix btime) =
      some (toString (machine.bootTimeSeconds : Int)).toList := by
    rw [strLines_lines unbroken, statLines, List.map_append, List.findSome?_append, before,
      Option.none_or, List.map_cons, stripSuffixChar_of_not_mem own, Option.getD_none,
      List.findSome?_cons, stripPrefix_append]
  have time : parseI64 (toString (machine.bootTimeSeconds : Int)).toList =
      some (machine.bootTimeSeconds : Int) := by
    have bound := machine.boot_fits
    apply parseI64_toString
    · unfold i64Min
      omega
    · omega
  have trimmed := trimChars_visible fun ch member =>
    ((isStatField_toString (machine.bootTimeSeconds : Int)).2 ch member).1
  have text : "btime ".toList = btime := rfl
  simp only [ProcFs.readBootTimeSeconds, procFs, context, bind, Except.bind, text, found, trimmed,
    time]

end Clock

section Reads

variable {machine} {process : RunningProcess} (member : process ∈ machine.processes)

include member

theorem dir_procFs : machine.procFs.dir process.pid = process.dir := by
  have found : (machine.processes.find? fun other => other.pid = process.pid) = some process := by
    cases first : machine.processes.find? fun other => other.pid = process.pid with
    | none =>
      have other := List.find?_eq_none.mp first process member
      simp at other
    | some other =>
      have same : other.pid = process.pid := by simpa using List.find?_some first
      have numbers := congrArg Int32.toInt same
      rw [other.toInt_pid, process.toInt_pid, Int.natCast_inj] at numbers
      rw [List.inj_on_of_nodup_map machine.pids_distinct (List.mem_of_find?_eq_some first) member
        numbers]
  change ((machine.processes.find? fun other => other.pid = process.pid).map
    RunningProcess.dir).getD vacant = process.dir
  rw [found]
  rfl

theorem clockFits (build : Build) : ClockFits build process.stat.startTicks machine.clock := by
  obtain ⟨ticks, total⟩ := machine.clock_fits process member
  have boot := machine.boot_fits
  constructor
  · exact machine.ticks_pos
  · constructor
    · change i64Min ≤ (machine.bootTimeSeconds : Int) * 1000
      unfold i64Min
      omega
    · exact boot
  · exact ticks
  · intro _
    simp only [clock, InI64]
    generalize process.stat.startTicks * 1000 / machine.ticksPerSecond = uptime at total ⊢
    unfold i64Min i64Max at *
    rw [ServiceState.asI64_of_lt (by omega)]
    omega

theorem readStartedAtUnixMs_procFs (build : Build) :
    readStartedAtUnixMs build process.stat.text machine.bootTimeSeconds machine.ticksPerSecond =
      .ok (machine.startedAtUnixMs process) := by
  have total := (machine.clock_fits process member).2
  have read := (clockFits member build).startedAtUnixMs_eq
  simp only [clock] at read
  rw [process.stat.readStartedAtUnixMs_eq, read, startedAtUnixMs]
  generalize process.stat.startTicks * 1000 / machine.ticksPerSecond = uptime at total ⊢
  have inside : InI64 (machine.bootTimeSeconds * 1000 + uptime : Nat) := by
    unfold InI64 i64Min
    omega
  unfold i64Max at total
  rw [ServiceState.asI64_of_lt (by omega), ← wrapI64_of_in inside]
  push_cast
  rfl

theorem readCmdline_procFs : machine.procFs.readCmdline process.pid = .ok process.cmdline := by
  have contents : (machine.procFs.dir process.pid).cmdline = .contents process.argBytes := by
    rw [dir_procFs member]
    rfl
  have comm : (machine.procFs.dir process.pid).comm = some (process.stat.comm ++ ['\n']) := by
    rw [dir_procFs member]
    rfl
  have blank : ∀ ch ∈ ['\n'], isWhitespace ch = true := by simp [isWhitespace]
  have empty := process.argBytes_eq_nil
  have pieces := process.joinPieces_argBytes
  simp only [ProcFs.readCmdline, contents, comm, RunningProcess.cmdline]
  generalize maxCmdlineBytes = limit
  have length := process.argBytes.length_take (i := limit + 1)
  have cut : process.argBytes.take (limit + 1) = [] ↔ process.args = [] := by
    rw [List.take_eq_nil_iff, empty]
    simp
  simp only [cut, context, Option.map_some, trimChars_append blank, List.take_take]
  rw [Nat.min_eq_left (Nat.le_succ limit)]
  split
  · rfl
  · by_cases short : process.argBytes.length ≤ limit
    · rw [if_pos short, if_neg (by omega), List.take_of_length_le short, pieces]
    · rw [if_neg short, if_pos (by omega)]

theorem readProcessMetadataWithClock_procFs (build : Build) (readable : process.readable = true) :
    machine.procFs.readProcessMetadataWithClock build process.pid machine.clock =
      (context "missing executable basename"
        ((normalizeProcExePath process.exe).fileName.filter fun name => name ≠ "")).map fun exeName =>
          { startedAtUnixMs := (machine.shown process).startedAtUnixMs
            cmdline := sanitizeCmdline (machine.shown process).cmdline
            exeName
            exePath := normalizeProcExePath (machine.shown process).exe } := by
  have exe : machine.procFs.readExePath process.pid = .ok (normalizeProcExePath process.exe) := by
    rw [ProcFs.readExePath, dir_procFs member]
    simp only [RunningProcess.dir, readable, if_true, Option.map_some, context]
  have stat : (machine.procFs.dir process.pid).stat = some process.stat.text := by
    rw [dir_procFs member]
    rfl
  have started := readStartedAtUnixMs_procFs member build
  cases base : (normalizeProcExePath process.exe).fileName.filter fun name => name ≠ "" with
  | none =>
    simp only [ProcFs.readProcessMetadataWithClock, exe, bind, Except.bind, base, context]
    rfl
  | some exeName =>
    simp only [ProcFs.readProcessMetadataWithClock, exe, bind, Except.bind, base, context, stat,
      clock, started, readCmdline_procFs member]
    rfl

theorem readProcessMetadataWithClock_unreadable (build : Build)
    (unreadable : process.readable = false) :
    machine.procFs.readProcessMetadataWithClock build process.pid machine.clock =
      .error (.error ("read " ++ procPath process.pid "exe")) := by
  have exe : machine.procFs.readExePath process.pid =
      .error (.error ("read " ++ procPath process.pid "exe")) := by
    rw [ProcFs.readExePath, dir_procFs member]
    simp only [RunningProcess.dir, unreadable, Bool.false_eq_true, if_false, Option.map_none, context]
  simp only [ProcFs.readProcessMetadataWithClock, exe, bind, Except.bind]

end Reads

end Machine

end Moshwatch
