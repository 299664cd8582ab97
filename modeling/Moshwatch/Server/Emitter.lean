import Moshwatch.Core.Protocol
import Moshwatch.Core.Str
import Moshwatch.General.Json

namespace Moshwatch

section Json

def hexDigitByte (digit : UInt8) : UInt8 := if digit < 10 then 48 + digit else 87 + digit

/-- One round of the loop of `json_escape`. -/
def escapeByte (ch : UInt8) : List UInt8 :=
  if ch = 92 then [92, 92]
  else if ch = 34 then [92, 34]
  else if ch = 10 then [92, 110]
  else if ch = 13 then [92, 114]
  else if ch = 9 then [92, 116]
  else if ch < 0x20 then [92, 117, 48, 48, hexDigitByte (ch / 16), hexDigitByte (ch % 16)]
  else [ch]

def jsonEscape (input : List UInt8) : List UInt8 := input.flatMap escapeByte

/-- A value as `emit` writes it after a colon. -/
inductive Written where
  | null
  | bool (value : Bool)
  | int (value : Int)
  | text (content : List UInt8)
  | double (value : F64)

namespace Written

-- `operator<<` of a `double`.
variable (printDouble : F64 → List UInt8)

def bytes : Written → List UInt8
  | .null => asBytes "null"
  | .bool true => asBytes "true"
  | .bool false => asBytes "false"
  | .int value => asBytes (toString value)
  | .text content => 34 :: (jsonEscape content ++ [34])
  | .double value => printDouble value

def scalar : Written → Json.Scalar
  | .null => .null
  | .bool value => .bool value
  | .int value => .number (asBytes (toString value))
  | .text content => .string content
  | .double value => .number (printDouble value)

end Written

end Json

/-- `uint64_t( -1 )`. -/
def neverHeard : UInt64 := UInt64.ofNat (2 ^ 64 - 1)

/-- The estimates of a connection that has a sample of its round trip. -/
structure RttEstimates where
  srtt : F64
  rttvar : F64
  last : F64
  finite : srtt.isFinite = true ∧ rttvar.isFinite = true ∧ last.isFinite = true

/-- What a call of `emit` reads: its arguments, the clocks and the connection. -/
structure TelemetrySample where
  event : TelemetryEventKind
  pid : Int32
  nowMs : UInt64
  nowMonotonicMs : UInt64
  /-- `local_endpoint`, unless it fails. -/
  bind : Option (List UInt8 × UInt16)
  /-- `remote_endpoint`, unless it fails. -/
  client : Option (List UInt8)
  lastHeard : UInt64
  remoteStateAgeMs : UInt64
  rtt : Option RttEstimates
  packetsTxTotal : UInt64
  packetsRxTotal : UInt64
  retransmitsTotal : UInt64
  emptyAcksTxTotal : UInt64
  stateUpdatesTxTotal : UInt64
  stateUpdatesRxTotal : UInt64
  duplicateStatesRxTotal : UInt64
  outOfOrderStatesRxTotal : UInt64
  shutdown : Bool

def TelemetryEventKind.name : TelemetryEventKind → String
  | .sessionOpen => "session_open"
  | .sessionTick => "session_tick"
  | .sessionClose => "session_close"

def Written.ofOption {α : Type} (value : Option α) (written : α → Written) : Written :=
  match value with
  | none => .null
  | some value => written value

def TelemetrySample.lastHeardAgeMs (sample : TelemetrySample) : Option UInt64 :=
  if sample.lastHeard = neverHeard ∨ sample.nowMonotonicMs < sample.lastHeard then none
  else some (sample.nowMonotonicMs - sample.lastHeard)

def TelemetrySample.members (sample : TelemetrySample) (sessionId : List UInt8)
    (startedAtUnixMs : UInt64) : List (String × Written) :=
  let count (value : UInt64) : Written := .int value.toNat
  [ ("event", .text (asBytes sample.event.name)),
    ("display_session_id", .text sessionId),
    ("pid", .int sample.pid.toInt),
    ("unix_ms", count sample.nowMs),
    ("started_at_unix_ms", count startedAtUnixMs),
    ("bind_addr", .ofOption sample.bind fun bind => .text bind.1),
    ("udp_port", .ofOption sample.bind fun bind => .int bind.2.toNat),
    ("client_addr", .ofOption sample.client .text),
    ("last_heard_age_ms", .ofOption sample.lastHeardAgeMs count),
    ("remote_state_age_ms", count sample.remoteStateAgeMs),
    ("srtt_ms", .ofOption sample.rtt fun rtt => .double rtt.srtt),
    ("rttvar_ms", .ofOption sample.rtt fun rtt => .double rtt.rttvar),
    ("last_rtt_ms", .ofOption sample.rtt fun rtt => .double rtt.last),
    ("packets_tx_total", count sample.packetsTxTotal),
    ("packets_rx_total", count sample.packetsRxTotal),
    ("retransmits_total", count sample.retransmitsTotal),
    ("empty_acks_tx_total", count sample.emptyAcksTxTotal),
    ("state_updates_tx_total", count sample.stateUpdatesTxTotal),
    ("state_updates_rx_total", count sample.stateUpdatesRxTotal),
    ("duplicate_states_rx_total", count sample.duplicateStatesRxTotal),
    ("out_of_order_states_rx_total", count sample.outOfOrderStatesRxTotal),
    ("shutdown", .bool sample.shutdown) ]

def writeObject (printDouble : F64 → List UInt8) (members : List (String × Written)) : List UInt8 :=
  Json.print (members.map fun (key, value) => (asBytes key, value.bytes printDouble))

structure TelemetryEmitter where
  /-- `fd`, with what has been written on the connection. -/
  connection : Option (List UInt8)
  socketPath : List UInt8
  sessionId : List UInt8
  startedAtUnixMs : UInt64
  warned : Bool
  deliveryConfirmed : Bool

namespace TelemetryEmitter

/-- The constructor, with what `getenv` returns and the wall clock. -/
def new (path sid : Option (List UInt8)) (nowMs : UInt64) : TelemetryEmitter :=
  let blank : TelemetryEmitter :=
    { connection := none
      socketPath := []
      sessionId := []
      startedAtUnixMs := nowMs
      warned := false
      deliveryConfirmed := false }
  match path, sid with
  | some path, some sid =>
    if path ≠ [] ∧ sid ≠ [] then { blank with socketPath := path, sessionId := sid } else blank
  | _, _ => blank

def enabled (emitter : TelemetryEmitter) : Bool := emitter.socketPath ≠ [] && emitter.sessionId ≠ []

def wakeupIntervalMs (emitter : TelemetryEmitter) : Nat :=
  if emitter.deliveryConfirmed then 1000 else 30000

def payload (emitter : TelemetryEmitter) (printDouble : F64 → List UInt8)
    (sample : TelemetrySample) : List UInt8 :=
  writeObject printDouble (sample.members emitter.sessionId emitter.startedAtUnixMs)

end TelemetryEmitter

inductive Errno where
  | enoent
  | econnrefused
  | eagain
  | ewouldblock
  | epipe
  | econnreset
  | other (message : String)
  deriving DecidableEq

def Errno.strerror : Errno → String
  | .enoent => "No such file or directory"
  | .econnrefused => "Connection refused"
  | .eagain | .ewouldblock => "Resource temporarily unavailable"
  | .epipe => "Broken pipe"
  | .econnreset => "Connection reset by peer"
  | .other message => message

inductive SendResult where
  | failed (errno : Errno)
  | written (count : Nat)

structure EmitCalls where
  socket : Bool
  connect : Option Errno
  /-- The results of `send`, by the number of the call. -/
  send : Nat → SendResult

/-- An emitter, what each of its connections that are closed has carried, and what it has
    printed. -/
structure EmitterRun where
  emitter : TelemetryEmitter
  closed : List (List UInt8)
  stderr : List String

/-- `sizeof( addr.sun_path )`. -/
def sunPathBytes : Nat := 108

namespace EmitterRun

def warn (run : EmitterRun) (message : String) : EmitterRun :=
  if run.emitter.warned then run
  else
    { run with
      emitter := { run.emitter with warned := true }
      stderr := run.stderr ++ [message] }

def closeSocket (run : EmitterRun) : EmitterRun :=
  { run with
    emitter := { run.emitter with connection := none }
    closed := run.closed ++ run.emitter.connection.toList }

def unconfirmed (run : EmitterRun) : EmitterRun :=
  { run with emitter := { run.emitter with deliveryConfirmed := false } }

def connectSocket (run : EmitterRun) (calls : EmitCalls) : Bool × EmitterRun :=
  if run.emitter.connection.isSome then (true, run)
  else if sunPathBytes ≤ run.emitter.socketPath.length then
    (false, run.warn "moshwatch telemetry socket path too long\n")
  else if !calls.socket then (false, run)
  else
    match calls.connect with
    | some errno =>
      let run := run.unconfirmed
      if errno ≠ .enoent ∧ errno ≠ .econnrefused then
        (false, run.warn ("moshwatch telemetry connect failed: " ++ errno.strerror ++ "\n"))
      else (false, run)
    | none => (true, { run with emitter := { run.emitter with connection := some [] } })

/-- The loop of `send_payload`: what is written, and the result of the call that ends it early. The
    fuel covers a byte for each round. -/
def sendLoop (send : Nat → SendResult) : Nat → Nat → List UInt8 → List UInt8 × Option SendResult
  | _, _, [] => ([], none)
  | 0, _, _ => ([], none)
  | fuel + 1, call, rest =>
    match send call with
    | .failed errno => ([], some (.failed errno))
    | .written 0 => ([], some (.written 0))
    | .written count =>
      let (more, ended) := sendLoop send fuel (call + 1) (rest.drop count)
      (rest.take count ++ more, ended)

def write (run : EmitterRun) (bytes : List UInt8) : EmitterRun :=
  { run with
    emitter := { run.emitter with connection := run.emitter.connection.map (· ++ bytes) } }

def sendPayload (run : EmitterRun) (calls : EmitCalls) (payload : List UInt8) : EmitterRun :=
  match run.connectSocket calls with
  | (false, run) => run
  | (true, run) =>
    let framedPayload := payload ++ [10]
    let (written, ended) := sendLoop calls.send framedPayload.length 0 framedPayload
    let run := run.write written
    match ended with
    | none => { run with emitter := { run.emitter with deliveryConfirmed := true, warned := false } }
    | some (.written _) => run.unconfirmed.closeSocket
    | some (.failed errno) =>
      let run := run.unconfirmed.closeSocket
      if errno ≠ .eagain ∧ errno ≠ .ewouldblock ∧ errno ≠ .epipe ∧ errno ≠ .econnreset then
        run.warn ("moshwatch telemetry send failed: " ++ errno.strerror ++ "\n")
      else run

variable (printDouble : F64 → List UInt8)

def emit (run : EmitterRun) (call : TelemetrySample × EmitCalls) : EmitterRun :=
  if !run.emitter.enabled then run
  else run.sendPayload call.2 (run.emitter.payload printDouble call.1)

def start (emitter : TelemetryEmitter) : EmitterRun := { emitter, closed := [], stderr := [] }

/-- The calls of `emit` that `serve` makes, up to some point. -/
def emits (emitter : TelemetryEmitter) (calls : List (TelemetrySample × EmitCalls)) : EmitterRun :=
  calls.foldl (emit printDouble) (start emitter)

/-- What each connection has carried, in the order in which they were opened. -/
def connections (run : EmitterRun) : List (List UInt8) := run.closed ++ run.emitter.connection.toList

end EmitterRun

end Moshwatch
