import Moshwatch.Daemon.Telemetry
import Moshwatch.Server.Payload
import Moshwatch.Server.Wire

namespace Moshwatch

/-- What the daemon reads of a connection, and of the process at its other end. -/
structure Reception where
  stream : ByteStream
  peer : VerifiedTelemetryPeer
  clocks : Nat → FrameClock

def Reception.operations (decode : Bytes → Option DecodedEvent) (reception : Reception) :
    List Operation :=
  handleTelemetryStream decode reception.peer reception.clocks reception.stream

section Lines

variable {decode : Bytes → Option DecodedEvent} {peer : VerifiedTelemetryPeer}

structure AppliesPayload (decode : Bytes → Option DecodedEvent) (peer : VerifiedTelemetryPeer)
    (payload : Bytes) (operation : Operation) : Prop where
  decoded : ∃ (event : DecodedEvent) (clock : FrameClock), decode payload = some event ∧
    telemetryEventMatchesPeer clock.checkedAt event.1 peer = true ∧
    operation = peer.operation clock.receivedAt event

theorem stripLineEnd_visible {line : Bytes} (visible : ∀ byte ∈ line, 32 ≤ byte) :
    stripLineEnd line = line := by
  have kept : ∀ byte : UInt8, 32 ≤ byte → ¬ (byte = 10 || byte = 13) = true := by
    intro byte high ends
    simp only [Bool.or_eq_true, decide_eq_true_eq] at ends
    rcases ends with rfl | rfl <;> revert high <;> decide
  rcases List.eq_nil_or_concat line with rfl | ⟨front, last, rfl⟩
  · rfl
  · rw [List.concat_eq_append] at visible ⊢
    exact List.rdropWhile_concat_neg _ _ _ (kept last (visible last (by simp)))

theorem accepted_of_isLineOf (wellFormed : ∀ bytes event, decode bytes = some event →
      Json.Document bytes)
    {payload line : Bytes} (visible : ∀ byte ∈ payload, 32 ≤ byte)
    (unfinished : ∀ part, part <+: payload → part ≠ [] → part ≠ payload → ¬ Json.Document part)
    (isLine : Framing.IsLineOf 10 payload line) {nowMs : Int} {event : DecodedEvent}
    (accepted : frameVerdict decode peer nowMs (Framing.bound maxTelemetryFrameBytes line) =
      .accepted event) :
    decode payload = some event ∧ telemetryEventMatchesPeer nowMs event.1 peer = true := by
  have body : ∃ part, stripLineEnd line = part ∧ part <+: payload := by
    rcases isLine with rfl | ⟨-, within⟩
    · refine ⟨payload, ?_, List.prefix_refl _⟩
      rw [stripLineEnd, List.rdropWhile_concat_pos _ _ _ (by decide)]
      exact stripLineEnd_visible visible
    · exact ⟨line, stripLineEnd_visible fun byte member => visible byte (within.subset member),
        within⟩
  obtain ⟨part, stripped, within⟩ := body
  unfold Framing.bound at accepted
  split at accepted
  · cases accepted
  · rw [frameVerdict, stripped] at accepted
    split at accepted
    · cases accepted
    · rename_i nonempty
      cases read : decode part with
      | none =>
        rw [read] at accepted
        cases accepted
      | some found =>
        rw [read] at accepted
        dsimp only at accepted
        split at accepted
        · rename_i fits
          cases accepted
          by_cases whole : part = payload
          · rw [← whole]
            exact ⟨read, fits⟩
          · exact absurd (wellFormed part _ read) (unfinished part within nonempty whole)
        · cases accepted

end Lines

section Streams

variable {α : Type*} {text : α → Bytes} {decode : Bytes → Option DecodedEvent}
  {peer : VerifiedTelemetryPeer}

def Judges (decode : Bytes → Option DecodedEvent) (peer : VerifiedTelemetryPeer) (payload : Bytes)
    (verdict : FrameVerdict × FrameClock) : Prop :=
  ∀ event, verdict.1 = .accepted event → decode payload = some event ∧
    telemetryEventMatchesPeer verdict.2.checkedAt event.1 peer = true

theorem judges_lines {items : List α} {lines : List Bytes} {clocks : Nat → FrameClock}
    (read : List.Forall₂ (fun item line => ∀ nowMs event,
      frameVerdict decode peer nowMs (Framing.bound maxTelemetryFrameBytes line) =
        .accepted event →
      decode (text item) = some event ∧ telemetryEventMatchesPeer nowMs event.1 peer = true)
      items lines) (start : Nat) :
    List.Forall₂ (fun item verdict => Judges decode peer (text item) verdict) items
      ((lines.zipIdx start).map fun line =>
        (frameVerdict decode peer (clocks line.2).checkedAt
          (Framing.bound maxTelemetryFrameBytes line.1), clocks line.2)) := by
  induction read generalizing start with
  | nil => exact .nil
  | cons first rest ih => exact .cons (fun event accepted => first _ event accepted) (ih (start + 1))

theorem applied_of_judges {items : List α} {verdicts heard : List (FrameVerdict × FrameClock)}
    (judges : List.Forall₂ (fun item verdict => Judges decode peer (text item) verdict) items
      verdicts) (begins : heard <+: verdicts) :
    ∃ used, used.Sublist items ∧
      List.Forall₂ (fun item => AppliesPayload decode peer (text item)) used
        (heard.filterMap (appliedOperation peer)) := by
  induction judges generalizing heard with
  | nil =>
    rw [List.prefix_nil.mp begins]
    exact ⟨[], List.Sublist.refl _, .nil⟩
  | @cons item verdict items verdicts first rest ih =>
    cases heard with
    | nil => exact ⟨[], List.nil_sublist _, .nil⟩
    | cons other heard =>
      obtain ⟨rfl, later⟩ := List.cons_prefix_cons.mp begins
      obtain ⟨used, within, applied⟩ := ih later
      obtain ⟨outcome, clock⟩ := other
      cases outcome with
      | blank => exact ⟨used, within.cons item, applied⟩
      | invalid => exact ⟨used, within.cons item, applied⟩
      | accepted event =>
        obtain ⟨decoded, fits⟩ := first event rfl
        exact ⟨item :: used, within.cons_cons item, .cons ⟨event, clock, decoded, fits, rfl⟩ applied⟩

end Streams

section Payload

theorem connection_new (path sid : Option Bytes) (nowMs : UInt64) :
    (TelemetryEmitter.new path sid nowMs).connection = none := by
  unfold TelemetryEmitter.new
  split
  · split <;> rfl
  · rfl

variable {printDouble : F64 → Bytes} (numbers : PrintsNumbers printDouble)
  (emitter : TelemetryEmitter)

include numbers

theorem newline_not_mem_payload (sample : TelemetrySample) :
    (10 : UInt8) ∉ emitter.payload printDouble sample := by
  intro member
  have high := visible_payload numbers emitter sample 10 member
  revert high
  decide

theorem stripLineEnd_payload (sample : TelemetrySample) :
    stripLineEnd (emitter.payload printDouble sample ++ [10]) =
      emitter.payload printDouble sample := by
  rw [stripLineEnd, List.rdropWhile_concat_pos _ _ _ (by decide)]
  exact stripLineEnd_visible (visible_payload numbers emitter sample)

end Payload

section Delivery

variable {printDouble : F64 → Bytes} {decode : Bytes → Option DecodedEvent}

theorem operations_of_carried (numbers : PrintsNumbers printDouble)
    (wellFormed : ∀ bytes event, decode bytes = some event → Json.Document bytes)
    (emitter : TelemetryEmitter) {samples : List TelemetrySample} {bytes : Bytes}
    (carried : Framing.Carries 10 (emitter.payload printDouble) samples bytes)
    {reception : Reception} (received : reception.stream.bytes <+: bytes) :
    ∃ used, used.Sublist samples ∧
      List.Forall₂ (fun sample => AppliesPayload decode reception.peer
        (emitter.payload printDouble sample)) used (reception.operations decode) := by
  have unbroken := newline_not_mem_payload numbers emitter
  obtain ⟨front, before, arrived⟩ := carried.of_prefix received
  obtain ⟨read, first, lines⟩ := arrived.lines unbroken
  obtain ⟨heard, hears, applied⟩ :=
    handleTelemetryStream_eq decode reception.peer reception.clocks reception.stream
  have accepts := lines.imp fun sample line isLine nowMs event accepted =>
    @accepted_of_isLineOf decode reception.peer wellFormed _ line
      (visible_payload numbers emitter sample)
      (fun _ => not_document_of_payload numbers emitter sample) isLine nowMs event accepted
  obtain ⟨used, within, operations⟩ := applied_of_judges (judges_lines accepts 0) hears.begins
  rw [Reception.operations, applied]
  exact ⟨used, within.trans (first.sublist.trans before.sublist), operations⟩

theorem operations_of_connections (numbers : PrintsNumbers printDouble)
    (wellFormed : ∀ bytes event, decode bytes = some event → Json.Document bytes)
    (emitter : TelemetryEmitter) {wires : List (List TelemetrySample)} {connections : List Bytes}
    (carried : List.Forall₂ (Framing.Carries 10 (emitter.payload printDouble)) wires connections)
    {receptions : List Reception}
    (received : List.Forall₂ (fun reception bytes => reception.stream.bytes <+: bytes) receptions
      connections) :
    ∃ used : List (List TelemetrySample), used.flatten.Sublist wires.flatten ∧
      List.Forall₂ (fun reception samples =>
        List.Forall₂ (fun sample => AppliesPayload decode reception.peer
          (emitter.payload printDouble sample)) samples (reception.operations decode))
        receptions used := by
  induction carried generalizing receptions with
  | nil =>
    cases received
    exact ⟨[], List.Sublist.refl _, .nil⟩
  | cons wire _ ih =>
    cases received with
    | cons first later =>
      obtain ⟨used, within, rest⟩ := ih later
      obtain ⟨samples, inner, applied⟩ := operations_of_carried numbers wellFormed emitter wire first
      exact ⟨samples :: used, inner.append within, .cons applied rest⟩

/-- Whatever the system calls of the server return, and however much of each connection the daemon
    reads, it applies each sample of a `mosh-server` at most once, in the order in which they were
    taken: no sample is invented, repeated, reordered or read from a payload that was cut short. -/
theorem telemetry_at_most_once (numbers : PrintsNumbers printDouble)
    (wellFormed : ∀ bytes event, decode bytes = some event → Json.Document bytes)
    (path sid : Option Bytes) (nowMs : UInt64) (calls : List (TelemetrySample × EmitCalls))
    (receptions : List Reception)
    (received : List.Forall₂ (fun reception bytes => reception.stream.bytes <+: bytes) receptions
      (EmitterRun.emits printDouble (.new path sid nowMs) calls).connections) :
    ∃ used : List (List TelemetrySample),
      used.flatten.Sublist (calls.map Prod.fst) ∧
      List.Forall₂ (fun reception samples =>
        List.Forall₂ (fun sample => AppliesPayload decode reception.peer
          ((TelemetryEmitter.new path sid nowMs).payload printDouble sample)) samples
          (reception.operations decode)) receptions used := by
  have closed := connection_new path sid nowMs
  obtain ⟨wires, carried, order⟩ := (EmitterRun.shipped_emits closed calls).connections
  obtain ⟨used, within, applied⟩ := operations_of_connections numbers wellFormed _ carried received
  exact ⟨used, within.trans order, applied⟩

end Delivery

section Sample

/-- A tick of a server that has heard nothing yet. -/
def quietTelemetry : TelemetrySample where
  event := .sessionTick
  pid := 7
  nowMs := 2000
  nowMonotonicMs := 500
  bind := none
  client := none
  lastHeard := neverHeard
  remoteStateAgeMs := 0
  rtt := none
  packetsTxTotal := 1
  packetsRxTotal := 0
  retransmitsTotal := 0
  emptyAcksTxTotal := 0
  stateUpdatesTxTotal := 1
  stateUpdatesRxTotal := 0
  duplicateStatesRxTotal := 0
  outOfOrderStatesRxTotal := 0
  shutdown := false

/-- Enough where no `double` is printed. -/
def zeroDouble (_ : F64) : Bytes := [48]

theorem printsNumbers_zeroDouble : PrintsNumbers zeroDouble :=
  fun _ _ => .mk [] [48] [] [] (.inl rfl) .zero .none .none

def quietPath : Option Bytes := some (asBytes "/run/telemetry.sock")

def quietSid : Option Bytes := some (asBytes "s1")

def quietPayload : Bytes :=
  (TelemetryEmitter.new quietPath quietSid 1000).payload zeroDouble quietTelemetry

def quietEvent : DecodedEvent :=
  ⟨{ event := .sessionTick
     displaySessionId := some "s1"
     pid := 7
     unixMs := 2000
     startedAtUnixMs := some 1000
     remoteStateAgeMs := some 0
     packetsTxTotal := some 1
     packetsRxTotal := some 0
     retransmitsTotal := some 0
     emptyAcksTxTotal := some 0
     stateUpdatesTxTotal := some 1
     stateUpdatesRxTotal := some 0
     duplicateStatesRxTotal := some 0
     outOfOrderStatesRxTotal := some 0
     shutdown := some false }, rfl⟩

/-- The same from another process. -/
def strayTelemetry : TelemetrySample := { quietTelemetry with pid := 8 }

def strayPayload : Bytes :=
  (TelemetryEmitter.new quietPath quietSid 1000).payload zeroDouble strayTelemetry

def strayEvent : DecodedEvent := ⟨{ quietEvent.1 with pid := 8 }, rfl⟩

def decodeQuiet (bytes : Bytes) : Option DecodedEvent :=
  if bytes = quietPayload then some quietEvent
  else if bytes = strayPayload then some strayEvent
  else none

theorem document_of_decodeQuiet (bytes : Bytes) (event : DecodedEvent)
    (read : decodeQuiet bytes = some event) : Json.Document bytes := by
  unfold decodeQuiet at read
  split_ifs at read with quiet stray
  · rw [quiet]
    exact document_payload printsNumbers_zeroDouble _ _
  · rw [stray]
    exact document_payload printsNumbers_zeroDouble _ _

def onePiece (bytes : Bytes) : ByteStream where
  chunks := [bytes].filter (· ≠ [])
  nonempty := by simp

theorem bytes_onePiece (bytes : Bytes) : (onePiece bytes).bytes = bytes := by
  cases bytes <;> simp [onePiece, ByteStream.bytes]

def quietPeer : VerifiedTelemetryPeer :=
  { pid := 7, startedAtUnixMs := 1000, cmdline := "mosh-server new", exeName := "mosh-server-real" }

def quietReception (bytes : Bytes) : Reception :=
  { stream := onePiece bytes, peer := quietPeer, clocks := fun _ => ⟨2000, 2000⟩ }

/-- The socket takes five bytes and is then full. -/
def fullSocket : EmitCalls :=
  { socket := true
    connect := none
    send := fun call => if call = 0 then .written 5 else .failed .eagain }

def freeSocket : EmitCalls := { socket := true, connect := none, send := fun _ => .written 65536 }

end Sample

/-- A tick is cut short, and the next one is written on a new connection. -/
theorem telemetry_at_most_once_torn :
    ∃ used : List (List TelemetrySample),
      used.flatten.Sublist [quietTelemetry, quietTelemetry] ∧
      List.Forall₂ (fun reception samples =>
        List.Forall₂ (fun sample => AppliesPayload decodeQuiet reception.peer
          ((TelemetryEmitter.new quietPath quietSid 1000).payload zeroDouble sample)) samples
          (reception.operations decodeQuiet))
        ((EmitterRun.emits zeroDouble (.new quietPath quietSid 1000)
          [(quietTelemetry, fullSocket), (quietTelemetry, freeSocket)]).connections.map
            quietReception) used := by
  apply telemetry_at_most_once printsNumbers_zeroDouble document_of_decodeQuiet quietPath quietSid
    1000 [(quietTelemetry, fullSocket), (quietTelemetry, freeSocket)]
  rw [List.forall₂_map_left_iff, List.forall₂_same]
  intro bytes _
  rw [quietReception, bytes_onePiece]

section Complete

variable {decode : Bytes → Option DecodedEvent} {peer : VerifiedTelemetryPeer}

/-- What the daemon applies of a payload that it reads whole. -/
def payloadOperation (decode : Bytes → Option DecodedEvent) (peer : VerifiedTelemetryPeer)
    (clock : FrameClock) (payload : Bytes) : Option Operation :=
  ((decode payload).filter fun event => payload.length < maxTelemetryFrameBytes &&
    telemetryEventMatchesPeer clock.checkedAt event.1 peer).map (peer.operation clock.receivedAt)

def frameOperation (decode : Bytes → Option DecodedEvent) (peer : VerifiedTelemetryPeer)
    (frame : Framing.Outcome UInt8 × FrameClock) : Option Operation :=
  appliedOperation peer (frameVerdict decode peer frame.2.checkedAt frame.1, frame.2)

/-- Where the frames that are not applied never follow one another for so long that the connection
    ends, the loop applies all others. -/
theorem handleFrames_spaced {α : Type*} {frame : α → Framing.Outcome UInt8 × FrameClock}
    {items : List α} (spaced : ∀ block, block <:+: items →
      (∀ item ∈ block, frameOperation decode peer (frame item) = none) →
      block.length < maxInvalidTelemetryFrames) :
    ∀ invalidFrames, (∀ block, block <+: items →
        (∀ item ∈ block, frameOperation decode peer (frame item) = none) →
        invalidFrames + block.length < maxInvalidTelemetryFrames) →
      handleFrames decode peer invalidFrames (items.map frame) =
        items.filterMap fun item => frameOperation decode peer (frame item) := by
  induction items with
  | nil => exact fun _ _ => rfl
  | cons item items ih =>
    intro invalidFrames few
    have later : ∀ block, block <:+: items →
        (∀ item ∈ block, frameOperation decode peer (frame item) = none) →
        block.length < maxInvalidTelemetryFrames :=
      fun block within => spaced block (within.trans (List.suffix_cons item items).isInfix)
    -- a frame that is not applied lengthens the block that the rest begins with
    have lengthened : frameOperation decode peer (frame item) = none → ∀ block, block <+: items →
        (∀ item ∈ block, frameOperation decode peer (frame item) = none) →
        invalidFrames + (block.length + 1) < maxInvalidTelemetryFrames := by
      intro unapplied block begins none
      exact few (item :: block) (List.cons_prefix_cons.mpr ⟨rfl, begins⟩)
        (List.forall_mem_cons.mpr ⟨unapplied, none⟩)
    rw [List.map_cons, handleFrames]
    cases verdict : frameVerdict decode peer (frame item).2.checkedAt (frame item).1 with
    | blank =>
      have unapplied : frameOperation decode peer (frame item) = none := by
        rw [frameOperation, verdict]
        rfl
      rw [List.filterMap_cons, unapplied]
      apply ih later
      intro block begins none
      have := lengthened unapplied block begins none
      omega
    | invalid =>
      have unapplied : frameOperation decode peer (frame item) = none := by
        rw [frameOperation, verdict]
        rfl
      have first : invalidFrames + 1 < maxInvalidTelemetryFrames :=
        lengthened unapplied [] List.nil_prefix (List.forall_mem_nil _)
      rw [List.filterMap_cons, unapplied]
      simp only [if_neg (Nat.not_le.mpr first)]
      apply ih later
      intro block begins none
      have := lengthened unapplied block begins none
      omega
    | accepted event =>
      have applied : frameOperation decode peer (frame item) =
          some (peer.operation (frame item).2.receivedAt event) := by
        rw [frameOperation, verdict]
        rfl
      rw [List.filterMap_cons, applied]
      apply congrArg (peer.operation (frame item).2.receivedAt event :: ·)
      apply ih later
      intro block begins none
      rw [Nat.zero_add]
      exact later block begins.isInfix none

section Joined

variable {printDouble : F64 → Bytes} (numbers : PrintsNumbers printDouble)
  (emitter : TelemetryEmitter)

include numbers

theorem frameOperation_payload (clock : FrameClock) (sample : TelemetrySample) :
    frameOperation decode peer (Framing.bound maxTelemetryFrameBytes
        (emitter.payload printDouble sample ++ [10]), clock) =
      payloadOperation decode peer clock (emitter.payload printDouble sample) := by
  have nonempty := payload_ne_nil emitter printDouble sample
  have stripped := stripLineEnd_payload numbers emitter sample
  rw [frameOperation, payloadOperation, Framing.bound, List.length_append, List.length_singleton]
  by_cases short : (emitter.payload printDouble sample).length < maxTelemetryFrameBytes
  · rw [if_neg (Nat.not_lt.mpr short), frameVerdict, stripped, if_neg nonempty]
    cases read : decode (emitter.payload printDouble sample) with
    | none => rfl
    | some event =>
      rw [Option.filter_some]
      cases fits : telemetryEventMatchesPeer clock.checkedAt event.1 peer with
      | true =>
        rw [decide_eq_true short]
        simp only [fits, if_true]
        rfl
      | false => simp [fits, appliedOperation]
  · rw [if_pos (Nat.lt_succ_of_le (Nat.not_lt.mp short))]
    cases decode (emitter.payload printDouble sample) <;> simp [short, frameVerdict, appliedOperation]

theorem handleTelemetryStream_joined {samples : List TelemetrySample} {clocks : Nat → FrameClock}
    {stream : ByteStream}
    (carried : stream.bytes = Framing.joined 10 (emitter.payload printDouble) samples)
    (spaced : ∀ block, block <:+: samples.zipIdx →
      (∀ sample ∈ block, payloadOperation decode peer (clocks sample.2)
        (emitter.payload printDouble sample.1) = none) →
      block.length < maxInvalidTelemetryFrames) :
    handleTelemetryStream decode peer clocks stream =
      samples.zipIdx.filterMap fun sample =>
        payloadOperation decode peer (clocks sample.2) (emitter.payload printDouble sample.1) := by
  have frames : (telemetryFrames stream).zipIdx.map (fun frame => (frame.1, clocks frame.2)) =
      samples.zipIdx.map fun sample => (Framing.bound maxTelemetryFrameBytes
        (emitter.payload printDouble sample.1 ++ [10]), clocks sample.2) := by
    rw [telemetryFrames_eq, carried, Framing.lines_joined (newline_not_mem_payload numbers emitter),
      List.map_map, List.zipIdx_map, List.map_map]
    rfl
  simp only [← frameOperation_payload numbers emitter] at spaced ⊢
  rw [handleTelemetryStream, frames]
  apply handleFrames_spaced spaced 0
  intro block begins unapplied
  rw [Nat.zero_add]
  exact spaced block begins.isInfix unapplied

end Joined

/-- Where no system call of the server fails, one connection carries all samples, and the wakeup
    interval is a second from the first one on. If the daemon reads all of it and never finds eight
    samples in a row that it cannot apply, it applies every sample that is short enough and matches
    the peer, in the order in which they were taken and with nothing between them. -/
theorem telemetry_delivered {printDouble : F64 → Bytes} (numbers : PrintsNumbers printDouble)
    (path sid : Option Bytes) (nowMs : UInt64) (calls : List (TelemetrySample × EmitCalls))
    (peer : VerifiedTelemetryPeer) (clocks : Nat → FrameClock) (stream : ByteStream)
    (enabled : (TelemetryEmitter.new path sid nowMs).enabled = true)
    (fits : (TelemetryEmitter.new path sid nowMs).socketPath.length < sunPathBytes)
    (unhindered : ∀ call ∈ calls, EmitterRun.Unhindered call.2)
    (received : stream.bytes =
      (EmitterRun.emits printDouble (.new path sid nowMs) calls).connections.flatten)
    (spaced : ∀ block, block <:+: (calls.map Prod.fst).zipIdx →
      (∀ sample ∈ block, payloadOperation decode peer (clocks sample.2)
        ((TelemetryEmitter.new path sid nowMs).payload printDouble sample.1) = none) →
      block.length < maxInvalidTelemetryFrames) :
    (calls ≠ [] → (EmitterRun.emits printDouble (.new path sid nowMs) calls).connections =
        [Framing.joined 10 ((TelemetryEmitter.new path sid nowMs).payload printDouble)
          (calls.map Prod.fst)] ∧
      (EmitterRun.emits printDouble (.new path sid nowMs) calls).emitter.wakeupIntervalMs = 1000) ∧
    handleTelemetryStream decode peer clocks stream =
      (calls.map Prod.fst).zipIdx.filterMap fun sample =>
        payloadOperation decode peer (clocks sample.2)
          ((TelemetryEmitter.new path sid nowMs).payload printDouble sample.1) := by
  have closed := connection_new path sid nowMs
  have carried := @EmitterRun.connections_unhindered _ printDouble closed enabled fits _ unhindered
  refine ⟨carried.1, ?_⟩
  exact handleTelemetryStream_joined numbers _ (received.trans carried.2) spaced

/-- The sample between the two names another process. -/
theorem telemetry_delivered_quiet :
    handleTelemetryStream decodeQuiet quietPeer (fun _ => ⟨2000, 2000⟩)
        (onePiece (EmitterRun.emits zeroDouble (.new quietPath quietSid 1000)
          [(quietTelemetry, freeSocket), (strayTelemetry, freeSocket),
            (quietTelemetry, freeSocket)]).connections.flatten) =
      [quietPeer.operation 2000 quietEvent, quietPeer.operation 2000 quietEvent] := by
  have free : EmitterRun.Unhindered freeSocket := ⟨rfl, rfl, fun _ => ⟨65535, rfl⟩⟩
  have quiet : payloadOperation decodeQuiet quietPeer ⟨2000, 2000⟩ quietPayload =
      some (quietPeer.operation 2000 quietEvent) := by
    have applies : (decide (quietPayload.length < maxTelemetryFrameBytes) &&
        telemetryEventMatchesPeer 2000 quietEvent.1 quietPeer) = true := by decide +kernel
    rw [payloadOperation, decodeQuiet, if_pos rfl, Option.filter_some, if_pos applies]
    rfl
  have stray : payloadOperation decodeQuiet quietPeer ⟨2000, 2000⟩ strayPayload = none := by
    have other : strayPayload ≠ quietPayload := by decide +kernel
    have fails : ¬ (decide (strayPayload.length < maxTelemetryFrameBytes) &&
        telemetryEventMatchesPeer 2000 strayEvent.1 quietPeer) = true := by decide +kernel
    rw [payloadOperation, decodeQuiet, if_neg other, if_pos rfl, Option.filter_some, if_neg fails]
    rfl
  have delivered := (@telemetry_delivered decodeQuiet zeroDouble printsNumbers_zeroDouble quietPath
    quietSid 1000 [(quietTelemetry, freeSocket), (strayTelemetry, freeSocket),
      (quietTelemetry, freeSocket)] quietPeer (fun _ => ⟨2000, 2000⟩) _ (by decide +kernel)
    (by decide +kernel) (by simp [free]) (bytes_onePiece _) ?_).2
  · rw [delivered]
    unfold quietPayload at quiet
    unfold strayPayload at stray
    simp only [List.map_cons, List.map_nil, List.zipIdx_cons, List.zipIdx_nil, List.filterMap_cons,
      List.filterMap_nil, quiet, stray]
  · intro block within _
    exact lt_of_le_of_lt within.length_le (by decide)

end Complete

end Moshwatch
