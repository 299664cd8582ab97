import Moshwatch.General.Framing
import Moshwatch.History.Query
import Moshwatch.State.Run

namespace Moshwatch

def maxTelemetryFrameBytes : Nat := 16 * 1024

def maxInvalidTelemetryFrames : Nat := 8

/-- What the buffered reader of a connection hands out. -/
structure ByteStream where
  chunks : List Bytes
  nonempty : ∀ chunk ∈ chunks, chunk ≠ []

def ByteStream.bytes (stream : ByteStream) : Bytes := stream.chunks.flatten

/-- The peer of a connection, as `SO_PEERCRED` and `/proc` describe it. -/
structure VerifiedTelemetryPeer where
  pid : Int
  startedAtUnixMs : Int
  cmdline : String
  exeName : String

/-- The clock at the check of a frame and when its event is applied. -/
structure FrameClock where
  checkedAt : Int
  receivedAt : Int

def wrapI64 (value : Int) : Int := Int.bmod value (2 ^ 64)

def telemetryMetricIsPlausible (value : Option F64) : Bool :=
  value.all fun value => value.isFinite && value.ge (.ofNat 0)

def telemetryEventIsPlausible (nowMs : Int) (event : TelemetryEvent) : Bool :=
  nowMs - 60000 ≤ event.unixMs && event.unixMs ≤ nowMs + 60000 &&
    telemetryMetricIsPlausible event.srttMs && telemetryMetricIsPlausible event.rttvarMs &&
    telemetryMetricIsPlausible event.lastRttMs

def isSupportedMoshServerExe (exeName : String) : Bool :=
  exeName = "mosh-server" || exeName = "mosh-server-real"

def telemetryEventMatchesPeer (nowMs : Int) (event : TelemetryEvent) (peer : VerifiedTelemetryPeer) :
    Bool :=
  if !telemetryEventIsPlausible nowMs event then false
  else if event.pid ≠ peer.pid then false
  else if !isSupportedMoshServerExe peer.exeName then false
  else
    event.startedAtUnixMs.all fun startedAtUnixMs =>
      wrapI64 |wrapI64 (peer.startedAtUnixMs - startedAtUnixMs)| ≤ 10000

/-- A telemetry event whose counters have the type `Option<u64>`. -/
abbrev DecodedEvent := { event : TelemetryEvent // event.fits = true }

/-- The identity comes from the verified peer, not from the payload. -/
def VerifiedTelemetryPeer.rewrite (peer : VerifiedTelemetryPeer) (event : TelemetryEvent) :
    TelemetryEvent :=
  { event with
    pid := peer.pid
    startedAtUnixMs := some peer.startedAtUnixMs
    cmdline := some peer.cmdline }

/-- `apply_telemetry` with the session id of the peer. -/
def VerifiedTelemetryPeer.operation (peer : VerifiedTelemetryPeer) (receivedAt : Int)
    (event : DecodedEvent) : Operation :=
  .telemetry (peer.rewrite event.1) peer.startedAtUnixMs receivedAt event.2

inductive FrameVerdict where
  | blank
  | invalid
  | accepted (event : DecodedEvent)

/-- What the loop makes of one frame. The decoder is `serde_json::from_slice`. -/
def frameVerdict (decode : Bytes → Option DecodedEvent) (peer : VerifiedTelemetryPeer)
    (nowMs : Int) : Framing.Outcome UInt8 → FrameVerdict
  | .eof => .blank
  | .oversized _ => .invalid
  | .frame buffer =>
    let buffer := stripLineEnd buffer
    if buffer = [] then .blank
    else
      match decode buffer with
      | none => .invalid
      | some event => if telemetryEventMatchesPeer nowMs event.1 peer then .accepted event else .invalid

/-- The loop of `handle_telemetry_stream` over what the reader returns: the operations it applies
    until it gives up the connection. -/
def handleFrames (decode : Bytes → Option DecodedEvent) (peer : VerifiedTelemetryPeer) :
    Nat → List (Framing.Outcome UInt8 × FrameClock) → List Operation
  | _, [] => []
  | invalidFrames, (outcome, clock) :: rest =>
    match frameVerdict decode peer clock.checkedAt outcome with
    | .blank => handleFrames decode peer invalidFrames rest
    | .invalid =>
      if maxInvalidTelemetryFrames ≤ invalidFrames + 1 then []
      else handleFrames decode peer (invalidFrames + 1) rest
    | .accepted event =>
      peer.operation clock.receivedAt event :: handleFrames decode peer 0 rest

/-- The results of `read_bounded_telemetry_frame` up to the end of the stream. -/
def telemetryFrames (stream : ByteStream) : List (Framing.Outcome UInt8) :=
  Framing.readAll 10 maxTelemetryFrameBytes (stream.bytes.length + 1) stream.chunks

def handleTelemetryStream (decode : Bytes → Option DecodedEvent) (peer : VerifiedTelemetryPeer)
    (clocks : Nat → FrameClock) (stream : ByteStream) : List Operation :=
  handleFrames decode peer 0
    ((telemetryFrames stream).zipIdx.map fun frame => (frame.1, clocks frame.2))

def lineVerdicts (decode : Bytes → Option DecodedEvent) (peer : VerifiedTelemetryPeer)
    (clocks : Nat → FrameClock) (bytes : Bytes) : List (FrameVerdict × FrameClock) :=
  (Framing.lines 10 bytes).zipIdx.map fun line =>
    (frameVerdict decode peer (clocks line.2).checkedAt
      (Framing.bound maxTelemetryFrameBytes line.1), clocks line.2)

/-- The text of a line that is no longer than a frame may be: the line without what ends it. -/
structure IsFrameText (line text : Bytes) : Prop where
  short : line.length ≤ maxTelemetryFrameBytes
  ending : ∃ ending, line = text ++ ending ∧ ∀ byte ∈ ending, byte = 10 ∨ byte = 13
  whole : ∀ last ∈ text.getLast?, last ≠ 10 ∧ last ≠ 13

/-- What a line of a connection is: too long, blank, undecodable, of another peer, or an event of
    the peer. -/
inductive LineVerdict (decode : Bytes → Option DecodedEvent) (peer : VerifiedTelemetryPeer)
    (nowMs : Int) (line : Bytes) : FrameVerdict → Prop where
  | oversized (long : maxTelemetryFrameBytes < line.length) :
      LineVerdict decode peer nowMs line .invalid
  | blank (isText : IsFrameText line []) : LineVerdict decode peer nowMs line .blank
  | undecodable {text : Bytes} (isText : IsFrameText line text) (nonempty : text ≠ [])
      (fails : decode text = none) : LineVerdict decode peer nowMs line .invalid
  | foreign {text : Bytes} {event : DecodedEvent} (isText : IsFrameText line text)
      (nonempty : text ≠ []) (read : decode text = some event)
      (differs : telemetryEventMatchesPeer nowMs event.1 peer = false) :
      LineVerdict decode peer nowMs line .invalid
  | accepted {text : Bytes} {event : DecodedEvent} (isText : IsFrameText line text)
      (nonempty : text ≠ []) (read : decode text = some event)
      (fits : telemetryEventMatchesPeer nowMs event.1 peer = true) :
      LineVerdict decode peer nowMs line (.accepted event)

def FrameVerdict.isInvalid : FrameVerdict → Bool
  | .invalid => true
  | _ => false

def FrameVerdict.isAccepted : FrameVerdict → Bool
  | .accepted _ => true
  | _ => false

def invalidSince (verdicts : List (FrameVerdict × FrameClock)) : Nat :=
  (verdicts.reverse.takeWhile fun verdict => !verdict.1.isAccepted).countP fun verdict =>
    verdict.1.isInvalid

def appliedOperation (peer : VerifiedTelemetryPeer) (verdict : FrameVerdict × FrameClock) :
    Option Operation :=
  match verdict.1 with
  | .accepted event => some (peer.operation verdict.2.receivedAt event)
  | _ => none

/-- The verdicts that were reached before the connection ended: all of them, or those up to the
    first point where as many invalid frames were counted as end a connection. -/
structure Heard (verdicts heard : List (FrameVerdict × FrameClock)) : Prop where
  begins : heard <+: verdicts
  before : ∀ part, part <+: heard → part ≠ heard → invalidSince part < maxInvalidTelemetryFrames
  ends : invalidSince heard = maxInvalidTelemetryFrames ∨
    (invalidSince heard < maxInvalidTelemetryFrames ∧ heard = verdicts)

section Lines

variable {decode : Bytes → Option DecodedEvent} {peer : VerifiedTelemetryPeer} {nowMs : Int}
  {line text : Bytes}

theorem isFrameText_iff :
    IsFrameText line text ↔ line.length ≤ maxTelemetryFrameBytes ∧ stripLineEnd line = text := by
  constructor
  · rintro ⟨short, ⟨ending, rfl, ends⟩, whole⟩
    have stripped : stripLineEnd (text ++ ending) = stripLineEnd text := by
      clear short
      induction ending using List.reverseRecOn with
      | nil => rw [List.append_nil]
      | append_singleton front byte ih =>
        have last : (decide (byte = 10) || decide (byte = 13)) = true := by
          simpa using ends byte (by simp)
        rw [← List.append_assoc, stripLineEnd, List.rdropWhile_concat, if_pos last]
        exact ih fun other member => ends other (List.mem_append_left _ member)
    refine ⟨short, stripped.trans (List.rdropWhile_eq_self_iff.mpr fun nonempty => ?_)⟩
    simpa using whole _ (List.getLast?_eq_getLast_of_ne_nil nonempty)
  · rintro ⟨short, rfl⟩
    refine ⟨short, ⟨line.rtakeWhile fun byte => byte = 10 || byte = 13,
      List.rdropWhile_append_rtakeWhile.symm, ?_⟩, ?_⟩
    · intro byte member
      simpa using List.mem_rtakeWhile_imp member
    · intro last found
      obtain ⟨nonempty, rfl⟩ := List.mem_getLast?_eq_getLast found
      have last := List.rdropWhile_last_not _ _ nonempty
      simpa [stripLineEnd] using last

theorem lineVerdict_iff {verdict : FrameVerdict} :
    LineVerdict decode peer nowMs line verdict ↔
      frameVerdict decode peer nowMs (Framing.bound maxTelemetryFrameBytes line) = verdict := by
  unfold Framing.bound
  constructor
  · intro specified
    cases specified with
    | oversized long => rw [if_pos long, frameVerdict]
    | blank isText =>
      obtain ⟨short, stripped⟩ := isFrameText_iff.mp isText
      rw [if_neg short.not_gt, frameVerdict, stripped]
      rfl
    | undecodable isText nonempty fails =>
      obtain ⟨short, rfl⟩ := isFrameText_iff.mp isText
      simp only [if_neg short.not_gt, frameVerdict, if_neg nonempty, fails]
    | foreign isText nonempty read differs =>
      obtain ⟨short, rfl⟩ := isFrameText_iff.mp isText
      simp [if_neg short.not_gt, frameVerdict, if_neg nonempty, read, differs]
    | accepted isText nonempty read fits =>
      obtain ⟨short, rfl⟩ := isFrameText_iff.mp isText
      simp only [if_neg short.not_gt, frameVerdict, if_neg nonempty, read, if_pos fits]
  · rintro rfl
    split
    · rename_i long
      exact .oversized long
    · rename_i short
      have isText : IsFrameText line (stripLineEnd line) :=
        isFrameText_iff.mpr ⟨not_lt.mp short, rfl⟩
      rw [frameVerdict]
      by_cases blank : stripLineEnd line = []
      · rw [if_pos blank]
        rw [blank] at isText
        exact .blank isText
      · rw [if_neg blank]
        cases read : decode (stripLineEnd line) with
        | none => exact .undecodable isText blank read
        | some event =>
          cases fits : telemetryEventMatchesPeer nowMs event.1 peer with
          | true => simpa only [fits, if_true] using .accepted isText blank read fits
          | false => simpa [fits] using LineVerdict.foreign isText blank read fits

end Lines

section Verdicts

variable {verdicts : List (FrameVerdict × FrameClock)} {clock : FrameClock}

theorem invalidSince_blank : invalidSince (verdicts ++ [(.blank, clock)]) = invalidSince verdicts := by
  simp [invalidSince, FrameVerdict.isAccepted, FrameVerdict.isInvalid]

theorem invalidSince_invalid :
    invalidSince (verdicts ++ [(.invalid, clock)]) = invalidSince verdicts + 1 := by
  simp [invalidSince, FrameVerdict.isAccepted, FrameVerdict.isInvalid]

theorem invalidSince_accepted (event : DecodedEvent) :
    invalidSince (verdicts ++ [(.accepted event, clock)]) = 0 := by
  simp [invalidSince, FrameVerdict.isAccepted]

end Verdicts

section Loop

variable (decode : Bytes → Option DecodedEvent) (peer : VerifiedTelemetryPeer)

structure HeardAfter (seen verdicts heard : List (FrameVerdict × FrameClock)) : Prop where
  begins : heard <+: verdicts
  before : ∀ part, part <+: heard → part ≠ heard →
    invalidSince (seen ++ part) < maxInvalidTelemetryFrames
  ends : invalidSince (seen ++ heard) = maxInvalidTelemetryFrames ∨
    (invalidSince (seen ++ heard) < maxInvalidTelemetryFrames ∧ heard = verdicts)

section HeardAfter

variable {seen verdicts heard : List (FrameVerdict × FrameClock)}
  {verdict : FrameVerdict × FrameClock}

theorem HeardAfter.nil (few : invalidSince seen < maxInvalidTelemetryFrames) :
    HeardAfter seen [] [] := by
  refine ⟨List.prefix_refl _, ?_, .inr ⟨?_, rfl⟩⟩
  · intro part within differ
    exact absurd (List.prefix_nil.mp within) differ
  · rwa [List.append_nil]

theorem HeardAfter.last (few : invalidSince seen < maxInvalidTelemetryFrames)
    (full : invalidSince (seen ++ [verdict]) = maxInvalidTelemetryFrames) :
    HeardAfter seen (verdict :: verdicts) [verdict] := by
  refine ⟨List.cons_prefix_cons.mpr ⟨rfl, List.nil_prefix⟩, ?_, .inl full⟩
  intro part within differ
  cases part with
  | nil => rwa [List.append_nil]
  | cons first part =>
    obtain ⟨rfl, inner⟩ := List.cons_prefix_cons.mp within
    exact absurd (by rw [List.prefix_nil.mp inner]) differ

theorem HeardAfter.cons (few : invalidSince seen < maxInvalidTelemetryFrames)
    (later : HeardAfter (seen ++ [verdict]) verdicts heard) :
    HeardAfter seen (verdict :: verdicts) (verdict :: heard) := by
  have regroup : ∀ part, seen ++ verdict :: part = seen ++ [verdict] ++ part := by
    intro part
    rw [List.append_assoc, List.singleton_append]
  refine ⟨List.cons_prefix_cons.mpr ⟨rfl, later.begins⟩, ?_, ?_⟩
  · intro part within differ
    cases part with
    | nil => rwa [List.append_nil]
    | cons first part =>
      obtain ⟨rfl, inner⟩ := List.cons_prefix_cons.mp within
      rw [regroup]
      exact later.before part inner fun same => differ (by rw [same])
  · rw [regroup]
    rcases later.ends with full | ⟨fewer, whole⟩
    · exact .inl full
    · exact .inr ⟨fewer, by rw [whole]⟩

theorem HeardAfter.fromStart (later : HeardAfter [] verdicts heard) : Heard verdicts heard :=
  ⟨later.begins, later.before, later.ends⟩

end HeardAfter

theorem handleFrames_spec (frames : List (Framing.Outcome UInt8 × FrameClock)) :
    ∀ seen : List (FrameVerdict × FrameClock), invalidSince seen < maxInvalidTelemetryFrames →
      ∃ heard, HeardAfter seen (frames.map fun frame =>
          (frameVerdict decode peer frame.2.checkedAt frame.1, frame.2)) heard ∧
        handleFrames decode peer (invalidSince seen) frames =
          heard.filterMap (appliedOperation peer) := by
  induction frames with
  | nil =>
    intro seen few
    exact ⟨[], .nil few, rfl⟩
  | cons frame rest ih =>
    intro seen few
    obtain ⟨outcome, clock⟩ := frame
    rw [List.map_cons, handleFrames]
    cases verdict : frameVerdict decode peer clock.checkedAt outcome with
    | blank =>
      obtain ⟨heard, later, applied⟩ := ih (seen ++ [(.blank, clock)]) (by rwa [invalidSince_blank])
      rw [invalidSince_blank] at applied
      exact ⟨_, later.cons few, applied⟩
    | accepted event =>
      obtain ⟨heard, later, applied⟩ := ih (seen ++ [(.accepted event, clock)])
        (by rw [invalidSince_accepted]; decide)
      rw [invalidSince_accepted] at applied
      exact ⟨_, later.cons few, congrArg _ applied⟩
    | invalid =>
      by_cases last : maxInvalidTelemetryFrames ≤ invalidSince seen + 1
      · refine ⟨[(.invalid, clock)], .last few ?_, ?_⟩
        · rw [invalidSince_invalid]
          omega
        · simp only [if_pos last]
          rfl
      · obtain ⟨heard, later, applied⟩ := ih (seen ++ [(.invalid, clock)])
          (by rw [invalidSince_invalid]; omega)
        rw [invalidSince_invalid] at applied
        refine ⟨_, later.cons few, ?_⟩
        simp only [if_neg last]
        exact applied

theorem telemetryFrames_eq (stream : ByteStream) :
    telemetryFrames stream =
      (Framing.lines 10 stream.bytes).map (Framing.bound maxTelemetryFrameBytes) :=
  Framing.readAll_eq _ _ stream.nonempty (Nat.lt_succ_self _)

/-- The applied operations are those of the accepted lines, up to the end of the connection. -/
theorem handleTelemetryStream_eq (clocks : Nat → FrameClock) (stream : ByteStream) :
    ∃ heard, Heard (lineVerdicts decode peer clocks stream.bytes) heard ∧
      handleTelemetryStream decode peer clocks stream =
        heard.filterMap (appliedOperation peer) := by
  obtain ⟨heard, after, applied⟩ := handleFrames_spec decode peer
    ((telemetryFrames stream).zipIdx.map fun frame => (frame.1, clocks frame.2)) [] (by decide)
  have verdicts : ((telemetryFrames stream).zipIdx.map fun frame =>
      (frame.1, clocks frame.2)).map (fun frame =>
        (frameVerdict decode peer frame.2.checkedAt frame.1, frame.2)) =
      lineVerdicts decode peer clocks stream.bytes := by
    rw [telemetryFrames_eq, List.zipIdx_map, List.map_map, List.map_map]
    rfl
  rw [verdicts] at after
  exact ⟨heard, after.fromStart, applied⟩

end Loop

namespace ServiceState

theorem lookup_prepare_telemetry_other (state : ServiceState) {event : TelemetryEvent}
    {startedAt receivedAt : Int} (fits : event.fits = true) {key : String}
    (notSession : key ≠ instrumentedSessionId event.pid startedAt)
    (notLegacy : key ≠ legacySessionId event.pid startedAt) :
    (state.prepare (.telemetry event startedAt receivedAt fits)).2.sessions.lookup key =
      state.sessions.lookup key := by
  rcases prepare_telemetry_cases state event startedAt receivedAt fits with
    ⟨-, prepared⟩ | ⟨-, prepared⟩
  · rw [prepared]
  · rw [prepared]
    exact lookup_admitted_other notSession notLegacy

theorem lookup_step_of_prepare (state : ServiceState) (operation : Operation) (key : String) :
    (state.step operation).sessions.lookup key =
        (state.prepare operation).2.sessions.lookup key ∨
      (state.step operation).sessions.lookup key = none ∧
        state.step operation = (state.prepare operation).2.enforceSessionCap := by
  rw [step_eq]
  split
  · exact .inl rfl
  · cases found : (state.prepare operation).2.enforceSessionCap.sessions.lookup key with
    | none => exact .inr ⟨rfl, rfl⟩
    | some record => exact .inl (lookup_of_lookup_enforceSessionCap found).symm

end ServiceState

structure CarriesPeer (peer : VerifiedTelemetryPeer) (event : TelemetryEvent) : Prop where
  pid : event.pid = peer.pid
  startedAt : event.startedAtUnixMs = some peer.startedAtUnixMs
  cmdline : event.cmdline = some peer.cmdline

def JudgedLines (decode : Bytes → Option DecodedEvent) (peer : VerifiedTelemetryPeer)
    (clocks : Nat → FrameClock) (bytes : Bytes) (verdicts : List (FrameVerdict × FrameClock)) :
    Prop :=
  List.Forall₂ (fun line verdict =>
    LineVerdict decode peer (clocks line.2).checkedAt line.1 verdict.1 ∧
      verdict.2 = clocks line.2)
    (Framing.lines 10 bytes).zipIdx verdicts

theorem judgedLines_lineVerdicts (decode : Bytes → Option DecodedEvent)
    (peer : VerifiedTelemetryPeer) (clocks : Nat → FrameClock) (bytes : Bytes) :
    JudgedLines decode peer clocks bytes (lineVerdicts decode peer clocks bytes) := by
  unfold JudgedLines lineVerdicts
  rw [List.forall₂_map_right_iff, List.forall₂_same]
  exact fun line _ => ⟨lineVerdict_iff.mpr rfl, rfl⟩

/-- One connection changes the records of its peer only, by the frames that match the peer. -/
theorem telemetry_isolation (decode : Bytes → Option DecodedEvent) (peer : VerifiedTelemetryPeer)
    (clocks : Nat → FrameClock) (stream : ByteStream) :
    (∃ verdicts heard, JudgedLines decode peer clocks stream.bytes verdicts ∧
      Heard verdicts heard ∧
      handleTelemetryStream decode peer clocks stream =
        heard.filterMap (appliedOperation peer)) ∧
    ∀ operation ∈ handleTelemetryStream decode peer clocks stream,
      (∃ event receivedAt fits, operation = .telemetry event peer.startedAtUnixMs receivedAt fits ∧
        CarriesPeer peer event) ∧
      ∀ (state : ServiceState) (key : String),
        key ≠ instrumentedSessionId peer.pid peer.startedAtUnixMs →
        key ≠ legacySessionId peer.pid peer.startedAtUnixMs →
        (state.step operation).sessions.lookup key = state.sessions.lookup key ∨
          (state.step operation).sessions.lookup key = none ∧
            state.step operation = (state.prepare operation).2.enforceSessionCap ∧
            (state.prepare operation).2.sessions.lookup key = state.sessions.lookup key := by
  obtain ⟨heard, heardAll, applied⟩ := handleTelemetryStream_eq decode peer clocks stream
  refine ⟨⟨_, heard, judgedLines_lineVerdicts decode peer clocks _, heardAll, applied⟩, ?_⟩
  intro operation member
  rw [applied, List.mem_filterMap] at member
  obtain ⟨⟨verdict, clock⟩, -, found⟩ := member
  cases verdict with
  | blank => cases found
  | invalid => cases found
  | accepted event =>
    cases found
    refine ⟨⟨peer.rewrite event.1, clock.receivedAt, event.2, rfl, rfl, rfl, rfl⟩, ?_⟩
    intro state key notSession notLegacy
    have kept := @ServiceState.lookup_prepare_telemetry_other state (peer.rewrite event.1) _
      clock.receivedAt event.2 _ notSession notLegacy
    rcases state.lookup_step_of_prepare (peer.operation clock.receivedAt event) key with
      same | ⟨gone, capped⟩
    · exact .inl (same.trans kept)
    · exact .inr ⟨gone, capped, kept⟩

end Moshwatch
