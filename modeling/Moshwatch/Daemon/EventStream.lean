import Moshwatch.Coherence.Report
import Moshwatch.Daemon.Publisher
import Moshwatch.State.Export
import Moshwatch.State.Run

namespace Moshwatch

def maxExportedSessions : Nat := 512

def streamConnectionSlots : Nat := 8

inductive EventStreamEvent where
  | snapshot
  | heartbeat
  deriving DecidableEq, Repr

structure EventStreamFrame where
  schemaVersion : Nat
  observer : ObserverInfo
  event : EventStreamEvent
  sequence : Option Nat
  generatedAtUnixMs : Int
  totalSessions : Option Nat
  truncatedSessionCount : Option Nat
  droppedSessionsTotal : Option Nat
  sessions : Option (List SessionSummary)
  coherenceSessions : Option (List CoherenceSessionSnapshot)
  deriving DecidableEq

/-- The value of the watch channel and how often it was replaced, and the counter behind the
    sequence numbers. -/
structure SnapshotHub where
  observer : ObserverInfo
  frame : EventStreamFrame
  version : Nat
  sequence : Nat

namespace SnapshotHub

variable (sha256Hex : String → String)

def new (observer : ObserverInfo) (nowMs : Int) : SnapshotHub :=
  { observer
    frame :=
      { schemaVersion := apiSchemaVersion
        observer
        event := .snapshot
        sequence := some 0
        generatedAtUnixMs := nowMs
        totalSessions := some 0
        truncatedSessionCount := some 0
        droppedSessionsTotal := some 0
        sessions := some []
        coherenceSessions := some [] }
    version := 0
    sequence := 0 }

def snapshotFrame (observer : ObserverInfo) (sequence : Nat) (exported : ExportedSummaries)
    (nowMs : Int) : EventStreamFrame :=
  { schemaVersion := apiSchemaVersion
    observer
    event := .snapshot
    sequence := some sequence
    generatedAtUnixMs := nowMs
    totalSessions := some exported.totalSessions
    truncatedSessionCount := some exported.truncatedSessionCount
    droppedSessionsTotal := some exported.droppedSessionsTotal
    sessions := some exported.sessions
    coherenceSessions :=
      some (exported.sessions.map (buildCoherenceSnapshotFromSummary sha256Hex)) }

/-- `fetch_add` and `send_replace`. Nothing else reads the counter, so that the two are one step;
    it wraps. -/
def publishSnapshot (hub : SnapshotHub) (exported : ExportedSummaries) (nowMs : Int) :
    SnapshotHub :=
  let sequence := (hub.sequence + 1) % 2 ^ 64
  { hub with
    frame := snapshotFrame sha256Hex hub.observer sequence exported nowMs
    version := hub.version + 1
    sequence }

def heartbeatFrame (hub : SnapshotHub) (nowMs : Int) : EventStreamFrame :=
  { schemaVersion := apiSchemaVersion
    observer := hub.observer
    event := .heartbeat
    sequence := none
    generatedAtUnixMs := nowMs
    totalSessions := none
    truncatedSessionCount := none
    droppedSessionsTotal := none
    sessions := none
    coherenceSessions := none }

end SnapshotHub

/-- Where `stream_events` stands: it has a slot and writes the headers, it is about to borrow the
    channel's value and write it, or it waits in `select!`. -/
inductive StreamStage where
  | closed
  | refused
  | accepted
  | due
  | waiting
  deriving DecidableEq, Repr

/-- A connection to `/v1/events/stream`: the version its receiver has marked as seen and the frames
    written to it. -/
structure EventStream where
  stage : StreamStage
  seen : Nat
  written : List EventStreamFrame

inductive StreamStep where
  | connect
  | subscribe
  | writeFrame
  | changed
  | heartbeat (nowMs : Int)
  | close

namespace EventStream

def idle : EventStream := { stage := .closed, seen := 0, written := [] }

def holdsSlot (stream : EventStream) : Bool :=
  stream.stage = .accepted || stream.stage = .due || stream.stage = .waiting

/-- One step of `stream_events`, with the free slots it finds and leaves. The channel may be
    replaced between a step that marks its version and the next `writeFrame`. A write that fails or
    times out closes the stream. -/
def step (hub : SnapshotHub) (freeSlots : Nat) (stream : EventStream) :
    StreamStep → Option (EventStream × Nat)
  | .connect =>
    if stream.holdsSlot then none
    else if freeSlots = 0 then some ({ stream with stage := .refused }, freeSlots)
    else some ({ stage := .accepted, seen := 0, written := [] }, freeSlots - 1)
  | .subscribe =>
    if stream.stage = .accepted then
      some ({ stream with stage := .due, seen := hub.version }, freeSlots)
    else none
  | .writeFrame =>
    if stream.stage = .due then
      some ({ stream with stage := .waiting, written := stream.written ++ [hub.frame] }, freeSlots)
    else none
  | .changed =>
    if stream.stage = .waiting ∧ stream.seen ≠ hub.version then
      some ({ stream with stage := .due, seen := hub.version }, freeSlots)
    else none
  | .heartbeat nowMs =>
    if stream.stage = .waiting then
      some ({ stream with written := stream.written ++ [hub.heartbeatFrame nowMs] }, freeSlots)
    else none
  | .close =>
    if stream.holdsSlot then some ({ stream with stage := .closed }, freeSlots + 1) else none

def snapshots (stream : EventStream) : List EventStreamFrame :=
  stream.written.filter fun frame => frame.event = .snapshot

end EventStream

structure Feed (ι κ : Type) where
  trigger : SnapshotTrigger ι
  registry : ServiceState
  /-- What the publisher has read and has not published. -/
  exported : ExportedSummaries
  exportedAt : Int
  hub : SnapshotHub
  streams : κ → EventStream
  freeSlots : Nat

inductive FeedStep (ι κ : Type) where
  | write (requester : ι) (operation : Operation)
  | storeDirty (requester : ι)
  | notifyOne (requester : ι)
  | swapDirty
  | notified
  | readState (nowMs : Int)
  | publishSnapshot
  | drain
  | deadline
  | stream (stream : κ) (action : StreamStep)

namespace Feed

variable {ι κ : Type} [DecidableEq ι] [DecidableEq κ] (sha256Hex : String → String)

/-- `main` publishes the empty registry before it spawns the publisher and the API. -/
def start (config : AppConfig) (observer : ObserverInfo) (createdAt publishedAt : Int) :
    Feed ι κ :=
  let registry := ServiceState.new config
  let exported := registry.exportSummaries publishedAt maxExportedSessions
  { trigger := SnapshotTrigger.new
    registry
    exported
    exportedAt := publishedAt
    hub := (SnapshotHub.new observer createdAt).publishSnapshot sha256Hex exported publishedAt
    streams := fun _ => EventStream.idle
    freeSlots := streamConnectionSlots }

/-- A step that neither writes the registry nor reads it nor publishes. -/
def moveTrigger (feed : Feed ι κ) (action : TriggerStep ι) : Option (Feed ι κ) :=
  (feed.trigger.step action).map fun trigger => { feed with trigger }

/-- `none` if the party does not stand before that step. -/
def step (feed : Feed ι κ) : FeedStep ι κ → Option (Feed ι κ)
  | .write requester operation =>
    (feed.trigger.step (.write requester)).map fun trigger =>
      { feed with trigger, registry := feed.registry.step operation }
  | .storeDirty requester => feed.moveTrigger (.storeDirty requester)
  | .notifyOne requester => feed.moveTrigger (.notifyOne requester)
  | .swapDirty => feed.moveTrigger .swapDirty
  | .notified => feed.moveTrigger .notified
  | .readState nowMs =>
    (feed.trigger.step .readState).map fun trigger =>
      { feed with
        trigger
        exported := feed.registry.exportSummaries nowMs maxExportedSessions
        exportedAt := nowMs }
  | .publishSnapshot =>
    (feed.trigger.step .publishSnapshot).map fun trigger =>
      { feed with
        trigger
        hub := feed.hub.publishSnapshot sha256Hex feed.exported feed.exportedAt }
  | .drain => feed.moveTrigger .drain
  | .deadline => feed.moveTrigger .deadline
  | .stream stream action =>
    ((feed.streams stream).step feed.hub feed.freeSlots action).map fun moved =>
      { feed with
        streams := Function.update feed.streams stream moved.1
        freeSlots := moved.2 }

def run (steps : List (FeedStep ι κ)) (feed : Feed ι κ) : Option (Feed ι κ) :=
  steps.foldlM (step sha256Hex) feed

/-- The writes of the registry, in the order of the run. -/
def operationsOf (steps : List (FeedStep ι κ)) : List Operation :=
  steps.filterMap fun
    | .write _ operation => some operation
    | _ => none

end Feed

end Moshwatch
