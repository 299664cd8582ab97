import Moshwatch.General.Eviction
import Moshwatch.General.Loop
import Moshwatch.State.Record

namespace Moshwatch

abbrev SessionMap := KeyedStore String SessionRecord

structure ServiceState where
  config : AppConfig
  sessions : SessionMap
  droppedSessionsTotal : Nat

structure DiscoveredSession where
  pid : Int
  startedAtUnixMs : Int
  bindAddr : Option String
  udpPort : Option Nat
  cmdline : String
  deriving DecidableEq

def evictionClass (record : SessionRecord) : Nat :=
  match record.summary.kind, record.shutdown with
  | .legacy, _ => 0
  | .instrumented, true => 1
  | .instrumented, false => 2

/-- Lower classes lose first, then older observations, then older starts. -/
def compareEvictionPriority (left right : SessionRecord) : Ordering :=
  (compare (evictionClass left) (evictionClass right)).then <|
    (compare left.summary.lastObservedUnixMs right.summary.lastObservedUnixMs).then <|
      (compare left.summary.startedAtUnixMs right.summary.startedAtUnixMs).then <|
        compare left.summary.sessionId right.summary.sessionId

namespace ServiceState

def new (config : AppConfig) : ServiceState :=
  { config, sessions := ∅, droppedSessionsTotal := 0 }

def worstRecord (state : ServiceState) : Option (Sigma fun _ : String => SessionRecord) :=
  Eviction.minBy? (fun left right => compareEvictionPriority left.2 right.2) state.sessions.entries

/-- One round of the loop of `enforce_session_cap`; `none` leaves the loop. -/
def enforceSessionCapRound (state : ServiceState) : Option ServiceState :=
  if state.config.maxTrackedSessions < state.sessions.size then
    match state.worstRecord with
    | none => none
    | some worst =>
      if state.sessions.contains worst.1 then
        some { state with
          sessions := state.sessions.erase worst.1
          droppedSessionsTotal := satAdd state.droppedSessionsTotal 1 }
      else some state
  else none

/-- The fuel covers every session; `enforceSessionCap_exits` shows that the loop has ended. -/
def enforceSessionCap (state : ServiceState) : ServiceState :=
  Loop.iterate enforceSessionCapRound state.sessions.size state

/-- Whether the admission is refused, and the state with the refusal counted. -/
def rejectNewActiveInstrumentedSession (state : ServiceState) (shutdown : Bool) :
    Bool × ServiceState :=
  if shutdown || state.sessions.size < state.config.maxTrackedSessions then (false, state)
  else
    match state.worstRecord with
    | none => (false, state)
    | some worst =>
      if evictionClass worst.2 = 2 then
        (true, { state with droppedSessionsTotal := satAdd state.droppedSessionsTotal 1 })
      else (false, state)

def upgradeRecord (sessionId : String) (legacyRecord : SessionRecord) : SessionRecord :=
  { legacyRecord with
    summary := { legacyRecord.summary with sessionId, kind := .instrumented } }

/-- Move a legacy placeholder of the same process to the instrumented key. -/
def upgradeLegacy (sessions : SessionMap) (sessionId legacyId : String) : SessionMap :=
  if sessionId ≠ legacyId && !sessions.contains sessionId then
    match sessions.lookup legacyId with
    | some legacyRecord =>
      (sessions.erase legacyId).insert sessionId (upgradeRecord sessionId legacyRecord)
    | none => sessions
  else sessions

/-- The record an event is applied to: the tracked one or a new one. -/
def telemetryEntry (sessions : SessionMap) (sessionId : String) (event : TelemetryEvent)
    (startedAt initialObservedUnixMs : Int) : SessionRecord :=
  (sessions.lookup sessionId).getD
    (newInstrumentedRecord sessionId event startedAt initialObservedUnixMs)

/-- `apply_telemetry_at` up to its closing `enforce_session_cap`, and whether it returned
    before that because the admission was refused. -/
def admitTelemetry (state : ServiceState) (sessionId : String) (event : TelemetryEvent)
    (receivedAtUnixMs : Int) : Bool × ServiceState :=
  let initialObservedUnixMs := min event.unixMs receivedAtUnixMs
  let startedAt := event.startedAtUnixMs.getD initialObservedUnixMs
  let sessions := upgradeLegacy state.sessions sessionId (legacySessionId event.pid startedAt)
  let state := { state with sessions }
  let admission :=
    if sessions.contains sessionId then (false, state)
    else state.rejectNewActiveInstrumentedSession event.sessionShutdown
  if admission.1 then admission
  else
    let entry := telemetryEntry sessions sessionId event startedAt initialObservedUnixMs
    let record := applyEvent state.config sessionId event startedAt receivedAtUnixMs entry
    (false, { state with sessions := sessions.insert sessionId record })

def applyTelemetryAt (state : ServiceState) (sessionId : String) (event : TelemetryEvent)
    (receivedAtUnixMs : Int) : ServiceState :=
  let admission := state.admitTelemetry sessionId event receivedAtUnixMs
  if admission.1 then admission.2 else admission.2.enforceSessionCap

/-- The record `or_insert_with` creates for a process discovery lists first. -/
def newLegacyRecord (sessionId : String) (session : DiscoveredSession) (nowMs : Int) :
    SessionRecord :=
  { summary :=
      { sessionId
        displaySessionId := none
        pid := session.pid
        kind := .legacy
        health := .legacy
        startedAtUnixMs := session.startedAtUnixMs
        lastObservedUnixMs := nowMs
        counterResetUnixMs := none
        bindAddr := session.bindAddr
        udpPort := session.udpPort
        clientAddr := none
        peer := {}
        cmdline := session.cmdline
        metrics := {} }
    history := []
    counters := []
    shutdown := false }

/-- What a discovery entry does to the record it names. -/
def refreshRecord (config : AppConfig) (session : DiscoveredSession) (nowMs : Int)
    (entry : SessionRecord) : SessionRecord :=
  let summary := { entry.summary with pid := session.pid }
  if summary.kind = .legacy then
    { entry with
      summary := { summary with
        startedAtUnixMs := session.startedAtUnixMs
        lastObservedUnixMs := nowMs
        bindAddr := session.bindAddr.or summary.bindAddr
        udpPort := session.udpPort.or summary.udpPort
        cmdline := session.cmdline
        health := .legacy } }
  else
    { entry with
      summary := { summary with
        health := classifyHealth summary.kind summary.metrics config.thresholds } }

/-- The key a discovery entry is recorded under: the instrumented one if that is tracked. -/
def discoveredSessionId (sessions : SessionMap) (session : DiscoveredSession) : String :=
  let instrumentedId := instrumentedSessionId session.pid session.startedAtUnixMs
  if sessions.contains instrumentedId then instrumentedId
  else legacySessionId session.pid session.startedAtUnixMs

/-- The body of the loop of `refresh_discovery`, over the sessions and the seen ids. -/
def discoverSession (config : AppConfig) (nowMs : Int) (loop : SessionMap × List String)
    (session : DiscoveredSession) : SessionMap × List String :=
  let (sessions, seenIds) := loop
  let sessionId := discoveredSessionId sessions session
  let entry := (sessions.lookup sessionId).getD (newLegacyRecord sessionId session nowMs)
  (sessions.insert sessionId (refreshRecord config session nowMs entry), sessionId :: seenIds)

def staleCutoffMs (config : AppConfig) : Int := asI64 (max (wrapMul config.cleanupIntervalMs 3) 30000)

def shutdownGraceMs (config : AppConfig) : Int := asI64 (max config.discoveryIntervalMs 5000)

def legacyGraceMs (config : AppConfig) : Int := asI64 (max config.discoveryIntervalMs 5000)

/-- The predicate of `retain` in `refresh_discovery`. -/
def keepsRecord (config : AppConfig) (seenIds : List String) (nowMs : Int) (sessionId : String)
    (entry : SessionRecord) : Bool :=
  if seenIds.contains sessionId then true
  else
    let ageMs := nowMs - entry.summary.lastObservedUnixMs
    if entry.summary.kind ≠ .instrumented then ageMs < legacyGraceMs config
    else if entry.shutdown then ageMs < shutdownGraceMs config
    else ageMs < staleCutoffMs config

/-- `refresh_discovery` up to its closing `enforce_session_cap`. -/
def mergeDiscovery (state : ServiceState) (discovered : List DiscoveredSession) (nowMs : Int) :
    ServiceState :=
  let (sessions, seenIds) :=
    discovered.foldl (discoverSession state.config nowMs) (state.sessions, [])
  { state with sessions := sessions.retain (keepsRecord state.config seenIds nowMs) }

def refreshDiscovery (state : ServiceState) (discovered : List DiscoveredSession) (nowMs : Int) :
    ServiceState := (state.mergeDiscovery discovered nowMs).enforceSessionCap

end ServiceState

end Moshwatch
