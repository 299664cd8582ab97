import Moshwatch.Core.Parse
import Moshwatch.Core.Responses
import Moshwatch.Daemon.ApiMessage
import Moshwatch.Daemon.EventStream
import Moshwatch.Daemon.Terminate
import Moshwatch.History.Concurrent
import Moshwatch.Metrics.Accept
import Moshwatch.Metrics.Otlp

namespace Moshwatch

/-- What the API encodes with `serde_json`. -/
inductive ApiPayload where
  | sessions (response : ApiSessionsResponse)
  | session (response : ApiSessionResponse)
  | coherenceSessions (response : ApiCoherenceSessionsResponse)
  | coherenceSession (response : ApiCoherenceSessionResponse)
  | coherenceExport (response : ApiCoherenceExportResponse)
  | capabilities (response : ApiAdapterCapabilitiesResponse)
  | config (response : ApiConfigResponse)
  | history (response : ApiHistoryResponse)
  | control (response : ApiSessionControlResponse)
  deriving DecidableEq

/-- What the handlers take from outside of the repository: the encoder, the digest of an export,
    and how a float is displayed and parsed. -/
structure ApiLibraries where
  toVec : ApiPayload → Option (List UInt8)
  sha256Hex : String → String
  reportJson : CoherenceSessionReport → String
  display : F64 → String
  parseF64 : List Char → Option F64

/-- The history store behind the API, with its files and whether a query slot is free. -/
structure ApiHistory where
  store : HistoryStore
  codec : HistoryCodec
  buffering : Buffering
  files : HistoryDir
  stats : HistoryStatsSnapshot
  slotFree : Bool

structure ApiContext where
  libraries : ApiLibraries
  state : ServiceState
  observer : ObserverInfo
  nowMs : Int
  history : Option ApiHistory
  runtimeStats : RuntimeStatsSnapshot
  otlpStats : OtlpExporterStatsSnapshot

/-- What becomes of a request that is routed: an answer (`none` for an error), or a call of
    `terminate_session`. -/
inductive ApiOutcome where
  | answer (reply : Option ApiReply)
  | terminate (sessionId : String)
  deriving DecidableEq

def metricsContentType : MetricsTextFormat → String
  | .prometheusText => "text/plain; version=0.0.4; charset=utf-8"
  | .openMetricsText => "application/openmetrics-text; version=1.0.0; charset=utf-8"

def HistoryStore.retentionWindowSecs (store : HistoryStore) : Int :=
  min (satMul store.retentionDays 86400) i64Max

section Targets

/-- `str::trim_start_matches` with a text that is not empty. -/
def trimStartMatches (pattern text : List Char) : List Char :=
  (fun text => (stripPrefix pattern text).getD text)^[text.length] text

/-- `str::trim_end_matches` with a text that is not empty. -/
def trimEndMatches (text pattern : List Char) : List Char :=
  (fun text => (stripSuffix text pattern).getD text)^[text.length] text

def splitTarget (target : List Char) : List Char × Option (List Char) :=
  match splitOnce target '?' with
  | some (path, query) => (path, some query)
  | none => (target, none)

def parseQueryValue (query : Option (List Char)) (key : List Char) : Option (List Char) := do
  let query ← query
  ((query.splitOn '&').filter fun pair => pair ≠ []).findSome? fun pair =>
    let (name, value) := (splitOnce pair '=').getD (pair, [])
    if name = key then some value else none

/-- A query parameter that is read by `parse` and refused by `refuses`. -/
def parseQuery {α : Type} (parse : List Char → Option α) (refuses : α → Option String)
    (query : Option (List Char)) (key : String) : Except String (Option α) :=
  match parseQueryValue query key.toList with
  | none => .ok none
  | some value =>
    match parse value with
    | none => .error s!"invalid {key} query parameter"
    | some parsed =>
      match refuses parsed with
      | some message => .error message
      | none => .ok (some parsed)

def parseNonnegativeI64Query (query : Option (List Char)) (key : String) :
    Except String (Option Int) :=
  parseQuery parseI64
    (fun parsed => if parsed < 0 then some s!"{key} must be non-negative" else none) query key

def parseUsizeQuery (query : Option (List Char)) (key : String) : Except String (Option Nat) :=
  parseQuery parseU64
    (fun parsed => if parsed = 0 then some s!"{key} must be greater than zero" else none) query key

end Targets

namespace ApiReply

/-- `{"error":"…"}` -/
def error (status : Nat) (message : String) : ApiReply :=
  { status
    body := asBytes ("\x7b\"error\":\"" ++ message ++ "\"\x7d")
    contentType := "application/json" }

def badRequest (message : String) : ApiReply := error 400 ("bad request: " ++ message)

end ApiReply

namespace ApiContext

variable (context : ApiContext)

def json (payload : ApiPayload) : Option ApiReply :=
  (context.libraries.toVec payload).map fun body =>
    { status := 200, body, contentType := "application/json" }

def sessionsResponse : ApiSessionsResponse :=
  let exported := context.state.exportSummaries context.nowMs maxExportedSessions
  { schemaVersion := apiSchemaVersion
    observer := context.observer
    generatedAtUnixMs := context.nowMs
    totalSessions := exported.totalSessions
    truncatedSessionCount := exported.truncatedSessionCount
    droppedSessionsTotal := exported.droppedSessionsTotal
    sessions := exported.sessions }

def report (session : SessionSnapshot) : CoherenceSessionReport :=
  buildCoherenceSessionReport context.libraries.sha256Hex context.observer session

def coherenceSessionsResponse : ApiCoherenceSessionsResponse :=
  let exported := context.state.exportSummaries context.nowMs maxExportedSessions
  let snapshots := exported.sessions.filterMap fun summary =>
    context.state.sessionDetail summary.sessionId context.nowMs
  { schemaVersion := apiSchemaVersion
    observer := context.observer
    generatedAtUnixMs := context.nowMs
    totalSessions := exported.totalSessions
    truncatedSessionCount := exported.truncatedSessionCount
    sessions := snapshots.map context.report }

def capabilitiesResponse : ApiAdapterCapabilitiesResponse :=
  { schemaVersion := apiSchemaVersion
    observer := context.observer
    generatedAtUnixMs := context.nowMs
    adapterContractVersion := adapterContractVersion
    daemonLoadsExternalCode := false
    exportSurfaces := adapterExportSurfaces }

def configResponse : ApiConfigResponse :=
  { schemaVersion := apiSchemaVersion
    observer := context.observer
    generatedAtUnixMs := context.nowMs
    config := context.state.config.toApi }

def ofSession (payload : SessionSnapshot → ApiPayload) (sessionId : String) : Option ApiReply :=
  match context.state.sessionDetail sessionId context.nowMs with
  | some session => context.json (payload session)
  | none => some (.error 404 "session not found")

def coherenceSessionPayload (session : SessionSnapshot) : ApiPayload :=
  .coherenceSession
    { schemaVersion := apiSchemaVersion
      observer := context.observer
      generatedAtUnixMs := context.nowMs
      session := context.report session }

def coherenceExportPayload (session : SessionSnapshot) : ApiPayload :=
  .coherenceExport
    { schemaVersion := apiSchemaVersion
      observer := context.observer
      generatedAtUnixMs := context.nowMs
      exported := buildCoherenceExport context.libraries.sha256Hex context.libraries.reportJson
        context.observer context.nowMs session }

def sessionPayload (session : SessionSnapshot) : ApiPayload :=
  .session
    { schemaVersion := apiSchemaVersion
      observer := context.observer
      generatedAtUnixMs := context.nowMs
      session }

def metrics (metricsFormat : Option MetricsTextFormat) : ApiReply :=
  match metricsFormat with
  | none => .error 406 "not acceptable"
  | some format =>
    let exported := context.state.exportSummaries context.nowMs maxMetricsRenderedSessions
    { status := 200
      body := asBytes (renderMetrics context.libraries.display context.state.config context.observer
        exported (context.history.map ApiHistory.stats) context.runtimeStats context.otlpStats format)
      contentType := metricsContentType format }

/-- The history route; the query of the store runs after the parameters are read. -/
def historyReply (sessionId : String) (query : Option (List Char)) : Option ApiReply :=
  match context.history with
  | none => some (.error 501 "history persistence is disabled")
  | some history =>
    if !history.slotFree then some (.error 503 "history query busy")
    else
      match parseNonnegativeI64Query query "since_seconds" with
      | .error message => some (.badRequest message)
      | .ok sinceSeconds =>
        let sinceSeconds := min (sinceSeconds.getD 3600) history.store.retentionWindowSecs
        match parseUsizeQuery query "limit" with
        | .error message => some (.badRequest message)
        | .ok limit =>
          let sinceUnixMs := satSubI64 context.nowMs (min (sinceSeconds * 1000) i64Max)
          match history.store.querySession history.codec history.buffering history.files sessionId
            sinceUnixMs (limit.getD 1000) with
          | none => none
          | some samples =>
            context.json (.history
              { schemaVersion := apiSchemaVersion
                observer := context.observer
                generatedAtUnixMs := context.nowMs
                sessionId
                samples })

/-- `path.trim_start_matches(prefix)`, as a session id. -/
def idBehind (front : String) (path : List Char) : String :=
  String.ofList (trimStartMatches front.toList path)

/-- The id in `/v1/sessions/<id>/terminate`. -/
def terminateId (path : List Char) : String :=
  String.ofList ((trimEndMatches (trimStartMatches "/v1/sessions/".toList path)
    "/terminate".toList).rdropWhile fun ch => ch = '/')

def buildResponse (method : String) (path : List Char) (query : Option (List Char))
    (metricsFormat : Option MetricsTextFormat) : ApiOutcome :=
  let starts (front : String) : Bool := front.toList.isPrefixOf path
  let ends (back : String) : Bool := back.toList.isSuffixOf path
  if method = "GET" && path = "/v1/sessions".toList then
    .answer (context.json (.sessions context.sessionsResponse))
  else if method = "GET" && path = "/v1/coherence/sessions".toList then
    .answer (context.json (.coherenceSessions context.coherenceSessionsResponse))
  else if method = "GET" && path = "/v1/adapter/capabilities".toList then
    .answer (context.json (.capabilities context.capabilitiesResponse))
  else if method = "GET" && starts "/v1/coherence/sessions/" then
    .answer (context.ofSession context.coherenceSessionPayload
      (idBehind "/v1/coherence/sessions/" path))
  else if method = "GET" && starts "/v1/coherence/exports/" then
    .answer (context.ofSession context.coherenceExportPayload
      (idBehind "/v1/coherence/exports/" path))
  else if method = "GET" && path = "/v1/config".toList then
    .answer (context.json (.config context.configResponse))
  else if method = "GET" && path = "/metrics".toList then
    .answer (some (context.metrics metricsFormat))
  else if method = "GET" && starts "/v1/sessions/" then
    .answer (context.ofSession context.sessionPayload (idBehind "/v1/sessions/" path))
  else if method = "POST" && starts "/v1/sessions/" && ends "/terminate" then
    .terminate (terminateId path)
  else if method = "GET" && starts "/v1/history/" then
    .answer (context.historyReply (idBehind "/v1/history/" path) query)
  else .answer (some (.error 404 "not found"))

end ApiContext

/-- How a connection goes on after its request: closed without an answer, answered, turned into an
    event stream, or handed to `terminate_session`. -/
inductive ApiConnection where
  | closed
  | replied (reply : ApiReply)
  | streams
  | terminates (sessionId : String)
  deriving DecidableEq

def RequestHeadError.text : RequestHeadError → String
  | .exceeded => s!"request head exceeded {maxRequestHeadBytes} bytes"
  | .readRequest => "read request"
  | .unexpectedEof => "unexpected eof while reading request"

def internalServerError : ApiReply := .error 500 "internal server error"

/-- What a call of `terminate_session` answers. -/
def ApiContext.controlReply (context : ApiContext) (answer : TerminateAnswer) : ApiReply :=
  match answer with
  | .refused status message => .error status message
  | .failed _ => internalServerError
  | .terminated response => (context.json (.control response)).getD internalServerError

/-- The replies to a connection: the one it has come to, or that of a call of `terminate_session`
    for its session. -/
inductive ApiConnection.Replies (context : ApiContext) : ApiConnection → ApiReply → Prop where
  | replied (reply : ApiReply) : Replies context (.replied reply) reply
  | controlled (call : TerminateRequest) (table : ProcessTable) (steps : List TerminateEvent)
      (answer : TerminateAnswer) (state : call.state = context.state)
      (observer : call.observer = context.observer) (now : call.nowMs = context.nowMs)
      (answered : (call.run table steps).stage = .answered answer) :
      Replies context (.terminates call.sessionId) (context.controlReply answer)

def requestWords (request : String) : List (List Char) :=
  splitWhitespace ((strLines request.toList).head?.getD [])

def ApiOutcome.connection : ApiOutcome → ApiConnection
  | .answer reply => .replied (reply.getD internalServerError)
  | .terminate sessionId => .terminates sessionId

/-- What `handle_connection` does once it has the target of a request. -/
def ApiContext.route (context : ApiContext) (method : String) (target : List Char)
    (metricsFormat : Option MetricsTextFormat) : ApiConnection :=
  let (path, query) := splitTarget target
  if path = "/v1/events/stream".toList then .streams
  else (context.buildResponse method path query metricsFormat).connection

/-- `handle_connection`; `none` is a request head that does not arrive in time. -/
def handleConnection (context : ApiContext) (request : Option (Except RequestHeadError String)) :
    ApiConnection :=
  match request with
  | none => .replied (.error 408 "request timeout")
  | some (.error error) => .replied (.badRequest error.text)
  | some (.ok request) =>
    if trim request = "" then .closed
    else
      let words := requestWords request
      let method := String.ofList (words[0]?.getD [])
      let target := words[1]?.getD []
      if method ≠ "GET" ∧ method ≠ "POST" then .replied (.error 405 "method not allowed")
      else
        context.route method target
          (requestedMetricsFormat context.libraries.parseF64 request.toList)

end Moshwatch
