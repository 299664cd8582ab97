import Moshwatch.Ui.Exchange

namespace Moshwatch

/-- The client's decoders for what the daemon encodes. `serde_json` reads the strings and the
    integers of a response back as they were written. -/
structure ApiCodec (toVec : ApiPayload → Option (List UInt8)) where
  sessions : List UInt8 → Except String ApiSessionsResponse
  session : List UInt8 → Except String ApiSessionResponse
  sessions_read : ∀ response bytes taken, toVec (.sessions response) = some bytes →
    sessions bytes = .ok taken →
      taken.sessions.map (fun summary => (summary.sessionId, summary.pid)) =
        response.sessions.map fun summary => (summary.sessionId, summary.pid)
  session_read : ∀ response bytes taken, toVec (.session response) = some bytes →
    session bytes = .ok taken →
      taken.session.summary.sessionId = response.session.summary.sessionId

def NamesProcess (sessionId : String) (pid startedAtUnixMs : Int) : Prop :=
  sessionId = instrumentedSessionId pid startedAtUnixMs ∨
    sessionId = legacySessionId pid startedAtUnixMs

theorem NamesProcess.unique {sessionId : String} {pid startedAtUnixMs otherPid otherStart : Int}
    (names : NamesProcess sessionId pid startedAtUnixMs)
    (other : NamesProcess sessionId otherPid otherStart) :
    otherPid = pid ∧ otherStart = startedAtUnixMs := by
  rcases names with rfl | rfl <;> rcases other with same | same
  · exact (instrumentedSessionId_inj.mp same).imp Eq.symm Eq.symm
  · exact absurd same (instrumentedSessionId_ne_legacySessionId _ _ _ _)
  · exact absurd same.symm (instrumentedSessionId_ne_legacySessionId _ _ _ _)
  · exact (legacySessionId_inj.mp same).imp Eq.symm Eq.symm

theorem NamesProcess.routable {sessionId : String} {pid startedAtUnixMs : Int}
    (names : NamesProcess sessionId pid startedAtUnixMs) : Routable sessionId.toList := by
  rcases names with rfl | rfl
  · rw [toList_instrumentedSessionId]
    exact routable_named rfl _ _
  · rw [toList_legacySessionId]
    exact routable_named rfl _ _

namespace ApiContext

variable {context : ApiContext}

/-- The state is one that some run of the registry comes to. -/
def Reached (context : ApiContext) : Prop :=
  ∃ config operations, context.state = ServiceState.run config operations

theorem Reached.names_of_lookup (reached : context.Reached) {sessionId : String}
    {record : SessionRecord} (tracked : context.state.sessions.lookup sessionId = some record) :
    record.summary.sessionId = sessionId ∧
      NamesProcess sessionId record.summary.pid record.summary.startedAtUnixMs := by
  obtain ⟨config, operations, state⟩ := reached
  rw [state] at tracked
  obtain ⟨named, kinds⟩ :=
    (ServiceState.identities_run config operations).identified _ _ tracked
  rcases kinds with ⟨-, key⟩ | ⟨-, key⟩
  · exact ⟨named, .inl key⟩
  · exact ⟨named, .inr key⟩

theorem Reached.names_of_listed (reached : context.Reached) {nowMs : Int} {limit : Nat}
    {summary : SessionSummary}
    (listed : summary ∈ (context.state.exportSummaries nowMs limit).sessions) :
    NamesProcess summary.sessionId summary.pid summary.startedAtUnixMs := by
  obtain ⟨key, record, tracked, rfl⟩ := ServiceState.mem_exportSummaries listed
  obtain ⟨named, names⟩ := reached.names_of_lookup tracked
  change NamesProcess record.summary.sessionId record.summary.pid record.summary.startedAtUnixMs
  rw [named]
  exact names

end ApiContext

section Served

variable {libraries : ApiLibraries} (codec : ApiCodec libraries.toVec)

/-- The client has got `response` from a daemon that it asked for `path`. -/
structure Got {T : Type} (libraries : ApiLibraries) (decode : List UInt8 → Except String T)
    (path : String) (response : T) : Prop where
  exchanged : ∃ (exchange : Exchange) (context : ApiContext) (reply : ApiReply),
    exchange.method = "GET" ∧ exchange.path = path ∧ context.libraries = libraries ∧
      context.Reached ∧ exchange.Carries context reply ∧ exchange.result decode = .ok response

/-- The answers of a refresh come from a daemon, which may have gone on or have been restarted
    between two of them. -/
structure Answers.Served (answers : Answers) : Prop where
  listing : ∀ response, answers.listing = .ok response →
    Got libraries codec.sessions "/v1/sessions" response
  detail : ∀ path response, IsWord path.toList → answers.detail path = .ok response →
    Got libraries codec.session path response

variable {codec}

/-- A response that the client takes is what the route of its path encodes. -/
theorem Got.routed {T : Type} {decode : List UInt8 → Except String T} {path : String} {response : T}
    (got : Got libraries decode path response) :
    ∃ (context : ApiContext) (body : List UInt8) (contentType : String),
      context.libraries = libraries ∧ context.Reached ∧
      context.route "GET" path.toList (some .prometheusText) =
        .replied { status := 200, body, contentType } ∧ decode body = .ok response := by
  obtain ⟨exchange, context, reply, get, rfl, same, reached, carries, result⟩ := got.exchanged
  have routed := exchange.connection_eq context
  rw [get] at routed
  have answered : exchange.connection context = .replied reply := by
    have replies := carries.replied
    rcases route_cases context "GET" exchange.path.toList (some .prometheusText) with
      streams | ⟨other, answer, -, -⟩ | ⟨asks, -⟩
    · rw [routed, streams] at replies
      cases replies
    · rw [routed, answer] at replies ⊢
      cases replies
      rfl
    · exact absurd asks.1 (by decide)
  rw [answered] at routed
  rw [exchange.result_of_sent carries.sent carries.received, ApiReply.taken] at result
  obtain ⟨status, body, contentType⟩ := reply
  split_ifs at result with exceeds success
  · cases success
    refine ⟨context, body, contentType, same, reached, routed.symm, ?_⟩
    cases decoded : decode body with
    | error cause =>
      rw [decoded] at result
      cases result
    | ok taken =>
      rw [decoded] at result
      cases result
      rfl

theorem body_of_json {context : ApiContext} {payload : ApiPayload} {body : List UInt8}
    {contentType : String}
    (replied : (context.json payload).getD internalServerError =
      { status := 200, body, contentType }) :
    context.libraries.toVec payload = some body := by
  rw [ApiContext.json] at replied
  cases encoded : context.libraries.toVec payload with
  | none =>
    rw [encoded] at replied
    cases replied
  | some bytes =>
    rw [encoded] at replied
    cases replied
    rfl

theorem isWord_sessionPath {sessionId : String} (routable : Routable sessionId.toList) :
    IsWord (sessionPath sessionId).toList := by
  rw [sessionPath, String.toList_append]
  refine ⟨by simp, ?_⟩
  intro ch member
  rcases List.mem_append.mp member with front | id
  · have visible : ∀ ch ∈ "/v1/sessions/".toList, isWhitespace ch = false := by simp [isWhitespace]
    exact visible ch front
  · exact routable.visible ch id

theorem route_sessionPath (context : ApiContext) {sessionId : String}
    (routable : Routable sessionId.toList) (metricsFormat : Option MetricsTextFormat) :
    context.route "GET" (sessionPath sessionId).toList metricsFormat =
      .replied ((context.ofSession context.sessionPayload sessionId).getD internalServerError) := by
  rw [sessionPath, String.toList_append]
  have absent : '?' ∉ "/v1/sessions/".toList ++ sessionId.toList := by
    rw [List.mem_append]
    exact not_or.mpr ⟨by decide, routable.question⟩
  rw [route_sessions context absent (List.prefix_append _ _),
    buildResponse_session context routable, String.ofList_toList]
  rfl

theorem route_terminatePath (context : ApiContext) {sessionId : String}
    (routable : Routable sessionId.toList) (metricsFormat : Option MetricsTextFormat) :
    context.route "POST" (terminatePath sessionId).toList metricsFormat = .terminates sessionId := by
  have path : (terminatePath sessionId).toList =
      "/v1/sessions/".toList ++ (sessionId.toList ++ "/terminate".toList) := by
    rw [terminatePath, String.toList_append, String.toList_append, List.append_assoc]
  have absent : '?' ∉ "/v1/sessions/".toList ++ (sessionId.toList ++ "/terminate".toList) := by
    rw [List.mem_append, List.mem_append]
    exact not_or.mpr ⟨by decide, not_or.mpr ⟨routable.question, by decide⟩⟩
  rw [path, route_sessions context absent (List.prefix_append _ _),
    buildResponse_terminate context routable, String.ofList_toList]
  rfl

variable {answers : Answers} (served : answers.Served codec)

include served

theorem Answers.Served.names {listed : ApiSessionsResponse} (ok : answers.listing = .ok listed)
    {summary : SessionSummary} (member : summary ∈ listed.sessions) :
    ∃ startedAtUnixMs, NamesProcess summary.sessionId summary.pid startedAtUnixMs := by
  obtain ⟨context, body, contentType, rfl, reached, routed, decoded⟩ := (served.listing listed ok).routed
  have replied : (context.json (.sessions context.sessionsResponse)).getD internalServerError =
      { status := 200, body, contentType } := ApiConnection.replied.inj routed
  have rows := codec.sessions_read _ body listed (body_of_json replied) decoded
  have row : (summary.sessionId, summary.pid) ∈
      context.sessionsResponse.sessions.map fun summary => (summary.sessionId, summary.pid) := by
    rw [← rows]
    exact List.mem_map_of_mem member
  obtain ⟨exported, inside, same⟩ := List.mem_map.mp row
  obtain ⟨id, pid⟩ := Prod.mk.inj same
  rw [← id, ← pid]
  exact ⟨_, reached.names_of_listed inside⟩

/-- What the client takes for the detail of a listed session is about that session. -/
theorem Answers.Served.honest : answers.Honest := by
  intro listed ok summary member response answered
  obtain ⟨startedAtUnixMs, names⟩ := served.names ok member
  obtain ⟨context, body, contentType, rfl, reached, routed, decoded⟩ :=
    (served.detail _ response (isWord_sessionPath names.routable) answered).routed
  rw [route_sessionPath context names.routable] at routed
  have replied := ApiConnection.replied.inj routed
  rw [ApiContext.ofSession] at replied
  cases detail : context.state.sessionDetail summary.sessionId context.nowMs with
  | none =>
    rw [detail] at replied
    cases replied
  | some session =>
    rw [detail] at replied
    have same := codec.session_read _ body response (body_of_json replied) decoded
    obtain ⟨record, tracked, shown⟩ := Option.map_eq_some_iff.mp detail
    rw [same]
    change session.summary.sessionId = _
    rw [← shown]
    exact (reached.names_of_lookup tracked).1

end Served

end Moshwatch
