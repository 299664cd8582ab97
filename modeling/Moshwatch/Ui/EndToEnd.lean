import Moshwatch.Ui.Served

namespace Moshwatch

namespace App

def RowsNamed (app : App) : Prop :=
  ∀ summary ∈ app.summaries, ∃ startedAtUnixMs,
    NamesProcess summary.sessionId summary.pid startedAtUnixMs

variable {libraries : ApiLibraries} {codec : ApiCodec libraries.toVec} {app : App}
  {answers : Answers}

theorem SameView.rowsNamed {changed : App} (same : app.SameView changed) (named : app.RowsNamed) :
    changed.RowsNamed := by
  rw [RowsNamed, same.summaries]
  exact named

theorem rowsNamed_refresh (served : answers.Served codec) (named : app.RowsNamed) :
    (app.refresh answers).RowsNamed := by
  cases listed : answers.listing with
  | error error =>
    rw [refresh_error listed]
    exact named
  | ok response =>
    rw [refresh_ok listed, RowsNamed, (takeDetail_frame _ app answers).1]
    exact fun summary member => served.names listed member

end App

namespace AppRun

variable {libraries : ApiLibraries} {codec : ApiCodec libraries.toVec} {answers : Answers}
  {events : List AppEvent}

theorem Stepped.rowsNamed {run : AppRun} {event : AppEvent} {app : App}
    (stepped : run.Stepped event app) (served : event.answers.Served codec)
    (named : run.app.RowsNamed) : app.RowsNamed := by
  cases stepped with
  | kept app same => exact same.rowsNamed named
  | refreshed app same => exact App.rowsNamed_refresh served (same.rowsNamed named)
  | moved app index placed moves =>
    apply App.rowsNamed_refresh served
    rw [index]
    exact named

theorem rowsNamed_run (opened : answers.Served codec)
    (served : ∀ event ∈ events, event.answers.Served codec) :
    (AppRun.run answers events).app.RowsNamed := by
  induction events using List.reverseRecOn with
  | nil => exact App.rowsNamed_refresh opened fun summary member => by cases member
  | append_singleton events event ih =>
    rw [run_concat]
    exact (stepped _ event).rowsNamed (served event (by simp))
      (ih fun earlier member => served earlier (List.mem_append_left _ member))

/-- Against a daemon that answers where the selection moves, the detail shown is that of the
    selected session. -/
theorem detail_of_served_session (opened : answers.Served codec)
    (served : ∀ event ∈ events, event.answers.Served codec)
    (complete : ∀ event ∈ events, event.moves = true → event.answers.Complete) :
    ∀ detail, (AppRun.run answers events).app.detail = some detail →
      (AppRun.run answers events).app.selectedId = some detail.summary.sessionId :=
  paired_run opened.honest (fun event member => (served event member).honest) complete

theorem Prompted.names {pending : PendingTerminate} (prompted : Prompted answers events pending)
    (opened : answers.Served codec) (served : ∀ event ∈ events, event.answers.Served codec) :
    ∃ startedAtUnixMs, NamesProcess pending.sessionId pending.pid startedAtUnixMs := by
  obtain ⟨before, arming, after, pending, arms, running, unprompted, row, undecided⟩ := prompted
  have named := rowsNamed_run opened fun event member => served event (List.mem_append_left _ member)
  obtain ⟨summary, selected, rfl⟩ := Option.map_eq_some_iff.mp row
  exact named summary (List.mem_of_getElem? selected)

end AppRun

namespace TerminateRequest

variable {call : TerminateRequest} {pid startedAtUnixMs : Int}

theorem Records.namesProcess (recorded : call.Records pid startedAtUnixMs) :
    NamesProcess call.sessionId pid startedAtUnixMs := recorded.2

/-- A signalled process has the pid that the id of the call names, and if the signal is sent in
    time it is the process that the id names. -/
theorem signalled_named (named : NamesProcess call.sessionId pid startedAtUnixMs)
    (table : ProcessTable) (steps : List TerminateEvent) {receiver : Int} {process : Process}
    (signalled : (receiver, process) ∈ (call.run table steps).signalled) :
    receiver = pid ∧
      (Guarded.EveryStep call.step call.SafeSignal (start table) steps →
        process.startedAtUnixMs = startedAtUnixMs ∧ process.IsMoshServer call.currentExe) := by
  have standing := call.standing_run table steps
  have answered : ∃ response, (call.run table steps).stage.answer = some (.terminated response) := by
    by_contra unsent
    push Not at unsent
    rw [standing.silent unsent] at signalled
    cases signalled
  obtain ⟨response, answer⟩ := answered
  obtain ⟨recordedStart, reached, sent, recorded⟩ := standing.sent response answer
  rw [sent, List.mem_singleton, Prod.mk.injEq] at signalled
  obtain ⟨rfl, rfl⟩ := signalled
  refine ⟨(named.unique recorded.namesProcess).1, ?_⟩
  intro safe
  have promise := (call.promise_run table steps).mpr safe
  rw [Promise, TerminateStage.eq_answered answer] at promise
  obtain ⟨receives, only, current, supported⟩ := promise
  rw [sent, List.cons.injEq, Prod.mk.injEq] at only
  obtain ⟨⟨-, rfl⟩, -⟩ := only
  exact ⟨(named.unique current.namesProcess).2, supported⟩

end TerminateRequest

section EndToEnd

variable {libraries : ApiLibraries} {codec : ApiCodec libraries.toVec} {answers : Answers}
  {events : List AppEvent} {pending : PendingTerminate}

/-- From the prompt to the signal: the confirmed request is routed to the termination of the session
    of the prompt, in whatever state the daemon then is and in whatever pieces the request arrives;
    and only the process whose pid the prompt showed is signalled, the one that was listed then
    unless the pid is taken over in the moment of the signal. -/
theorem signals_what_was_prompted (opened : answers.Served codec)
    (served : ∀ event ∈ events, event.answers.Served codec)
    (prompted : AppRun.Prompted answers events pending) :
    ∃ startedAtUnixMs, NamesProcess pending.sessionId pending.pid startedAtUnixMs ∧
      (∀ (exchange : Exchange) (context : ApiContext), exchange.method = "POST" →
        exchange.path = terminatePath pending.sessionId →
        exchange.connection context = .terminates pending.sessionId) ∧
      ∀ (call : TerminateRequest) (table : ProcessTable) (steps : List TerminateEvent)
        (receiver : Int) (process : Process), call.sessionId = pending.sessionId →
        (receiver, process) ∈ (call.run table steps).signalled →
        receiver = pending.pid ∧
          (Guarded.EveryStep call.step call.SafeSignal (TerminateRequest.start table) steps →
            process.startedAtUnixMs = startedAtUnixMs ∧
              process.IsMoshServer call.currentExe) := by
  obtain ⟨startedAtUnixMs, named⟩ := prompted.names opened served
  refine ⟨startedAtUnixMs, named, ?_, ?_⟩
  · intro exchange context post path
    rw [exchange.connection_eq, post, path]
    exact route_terminatePath context named.routable _
  · intro call table steps receiver process same signalled
    rw [← same] at named
    exact TerminateRequest.signalled_named named table steps signalled

end EndToEnd

section Sample

def foundSession : List Operation := [.discovery [⟨1, 10, none, none, "mosh-server new"⟩] 2000]

/-- The beginning of an answer in JSON. -/
def foundHead : String :=
  "\x7b\"schema_version\":5,\"observer\":\x7b\"node_name\":\"node-1\"," ++
    "\"system_id\":\"system-1\"\x7d,\"generated_at_unix_ms\":3000,"

/-- The fields of the discovered session in JSON. -/
def foundFields : List UInt8 :=
  let breakdown := "\x7b\"transmissions_total\":null,\"retransmits_total\":null," ++
    "\"state_updates_total\":null,\"empty_acks_total\":null\x7d"
  asBytes ("\"session_id\":\"legacy:10:1\",\"display_session_id\":null,\"pid\":1," ++
    "\"kind\":\"legacy\",\"health\":\"legacy\",\"started_at_unix_ms\":10," ++
    "\"last_observed_unix_ms\":2000," ++
    "\"bind_addr\":null,\"udp_port\":null,\"client_addr\":null,\"peer\":\x7b" ++
    "\"current_client_addr\":null,\"last_client_addr\":null,\"previous_client_addr\":null," ++
    "\"last_client_seen_at_unix_ms\":null,\"client_addr_changed_at_unix_ms\":null\x7d," ++
    "\"cmdline\":\"mosh-server new\",\"metrics\":\x7b\"srtt_ms\":null,\"rttvar_ms\":null," ++
    "\"last_rtt_ms\":null,\"last_heard_age_ms\":null,\"remote_state_age_ms\":null," ++
    "\"packets_tx_total\":null,\"packets_rx_total\":null,\"retransmits_total\":null," ++
    "\"empty_acks_tx_total\":null,\"state_updates_tx_total\":null," ++
    "\"state_updates_rx_total\":null,\"duplicate_states_rx_total\":null," ++
    "\"out_of_order_states_rx_total\":null,\"retransmit_pct_10s\":null," ++
    "\"retransmit_pct_60s\":null,\"retransmit_window_10s_complete\":false," ++
    "\"retransmit_window_60s_complete\":false,\"retransmit_window_10s_breakdown\":" ++
    breakdown ++ ",\"retransmit_window_60s_breakdown\":" ++ breakdown ++ "\x7d")

def foundJson : List UInt8 :=
  asBytes (foundHead ++ "\"total_sessions\":1,\"truncated_session_count\":0," ++
    "\"dropped_sessions_total\":0,\"sessions\":[\x7b") ++ foundFields ++ asBytes "\x7d]\x7d"

def foundDetailJson : List UInt8 :=
  asBytes (foundHead ++ "\"session\":\x7b") ++ foundFields ++
    asBytes ",\"total_history_points\":0,\"truncated_history_points\":0,\"history\":[]\x7d\x7d"

def foundControlJson : List UInt8 :=
  asBytes (foundHead ++ "\"session_id\":\"legacy:10:1\",\"pid\":1,\"action\":\"terminate\"\x7d")

def foundSummary : SessionSummary :=
  { sessionId := "legacy:10:1"
    displaySessionId := none
    pid := 1
    kind := .legacy
    health := .legacy
    startedAtUnixMs := 10
    lastObservedUnixMs := 2000
    counterResetUnixMs := none
    bindAddr := none
    udpPort := none
    clientAddr := none
    peer := {}
    cmdline := "mosh-server new"
    metrics := {} }

def foundListing : ApiSessionsResponse :=
  { schemaVersion := 5
    observer := AppRun.sampleObserver
    generatedAtUnixMs := 3000
    totalSessions := 1
    truncatedSessionCount := 0
    droppedSessionsTotal := 0
    sessions := [foundSummary] }

def foundDetail : ApiSessionResponse :=
  { schemaVersion := 5
    observer := AppRun.sampleObserver
    generatedAtUnixMs := 3000
    session :=
      { summary := foundSummary
        totalHistoryPoints := 0
        truncatedHistoryPoints := 0
        history := [] } }

def foundControl : ApiSessionControlResponse :=
  { schemaVersion := 5
    observer := AppRun.sampleObserver
    generatedAtUnixMs := 3000
    sessionId := "legacy:10:1"
    pid := 1
    action := .terminate }

/-- The encoder on what the daemon answers about that session. -/
def foundLibraries : ApiLibraries where
  toVec payload :=
    if payload = .sessions foundListing then some foundJson
    else if payload = .session foundDetail then some foundDetailJson
    else if payload = .control foundControl then some foundControlJson
    else none
  sha256Hex text := text
  reportJson _ := ""
  display _ := ""
  parseF64 _ := none

def decodeAs {T : Type} (json : List UInt8) (value : T) (bytes : List UInt8) : Except String T :=
  if bytes = json then .ok value else .error "expected value"

theorem decodeAs_ok {T : Type} {json bytes : List UInt8} {value taken : T}
    (decoded : decodeAs json value bytes = .ok taken) : value = taken := by
  rw [decodeAs] at decoded
  split at decoded
  · exact Except.ok.inj decoded
  · cases decoded

theorem decodeAs_self {T : Type} (json : List UInt8) (value : T) :
    decodeAs json value json = .ok value := if_pos rfl

theorem foundLibraries_sessions :
    foundLibraries.toVec (.sessions foundListing) = some foundJson := by
  simp [foundLibraries]

theorem foundLibraries_session :
    foundLibraries.toVec (.session foundDetail) = some foundDetailJson := by
  simp [foundLibraries]

theorem foundLibraries_control :
    foundLibraries.toVec (.control foundControl) = some foundControlJson := by
  simp [foundLibraries]

def foundCodec : ApiCodec foundLibraries.toVec where
  sessions := decodeAs foundJson foundListing
  session := decodeAs foundDetailJson foundDetail
  sessions_read := by
    intro response bytes taken encoded decoded
    rw [← decodeAs_ok decoded]
    simp only [foundLibraries, reduceCtorEq, if_false] at encoded
    split at encoded
    · rename_i listing
      cases listing
      rfl
    · cases encoded
  session_read := by
    intro response bytes taken encoded decoded
    rw [← decodeAs_ok decoded]
    simp only [foundLibraries, reduceCtorEq, if_false] at encoded
    split at encoded
    · rename_i detail
      cases detail
      rfl
    · cases encoded

theorem foundCodec_sessions : foundCodec.sessions foundJson = .ok foundListing := by
  simp only [foundCodec, decodeAs_self]

theorem foundCodec_session : foundCodec.session foundDetailJson = .ok foundDetail := by
  simp only [foundCodec, decodeAs_self]

def foundContext : ApiContext where
  libraries := foundLibraries
  state := ServiceState.run {} foundSession
  observer := AppRun.sampleObserver
  nowMs := 3000
  history := none
  runtimeStats := {}
  otlpStats := {}

theorem foundContext_sessionsResponse : foundContext.sessionsResponse = foundListing := by
  decide +kernel

theorem foundContext_sessionDetail :
    (foundContext.state.sessionDetail "legacy:10:1" 3000).map foundContext.sessionPayload =
      some (.session foundDetail) := by
  decide +kernel

def foundReply (body : List UInt8) : ApiReply :=
  { status := 200, body, contentType := "application/json" }

theorem foundContext_json {payload : ApiPayload} {body : List UInt8}
    (encoded : foundLibraries.toVec payload = some body) :
    foundContext.json payload = some (foundReply body) := by
  rw [ApiContext.json]
  change (foundLibraries.toVec payload).map _ = _
  rw [encoded]
  rfl

/-- A request that one read of the daemon takes. -/
structure FitsOneRead (method path : String) : Prop where
  isMethod : method = "GET" ∨ method = "POST"
  isPath : IsWord path.toList
  short : (asBytes (requestText method path)).length ≤ requestChunkBytes

/-- A request that arrives whole, with the reply in one piece. -/
def wholeExchange (method path : String) (reply : ApiReply) (fits : FitsOneRead method path) :
    Exchange where
  method := method
  path := path
  sent := [asBytes (requestText method path)]
  received := [reply.bytes]
  isMethod := fits.isMethod
  isPath := fits.isPath
  bounded := fits.short.trans (by decide)
  delivered := List.flatten_singleton
  read := by
    intro chunk member
    rw [List.mem_singleton.mp member]
    refine ⟨?_, fits.short⟩
    rw [asBytes_requestText, HeadBody.message]
    simp
  nonempty := by
    intro chunk member
    rw [List.mem_singleton.mp member, bytes_eq, HeadBody.message]
    simp

theorem found_short : ∀ body ∈ [foundJson, foundDetailJson, foundControlJson],
    (foundReply body).bytes.length ≤ maxHttpResponseBytes := by
  decide +kernel

theorem foundJson_short : (foundReply foundJson).bytes.length ≤ maxHttpResponseBytes :=
  found_short _ (by simp)

theorem foundDetailJson_short :
    (foundReply foundDetailJson).bytes.length ≤ maxHttpResponseBytes :=
  found_short _ (by simp)

theorem foundControlJson_short :
    (foundReply foundControlJson).bytes.length ≤ maxHttpResponseBytes :=
  found_short _ (by simp)

theorem wholeExchange_carries {method path : String} {reply : ApiReply}
    (fits : FitsOneRead method path)
    (replies : (foundContext.route method path.toList (some .prometheusText)).Replies foundContext
      reply) : (wholeExchange method path reply fits).Carries foundContext reply where
  replied := by
    rw [Exchange.connection_eq]
    exact replies
  received := List.flatten_singleton

theorem fitsOneRead_listing : FitsOneRead "GET" "/v1/sessions" where
  isMethod := .inl rfl
  isPath := ⟨by decide, by simp [isWhitespace]⟩
  short := by decide

theorem fitsOneRead_detail : FitsOneRead "GET" (sessionPath "legacy:10:1") where
  isMethod := .inl rfl
  isPath := ⟨by decide, by simp [sessionPath, isWhitespace]⟩
  short := by decide

theorem fitsOneRead_terminate : FitsOneRead "POST" (terminatePath "legacy:10:1") where
  isMethod := .inr rfl
  isPath := ⟨by decide, by simp [terminatePath, isWhitespace]⟩
  short := by decide

theorem found_names : NamesProcess "legacy:10:1" 1 10 := .inr rfl

def listingExchange : Exchange :=
  wholeExchange "GET" "/v1/sessions" (foundReply foundJson) fitsOneRead_listing

def detailExchange : Exchange :=
  wholeExchange "GET" (sessionPath "legacy:10:1") (foundReply foundDetailJson) fitsOneRead_detail

def terminateExchange : Exchange :=
  wholeExchange "POST" (terminatePath "legacy:10:1") (foundReply foundControlJson)
    fitsOneRead_terminate

def foundCall : TerminateRequest where
  state := ServiceState.run {} foundSession
  reached := ⟨{}, foundSession, rfl⟩
  observer := AppRun.sampleObserver
  currentExe := none
  sessionId := "legacy:10:1"
  nowMs := 3000

/-- The call undisturbed: it answers, and the process gets the signal. -/
theorem foundCall_run :
    (foundCall.run (onlyProcess moshProcess) (List.replicate 5 (.handler false))).stage.answer =
        some (.terminated foundControl) ∧
      (foundCall.run (onlyProcess moshProcess) (List.replicate 5 (.handler false))).signalled =
        [(1, moshProcess)] := by
  decide +kernel

theorem listingExchange_carries : listingExchange.Carries foundContext (foundReply foundJson) := by
  apply wholeExchange_carries
  have routed : foundContext.route "GET" "/v1/sessions".toList (some .prometheusText) = .replied
      ((foundContext.json (.sessions foundContext.sessionsResponse)).getD internalServerError) := rfl
  rw [routed, foundContext_sessionsResponse, foundContext_json foundLibraries_sessions]
  exact .replied _

theorem detailExchange_carries :
    detailExchange.Carries foundContext (foundReply foundDetailJson) := by
  apply wholeExchange_carries
  obtain ⟨session, found, payload⟩ := Option.map_eq_some_iff.mp foundContext_sessionDetail
  have answer : foundContext.ofSession foundContext.sessionPayload "legacy:10:1" =
      some (foundReply foundDetailJson) := by
    rw [ofSession_of_found foundContext _ found, payload]
    exact foundContext_json foundLibraries_session
  rw [route_sessionPath foundContext found_names.routable, answer]
  exact .replied _

theorem terminateExchange_carries :
    terminateExchange.Carries foundContext (foundReply foundControlJson) := by
  apply wholeExchange_carries
  have replies := @ApiConnection.Replies.controlled foundContext foundCall (onlyProcess moshProcess)
    (List.replicate 5 (.handler false)) (.terminated foundControl) rfl rfl rfl
    (TerminateStage.eq_answered foundCall_run.1)
  have reply : foundContext.controlReply (.terminated foundControl) = foundReply foundControlJson := by
    rw [ApiContext.controlReply, foundContext_json foundLibraries_control]
    rfl
  rw [reply] at replies
  rw [route_terminatePath foundContext found_names.routable]
  exact replies

/-- The client takes the listing of the session and, once it is terminated, the answer to that. -/
theorem carries_exactly_found :
    listingExchange.result foundCodec.sessions = .ok foundListing ∧
      terminateExchange.result (decodeAs foundControlJson foundControl) = .ok foundControl := by
  have listing := (Exchange.carries_exactly listingExchange_carries foundCodec.sessions).2
  have control := (Exchange.carries_exactly terminateExchange_carries
    (decodeAs foundControlJson foundControl)).2
  rw [listing, control]
  constructor
  · exact taken_ok foundJson_short foundCodec_sessions
  · exact taken_ok foundControlJson_short (decodeAs_self foundControlJson foundControl)

def foundAnswers : Answers where
  listing := .ok foundListing
  config := .error "connect timed out"
  current := fun _ => none
  detail := fun path =>
    if path = sessionPath "legacy:10:1" then .ok foundDetail else .error "connect timed out"

theorem foundAnswers_served : foundAnswers.Served foundCodec where
  listing := by
    intro response ok
    cases ok
    exact ⟨listingExchange, foundContext, _, rfl, rfl, rfl, ⟨{}, foundSession, rfl⟩,
      listingExchange_carries,
      listingExchange_carries.result_ok foundJson_short foundCodec_sessions⟩
  detail := by
    intro path response _ answered
    simp only [foundAnswers] at answered
    split at answered
    · rename_i asked
      subst asked
      cases answered
      exact ⟨detailExchange, foundContext, _, rfl, rfl, rfl, ⟨{}, foundSession, rfl⟩,
        detailExchange_carries,
        detailExchange_carries.result_ok foundDetailJson_short foundCodec_session⟩
    · cases answered

theorem foundAnswers_complete : foundAnswers.Complete := by
  refine ⟨foundListing, rfl, ?_⟩
  intro summary member
  rw [List.mem_singleton.mp member]
  exact ⟨foundDetail, by simp [foundAnswers, foundSummary]⟩

/-- `j` on the only row: its detail is asked for again. -/
def foundMove : List AppEvent := [.press (.char 'j') (.error "") foundAnswers]

theorem detail_of_served_session_found :
    ∃ detail, (AppRun.run foundAnswers foundMove).app.detail = some detail ∧
      (AppRun.run foundAnswers foundMove).app.selectedId = some detail.summary.sessionId := by
  have shown : (AppRun.run foundAnswers foundMove).app.detail.isSome = true := rfl
  obtain ⟨detail, found⟩ := Option.isSome_iff_exists.mp shown
  refine ⟨detail, found, AppRun.detail_of_served_session foundAnswers_served ?_ ?_ detail found⟩
  · intro event member
    rw [List.mem_singleton.mp member]
    exact foundAnswers_served
  · intro event member _
    rw [List.mem_singleton.mp member]
    exact foundAnswers_complete

/-- `x` on the only row. -/
def foundPrompt : List AppEvent := [.press (.char 'x') (.error "") foundAnswers]

def foundPending : PendingTerminate :=
  { sessionId := "legacy:10:1", pid := 1, label := "legacy:10:1" }

theorem foundPrompt_prompted : AppRun.Prompted foundAnswers foundPrompt foundPending :=
  .asked [] _ [] _ rfl rfl rfl rfl (by simp)

/-- The session is listed, chosen with `x` and confirmed: its process gets the signal. -/
theorem signals_what_was_prompted_found :
    terminateExchange.connection foundContext = .terminates foundPending.sessionId ∧
      (foundCall.run (onlyProcess moshProcess) (List.replicate 5 (.handler false))).signalled =
        [(foundPending.pid, moshProcess)] := by
  obtain ⟨startedAtUnixMs, -, terminates, signals⟩ :=
    signals_what_was_prompted foundAnswers_served
      (fun event member => by
        rw [List.mem_singleton.mp member]
        exact foundAnswers_served) foundPrompt_prompted
  have same := (signals foundCall (onlyProcess moshProcess) (List.replicate 5 (.handler false)) 1
    moshProcess rfl (by rw [foundCall_run.2]; exact List.mem_singleton_self _)).1
  refine ⟨terminates terminateExchange foundContext rfl rfl, ?_⟩
  rw [← same]
  exact foundCall_run.2

end Sample

end Moshwatch
