import Moshwatch.Daemon.Requests

namespace Moshwatch

section Trims

variable {pattern text : List Char}

theorem stripPrefix_absent (absent : ¬ pattern <+: text) : stripPrefix pattern text = none := by
  apply if_neg
  intro begins
  exact absent (begins ▸ List.take_prefix _ _)

theorem stripSuffix_of_not_suffix (absent : ¬ pattern <:+ text) : stripSuffix text pattern = none := by
  apply if_neg
  intro ends
  exact absent (ends ▸ List.drop_suffix _ _)

theorem iterate_strip {strip : List Char → Option (List Char)} {rest : List Char}
    (once : strip text = some rest) (last : strip rest = none) (nonempty : text ≠ []) :
    (fun text => (strip text).getD text)^[text.length] text = rest := by
  obtain ⟨count, length⟩ := Nat.exists_eq_succ_of_ne_zero (List.length_pos_iff.mpr nonempty).ne'
  have fixed : Function.IsFixedPt (fun text => (strip text).getD text) rest := by
    rw [Function.IsFixedPt, last, Option.getD_none]
  rw [length, Function.iterate_succ_apply, once, Option.getD_some]
  exact fixed.iterate count

theorem trimStartMatches_append (nonempty : pattern ≠ []) {rest : List Char}
    (absent : ¬ pattern <+: rest) : trimStartMatches pattern (pattern ++ rest) = rest :=
  iterate_strip (stripPrefix_append pattern rest) (stripPrefix_absent absent) (by simp [nonempty])

theorem trimEndMatches_append (nonempty : pattern ≠ []) {front : List Char}
    (absent : ¬ pattern <:+ front) : trimEndMatches (front ++ pattern) pattern = front :=
  @iterate_strip (front ++ pattern) (fun text => stripSuffix text pattern) front
    (stripSuffix_append front pattern) (stripSuffix_of_not_suffix absent) (by simp [nonempty])

end Trims

/-- An id that stands in a path as it is. -/
structure Routable (id : List Char) : Prop where
  slash : '/' ∉ id
  question : '?' ∉ id
  visible : ∀ ch ∈ id, isWhitespace ch = false

section Ids

theorem mem_toString_int {value : Int} {ch : Char} (member : ch ∈ (toString value).toList) :
    ch.isDigit = true ∨ ch = '-' := by
  have digits (magnitude : Nat) (digit : ch ∈ (Nat.repr magnitude).toList) : ch.isDigit = true := by
    rw [Nat.toList_repr] at digit
    exact Nat.isDigit_of_mem_toDigits (by decide) (by decide) digit
  cases value with
  | ofNat magnitude => exact .inl (digits magnitude member)
  | negSucc magnitude =>
    change ch ∈ ("-" ++ Nat.repr (magnitude + 1)).toList at member
    rw [String.toList_append, List.mem_append] at member
    rcases member with sign | digit
    · exact .inr (by simpa using sign)
    · exact .inl (digits _ digit)

theorem routable_char {ch : Char} (plain : ch.isDigit = true ∨ ch = '-' ∨ ch = ':' ∨
    ch.isLower = true) : ch ≠ '/' ∧ ch ≠ '?' ∧ isWhitespace ch = false := by
  have range : ch ≠ '/' ∧ ch ≠ '?' ∧ 0x21 ≤ ch.toNat ∧ ch.toNat ≤ 0x7a := by
    rcases plain with digit | rfl | rfl | lower
    · simp only [Char.isDigit, Bool.and_eq_true, decide_eq_true_eq, UInt32.le_iff_toNat_le] at digit
      have low : 48 ≤ ch.toNat := digit.1
      have high : ch.toNat ≤ 57 := digit.2
      refine ⟨?_, ?_, by omega, by omega⟩
      · rintro rfl
        contradiction
      · rintro rfl
        contradiction
    · decide
    · decide
    · simp only [Char.isLower, Bool.and_eq_true, decide_eq_true_eq, ge_iff_le,
        UInt32.le_iff_toNat_le] at lower
      have low : 97 ≤ ch.toNat := lower.1
      have high : ch.toNat ≤ 122 := lower.2
      refine ⟨?_, ?_, by omega, by omega⟩
      · rintro rfl
        contradiction
      · rintro rfl
        contradiction
  refine ⟨range.1, range.2.1, ?_⟩
  simp only [isWhitespace]
  simp
  omega

theorem routable_of_chars {id : List Char} (plain : ∀ ch ∈ id, ch.isDigit = true ∨ ch = '-' ∨
    ch = ':' ∨ ch.isLower = true) : Routable id where
  slash member := (routable_char (plain _ member)).1 rfl
  question member := (routable_char (plain _ member)).2.1 rfl
  visible ch member := (routable_char (plain ch member)).2.2

theorem routable_named {name : List Char} (lower : name.all Char.isLower = true)
    (startedAt pid : Int) :
    Routable (name ++ ':' :: ((toString startedAt).toList ++ ':' :: (toString pid).toList)) := by
  apply routable_of_chars
  intro ch member
  simp only [List.mem_append, List.mem_cons] at member
  rcases member with name | rfl | started | rfl | process
  · exact .inr (.inr (.inr (List.all_eq_true.mp lower ch name)))
  · exact .inr (.inr (.inl rfl))
  · rcases mem_toString_int started with digit | sign
    · exact .inl digit
    · exact .inr (.inl sign)
  · exact .inr (.inr (.inl rfl))
  · rcases mem_toString_int process with digit | sign
    · exact .inl digit
    · exact .inr (.inl sign)

theorem ServiceState.routable_run {config : AppConfig} {operations : List Operation}
    {sessionId : String} {record : SessionRecord}
    (tracked : (run config operations).sessions.lookup sessionId = some record) :
    Routable sessionId.toList := by
  rcases ((identities_run config operations).identified _ _ tracked).2 with ⟨-, rfl⟩ | ⟨-, rfl⟩
  · rw [toList_instrumentedSessionId]
    exact routable_named rfl _ _
  · rw [toList_legacySessionId]
    exact routable_named rfl _ _

end Ids

section Routes

theorem splitTarget_of_not_mem {target : List Char} (absent : '?' ∉ target) :
    splitTarget target = (target, none) := by
  rw [splitTarget, splitOnce_eq_none.mpr absent]

theorem idBehind_append {front : String} (nonempty : front.toList ≠ [])
    (rooted : front.toList.head? = some '/') {id : List Char} (routable : Routable id) :
    ApiContext.idBehind front (front.toList ++ id) = String.ofList id := by
  rw [ApiContext.idBehind, trimStartMatches_append nonempty]
  intro begins
  obtain ⟨rest, whole⟩ := begins
  obtain ⟨first, tail, front_eq⟩ := List.exists_cons_of_ne_nil nonempty
  apply routable.slash
  rw [← whole, front_eq]
  rw [front_eq] at rooted
  simp only [List.head?_cons, Option.some.injEq] at rooted
  simp [rooted]

theorem terminateId_append {id : List Char} (routable : Routable id) :
    ApiContext.terminateId ("/v1/sessions/".toList ++ (id ++ "/terminate".toList)) =
      String.ofList id := by
  have start : ¬ "/v1/sessions/".toList <+: id ++ "/terminate".toList := by
    intro begins
    cases id with
    | nil => exact absurd begins (by decide)
    | cons ch rest =>
      apply routable.slash
      obtain ⟨more, whole⟩ := begins
      injection whole with same
      rw [← same]
      exact List.mem_cons_self
  have stop : ¬ "/terminate".toList <:+ id := by
    intro ends
    exact routable.slash (ends.subset (by decide))
  have plain : (id.rdropWhile fun ch => ch = '/') = id := by
    rw [List.rdropWhile_eq_self_iff]
    intro nonempty last
    rw [decide_eq_true_eq] at last
    exact routable.slash (last ▸ List.getLast_mem nonempty)
  rw [ApiContext.terminateId, trimStartMatches_append (by decide) start,
    trimEndMatches_append (by decide) stop, plain]

variable (context : ApiContext) {id : List Char}

theorem buildResponse_session (routable : Routable id) (query : Option (List Char))
    (metricsFormat : Option MetricsTextFormat) :
    context.buildResponse "GET" ("/v1/sessions/".toList ++ id) query metricsFormat =
      .answer (context.ofSession context.sessionPayload (String.ofList id)) := by
  have behind : ApiContext.idBehind "/v1/sessions/" ("/v1/sessions/".toList ++ id) =
      String.ofList id := idBehind_append (by decide) (by decide) routable
  rw [← behind]
  rfl

theorem buildResponse_terminate (routable : Routable id) (query : Option (List Char))
    (metricsFormat : Option MetricsTextFormat) :
    context.buildResponse "POST" ("/v1/sessions/".toList ++ (id ++ "/terminate".toList)) query
      metricsFormat = .terminate (String.ofList id) := by
  have ends : "/terminate".toList.isSuffixOf
      ("/v1/sessions/".toList ++ (id ++ "/terminate".toList)) = true := by
    rw [List.isSuffixOf_iff_suffix, ← List.append_assoc]
    exact List.suffix_append _ _
  rw [← terminateId_append routable, ApiContext.buildResponse]
  simp only [ends]
  rfl

end Routes

section Outcomes

variable (context : ApiContext)

theorem newline_not_mem_json : '\n' ∉ "application/json".toList := by decide

theorem sent_error {status : Nat} (known : status ∈ apiStatuses) (message : String) :
    (ApiReply.error status message).Sent := ⟨known, newline_not_mem_json⟩

theorem sent_some {reply : ApiReply} (sent : reply.Sent) : ∀ other ∈ some reply, other.Sent := by
  intro other member
  cases member
  exact sent

theorem sent_json (payload : ApiPayload) : ∀ reply ∈ context.json payload, reply.Sent := by
  intro reply member
  obtain ⟨body, -, rfl⟩ := Option.map_eq_some_iff.mp member
  exact ⟨(by decide : 200 ∈ apiStatuses), newline_not_mem_json⟩

theorem ofSession_of_found (payload : SessionSnapshot → ApiPayload) {sessionId : String}
    {session : SessionSnapshot}
    (found : context.state.sessionDetail sessionId context.nowMs = some session) :
    context.ofSession payload sessionId = context.json (payload session) := by
  rw [ApiContext.ofSession, found]

theorem sent_ofSession (payload : SessionSnapshot → ApiPayload) (sessionId : String) :
    ∀ reply ∈ context.ofSession payload sessionId, reply.Sent := by
  intro reply member
  rw [ApiContext.ofSession] at member
  split at member
  · exact sent_json context _ reply member
  · cases member
    exact sent_error (by decide) _

theorem sent_metrics (metricsFormat : Option MetricsTextFormat) :
    (context.metrics metricsFormat).Sent := by
  cases metricsFormat with
  | none => exact sent_error (by decide) _
  | some format =>
    refine ⟨(by decide : 200 ∈ apiStatuses), ?_⟩
    cases format
    · exact (by decide : '\n' ∉ (metricsContentType .prometheusText).toList)
    · exact (by decide : '\n' ∉ (metricsContentType .openMetricsText).toList)

theorem sent_historyReply (sessionId : String) (query : Option (List Char)) :
    ∀ reply ∈ context.historyReply sessionId query, reply.Sent := by
  intro reply member
  rw [ApiContext.historyReply] at member
  split at member
  · cases member
    exact sent_error (by decide) _
  · split at member
    · cases member
      exact sent_error (by decide) _
    · split at member
      · cases member
        exact sent_error (by decide) _
      · simp only at member
        split at member
        · cases member
          exact sent_error (by decide) _
        · split at member
          · cases member
          · exact sent_json context _ reply member

def AsksTermination (method : String) (path : List Char) : Prop :=
  method = "POST" ∧ "/v1/sessions/".toList <+: path ∧ "/terminate".toList <:+ path

/-- What a routed request comes to: a call of `terminate_session` for exactly the paths that ask
    for one, and an answer a client can read otherwise. -/
theorem buildResponse_spec (method : String) (path : List Char) (query : Option (List Char))
    (metricsFormat : Option MetricsTextFormat) :
    (AsksTermination method path ∧
      context.buildResponse method path query metricsFormat =
        .terminate (ApiContext.terminateId path)) ∨
    (¬ AsksTermination method path ∧
      ∃ reply, context.buildResponse method path query metricsFormat = .answer reply ∧
        ∀ sent ∈ reply, sent.Sent) := by
  by_cases get : method = "GET"
  · right
    refine ⟨fun asks => absurd (get.symm.trans asks.1) (by decide), ?_⟩
    subst get
    have other : decide ("GET" = "POST") = false := by decide
    rw [ApiContext.buildResponse]
    simp only [other, decide_true, Bool.true_and, Bool.false_and, Bool.false_eq_true, if_false]
    split_ifs
    · exact ⟨_, rfl, sent_json context _⟩
    · exact ⟨_, rfl, sent_json context _⟩
    · exact ⟨_, rfl, sent_json context _⟩
    · exact ⟨_, rfl, sent_ofSession context _ _⟩
    · exact ⟨_, rfl, sent_ofSession context _ _⟩
    · exact ⟨_, rfl, sent_json context _⟩
    · exact ⟨_, rfl, sent_some (sent_metrics context metricsFormat)⟩
    · exact ⟨_, rfl, sent_ofSession context _ _⟩
    · exact ⟨_, rfl, sent_historyReply context _ _⟩
    · exact ⟨_, rfl, sent_some (sent_error (by decide) _)⟩
  · have routed : context.buildResponse method path query metricsFormat =
        if decide (method = "POST") && "/v1/sessions/".toList.isPrefixOf path &&
            "/terminate".toList.isSuffixOf path then .terminate (ApiContext.terminateId path)
        else .answer (some (.error 404 "not found")) := by
      have other : decide (method = "GET") = false := decide_eq_false get
      rw [ApiContext.buildResponse]
      simp only [other, Bool.false_and, Bool.false_eq_true, if_false]
    rw [routed]
    by_cases asks : AsksTermination method path
    · left
      obtain ⟨post, starts, ends⟩ := asks
      refine ⟨⟨post, starts, ends⟩, if_pos ?_⟩
      simp only [post, decide_true, Bool.true_and, Bool.and_eq_true]
      exact ⟨List.isPrefixOf_iff_prefix.mpr starts, List.isSuffixOf_iff_suffix.mpr ends⟩
    · right
      refine ⟨asks, some (.error 404 "not found"), if_neg ?_,
        sent_some (sent_error (by decide) _)⟩
      intro holds
      simp only [Bool.and_eq_true, decide_eq_true_eq] at holds
      exact asks ⟨holds.1.1, List.isPrefixOf_iff_prefix.mp holds.1.2,
        List.isSuffixOf_iff_suffix.mp holds.2⟩

end Outcomes

section Connections

theorem splitWhitespace_blank {text : List Char} (blank : ∀ ch ∈ text, isWhitespace ch = true) :
    splitWhitespace text = [] := by
  induction text with
  | nil => exact splitWhitespace_nil
  | cons ch rest ih =>
    obtain ⟨first, later⟩ := List.forall_mem_cons.mp blank
    have none : ∀ other ∈ ([] : List Char), isWhitespace other = false := List.forall_mem_nil _
    have split : (ch :: rest).splitOnP isWhitespace = [] :: rest.splitOnP isWhitespace :=
      List.splitOnP_append_cons_of_forall_mem none ch first rest
    rw [splitWhitespace, split]
    exact ih later

theorem stripSuffixChar_subset {text rest : List Char} {suffix : Char}
    (stripped : stripSuffixChar text suffix = some rest) : rest ⊆ text := by
  rw [stripSuffixChar] at stripped
  split at stripped
  · cases stripped
    exact text.dropLast_subset
  · cases stripped

theorem stripLineEnding_subset (line : List Char) : stripLineEnding line ⊆ line := by
  rw [stripLineEnding]
  split
  · exact List.Subset.refl _
  · rename_i ended unended
    have shorter := stripSuffixChar_subset unended
    cases stripped : stripSuffixChar ended '\r' with
    | none => exact shorter
    | some rest => exact List.Subset.trans (stripSuffixChar_subset stripped) shorter

theorem mem_of_mem_strLines {text line : List Char} (member : line ∈ strLines text) {ch : Char}
    (inside : ch ∈ line) : ch ∈ text := by
  obtain ⟨piece, cut, rfl⟩ := List.mem_map.mp member
  have kept := stripLineEnding_subset piece inside
  have whole : (Framing.lines '\n' text).flatten = text := (Framing.isFraming_lines text).whole
  rw [← whole]
  exact List.mem_flatten.mpr ⟨piece, cut, kept⟩

theorem requestWords_blank {text : String} (blank : trim text = "") : requestWords text = [] := by
  apply splitWhitespace_blank
  intro ch member
  cases lines : (strLines text.toList).head? with
  | none =>
    rw [lines] at member
    cases member
  | some line =>
    rw [lines] at member
    exact trim_eq_empty.mp blank ch (mem_of_mem_strLines (List.mem_of_head? lines) member)

variable (context : ApiContext) {request : Option (Except RequestHeadError String)}

theorem sent_getD {reply : Option ApiReply} (sent : ∀ other ∈ reply, other.Sent) :
    (reply.getD internalServerError).Sent := by
  cases reply with
  | none => exact sent_error (by decide) _
  | some reply => exact sent reply rfl

theorem route_eq (method : String) (target : List Char) (metricsFormat : Option MetricsTextFormat) :
    context.route method target metricsFormat =
      if (splitTarget target).1 = "/v1/events/stream".toList then .streams
      else (context.buildResponse method (splitTarget target).1 (splitTarget target).2
        metricsFormat).connection := rfl

theorem route_cases (method : String) (target : List Char) (metricsFormat : Option MetricsTextFormat) :
    context.route method target metricsFormat = .streams ∨
      (∃ reply, context.route method target metricsFormat = .replied reply ∧ reply.Sent ∧
        ¬ AsksTermination method (splitTarget target).1) ∨
      (AsksTermination method (splitTarget target).1 ∧
        context.route method target metricsFormat =
          .terminates (ApiContext.terminateId (splitTarget target).1)) := by
  rw [route_eq]
  by_cases stream : (splitTarget target).1 = "/v1/events/stream".toList
  · exact .inl (if_pos stream)
  · right
    rw [if_neg stream]
    rcases buildResponse_spec context method (splitTarget target).1 (splitTarget target).2
      metricsFormat with ⟨asks, built⟩ | ⟨not, reply, built, sent⟩
    · exact .inr ⟨asks, by rw [built]; rfl⟩
    · exact .inl ⟨_, by rw [built]; rfl, sent_getD sent, not⟩

theorem sent_of_replied {reply : ApiReply} (replied : handleConnection context request = .replied reply) :
    reply.Sent := by
  unfold handleConnection at replied
  split at replied
  · cases replied
    exact sent_error (by decide) _
  · cases replied
    exact sent_error (by decide) _
  · split at replied
    · cases replied
    · simp only at replied
      split at replied
      · cases replied
        exact sent_error (by decide) _
      · rcases route_cases context _ _ _ with streams | ⟨other, routed, sent, -⟩ | ⟨-, routed⟩
        · rw [streams] at replied
          cases replied
        · rw [routed] at replied
          cases replied
          exact sent
        · rw [routed] at replied
          cases replied

theorem sent_controlReply {answer : TerminateAnswer}
    (refused : ∀ status message, answer = .refused status message → status = 404 ∨ status = 409) :
    (context.controlReply answer).Sent := by
  cases answer with
  | refused status message =>
    apply sent_error
    rcases refused status message rfl with rfl | rfl <;> decide
  | failed message => exact sent_error (by decide) _
  | terminated response => exact sent_getD (sent_json context _)

theorem sent_of_replies {connection : ApiConnection} {reply : ApiReply}
    (replies : connection.Replies context reply)
    (answers : ∀ other, connection = .replied other → other.Sent) : reply.Sent := by
  cases replies with
  | replied reply => exact answers reply rfl
  | controlled call table steps answer state observer now answered =>
    apply sent_controlReply
    intro status message same
    apply (call.standing_run table steps).refused status message
    rw [answered, same]
    rfl

theorem route_sessions {method : String} {path : List Char} (absent : '?' ∉ path)
    (starts : "/v1/sessions/".toList <+: path) (metricsFormat : Option MetricsTextFormat) :
    context.route method path metricsFormat =
      (context.buildResponse method path none metricsFormat).connection := by
  rw [route_eq, splitTarget_of_not_mem absent, if_neg]
  intro stream
  change path = "/v1/events/stream".toList at stream
  rw [stream] at starts
  exact absurd starts (by decide)

theorem words_of_asks {words : List (List Char)}
    (asks : AsksTermination (String.ofList (words[0]?.getD [])) (splitTarget (words[1]?.getD [])).1) :
    ∃ target rest, words = "POST".toList :: target :: rest := by
  obtain ⟨post, starts, -⟩ := asks
  have first : words[0]?.getD [] = "POST".toList := by
    rw [← post, String.toList_ofList]
  cases words with
  | nil => cases first
  | cons method others =>
    cases others with
    | nil =>
      have none := List.prefix_nil.mp starts
      cases none
    | cons target rest => exact ⟨target, rest, congrArg (· :: target :: rest) first⟩

theorem terminates_iff_asks {sessionId : String} :
    handleConnection context request = .terminates sessionId ↔
      ∃ text target rest, request = some (.ok text) ∧
        requestWords text = "POST".toList :: target :: rest ∧
        AsksTermination "POST" (splitTarget target).1 ∧
        sessionId = ApiContext.terminateId (splitTarget target).1 := by
  constructor
  · intro terminates
    unfold handleConnection at terminates
    split at terminates
    · cases terminates
    · cases terminates
    · rename_i text
      split at terminates
      · cases terminates
      · simp only at terminates
        split at terminates
        · cases terminates
        · rcases route_cases context _ _ _ with streams | ⟨other, routed, -, -⟩ | ⟨asks, routed⟩
          · rw [streams] at terminates
            cases terminates
          · rw [routed] at terminates
            cases terminates
          · rw [routed] at terminates
            have named := ApiConnection.terminates.inj terminates
            obtain ⟨target, rest, words⟩ := words_of_asks asks
            have path : (requestWords text)[1]?.getD [] = target := by
              rw [words]
              rfl
            rw [path] at asks named
            exact ⟨text, target, rest, rfl, words, ⟨rfl, asks.2⟩, named.symm⟩
  · intro asked
    obtain ⟨text, target, rest, rfl, words, asks, rfl⟩ := asked
    have posted : String.ofList "POST".toList = "POST" := String.ofList_toList
    have visible : trim text ≠ "" := by
      intro blank
      rw [requestWords_blank blank] at words
      cases words
    have served : ¬ ("POST" ≠ "GET" ∧ "POST" ≠ "POST") := fun other => other.2 rfl
    rw [handleConnection]
    simp only [visible, words, List.getElem?_cons_zero, List.getElem?_cons_succ, Option.getD_some,
      posted, served, if_false]
    rcases route_cases context "POST" target _ with streams | ⟨reply, -, -, not⟩ | ⟨-, routed⟩
    · exfalso
      rw [route_eq] at streams
      split at streams
      · rename_i stream
        have starts := asks.2.1
        rw [stream] at starts
        exact absurd starts (by decide)
      · rcases buildResponse_spec context "POST" (splitTarget target).1 (splitTarget target).2 _ with
          ⟨-, built⟩ | ⟨not, -⟩
        · rw [built] at streams
          cases streams
        · exact not asks
    · exact absurd asks not
    · exact routed

theorem terminates_of_words {text : String} {id : List Char} {rest : List (List Char)}
    (routable : Routable id) (words : requestWords text = "POST".toList ::
      ("/v1/sessions/".toList ++ (id ++ "/terminate".toList)) :: rest) :
    handleConnection context (some (.ok text)) = .terminates (String.ofList id) := by
  have absent : '?' ∉ "/v1/sessions/".toList ++ (id ++ "/terminate".toList) := by
    rw [List.mem_append, List.mem_append]
    exact not_or.mpr ⟨by decide, not_or.mpr ⟨routable.question, by decide⟩⟩
  rw [terminates_iff_asks]
  refine ⟨text, _, rest, rfl, words, ?_, ?_⟩
  · rw [splitTarget_of_not_mem absent]
    refine ⟨rfl, List.prefix_append _ _, ?_⟩
    change "/terminate".toList <:+ "/v1/sessions/".toList ++ (id ++ "/terminate".toList)
    rw [← List.append_assoc]
    exact List.suffix_append _ _
  · rw [splitTarget_of_not_mem absent]
    exact (terminateId_append routable).symm

/-- The daemon tries to terminate a session for exactly the requests that post to a `terminate`
    path. An id that can stand in a path, as those of the registry can, is the one its path
    names. -/
theorem terminates_iff :
    (∀ sessionId, handleConnection context request = .terminates sessionId ↔
      ∃ text target rest, request = some (.ok text) ∧
        requestWords text = "POST".toList :: target :: rest ∧
        AsksTermination "POST" (splitTarget target).1 ∧
        sessionId = ApiContext.terminateId (splitTarget target).1) ∧
    (∀ text id rest, Routable id →
      requestWords text = "POST".toList ::
        ("/v1/sessions/".toList ++ (id ++ "/terminate".toList)) :: rest →
      handleConnection context (some (.ok text)) = .terminates (String.ofList id)) ∧
    ∀ config operations sessionId record,
      (ServiceState.run config operations).sessions.lookup sessionId = some record →
      Routable sessionId.toList := by
  refine ⟨fun sessionId => terminates_iff_asks context, ?_, ?_⟩
  · intro text id rest routable words
    exact terminates_of_words context routable words
  · intro config operations sessionId record tracked
    exact ServiceState.routable_run tracked

end Connections

end Moshwatch
