import Moshwatch.Daemon.ApiMessage

namespace Moshwatch

def maxHttpResponseBytes : Nat := 4 * 1024 * 1024

/-- The errors of `request_json_with_method` once the request is written; the cause of a failed
    read or of a body that cannot be decoded is a text. -/
inductive ClientError where
  | read (cause : String)
  | exceeded
  | malformed
  | failed (firstLine : String)
  | decode (cause : String)
  deriving DecidableEq

def ClientError.text : ClientError → String
  | .read cause => cause
  | .exceeded => "response exceeded " ++ toString maxHttpResponseBytes ++ " bytes"
  | .malformed => "malformed http response"
  | .failed firstLine => "request failed: " ++ firstLine
  | .decode cause => "decode json body: " ++ cause

/-- The loop of `read_bounded_response`; a read that fails or comes too late has a cause. -/
def readBoundedResponse :
    List (Except String (List UInt8)) → List UInt8 → Except ClientError (List UInt8)
  | [], response | .ok [] :: _, response => .ok response
  | .error cause :: _, _ => .error (.read cause)
  | .ok (byte :: chunk) :: rest, response =>
    let response := response ++ byte :: chunk
    if maxHttpResponseBytes < response.length then .error .exceeded
    else readBoundedResponse rest response

def startsOk (header : List Char) : Bool :=
  "HTTP/1.1 200".toList.isPrefixOf header || "HTTP/1.0 200".toList.isPrefixOf header

/-- What `request_json_with_method` makes of the response; `decode` is `serde_json::from_slice`. -/
def takeResponse {T : Type} (decode : List UInt8 → Except String T) (response : List UInt8) :
    Except ClientError T :=
  match (windows 4 response).findIdx? fun window => window = headEnd with
  | none => .error .malformed
  | some split =>
    let header := (fromUtf8Lossy (response.take split)).toList
    if !startsOk header then
      .error (.failed (String.ofList ((strLines header).head?.getD [])))
    else (decode (response.drop (split + 4))).mapError ClientError.decode

def requestJson {T : Type} (decode : List UInt8 → Except String T)
    (reads : List (Except String (List UInt8))) : Except ClientError T := do
  let response ← readBoundedResponse reads []
  takeResponse decode response

theorem readBoundedResponse_chunks {chunks : List (List UInt8)}
    (nonempty : ∀ chunk ∈ chunks, chunk ≠ []) (response : List UInt8)
    (bounded : response.length ≤ maxHttpResponseBytes) :
    readBoundedResponse (chunks.map .ok) response =
      if maxHttpResponseBytes < (response ++ chunks.flatten).length then .error .exceeded
      else .ok (response ++ chunks.flatten) := by
  induction chunks generalizing response with
  | nil => rw [List.flatten_nil, List.append_nil, if_neg (Nat.not_lt.mpr bounded)]; rfl
  | cons chunk rest ih =>
    obtain ⟨some, later⟩ := List.forall_mem_cons.mp nonempty
    obtain ⟨byte, chunk, rfl⟩ := List.exists_cons_of_ne_nil some
    rw [List.map_cons, readBoundedResponse, List.flatten_cons, ← List.append_assoc]
    by_cases exceeds : maxHttpResponseBytes < (response ++ byte :: chunk).length
    · have whole : maxHttpResponseBytes < (response ++ byte :: chunk ++ rest.flatten).length := by
        rw [List.length_append]
        omega
      rw [if_pos exceeds, if_pos whole]
    · rw [if_neg exceeds, ih later _ (Nat.not_lt.mp exceeds)]

theorem requestJson_ok {T : Type} (decode : List UInt8 → Except String T)
    {reads : List (Except String (List UInt8))} {response : List UInt8}
    (read : readBoundedResponse reads [] = .ok response) :
    requestJson decode reads = takeResponse decode response := by
  rw [requestJson, read]
  rfl

theorem requestJson_error {T : Type} (decode : List UInt8 → Except String T)
    {reads : List (Except String (List UInt8))} {error : ClientError}
    (read : readBoundedResponse reads [] = .error error) : requestJson decode reads = .error error := by
  rw [requestJson, read]
  rfl

section Replies

theorem findIdx?_headEnd {lines : List (List UInt8)} (nonempty : lines ≠ [])
    (isLine : ∀ line ∈ lines, HeadBody.IsLine (10 : UInt8) line) (body : List UInt8) :
    ((windows 4 (HeadBody.message 13 10 lines body)).findIdx? fun window => window = headEnd) =
      some (HeadBody.head 13 10 lines).length := by
  have first := HeadBody.blank_first (by decide : (13 : UInt8) ≠ 10) nonempty isLine
  have cut : HeadBody.message 13 10 lines body = _ := HeadBody.message_eq nonempty body
  rw [List.findIdx?_eq_some_iff_getElem]
  refine ⟨?_, ?_, ?_⟩
  · rw [windows, List.length_map, List.length_range, cut]
    simp only [List.length_append, HeadBody.blank, List.length_cons, List.length_nil]
    omega
  · simp only [windows, List.getElem_map, List.getElem_range, cut, List.drop_left, decide_eq_true_eq]
    rfl
  · intro start earlier
    simp only [windows, List.getElem_map, List.getElem_range, cut, decide_eq_true_eq]
    exact HeadBody.slice_ne first earlier

theorem statusLine_spec :
    ∀ status ∈ apiStatuses,
      12 ≤ (statusLine status).toList.length ∧ '\n' ∉ (statusLine status).toList ∧
      startsOk (statusLine status).toList = decide (status = 200) := by
  decide +kernel

theorem isPrefixOf_append {front back more : List Char} (short : front.length ≤ back.length) :
    front.isPrefixOf (back ++ more) = front.isPrefixOf back := by
  rw [Bool.eq_iff_iff, List.isPrefixOf_iff_prefix, List.isPrefixOf_iff_prefix]
  exact ⟨fun begins => List.prefix_of_prefix_length_le begins (List.prefix_append _ _) short,
    fun begins => begins.trans (List.prefix_append _ _)⟩

theorem startsOk_append {first : List Char} (long : 12 ≤ first.length) (more : List Char) :
    startsOk (first ++ more) = startsOk first := by
  have new : "HTTP/1.1 200".toList.length ≤ first.length := long
  have old : "HTTP/1.0 200".toList.length ≤ first.length := long
  rw [startsOk, startsOk, isPrefixOf_append new, isPrefixOf_append old]

variable {T : Type} (decode : List UInt8 → Except String T)

theorem takeResponse_message {first next : List Char} {rest : List (List Char)}
    (isLine : ∀ line ∈ first :: next :: rest, HeadBody.IsLine '\n' line)
    (long : 12 ≤ first.length) (body : List UInt8) :
    takeResponse decode (HeadBody.message 13 10 (encodedLines (first :: next :: rest)) body) =
      if startsOk first then (decode body).mapError ClientError.decode
      else .error (.failed (String.ofList first)) := by
  have nonempty : encodedLines (first :: next :: rest) ≠ [] := List.cons_ne_nil _ _
  have absent : '\n' ∉ first := (isLine first (by simp)).2
  have begins : HeadBody.head '\r' '\n' (first :: next :: rest) =
      first ++ '\r' :: '\n' :: HeadBody.head '\r' '\n' (next :: rest) := by
    rw [HeadBody.head, List.intercalate_cons_cons, List.append_assoc]
    rfl
  have header (text : List Char) : (fromUtf8Lossy (encoded text)).toList = text := by
    rw [fromUtf8Lossy, String.toList_ofList, encoded, Utf8.lossy_flatMap]
  have body_eq : (HeadBody.message 13 10 (encodedLines (first :: next :: rest)) body).drop
      ((HeadBody.head 13 10 (encodedLines (first :: next :: rest))).length + 4) = body := by
    rw [HeadBody.message_eq nonempty, ← List.drop_drop, List.drop_left]
    rfl
  have head_eq : (HeadBody.message 13 10 (encodedLines (first :: next :: rest)) body).take
      (HeadBody.head 13 10 (encodedLines (first :: next :: rest))).length =
        encoded (HeadBody.head '\r' '\n' (first :: next :: rest)) := by
    rw [HeadBody.message_eq nonempty, List.take_left, encoded_head]
  rw [takeResponse, findIdx?_headEnd nonempty (isLines_encoded isLine)]
  simp only [head_eq, body_eq, header, begins, startsOk_append long, strLines_crlf absent]
  cases startsOk first <;> rfl

theorem newline_not_mem_toString (value : Nat) : '\n' ∉ (toString value).toList := by
  intro member
  rw [Nat.toString_eq_repr, Nat.toList_repr] at member
  exact absurd (Nat.isDigit_of_mem_toDigits (by decide) (by decide) member) (by decide)

theorem isLine_append {front : List Char} (nonempty : front ≠ []) (plain : '\n' ∉ front)
    {back : List Char} (absent : '\n' ∉ back) : HeadBody.IsLine '\n' (front ++ back) := by
  refine ⟨by simp [nonempty], ?_⟩
  rw [List.mem_append]
  exact not_or.mpr ⟨plain, absent⟩

theorem isLine_headersOf {status : Nat} (known : status ∈ apiStatuses) {contentType : String}
    (plain : '\n' ∉ contentType.toList) (contentLength : Option Nat) :
    ∀ line ∈ headersOf status contentType contentLength, HeadBody.IsLine '\n' line := by
  obtain ⟨long, absent, -⟩ := statusLine_spec status known
  intro line member
  simp only [headersOf, List.mem_cons, Option.mem_toList, Option.map_eq_some_iff] at member
  rcases member with rfl | rfl | rfl | rfl | ⟨length, -, rfl⟩
  · exact ⟨List.ne_nil_of_length_pos (by omega), absent⟩
  · rw [String.toList_append]
    exact isLine_append (by decide) (by decide) plain
  · exact ⟨by decide, by decide⟩
  · exact ⟨by decide, by decide⟩
  · rw [String.toList_append]
    exact isLine_append (by decide) (by decide) (newline_not_mem_toString length)

/-- The client makes of a reply what its status says: the decoded body, or the first line. -/
theorem takeResponse_bytes (reply : ApiReply) (known : reply.status ∈ apiStatuses)
    (plain : '\n' ∉ reply.contentType.toList) :
    takeResponse decode reply.bytes =
      if reply.status = 200 then (decode reply.body).mapError ClientError.decode
      else .error (.failed (statusLine reply.status)) := by
  obtain ⟨long, -, ok⟩ := statusLine_spec reply.status known
  have isLine := isLine_headersOf known plain (some reply.body.length)
  rw [bytes_eq, headersOf, takeResponse_message decode isLine long, ok, String.ofList_toList]
  simp only [decide_eq_true_eq]

end Replies

end Moshwatch
