import Moshwatch.Daemon.Routing
import Moshwatch.Ui.Client
import Moshwatch.Ui.Confirmation

namespace Moshwatch

/-- A request of the client on its way to the daemon and a reply on its way back, in the pieces
    in which their bytes arrive. -/
structure Exchange where
  method : String
  path : String
  sent : List (List UInt8)
  received : List (List UInt8)
  isMethod : method = "GET" ∨ method = "POST"
  isPath : IsWord path.toList
  bounded : (asBytes (requestText method path)).length ≤ maxRequestHeadBytes
  delivered : sent.flatten = asBytes (requestText method path)
  read : ∀ chunk ∈ sent, chunk ≠ [] ∧ chunk.length ≤ requestChunkBytes
  nonempty : ∀ chunk ∈ received, chunk ≠ []

/-- What the client makes of a reply that arrives as a whole. -/
def ApiReply.taken {T : Type} (decode : List UInt8 → Except String T) (reply : ApiReply) :
    Except ClientError T :=
  if maxHttpResponseBytes < reply.bytes.length then .error .exceeded
  else if reply.status = 200 then (decode reply.body).mapError ClientError.decode
  else .error (.failed (statusLine reply.status))

theorem taken_ok {body : List UInt8} {contentType : String}
    (short : (ApiReply.mk 200 body contentType).bytes.length ≤ maxHttpResponseBytes) {T : Type}
    {decode : List UInt8 → Except String T} {value : T} (decoded : decode body = .ok value) :
    (ApiReply.mk 200 body contentType).taken decode = .ok value := by
  rw [ApiReply.taken, if_neg (Nat.not_lt.mpr short), if_pos rfl, decoded]
  rfl

namespace Exchange

variable (exchange : Exchange)

def connection (context : ApiContext) : ApiConnection :=
  handleConnection context (some (readRequestHead (exchange.sent.map some) []))

def result {T : Type} (decode : List UInt8 → Except String T) : Except ClientError T :=
  requestJson decode (exchange.received.map .ok)

/-- The client has read the whole of a reply of the daemon to its request. -/
structure Carries (context : ApiContext) (reply : ApiReply) : Prop where
  replied : (exchange.connection context).Replies context reply
  received : exchange.received.flatten = reply.bytes

theorem isWord_method : IsWord exchange.method.toList := by
  rcases exchange.isMethod with get | post
  · rw [get]
    exact ⟨by decide, by simp [isWhitespace]⟩
  · rw [post]
    exact ⟨by decide, by simp [isWhitespace]⟩

/-- In whatever pieces the request arrives, the daemon routes the path the client asked for. -/
theorem connection_eq (context : ApiContext) :
    exchange.connection context =
      context.route exchange.method exchange.path.toList (some .prometheusText) := by
  have isWord := exchange.isWord_method
  have whole := readRequestHead_text
    (requestStream isWord exchange.isPath exchange.bounded exchange.delivered exchange.read) rfl rfl
  have head : readRequestHead (exchange.sent.map some) [] =
      .ok (requestText exchange.method exchange.path) := whole
  rw [connection, head]
  exact handleConnection_requestText isWord exchange.isPath exchange.isMethod context

theorem result_of_sent {reply : ApiReply} (sent : reply.Sent)
    (received : exchange.received.flatten = reply.bytes) {T : Type}
    (decode : List UInt8 → Except String T) : exchange.result decode = reply.taken decode := by
  have read := readBoundedResponse_chunks exchange.nonempty [] (Nat.zero_le _)
  rw [List.nil_append, received] at read
  rw [result, ApiReply.taken]
  by_cases exceeds : maxHttpResponseBytes < reply.bytes.length
  · rw [if_pos exceeds] at read
    rw [if_pos exceeds, requestJson_error decode read]
  · rw [if_neg exceeds] at read
    rw [if_neg exceeds, requestJson_ok decode read,
      takeResponse_bytes decode reply sent.status sent.contentType]

variable {exchange : Exchange} {context : ApiContext} {reply : ApiReply}

theorem Carries.sent (carries : exchange.Carries context reply) : reply.Sent :=
  sent_of_replies context carries.replied fun _ same => sent_of_replied context same

/-- A reply is the one to the route of the path the client asked for, and the client takes it for
    what it is: decoded on success, its first line otherwise, or too long. -/
theorem carries_exactly (carries : exchange.Carries context reply) {T : Type}
    (decode : List UInt8 → Except String T) :
    (context.route exchange.method exchange.path.toList (some .prometheusText)).Replies context
        reply ∧
      exchange.result decode = reply.taken decode := by
  constructor
  · rw [← exchange.connection_eq]
    exact carries.replied
  · exact exchange.result_of_sent carries.sent carries.received decode

theorem Carries.result_ok {body : List UInt8} {contentType : String}
    (carries : exchange.Carries context ⟨200, body, contentType⟩)
    (short : (ApiReply.mk 200 body contentType).bytes.length ≤ maxHttpResponseBytes) {T : Type}
    {decode : List UInt8 → Except String T} {value : T} (decoded : decode body = .ok value) :
    exchange.result decode = .ok value := by
  rw [exchange.result_of_sent carries.sent carries.received]
  exact taken_ok short decoded

end Exchange

end Moshwatch
