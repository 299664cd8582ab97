import Moshwatch.Core.Encoded
import Moshwatch.General.HeadBody
import Moshwatch.Metrics.RequestHead

namespace Moshwatch

/-- The reason phrases of `write_headers`. -/
def statusText : Nat → String
  | 200 => "OK"
  | 400 => "Bad Request"
  | 404 => "Not Found"
  | 409 => "Conflict"
  | 405 => "Method Not Allowed"
  | 406 => "Not Acceptable"
  | 408 => "Request Timeout"
  | 501 => "Not Implemented"
  | 503 => "Service Unavailable"
  | _ => "Internal Server Error"

def apiStatuses : List Nat := [200, 400, 404, 405, 406, 408, 409, 500, 501, 503]

/-- The header that `write_headers` adds unless it opens a stream. -/
def lengthHeader : Option Nat → String
  | some contentLength => "Content-Length: " ++ toString contentLength ++ "\r\n"
  | none => ""

def writeHeaders (status : Nat) (contentType : String) (contentLength : Option Nat) : String :=
  "HTTP/1.1 " ++ toString status ++ " " ++ statusText status ++
    "\r\nContent-Type: " ++ contentType ++
    "\r\nConnection: close\r\nCache-Control: no-store\r\n" ++
    lengthHeader contentLength ++ "\r\n"

structure ApiReply where
  status : Nat
  body : List UInt8
  contentType : String
  deriving DecidableEq

/-- What `write_response` writes. -/
def ApiReply.bytes (reply : ApiReply) : List UInt8 :=
  asBytes (writeHeaders reply.status reply.contentType (some reply.body.length)) ++ reply.body

/-- A reply that a client can tell apart from others by its first line. -/
structure ApiReply.Sent (reply : ApiReply) : Prop where
  status : reply.status ∈ apiStatuses
  contentType : '\n' ∉ reply.contentType.toList

/-- The request of `request_json_with_method`. -/
def requestText (method path : String) : String :=
  method ++ " " ++ path ++ " HTTP/1.1\r\nHost: localhost\r\nConnection: close\r\n\r\n"

section Heads

def encodedLines (lines : List (List Char)) : List (List UInt8) := lines.map encoded

theorem encoded_ended (lines : List (List Char)) :
    encoded (HeadBody.ended '\r' '\n' lines) = HeadBody.ended 13 10 (encodedLines lines) := by
  induction lines with
  | nil => rfl
  | cons line rest ih =>
    rw [HeadBody.ended_cons, encoded_append, encoded_append, ih]
    rfl

theorem encoded_message (lines : List (List Char)) (body : List UInt8) :
    encoded (HeadBody.message '\r' '\n' lines []) ++ body =
      HeadBody.message 13 10 (encodedLines lines) body := by
  rw [HeadBody.message, List.append_nil, encoded_append, encoded_ended, HeadBody.message,
    List.append_assoc]
  rfl

theorem encoded_head (lines : List (List Char)) :
    encoded (HeadBody.head '\r' '\n' lines) = HeadBody.head 13 10 (encodedLines lines) := by
  induction lines with
  | nil => rfl
  | cons line rest ih =>
    cases rest with
    | nil => simp [HeadBody.head, encodedLines]
    | cons next rest =>
      rw [HeadBody.head, List.intercalate_cons_cons, encoded_append, encoded_append,
        ← HeadBody.head, ih]
      exact (List.intercalate_cons_cons ..).symm

theorem isLine_bytes {line : List Char} (isLine : HeadBody.IsLine '\n' line) :
    HeadBody.IsLine (10 : UInt8) (encoded line) :=
  ⟨mt encoded_eq_nil.mp isLine.1, mt newline_mem_encoded.mp isLine.2⟩

theorem isLines_encoded {lines : List (List Char)}
    (isLine : ∀ line ∈ lines, HeadBody.IsLine '\n' line) :
    ∀ line ∈ encodedLines lines, HeadBody.IsLine (10 : UInt8) line := by
  intro line member
  obtain ⟨text, inside, rfl⟩ := List.mem_map.mp member
  exact isLine_bytes (isLine text inside)

def statusLine (status : Nat) : String :=
  "HTTP/1.1 " ++ toString status ++ " " ++ statusText status

def headersOf (status : Nat) (contentType : String) (contentLength : Option Nat) :
    List (List Char) :=
  (statusLine status).toList :: ("Content-Type: " ++ contentType).toList ::
    "Connection: close".toList :: "Cache-Control: no-store".toList ::
    (contentLength.map fun length => ("Content-Length: " ++ toString length).toList).toList

theorem toList_writeHeaders (status : Nat) (contentType : String) (contentLength : Option Nat) :
    (writeHeaders status contentType contentLength).toList =
      HeadBody.message '\r' '\n' (headersOf status contentType contentLength) [] := by
  have ending : "\r\n".toList = ['\r', '\n'] := rfl
  have empty : "".toList = [] := rfl
  have type : "\r\nContent-Type: " = "\r\n" ++ "Content-Type: " := by simp
  have fixed : "\r\nConnection: close\r\nCache-Control: no-store\r\n" =
      "\r\n" ++ ("Connection: close" ++ ("\r\n" ++ ("Cache-Control: no-store" ++ "\r\n"))) := by simp
  unfold writeHeaders lengthHeader
  rw [fixed, type]
  cases contentLength with
  | none =>
    simp only [headersOf, statusLine, HeadBody.message, HeadBody.ended, Option.map_none,
      Option.toList_none, List.flatMap_cons, List.flatMap_nil, String.toList_append, ending, empty,
      List.append_assoc, List.append_nil]
  | some length =>
    simp only [headersOf, statusLine, HeadBody.message, HeadBody.ended, Option.map_some,
      Option.toList_some, List.flatMap_cons, List.flatMap_nil, String.toList_append, ending,
      List.append_assoc, List.append_nil]

theorem bytes_eq (reply : ApiReply) :
    reply.bytes = HeadBody.message 13 10
      (encodedLines (headersOf reply.status reply.contentType (some reply.body.length)))
      reply.body := by
  rw [ApiReply.bytes, asBytes_eq_encoded, toList_writeHeaders, encoded_message]

end Heads

end Moshwatch
