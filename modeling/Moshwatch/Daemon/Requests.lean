import Moshwatch.Daemon.ApiServer

namespace Moshwatch

def IsWord (text : List Char) : Prop := text ≠ [] ∧ ∀ ch ∈ text, isWhitespace ch = false

theorem IsWord.newline_not_mem {text : List Char} (word : IsWord text) : '\n' ∉ text := by
  intro member
  have visible := word.2 _ member
  simp [isWhitespace] at visible

section RequestText

def requestLine (method path : String) : String := method ++ " " ++ path ++ " HTTP/1.1"

def requestLines (method path : String) : List (List Char) :=
  [(requestLine method path).toList, "Host: localhost".toList, "Connection: close".toList]

variable {method path : String}

theorem toList_requestText :
    (requestText method path).toList =
      HeadBody.message '\r' '\n' (requestLines method path) [] := by
  have fixed : " HTTP/1.1\r\nHost: localhost\r\nConnection: close\r\n\r\n" =
      " HTTP/1.1" ++ ("\r\n" ++ ("Host: localhost" ++ ("\r\n" ++
        ("Connection: close" ++ ("\r\n" ++ "\r\n"))))) := by simp
  have ending : "\r\n".toList = ['\r', '\n'] := rfl
  simp only [requestText, requestLine, requestLines, HeadBody.message, HeadBody.ended, fixed,
    List.flatMap_cons, List.flatMap_nil, String.toList_append, ending, List.append_assoc,
    List.append_nil]

theorem asBytes_requestText :
    asBytes (requestText method path) =
      HeadBody.message 13 10 (encodedLines (requestLines method path)) [] := by
  rw [asBytes_eq_encoded, toList_requestText, ← encoded_message, List.append_nil]

variable (isMethod : IsWord method.toList) (isPath : IsWord path.toList)

include isMethod isPath

theorem newline_not_mem_requestLine : '\n' ∉ (requestLine method path).toList := by
  have first := isMethod.newline_not_mem
  have second := isPath.newline_not_mem
  simp [requestLine, first, second]

theorem isLine_requestLines :
    ∀ line ∈ requestLines method path, HeadBody.IsLine '\n' line := by
  intro line member
  simp only [requestLines, List.mem_cons, List.not_mem_nil, or_false] at member
  rcases member with rfl | rfl | rfl
  · exact ⟨by simp [requestLine], newline_not_mem_requestLine isMethod isPath⟩
  · exact ⟨by decide, by decide⟩
  · exact ⟨by decide, by decide⟩

theorem strLines_requestText :
    strLines (requestText method path).toList =
      (requestLine method path).toList :: "Host: localhost".toList :: "Connection: close".toList ::
        [[]] := by
  have lines : HeadBody.message '\r' '\n' (requestLines method path) [] =
      (requestLine method path).toList ++ '\r' :: '\n' :: ("Host: localhost".toList ++
        '\r' :: '\n' :: ("Connection: close".toList ++ '\r' :: '\n' :: ([] ++ '\r' :: '\n' :: []))) := by
    simp only [HeadBody.message, HeadBody.ended, requestLines, List.flatMap_cons, List.flatMap_nil,
      List.append_assoc, List.cons_append, List.nil_append]
  rw [toList_requestText, lines, strLines_crlf (newline_not_mem_requestLine isMethod isPath),
    strLines_crlf (by decide), strLines_crlf (by decide), strLines_crlf (by decide)]
  rfl

theorem requestWords_requestText :
    requestWords (requestText method path) =
      [method.toList, path.toList, "HTTP/1.1".toList] := by
  have blank : isWhitespace ' ' = true := by simp [isWhitespace]
  have words : (requestLine method path).toList =
      method.toList ++ ' ' :: (path.toList ++ ' ' :: ("HTTP/1.1".toList ++ [])) := by
    have version : " HTTP/1.1".toList = ' ' :: "HTTP/1.1".toList := rfl
    have space : " ".toList = [' '] := rfl
    simp only [requestLine, String.toList_append, version, space, List.append_assoc,
      List.append_nil, List.cons_append, List.nil_append]
  have version : splitWhitespace ("HTTP/1.1".toList ++ []) = ["HTTP/1.1".toList] := by
    have visible : ∀ ch ∈ "HTTP/1.1".toList, isWhitespace ch = false := by simp [isWhitespace]
    rw [List.append_nil, splitWhitespace, List.splitOnP_eq_singleton visible]
    rfl
  rw [requestWords, strLines_requestText isMethod isPath, List.head?_cons, Option.getD_some, words,
    splitWhitespace_word isMethod.2 isMethod.1 blank, splitWhitespace_word isPath.2 isPath.1 blank,
    version]

/-- The client sends no `Accept` header. -/
theorem requestedMetricsFormat_requestText (parseF64 : List Char → Option F64) :
    requestedMetricsFormat parseF64 (requestText method path).toList = some .prometheusText := by
  rw [requestedMetricsFormat, strLines_requestText isMethod isPath]
  rfl

omit isPath in
theorem trim_requestText : trim (requestText method path) ≠ "" := by
  rw [Ne, trim_eq_empty]
  intro blank
  obtain ⟨ch, rest, begins⟩ := List.exists_cons_of_ne_nil isMethod.1
  have member : ch ∈ (requestText method path).toList := by
    simp [requestText, begins]
  have visible := isMethod.2 ch (by simp [begins])
  rw [blank ch member] at visible
  cases visible

theorem handleConnection_requestText (known : method = "GET" ∨ method = "POST")
    (context : ApiContext) :
    handleConnection context (some (.ok (requestText method path))) =
      context.route method path.toList (some .prometheusText) := by
  have served : ¬ (method ≠ "GET" ∧ method ≠ "POST") := by
    intro other
    rcases known with get | post
    · exact other.1 get
    · exact other.2 post
  simp only [handleConnection, trim_requestText isMethod, if_false,
    requestWords_requestText isMethod isPath, List.getElem?_cons_zero, List.getElem?_cons_succ,
    Option.getD_some, String.ofList_toList, served,
    requestedMetricsFormat_requestText isMethod isPath]

/-- A request of the client as the daemon's reads bring it. -/
def requestStream {chunks : List (List UInt8)}
    (bounded : (asBytes (requestText method path)).length ≤ maxRequestHeadBytes)
    (delivered : chunks.flatten = asBytes (requestText method path))
    (read : ∀ chunk ∈ chunks, chunk ≠ [] ∧ chunk.length ≤ requestChunkBytes) : RequestStream where
  head := asBytes (requestText method path)
  rest := []
  chunks := chunks
  head_ends := by
    have nonempty : encodedLines (requestLines method path) ≠ [] := List.cons_ne_nil _ _
    rw [asBytes_requestText, HeadBody.message_eq nonempty, List.append_nil]
    exact List.suffix_append _ _
  head_first := by
    have nonempty : encodedLines (requestLines method path) ≠ [] := List.cons_ne_nil _ _
    rw [asBytes_requestText, HeadBody.message_eq nonempty, List.append_nil]
    exact HeadBody.blank_first (by decide) nonempty
      (isLines_encoded (isLine_requestLines isMethod isPath))
  head_bounded := bounded
  delivered := by rw [delivered, List.append_nil]
  chunks_read := read

end RequestText

end Moshwatch
