import Moshwatch.General.Utf8
import Moshwatch.Metrics.Authorization

namespace Moshwatch

def maxRequestHeadBytes : Nat := 16 * 1024

def requestChunkBytes : Nat := 1024

/-- `\r\n\r\n`. -/
def headEnd : List UInt8 := [13, 10, 13, 10]

def windows {α : Type*} (size : Nat) (items : List α) : List (List α) :=
  (List.range (items.length + 1 - size)).map fun start => (items.drop start).take size

def fromUtf8Lossy (bytes : List UInt8) : String := String.ofList (Utf8.lossy bytes)

inductive RequestHeadError where
  | exceeded
  | readRequest
  | unexpectedEof
  deriving DecidableEq

/-- The loop of `read_request_head`; each read gives bytes, no bytes at the end of the stream,
    or an error (`none`). -/
def readRequestHead : List (Option (List UInt8)) → List UInt8 → Except RequestHeadError String
  | reads, buffer =>
    if (windows 4 buffer).any fun window => window = headEnd then .ok (fromUtf8Lossy buffer)
    else if maxRequestHeadBytes ≤ buffer.length then .error .exceeded
    else
      match reads with
      | none :: _ => .error .readRequest
      | [] | some [] :: _ => if buffer = [] then .ok "" else .error .unexpectedEof
      | some (byte :: chunk) :: rest => readRequestHead rest (buffer ++ byte :: chunk)

theorem windows_any {size : Nat} {items pattern : List UInt8} (length : pattern.length = size) :
    ((windows size items).any fun window => window = pattern) = true ↔ pattern <:+: items := by
  simp only [windows, List.any_eq_true, List.mem_map, List.mem_range, decide_eq_true_eq]
  constructor
  · intro found
    obtain ⟨window, ⟨start, -, rfl⟩, same⟩ := found
    rw [← same]
    exact (List.take_prefix _ _).isInfix.trans (List.drop_suffix _ _).isInfix
  · intro inside
    obtain ⟨front, back, rfl⟩ := inside
    refine ⟨pattern, ⟨front.length, ?_, ?_⟩, rfl⟩
    · simp only [List.length_append]
      omega
    · rw [List.append_assoc, List.drop_left, ← length, List.take_left]

theorem windows_headEnd {buffer : List UInt8} :
    ((windows 4 buffer).any fun window => window = headEnd) = true ↔ headEnd <:+: buffer :=
  windows_any rfl

theorem readRequestHead_found {buffer : List UInt8} (found : headEnd <:+: buffer)
    (reads : List (Option (List UInt8))) :
    readRequestHead reads buffer = .ok (fromUtf8Lossy buffer) := by
  unfold readRequestHead
  rw [if_pos (windows_headEnd.mpr found)]

theorem readRequestHead_more {buffer chunk : List UInt8} (absent : ¬ headEnd <:+: buffer)
    (room : buffer.length < maxRequestHeadBytes) (nonempty : chunk ≠ [])
    (reads : List (Option (List UInt8))) :
    readRequestHead (some chunk :: reads) buffer = readRequestHead reads (buffer ++ chunk) := by
  obtain ⟨byte, more, rfl⟩ := List.exists_cons_of_ne_nil nonempty
  rw [readRequestHead, if_neg (mt windows_headEnd.mp absent), if_neg (Nat.not_le.mpr room)]

/-- A request as the daemon reads it: a head that ends at its first blank line within the
    limit, what follows it, and the chunks in which both arrive. -/
structure RequestStream where
  head : List UInt8
  rest : List UInt8
  chunks : List (List UInt8)
  head_ends : headEnd <:+ head
  head_first : ¬ headEnd <:+: head.dropLast
  head_bounded : head.length ≤ maxRequestHeadBytes
  delivered : chunks.flatten = head ++ rest
  chunks_read : ∀ chunk ∈ chunks, chunk ≠ [] ∧ chunk.length ≤ requestChunkBytes

/-- What the chunk with the last of `size` bytes brings beyond them. -/
def beyond (size : Nat) : List (List UInt8) → List UInt8
  | [] => []
  | chunk :: rest =>
    if size ≤ chunk.length then chunk.drop size else beyond (size - chunk.length) rest

theorem beyond_isPrefix (chunks : List (List UInt8)) :
    ∀ size, beyond size chunks <+: chunks.flatten.drop size := by
  induction chunks with
  | nil => simp [beyond]
  | cons chunk rest ih =>
    intro size
    rw [beyond, List.flatten_cons]
    by_cases covers : size ≤ chunk.length
    · rw [if_pos covers, List.drop_append_of_le_length covers]
      exact List.prefix_append _ _
    · rw [if_neg covers, List.drop_append, List.drop_eq_nil_of_le (by omega), List.nil_append]
      exact ih (size - chunk.length)

namespace RequestStream

variable (stream : RequestStream)

/-- The bytes after the head that the reader holds when it stops. -/
def visible : List UInt8 := beyond stream.head.length stream.chunks

theorem head_length : 4 ≤ stream.head.length := stream.head_ends.length_le

theorem visible_isPrefix : stream.visible <+: stream.rest := by
  have after := beyond_isPrefix stream.chunks stream.head.length
  rwa [stream.delivered, List.drop_left] at after

/-- No proper prefix of the head has a blank line. -/
theorem not_found {buffer : List UInt8} (starts : buffer <+: stream.head)
    (proper : buffer.length < stream.head.length) : ¬ headEnd <:+: buffer := by
  intro inside
  have short : buffer <+: stream.head.dropLast := by
    rw [List.dropLast_eq_take]
    exact List.prefix_take_iff.mpr ⟨starts, by omega⟩
  exact stream.head_first (inside.trans short.isInfix)

theorem readRequestHead_chunks (chunks : List (List UInt8)) :
    ∀ buffer, buffer.length < stream.head.length → (∀ chunk ∈ chunks, chunk ≠ []) →
      buffer ++ chunks.flatten = stream.head ++ stream.rest →
      readRequestHead (chunks.map some) buffer =
        .ok (fromUtf8Lossy (stream.head ++ beyond (stream.head.length - buffer.length) chunks)) := by
  induction chunks with
  | nil =>
    intro buffer proper nonempty delivered
    have size := congrArg List.length delivered
    rw [List.flatten_nil, List.append_nil, List.length_append] at size
    omega
  | cons chunk rest ih =>
    intro buffer proper nonempty delivered
    obtain ⟨some, later⟩ := List.forall_mem_cons.mp nonempty
    have starts : buffer <+: stream.head :=
      List.prefix_of_prefix_length_le (delivered ▸ List.prefix_append buffer _)
        (List.prefix_append _ stream.rest) proper.le
    rw [List.map_cons, readRequestHead_more (stream.not_found starts proper)
      (proper.trans_le stream.head_bounded) some, beyond]
    rw [List.flatten_cons, ← List.append_assoc] at delivered
    have size : (buffer ++ chunk).length = buffer.length + chunk.length := List.length_append
    by_cases completes : stream.head.length - buffer.length ≤ chunk.length
    · obtain ⟨missing, whole⟩ := starts
      have taken : missing.length = stream.head.length - buffer.length := by
        rw [← whole, List.length_append, Nat.add_sub_cancel_left]
      have begins : missing <+: chunk := by
        rw [← whole, List.append_assoc, List.append_assoc, List.append_cancel_left_eq] at delivered
        exact List.prefix_of_prefix_length_le (List.prefix_append missing _)
          (delivered ▸ List.prefix_append chunk _) (by omega)
      obtain ⟨extra, split⟩ := begins
      have buffered : buffer ++ chunk = stream.head ++ extra := by
        rw [← split, ← whole, List.append_assoc]
      have left : chunk.drop (stream.head.length - buffer.length) = extra := by
        rw [← taken, ← split, List.drop_left]
      have found : headEnd <:+: stream.head ++ extra :=
        stream.head_ends.isInfix.trans (List.prefix_append _ _).isInfix
      rw [if_pos completes, left, buffered, readRequestHead_found found]
    · rw [if_neg completes, ih (buffer ++ chunk) (by omega) later delivered, size, Nat.sub_sub]

theorem readRequestHead_eq :
    readRequestHead (stream.chunks.map some) [] =
      .ok (fromUtf8Lossy (stream.head ++ stream.visible)) := by
  have positive : 0 < stream.head.length := Nat.lt_of_lt_of_le (by decide) stream.head_length
  have read := stream.readRequestHead_chunks stream.chunks [] positive
    (fun chunk member => (stream.chunks_read chunk member).1) stream.delivered
  exact read

theorem lossy_head : ∃ body, Utf8.lossy stream.head = body ++ ['\n'] := by
  obtain ⟨front, whole⟩ := stream.head_ends
  have ended : stream.head = (front ++ [13, 10] ++ [13]) ++ [10] := by
    rw [← whole, List.append_assoc, List.append_assoc]
    rfl
  rw [ended, Utf8.lossy_append (by decide)]
  exact ⟨_, rfl⟩

theorem lossy_visible :
    Utf8.lossy (stream.head ++ stream.visible) =
      Utf8.lossy stream.head ++ Utf8.lossy stream.visible := by
  obtain ⟨front, whole⟩ := stream.head_ends
  have ended : stream.head = (front ++ [13, 10, 13]) ++ [10] := by
    rw [← whole, List.append_assoc]
    rfl
  rw [ended]
  exact Utf8.lossy_append (by decide) _

def headLines (head : List UInt8) : List (List Char) := (strLines (Utf8.lossy head)).drop 1

theorem strLines_visible :
    (strLines (Utf8.lossy (stream.head ++ stream.visible))).drop 1 =
      headLines stream.head ++ strLines (Utf8.lossy stream.visible) := by
  obtain ⟨body, ended⟩ := stream.lossy_head
  have some : strLines (Utf8.lossy stream.head) ≠ [] := by
    obtain ⟨line, back, begins⟩ := @Framing.exists_begins _ _ '\n' (Utf8.lossy stream.head)
      (by simp [ended])
    rw [strLines, begins.lines]
    exact List.cons_ne_nil _ _
  rw [stream.lossy_visible, headLines, strLines, Framing.lines_append (.inr ⟨body, ended⟩),
    List.map_append]
  exact List.drop_append_of_le_length (List.length_pos_iff.mpr some)

end RequestStream

/-- A line is an `Authorization` header of the `Bearer` scheme with the token. -/
inductive IsBearerLine (line token : List Char) : Prop where
  | intro (name value scheme rest : List Char)
      (named : splitOnce (line.rdropWhile fun ch => ch = '\r') ':' = some (name, value))
      (isAuthorization : charsEqIgnoreAsciiCase name authorizationName = true)
      (schemed : splitOnce (trimChars value) ' ' = some (scheme, rest))
      (isBearer : charsEqIgnoreAsciiCase scheme bearerScheme = true)
      (carried : trimChars rest = token)

inductive FirstBearer (lines : List (List Char)) (token : List Char) : Prop where
  | intro (before after : List (List Char)) (line : List Char)
      (whole : lines = before ++ line :: after)
      (first : ∀ earlier ∈ before, ∀ other, ¬ IsBearerLine earlier other)
      (carried : IsBearerLine line token)

theorem bearerTokenOfLine_eq_some {line token : List Char} :
    bearerTokenOfLine line = some token ↔ IsBearerLine line token := by
  unfold bearerTokenOfLine
  constructor
  · intro found
    by_cases empty : (line.rdropWhile fun ch => decide (ch = '\r')) = []
    · simp [empty] at found
    rw [if_neg empty] at found
    simp only [Option.bind_eq_bind, Option.bind_eq_some_iff] at found
    obtain ⟨⟨name, value⟩, named, found⟩ := found
    cases isAuthorization : charsEqIgnoreAsciiCase name authorizationName with
    | false => simp [isAuthorization] at found
    | true =>
      rw [if_neg (by simp [isAuthorization])] at found
      obtain ⟨⟨scheme, rest⟩, schemed, found⟩ := Option.bind_eq_some_iff.mp found
      cases isBearer : charsEqIgnoreAsciiCase scheme bearerScheme with
      | false => simp [isBearer] at found
      | true =>
        rw [if_neg (by simp [isBearer]), Option.some.injEq] at found
        exact ⟨name, value, scheme, rest, named, isAuthorization, schemed, isBearer, found⟩
  · intro isBearer
    obtain ⟨name, value, scheme, rest, named, isAuthorization, schemed, isBearer, rfl⟩ := isBearer
    have some : (line.rdropWhile fun ch => decide (ch = '\r')) ≠ [] := by
      intro empty
      rw [empty] at named
      cases named
    simp [some, named, isAuthorization, schemed, isBearer]

theorem bearerTokenOfLine_eq_none {line : List Char} :
    bearerTokenOfLine line = none ↔ ∀ token, ¬ IsBearerLine line token := by
  simp only [← bearerTokenOfLine_eq_some, Option.eq_none_iff_forall_ne_some]

theorem findSome?_bearer {lines : List (List Char)} {token : List Char} :
    lines.findSome? bearerTokenOfLine = some token ↔ FirstBearer lines token := by
  rw [List.findSome?_eq_some_iff]
  simp only [bearerTokenOfLine_eq_some, bearerTokenOfLine_eq_none]
  constructor
  · intro found
    obtain ⟨before, line, after, whole, carried, first⟩ := found
    exact ⟨before, after, line, whole, first, carried⟩
  · intro found
    obtain ⟨before, after, line, whole, first, carried⟩ := found
    exact ⟨before, line, after, whole, carried, first⟩

theorem metricsRequestIsAuthorized_iff {request expectedToken : String} :
    metricsRequestIsAuthorized request expectedToken = true ↔
      FirstBearer ((strLines request.toList).drop 1) expectedToken.toList := by
  rw [← findSome?_bearer, metricsRequestIsAuthorized, extractBearerToken]
  cases ((strLines request.toList).drop 1).findSome? bearerTokenOfLine with
  | none => simp
  | some token =>
    rw [Option.map_some, Option.some.injEq]
    exact constantTimeEq_iff.trans (asBytes_inj.trans String.ofList_eq)

section Sections

variable {front back : List (List Char)} {token : List Char}

/-- The lines of one section decide if they have a bearer line; otherwise the next section does. -/
theorem firstBearer_append :
    FirstBearer (front ++ back) token ↔
      FirstBearer front token ∨
        (∀ line ∈ front, ∀ other, ¬ IsBearerLine line other) ∧ FirstBearer back token := by
  simp only [← findSome?_bearer, List.findSome?_append, ← bearerTokenOfLine_eq_none,
    ← List.findSome?_eq_none_iff]
  cases front.findSome? bearerTokenOfLine <;> simp

end Sections

namespace RequestStream

def HeadDecides (stream : RequestStream) (expectedToken : String) : Prop :=
  ∃ request, readRequestHead (stream.chunks.map some) [] = .ok request ∧
    (metricsRequestIsAuthorized request expectedToken = true ↔
      FirstBearer (headLines stream.head) expectedToken.toList)

/-- The head decides exactly when it has a bearer line, or the first one that the reader sees
    behind it has another token. -/
theorem headDecides_iff (stream : RequestStream) (expectedToken : String) :
    stream.HeadDecides expectedToken ↔
      (∃ line ∈ headLines stream.head, ∃ token, IsBearerLine line token) ∨
        ¬ FirstBearer (strLines (Utf8.lossy stream.visible)) expectedToken.toList := by
  have authorized : metricsRequestIsAuthorized (fromUtf8Lossy (stream.head ++ stream.visible))
      expectedToken = true ↔ FirstBearer (headLines stream.head) expectedToken.toList ∨
        (∀ line ∈ headLines stream.head, ∀ other, ¬ IsBearerLine line other) ∧
          FirstBearer (strLines (Utf8.lossy stream.visible)) expectedToken.toList := by
    rw [metricsRequestIsAuthorized_iff, fromUtf8Lossy, String.toList_ofList,
      stream.strLines_visible, firstBearer_append]
  have decides : stream.HeadDecides expectedToken ↔
      (metricsRequestIsAuthorized (fromUtf8Lossy (stream.head ++ stream.visible)) expectedToken =
        true ↔ FirstBearer (headLines stream.head) expectedToken.toList) := by
    rw [HeadDecides, stream.readRequestHead_eq]
    simp
  rw [decides, authorized]
  by_cases bare : ∀ line ∈ headLines stream.head, ∀ other, ¬ IsBearerLine line other
  · have none : ¬ FirstBearer (headLines stream.head) expectedToken.toList := by
      intro first
      obtain ⟨before, after, line, whole, -, carried⟩ := first
      exact bare line (by simp [whole]) _ carried
    have noLine : ¬ ∃ line ∈ headLines stream.head, ∃ token, IsBearerLine line token := by
      intro found
      obtain ⟨line, member, token, carried⟩ := found
      exact bare line member token carried
    simp only [none, noLine, false_or, iff_false]
    exact not_congr (and_iff_right bare)
  · have found : ∃ line ∈ headLines stream.head, ∃ token, IsBearerLine line token := by
      push Not at bare
      exact bare
    exact iff_of_true (or_iff_left fun both => bare both.1) (.inl found)

/-- A request without an `Authorization` header, whose body arrives in the same chunk. -/
def bodyToken : RequestStream where
  head := asBytes "GET /metrics HTTP/1.1\r\n\r\n"
  rest := asBytes "Authorization: Bearer secret-token"
  chunks := [asBytes "GET /metrics HTTP/1.1\r\n\r\nAuthorization: Bearer secret-token"]
  head_ends := by decide
  head_first := by decide
  head_bounded := by decide
  delivered := by decide
  chunks_read := by decide

theorem bodyToken_authorized : ¬ bodyToken.HeadDecides "secret-token" := by
  intro decides
  obtain ⟨request, read, agrees⟩ := decides
  rw [bodyToken.readRequestHead_eq] at read
  cases read
  have authorized : metricsRequestIsAuthorized
      (fromUtf8Lossy (bodyToken.head ++ bodyToken.visible)) "secret-token" = true := by
    decide +kernel
  have bare : ¬ FirstBearer (headLines bodyToken.head) "secret-token".toList := by
    rw [← findSome?_bearer]
    decide
  exact bare (agrees.mp authorized)

end RequestStream

section Text

theorem fromUtf8Lossy_asBytes (text : String) : fromUtf8Lossy (asBytes text) = text := by
  rw [fromUtf8Lossy, asBytes_eq_flatMap, Utf8.lossy_flatMap, String.ofList_toList]

/-- A request that is text and has no body is read as that text, in whatever chunks. -/
theorem readRequestHead_text {text : String} (stream : RequestStream)
    (isText : stream.head = asBytes text) (noBody : stream.rest = []) :
    readRequestHead (stream.chunks.map some) [] = .ok text := by
  have none : stream.visible = [] := List.prefix_nil.mp (noBody ▸ stream.visible_isPrefix)
  rw [stream.readRequestHead_eq, none, List.append_nil, isText, fromUtf8Lossy_asBytes]

end Text

end Moshwatch
