import Moshwatch.Daemon.Telemetry

namespace Moshwatch

/-- A buffered reader: what `fill_buf` hands out, until the end of the stream. -/
abbrev BufReader := List (List UInt8)

def newline : UInt8 := 10

section History

inductive ReadLineOutcome where
  | eof
  | line
  | oversized (bytes : Nat)

def drainLineRemainder : BufReader → Nat → Nat × BufReader
  | [], bytes => (bytes, [])
  | chunk :: rest, bytes =>
    match chunk.findIdx? (· = newline) with
    | some newlineIdx => (satAdd bytes (newlineIdx + 1), Framing.consume (newlineIdx + 1) chunk rest)
    | none => drainLineRemainder rest (satAdd bytes chunk.length)

/-- The loop of `read_bounded_line`: the outcome, what it leaves in `line`, and the reader. -/
def readBoundedLineFrom (maxBytes : Nat) : BufReader → List UInt8 →
    ReadLineOutcome × List UInt8 × BufReader
  | [], line => (if line = [] then .eof else .line, line, [])
  | chunk :: rest, line =>
    match chunk.findIdx? (· = newline) with
    | some newlineIdx =>
      let take := newlineIdx + 1
      let total := satAdd line.length take
      if maxBytes < total then (.oversized total, [], Framing.consume take chunk rest)
      else (.line, line ++ chunk.take take, Framing.consume take chunk rest)
    | none =>
      if maxBytes < satAdd line.length chunk.length then
        let (bytes, reader) := drainLineRemainder (chunk :: rest) line.length
        (.oversized bytes, [], reader)
      else readBoundedLineFrom maxBytes rest (line ++ chunk)

def readBoundedLine (maxBytes : Nat) (reader : BufReader) :
    ReadLineOutcome × List UInt8 × BufReader := readBoundedLineFrom maxBytes reader []

end History

section Telemetry

inductive TelemetryFrameRead where
  | eof
  | frame (bytes : List UInt8)
  | oversized (bytes : Nat)

def drainTelemetryFrameRemainder : BufReader → Nat → Nat × BufReader
  | [], bytes => (bytes, [])
  | chunk :: rest, bytes =>
    match chunk.findIdx? (· = newline) with
    | some newlineIdx => (satAdd bytes (newlineIdx + 1), Framing.consume (newlineIdx + 1) chunk rest)
    | none => drainTelemetryFrameRemainder rest (satAdd bytes chunk.length)

/-- The loop of `read_bounded_telemetry_frame` when no timeout fires. -/
def readBoundedTelemetryFrameFrom (maxBytes : Nat) : BufReader → List UInt8 →
    TelemetryFrameRead × BufReader
  | [], frame => (if frame = [] then .eof else .frame frame, [])
  | chunk :: rest, frame =>
    match chunk.findIdx? (· = newline) with
    | some newlineIdx =>
      let take := newlineIdx + 1
      let total := satAdd frame.length take
      if maxBytes < total then (.oversized total, Framing.consume take chunk rest)
      else (.frame (frame ++ chunk.take take), Framing.consume take chunk rest)
    | none =>
      if maxBytes < satAdd frame.length chunk.length then
        let (bytes, reader) := drainTelemetryFrameRemainder (chunk :: rest) frame.length
        (.oversized bytes, reader)
      else readBoundedTelemetryFrameFrom maxBytes rest (frame ++ chunk)

def readBoundedTelemetryFrame (maxBytes : Nat) (reader : BufReader) :
    TelemetryFrameRead × BufReader := readBoundedTelemetryFrameFrom maxBytes reader []

end Telemetry

inductive Delivery where
  | line (bytes : List UInt8)
  | oversized (bytes : Nat)
  deriving DecidableEq

def ReadLineOutcome.delivery (line : List UInt8) : ReadLineOutcome → Option Delivery
  | .eof => none
  | .line => some (.line line)
  | .oversized bytes => some (.oversized bytes)

def TelemetryFrameRead.delivery : TelemetryFrameRead → Option Delivery
  | .eof => none
  | .frame bytes => some (.line bytes)
  | .oversized bytes => some (.oversized bytes)

/-- A call of `read_bounded_line` with what its caller then finds in `line`. -/
def deliverLine (maxBytes : Nat) (reader : BufReader) : Option Delivery × BufReader :=
  let (outcome, line, rest) := readBoundedLine maxBytes reader
  (outcome.delivery line, rest)

def deliverTelemetryFrame (maxBytes : Nat) (reader : BufReader) : Option Delivery × BufReader :=
  let (read, rest) := readBoundedTelemetryFrame maxBytes reader
  (read.delivery, rest)

/-- The reference for one piece of the stream, its length counted by a `usize`. -/
def deliver (maxBytes : Nat) (piece : List UInt8) : Delivery :=
  if maxBytes < min piece.length u64Max then .oversized (min piece.length u64Max) else .line piece

section Telemetry

theorem drainTelemetryFrameRemainder_eq (reader : BufReader) :
    ∀ bytes, drainTelemetryFrameRemainder reader bytes = drainLineRemainder reader bytes := by
  induction reader with
  | nil => exact fun _ => rfl
  | cons chunk rest ih =>
    intro bytes
    rw [drainTelemetryFrameRemainder, drainLineRemainder]
    cases chunk.findIdx? (· = newline) with
    | some newlineIdx => rfl
    | none => exact ih _

theorem readBoundedTelemetryFrameFrom_eq (maxBytes : Nat) (reader : BufReader) :
    ∀ frame, ((readBoundedTelemetryFrameFrom maxBytes reader frame).1.delivery,
        (readBoundedTelemetryFrameFrom maxBytes reader frame).2) =
      ((readBoundedLineFrom maxBytes reader frame).1.delivery
        (readBoundedLineFrom maxBytes reader frame).2.1,
        (readBoundedLineFrom maxBytes reader frame).2.2) := by
  induction reader with
  | nil =>
    intro frame
    rw [readBoundedTelemetryFrameFrom, readBoundedLineFrom]
    by_cases empty : frame = []
    · rw [if_pos empty, if_pos empty]
      rfl
    · rw [if_neg empty, if_neg empty]
      rfl
  | cons chunk rest ih =>
    intro frame
    rw [readBoundedTelemetryFrameFrom, readBoundedLineFrom]
    cases chunk.findIdx? (· = newline) with
    | some newlineIdx =>
      by_cases long : maxBytes < satAdd frame.length (newlineIdx + 1)
      · simp only [if_pos long]
        rfl
      · simp only [if_neg long]
        rfl
    | none =>
      by_cases long : maxBytes < satAdd frame.length chunk.length
      · simp only [if_pos long, drainTelemetryFrameRemainder_eq]
        rfl
      · simp only [if_neg long]
        exact ih _

theorem deliverTelemetryFrame_eq (maxBytes : Nat) (reader : BufReader) :
    deliverTelemetryFrame maxBytes reader = deliverLine maxBytes reader :=
  readBoundedTelemetryFrameFrom_eq maxBytes reader []

end Telemetry

section History

/-- What is delivered for an outcome of the library's reader, with the count saturated. -/
def deliveryOf : Framing.Outcome UInt8 → Option Delivery
  | .eof => none
  | .frame bytes => some (.line bytes)
  | .oversized bytes => some (.oversized (min bytes u64Max))

theorem satAdd_min (left right : Nat) : satAdd (min left u64Max) right = min (left + right) u64Max := by
  unfold satAdd
  omega

theorem drainLineRemainder_eq (reader : BufReader) :
    ∀ bytes, drainLineRemainder reader (min bytes u64Max) =
      (min (Framing.drain newline reader bytes).1 u64Max,
        (Framing.drain newline reader bytes).2) := by
  induction reader with
  | nil => exact fun _ => rfl
  | cons chunk rest ih =>
    intro bytes
    rw [drainLineRemainder, Framing.drain]
    cases chunk.findIdx? (· = newline) with
    | some newlineIdx => simp only [satAdd_min]
    | none =>
      simp only [satAdd_min]
      exact ih _

/-- The reader is the library's, up to the saturation of the counts. The limit `bound` stands for
    `maxBytes` where no count can exceed the latter. -/
theorem readBoundedLineFrom_eq {maxBytes bound total : Nat}
    (agree : ∀ count ≤ total, maxBytes < min count u64Max ↔ bound < count) (reader : BufReader) :
    ∀ line, line.length + reader.flatten.length ≤ total → line.length ≤ bound →
      ((readBoundedLineFrom maxBytes reader line).1.delivery
          (readBoundedLineFrom maxBytes reader line).2.1,
        (readBoundedLineFrom maxBytes reader line).2.2) =
      (deliveryOf (Framing.readBounded newline bound reader line).1,
        (Framing.readBounded newline bound reader line).2) := by
  induction reader with
  | nil =>
    intro line _ _
    rw [readBoundedLineFrom, Framing.readBounded]
    by_cases empty : line = []
    · rw [if_pos empty, if_pos empty]
      rfl
    · rw [if_neg empty, if_neg empty]
      rfl
  | cons chunk rest ih =>
    intro line counted short
    rw [List.flatten_cons, List.length_append] at counted
    rw [readBoundedLineFrom, Framing.readBounded]
    cases found : chunk.findIdx? (· = newline) with
    | some newlineIdx =>
      have inside := (List.findIdx?_eq_some_iff_getElem.mp found).1
      have same : maxBytes < satAdd line.length (newlineIdx + 1) ↔
          bound < line.length + (newlineIdx + 1) := agree _ (by omega)
      by_cases long : bound < line.length + (newlineIdx + 1)
      · simp only [if_pos long, if_pos (same.mpr long)]
        rfl
      · simp only [if_neg long, if_neg (long ∘ same.mp)]
        rfl
    | none =>
      have same : maxBytes < satAdd line.length chunk.length ↔ bound < line.length + chunk.length :=
        agree _ (by omega)
      by_cases long : bound < line.length + chunk.length
      · have small : min line.length u64Max = line.length := by
          have read := (agree line.length (by omega)).not.mpr (by omega)
          have exceeds := lt_of_lt_of_le (same.mpr long) (Nat.min_le_right _ _)
          omega
        have drained := drainLineRemainder_eq (chunk :: rest) line.length
        rw [small] at drained
        simp only [if_pos long, if_pos (same.mpr long), drained]
        rfl
      · simp only [if_neg long, if_neg (long ∘ same.mp)]
        exact ih (line ++ chunk) (by rw [List.length_append]; omega)
          (by rw [List.length_append]; omega)

theorem exists_bound (maxBytes total : Nat) :
    ∃ bound, ∀ count ≤ total, maxBytes < min count u64Max ↔ bound < count := by
  by_cases reachable : maxBytes < u64Max
  · exact ⟨maxBytes, fun count _ => by omega⟩
  · exact ⟨total, fun count _ => by omega⟩

theorem delivers_deliverLine (maxBytes : Nat) :
    Framing.Delivers newline (deliver maxBytes) (deliverLine maxBytes) := by
  refine ⟨rfl, ?_⟩
  intro reader nonempty some
  obtain ⟨bound, agree⟩ := exists_bound maxBytes reader.flatten.length
  have same : deliverLine maxBytes reader =
      (deliveryOf (Framing.readBounded newline bound reader []).1,
        (Framing.readBounded newline bound reader []).2) :=
    readBoundedLineFrom_eq agree reader [] (by simp) (Nat.zero_le _)
  have filled : ([] : List UInt8) ++ reader.flatten ≠ [] := by
    intro empty
    obtain ⟨chunk, rest, rfl⟩ := List.exists_cons_of_ne_nil some
    exact nonempty chunk List.mem_cons_self (List.append_eq_nil_iff.mp (List.append_eq_nil_iff.mp empty).2).1
  obtain ⟨whole, back, begins, outcome, left, kept⟩ :=
    @Framing.readBounded_spec _ _ newline bound _ nonempty [] (by simp) (Nat.zero_le _) filled
  rw [List.nil_append] at begins
  rw [same, outcome]
  refine ⟨whole, back, begins, ?_, left, kept⟩
  have agrees := agree whole.length (by have := begins.length_eq; omega)
  rw [Framing.bound, deliver]
  by_cases long : bound < whole.length
  · rw [if_pos long, if_pos (agrees.mpr long)]
    rfl
  · rw [if_neg long, if_neg (long ∘ agrees.mp)]
    rfl

theorem deliver_of_countable (maxBytes : Nat) {piece : List UInt8}
    (countable : piece.length ≤ u64Max) :
    deliver maxBytes piece =
      if piece.length ≤ maxBytes then .line piece else .oversized piece.length := by
  rw [deliver, Nat.min_eq_left countable]
  by_cases short : piece.length ≤ maxBytes
  · rw [if_pos short, if_neg (not_lt.mpr short)]
  · rw [if_neg short, if_pos (not_le.mp short)]

end History

/-- However a stream is cut into chunks, each of the two readers delivers its lines in order, one
    a call, and then reports the end: a line within the limit as it is, a longer one by its
    length. -/
theorem bounded_reads (maxBytes : Nat) (stream : ByteStream) :
    let pieces := Framing.lines newline stream.bytes
    (∀ cut, Framing.IsFraming newline stream.bytes cut ↔ cut = pieces) ∧
    (∀ extra, Framing.untilEof (deliverLine maxBytes) (pieces.length + 1 + extra) stream.chunks =
      some (pieces.map (deliver maxBytes))) ∧
    (∀ extra, Framing.untilEof (deliverTelemetryFrame maxBytes) (pieces.length + 1 + extra)
      stream.chunks = some (pieces.map (deliver maxBytes))) ∧
    ∀ piece ∈ pieces, piece.length ≤ u64Max → deliver maxBytes piece =
      if piece.length ≤ maxBytes then .line piece else .oversized piece.length := by
  intro pieces
  have delivers := delivers_deliverLine maxBytes
  have same : deliverTelemetryFrame maxBytes = deliverLine maxBytes :=
    funext (deliverTelemetryFrame_eq maxBytes)
  refine ⟨?_, ?_, ?_, ?_⟩
  · intro cut
    constructor
    · exact Framing.IsFraming.eq_lines
    · rintro rfl
      exact Framing.isFraming_lines stream.bytes
  · intro extra
    exact delivers.untilEof_eq extra stream.nonempty
  · intro extra
    rw [same]
    exact delivers.untilEof_eq extra stream.nonempty
  · intro piece _ countable
    exact deliver_of_countable maxBytes countable

end Moshwatch
