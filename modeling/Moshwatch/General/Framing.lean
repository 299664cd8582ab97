import Mathlib

namespace Framing

variable {α : Type*} [DecidableEq α] (sep : α) (maxBytes : Nat)

/-- The lines of a stream, each with its separator; the last one may lack it. -/
def lines : List α → List (List α)
  | [] => []
  | byte :: rest =>
    if byte = sep then [byte] :: lines rest
    else
      match lines rest with
      | [] => [[byte]]
      | line :: later => (byte :: line) :: later

inductive Outcome (α : Type*) where
  | eof
  | frame (bytes : List α)
  | oversized (bytes : Nat)

/-- What a bounded reader makes of one line. -/
def bound (line : List α) : Outcome α :=
  if maxBytes < line.length then .oversized line.length else .frame line

/-- What is left of a buffer's chunk and the chunks after it. -/
def consume (taken : Nat) (chunk : List α) (rest : List (List α)) : List (List α) :=
  if chunk.drop taken = [] then rest else chunk.drop taken :: rest

def drain : List (List α) → Nat → Nat × List (List α)
  | [], bytes => (bytes, [])
  | chunk :: rest, bytes =>
    match chunk.findIdx? (· = sep) with
    | some index => (bytes + (index + 1), consume (index + 1) chunk rest)
    | none => drain rest (bytes + chunk.length)

/-- Read one line of at most `maxBytes` from a buffered reader, given as the chunks it will
    hand out; `line` has been read already. -/
def readBounded : List (List α) → List α → Outcome α × List (List α)
  | [], line => (if line = [] then .eof else .frame line, [])
  | chunk :: rest, line =>
    match chunk.findIdx? (· = sep) with
    | some index =>
      if maxBytes < line.length + (index + 1) then
        (.oversized (line.length + (index + 1)), consume (index + 1) chunk rest)
      else (.frame (line ++ chunk.take (index + 1)), consume (index + 1) chunk rest)
    | none =>
      if maxBytes < line.length + chunk.length then
        (.oversized (drain sep (chunk :: rest) line.length).1,
          (drain sep (chunk :: rest) line.length).2)
      else readBounded rest (line ++ chunk)

/-- Read until the end of the stream; the fuel bounds the number of lines. -/
def readAll : Nat → List (List α) → List (Outcome α)
  | 0, _ => []
  | fuel + 1, chunks =>
    match readBounded sep maxBytes chunks [] with
    | (.eof, _) => []
    | (outcome, rest) => outcome :: readAll fuel rest

section Lines

variable {sep}

theorem lines_of_sep {front : List α} (absent : sep ∉ front) (back : List α) :
    lines sep (front ++ sep :: back) = (front ++ [sep]) :: lines sep back := by
  induction front with
  | nil => simp [lines]
  | cons byte front ih =>
    rw [List.mem_cons, not_or] at absent
    rw [List.cons_append, lines, if_neg (Ne.symm absent.1), ih absent.2]
    rfl

theorem lines_of_not_mem {bytes : List α} (absent : sep ∉ bytes) (nonempty : bytes ≠ []) :
    lines sep bytes = [bytes] := by
  induction bytes with
  | nil => exact absurd rfl nonempty
  | cons byte bytes ih =>
    rw [List.mem_cons, not_or] at absent
    rw [lines, if_neg (Ne.symm absent.1)]
    cases bytes with
    | nil => rfl
    | cons next rest => rw [ih absent.2 (List.cons_ne_nil _ _)]

/-- Lines that are all ended are read independently of what follows them. -/
theorem lines_append {front : List α} (ended : front = [] ∨ ∃ body, front = body ++ [sep])
    (back : List α) : lines sep (front ++ back) = lines sep front ++ lines sep back := by
  induction front with
  | nil => rfl
  | cons byte front ih =>
    have tail : front = [] ∨ ∃ body, front = body ++ [sep] := by
      rcases ended with empty | ⟨body, whole⟩
      · cases empty
      · cases body with
        | nil => exact .inl (List.cons.inj whole).2
        | cons first body => exact .inr ⟨body, (List.cons.inj whole).2⟩
    rw [List.cons_append, lines, lines, ih tail]
    by_cases isSep : byte = sep
    · rw [if_pos isSep, if_pos isSep]
      rfl
    · rw [if_neg isSep, if_neg isSep]
      cases front with
      | nil =>
        rcases ended with empty | ⟨body, whole⟩
        · cases empty
        · cases body with
          | nil => exact absurd (List.cons.inj whole).1 isSep
          | cons first body => exact absurd (List.cons.inj whole).2 (by simp)
      | cons next rest =>
        have some : lines sep (next :: rest) ≠ [] := by
          rw [lines]
          split
          · exact List.cons_ne_nil _ _
          · split <;> exact List.cons_ne_nil _ _
        obtain ⟨line, later, split⟩ := List.exists_cons_of_ne_nil some
        rw [split]
        rfl

theorem lines_line {body : List α} (absent : sep ∉ body) :
    lines sep (body ++ [sep]) = [body ++ [sep]] := by
  rw [lines_of_sep absent]
  rfl

theorem lines_flatMap {bodies : List (List α)} (unbroken : ∀ body ∈ bodies, sep ∉ body) :
    lines sep (bodies.flatMap (· ++ [sep])) = bodies.map (· ++ [sep]) := by
  induction bodies with
  | nil => rfl
  | cons body bodies ih =>
    rw [List.flatMap_cons, lines_append (.inr ⟨body, rfl⟩),
      lines_line (unbroken body List.mem_cons_self),
      ih fun other member => unbroken other (List.mem_cons_of_mem _ member)]
    rfl

end Lines

section Reader

variable {sep maxBytes} {chunks : List (List α)}

theorem exists_of_findIdx?_eq_some {chunk : List α} {index : Nat}
    (found : chunk.findIdx? (· = sep) = some index) :
    ∃ front back, chunk = front ++ sep :: back ∧ sep ∉ front ∧ index = front.length := by
  rw [List.findIdx?_eq_some_iff_getElem] at found
  obtain ⟨inside, isSep, before⟩ := found
  rw [decide_eq_true_eq] at isSep
  refine ⟨chunk.take index, chunk.drop (index + 1), ?_, ?_, ?_⟩
  · rw [← isSep, List.cons_getElem_drop_succ, List.take_append_drop]
  · intro member
    obtain ⟨earlier, bounded, here⟩ := List.mem_take_iff_getElem.mp member
    have none := before earlier (by omega)
    simp [here] at none
  · rw [List.length_take]
    omega

theorem not_mem_of_findIdx?_eq_none {chunk : List α} (found : chunk.findIdx? (· = sep) = none) :
    sep ∉ chunk := by
  rw [List.findIdx?_eq_none_iff] at found
  intro member
  simpa using found sep member

omit [DecidableEq α] in
theorem flatten_consume (taken : Nat) (chunk : List α) (rest : List (List α)) :
    (consume taken chunk rest).flatten = chunk.drop taken ++ rest.flatten := by
  unfold consume
  split
  · rename_i empty
    rw [empty, List.nil_append]
  · rfl

omit [DecidableEq α] in
theorem consume_nonempty {rest : List (List α)} (nonempty : ∀ later ∈ rest, later ≠ [])
    (taken : Nat) (chunk : List α) : ∀ later ∈ consume taken chunk rest, later ≠ [] := by
  unfold consume
  split
  · exact nonempty
  · rename_i left
    intro later member
    rcases List.mem_cons.mp member with rfl | old
    · exact left
    · exact nonempty later old

/-- How a stream begins: it is empty, it is one unended line, or it starts with an ended one. -/
inductive Begins (sep : α) : List α → List α → List α → Prop where
  | unended {line : List α} (absent : sep ∉ line) (nonempty : line ≠ []) : Begins sep line line []
  | ended {front : List α} (absent : sep ∉ front) (back : List α) :
      Begins sep (front ++ sep :: back) (front ++ [sep]) back

theorem Begins.lines {bytes line back : List α} (begins : Begins sep bytes line back) :
    Framing.lines sep bytes = line :: Framing.lines sep back := by
  cases begins with
  | unended absent nonempty => exact lines_of_not_mem absent nonempty
  | ended absent back => exact lines_of_sep absent back

omit [DecidableEq α] in
theorem begins_of_found {line front : List α} (absent : sep ∉ line) (before : sep ∉ front)
    (back : List α) (rest : List (List α)) :
    Begins sep (line ++ ((front ++ sep :: back) :: rest).flatten) (line ++ front ++ [sep])
      (back ++ rest.flatten) := by
  rw [List.flatten_cons, List.append_assoc front, List.cons_append, ← List.append_assoc line]
  exact .ended (by simp [absent, before]) _

omit [DecidableEq α] in
theorem begins_cons {line chunk whole back : List α} {rest : List (List α)}
    (begins : Begins sep (line ++ chunk ++ rest.flatten) whole back) :
    Begins sep (line ++ (chunk :: rest).flatten) whole back := by
  rwa [List.flatten_cons, ← List.append_assoc]

omit [DecidableEq α] in
theorem flatten_consume_found (front back : List α) (rest : List (List α)) :
    (consume (front.length + 1) (front ++ sep :: back) rest).flatten = back ++ rest.flatten := by
  rw [flatten_consume, List.drop_append]
  simp

theorem drain_spec (nonempty : ∀ chunk ∈ chunks, chunk ≠ []) :
    ∀ line : List α, sep ∉ line → line ≠ [] →
      ∃ whole back, Begins sep (line ++ chunks.flatten) whole back ∧ line <+: whole ∧
        (drain sep chunks line.length).1 = whole.length ∧
        (drain sep chunks line.length).2.flatten = back ∧
        ∀ later ∈ (drain sep chunks line.length).2, later ≠ [] := by
  induction chunks with
  | nil =>
    intro line absent some
    rw [List.flatten_nil, List.append_nil]
    exact ⟨line, [], .unended absent some, List.prefix_refl _, rfl, rfl, by simp [drain]⟩
  | cons chunk rest ih =>
    intro line absent some
    have later : ∀ chunk ∈ rest, chunk ≠ [] :=
      fun chunk member => nonempty chunk (List.mem_cons_of_mem _ member)
    cases found : chunk.findIdx? (· = sep) with
    | some index =>
      obtain ⟨front, back, rfl, before, rfl⟩ := exists_of_findIdx?_eq_some found
      simp only [drain, found]
      refine ⟨line ++ front ++ [sep], back ++ rest.flatten, begins_of_found absent before back rest,
        ?_, ?_, flatten_consume_found front back rest, consume_nonempty later _ _⟩
      · rw [List.append_assoc]
        exact List.prefix_append _ _
      · simp only [List.length_append, List.length_singleton]
        omega
    | none =>
      have free := not_mem_of_findIdx?_eq_none found
      obtain ⟨whole, back, begins, starts, counted, left, kept⟩ :=
        ih later (line ++ chunk) (by simp [absent, free]) (List.append_ne_nil_of_left_ne_nil some _)
      rw [List.length_append] at counted left kept
      simp only [drain, found]
      exact ⟨whole, back, begins_cons begins, (List.prefix_append _ _).trans starts, counted, left,
        kept⟩

theorem readBounded_spec (nonempty : ∀ chunk ∈ chunks, chunk ≠ []) :
    ∀ line : List α, sep ∉ line → line.length ≤ maxBytes → line ++ chunks.flatten ≠ [] →
      ∃ whole back, Begins sep (line ++ chunks.flatten) whole back ∧
        (readBounded sep maxBytes chunks line).1 = bound maxBytes whole ∧
        (readBounded sep maxBytes chunks line).2.flatten = back ∧
        ∀ later ∈ (readBounded sep maxBytes chunks line).2, later ≠ [] := by
  induction chunks with
  | nil =>
    intro line absent bounded some
    rw [List.flatten_nil, List.append_nil] at some ⊢
    refine ⟨line, [], .unended absent some, ?_, rfl, by simp [readBounded]⟩
    simp only [readBounded, if_neg some, bound, if_neg (Nat.not_lt.mpr bounded)]
  | cons chunk rest ih =>
    intro line absent bounded some
    have later : ∀ chunk ∈ rest, chunk ≠ [] :=
      fun chunk member => nonempty chunk (List.mem_cons_of_mem _ member)
    cases found : chunk.findIdx? (· = sep) with
    | some index =>
      obtain ⟨front, back, rfl, before, rfl⟩ := exists_of_findIdx?_eq_some found
      have size : (line ++ front ++ [sep]).length = line.length + (front.length + 1) := by
        simp only [List.length_append, List.length_singleton]
        omega
      have left := @flatten_consume_found _ sep front back rest
      refine ⟨line ++ front ++ [sep], back ++ rest.flatten, begins_of_found absent before back rest,
        ?_⟩
      simp only [readBounded, found, bound, size]
      split
      · exact ⟨rfl, left, consume_nonempty later _ _⟩
      · refine ⟨?_, left, consume_nonempty later _ _⟩
        rw [List.take_append]
        simp
    | none =>
      have free : sep ∉ line ++ chunk := by
        simp [absent, not_mem_of_findIdx?_eq_none found]
      simp only [readBounded, found]
      split
      · rename_i long
        have filled : line ++ chunk ≠ [] :=
          List.append_ne_nil_of_right_ne_nil _ (nonempty chunk List.mem_cons_self)
        obtain ⟨whole, back, begins, starts, counted, left, kept⟩ :=
          drain_spec later (line ++ chunk) free filled
        have longer : maxBytes < whole.length := by
          have size := starts.length_le
          rw [List.length_append] at size
          omega
        rw [List.length_append] at counted left kept
        simp only [drain, found]
        refine ⟨whole, back, begins_cons begins, ?_, left, kept⟩
        rw [bound, if_pos longer, counted]
      · rename_i short
        have short : (line ++ chunk).length ≤ maxBytes := by
          rw [List.length_append]
          omega
        obtain ⟨whole, back, begins, read⟩ :=
          ih later (line ++ chunk) free short (by simpa [List.append_assoc] using some)
        exact ⟨whole, back, begins_cons begins, read⟩

omit [DecidableEq α] in
theorem Begins.length_eq {bytes line back : List α} (begins : Begins sep bytes line back) :
    bytes.length = line.length + back.length ∧ 0 < line.length := by
  cases begins with
  | unended absent nonempty => exact ⟨rfl, List.length_pos_iff.mpr nonempty⟩
  | ended absent back =>
    simp only [List.length_append, List.length_cons, List.length_nil]
    omega

/-- However the stream is cut into chunks, the reader delivers its lines, each bounded. -/
theorem readAll_eq (fuel : Nat) :
    ∀ chunks : List (List α), (∀ chunk ∈ chunks, chunk ≠ []) → chunks.flatten.length < fuel →
      readAll sep maxBytes fuel chunks = (lines sep chunks.flatten).map (bound maxBytes) := by
  induction fuel with
  | zero => intro chunks nonempty enough; omega
  | succ fuel ih =>
    intro chunks nonempty enough
    by_cases empty : chunks.flatten = []
    · have none : chunks = [] := by
        cases chunks with
        | nil => rfl
        | cons chunk rest =>
          exact absurd (List.append_eq_nil_iff.mp empty).1 (nonempty chunk List.mem_cons_self)
      subst none
      rfl
    · obtain ⟨line, back, begins, outcome, left, kept⟩ :=
        @readBounded_spec _ _ _ maxBytes _ nonempty [] (by simp) (Nat.zero_le _)
          (by simpa using empty)
      rw [List.nil_append] at begins
      obtain ⟨size, positive⟩ := begins.length_eq
      rw [begins.lines, List.map_cons, ← left, ← ih _ kept (by rw [left]; omega), ← outcome, readAll]
      have proceeds : (readBounded sep maxBytes chunks []).1 ≠ .eof := by
        rw [outcome, bound]
        split <;> simp
      cases result : readBounded sep maxBytes chunks [] with
      | mk first rest =>
        rw [result] at proceeds
        cases first with
        | eof => exact absurd rfl proceeds
        | frame bytes => rfl
        | oversized bytes => rfl

end Reader

section Pieces

/-- The stream is cut after each separator and nowhere else. -/
structure IsFraming (sep : α) (bytes : List α) (pieces : List (List α)) : Prop where
  whole : pieces.flatten = bytes
  nonempty : ∀ piece ∈ pieces, piece ≠ []
  unbroken : ∀ piece ∈ pieces, sep ∉ piece.dropLast
  ended : ∀ piece ∈ pieces.dropLast, piece.getLast? = some sep

variable {sep}

theorem exists_begins {bytes : List α} (nonempty : bytes ≠ []) :
    ∃ line back, Begins sep bytes line back := by
  by_cases member : sep ∈ bytes
  · obtain ⟨front, back, rfl, absent⟩ := List.eq_append_cons_of_mem member
    exact ⟨_, _, .ended absent back⟩
  · exact ⟨_, _, .unended member nonempty⟩

omit [DecidableEq α] in
theorem IsFraming.cons {bytes line back : List α} {pieces : List (List α)}
    (begins : Begins sep bytes line back) (framing : IsFraming sep back pieces) :
    IsFraming sep bytes (line :: pieces) := by
  cases begins with
  | unended absent nonempty =>
    have none : pieces = [] := by
      cases pieces with
      | nil => rfl
      | cons piece rest =>
        exact absurd (List.append_eq_nil_iff.mp framing.whole).1
          (framing.nonempty piece List.mem_cons_self)
    subst none
    refine ⟨by simp, by simpa using nonempty, ?_, by simp⟩
    intro piece member
    rw [List.mem_singleton.mp member]
    exact fun inside => absent (List.dropLast_subset _ inside)
  | @ended front absent back =>
    refine ⟨?_, ?_, ?_, ?_⟩
    · rw [List.flatten_cons, framing.whole, List.append_assoc]
      rfl
    · intro piece member
      rcases List.mem_cons.mp member with rfl | later
      · simp
      · exact framing.nonempty piece later
    · intro piece member
      rcases List.mem_cons.mp member with rfl | later
      · simpa using absent
      · exact framing.unbroken piece later
    · intro piece member
      cases pieces with
      | nil => cases member
      | cons next rest =>
        rcases List.mem_cons.mp member with rfl | later
        · simp
        · exact framing.ended piece later

theorem isFraming_lines (bytes : List α) : IsFraming sep bytes (lines sep bytes) := by
  induction size : bytes.length using Nat.strong_induction_on generalizing bytes with
  | _ size ih =>
    by_cases empty : bytes = []
    · subst empty
      exact ⟨rfl, by simp [lines], by simp [lines], by simp [lines]⟩
    · obtain ⟨line, back, begins⟩ := @exists_begins _ _ sep _ empty
      obtain ⟨total, positive⟩ := begins.length_eq
      rw [begins.lines]
      exact .cons begins (ih back.length (by omega) back rfl)

/-- There is one way to cut a stream. -/
theorem IsFraming.eq_lines {bytes : List α} {pieces : List (List α)}
    (framing : IsFraming sep bytes pieces) : pieces = lines sep bytes := by
  induction pieces generalizing bytes with
  | nil =>
    rw [← framing.whole]
    rfl
  | cons piece rest ih =>
    have some := framing.nonempty piece List.mem_cons_self
    have single := framing.unbroken piece List.mem_cons_self
    have later : IsFraming sep rest.flatten rest := by
      refine ⟨rfl, fun other member => framing.nonempty other (List.mem_cons_of_mem _ member),
        fun other member => framing.unbroken other (List.mem_cons_of_mem _ member), ?_⟩
      intro other member
      cases rest with
      | nil => cases member
      | cons next rest => exact framing.ended other (List.mem_cons_of_mem _ member)
    have split := List.dropLast_append_getLast some
    rw [← framing.whole, List.flatten_cons]
    by_cases isSep : piece.getLast some = sep
    · rw [isSep] at split
      rw [← split, List.append_assoc, List.singleton_append, lines_of_sep single, ← ih later]
    · have absent : sep ∉ piece := by
        rw [← split]
        simp [single, Ne.symm isSep]
      cases rest with
      | nil => rw [List.flatten_nil, List.append_nil, lines_of_not_mem absent some]
      | cons next rest =>
        have last := framing.ended piece List.mem_cons_self
        rw [List.getLast?_eq_some_getLast some, Option.some.injEq] at last
        exact absurd last isSep

end Pieces

section Delivery

variable {β : Type*} {sep}

/-- Read until the end of the stream is reported; the fuel bounds the calls. -/
def untilEof (read : List (List α) → Option β × List (List α)) :
    Nat → List (List α) → Option (List β)
  | 0, _ => none
  | fuel + 1, chunks =>
    match read chunks with
    | (none, _) => some []
    | (some delivered, rest) => (untilEof read fuel rest).map (delivered :: ·)

/-- A reader that takes one line off the stream and delivers something for it. -/
structure Delivers (sep : α) (deliver : List α → β)
    (read : List (List α) → Option β × List (List α)) : Prop where
  eof : (read []).1 = none
  line : ∀ chunks, (∀ chunk ∈ chunks, chunk ≠ []) → chunks ≠ [] →
    ∃ whole back, Begins sep chunks.flatten whole back ∧ (read chunks).1 = some (deliver whole) ∧
      (read chunks).2.flatten = back ∧ ∀ later ∈ (read chunks).2, later ≠ []

theorem Delivers.untilEof_eq {deliver : List α → β}
    {read : List (List α) → Option β × List (List α)} (delivers : Delivers sep deliver read)
    (extra : Nat) {chunks : List (List α)} (nonempty : ∀ chunk ∈ chunks, chunk ≠ []) :
    untilEof read ((lines sep chunks.flatten).length + 1 + extra) chunks =
      some ((lines sep chunks.flatten).map deliver) := by
  induction size : chunks.flatten.length using Nat.strong_induction_on generalizing chunks with
  | _ size ih =>
    rw [Nat.add_right_comm, untilEof]
    by_cases empty : chunks = []
    · subst empty
      cases result : read [] with
      | mk first rest =>
        have none := delivers.eof
        rw [result] at none
        change first = _ at none
        subst none
        rfl
    · obtain ⟨whole, back, begins, delivered, left, kept⟩ := delivers.line chunks nonempty empty
      obtain ⟨total, positive⟩ := begins.length_eq
      have later := ih (read chunks).2.flatten.length (by rw [left]; omega) kept rfl
      rw [left, Nat.add_right_comm] at later
      rw [begins.lines, List.length_cons, List.map_cons]
      cases result : read chunks with
      | mk first rest =>
        rw [result] at delivered later
        change first = _ at delivered
        change untilEof read _ rest = _ at later
        subst delivered
        rw [Nat.add_right_comm]
        change (untilEof read _ rest).map (deliver whole :: ·) = _
        rw [later]
        rfl

end Delivery

end Framing
