import Moshwatch.General.Framing
import Moshwatch.General.Markers

namespace Markers

variable {α : Type*} [DecidableEq α] (markers : Markers α)

def IsLine (marker line : List α) : Prop := line = marker ∨ line = marker ++ [markers.newline]

instance (marker line : List α) : Decidable (markers.IsLine marker line) :=
  inferInstanceAs (Decidable (_ ∨ _))

/-- The lines without the blocks; the first argument holds the lines of a block that has no stop
    line yet. -/
def removeLines : Option (List α) → List (List α) → List α
  | none, [] => []
  | some held, [] => held
  | none, line :: rest =>
    if markers.IsLine markers.start line then removeLines (some line) rest
    else line ++ removeLines none rest
  | some held, line :: rest =>
    if markers.IsLine markers.stop line then removeLines none rest
    else removeLines (some (held ++ line)) rest

/-- A text without its blocks: a start line up to the next stop line. -/
def removeBlocks (text : List α) : List α :=
  markers.removeLines none (Framing.lines markers.newline text)

def NoLine (marker text : List α) : Prop :=
  ∀ line ∈ Framing.lines markers.newline text, ¬ markers.IsLine marker line

def Ended (text : List α) : Prop := text = [] ∨ ∃ body, text = body ++ [markers.newline]

/-- What stands behind a line that is complete without its newline. -/
def LineEnd (after : List α) : Prop := after = [] ∨ ∃ back, after = markers.newline :: back

section Lines

variable {markers}

theorem flatten_lines (text : List α) : (Framing.lines markers.newline text).flatten = text :=
  (Framing.isFraming_lines text).whole

theorem NoLine.of_absent {marker text : List α} (absent : ¬ marker <:+: text) :
    markers.NoLine marker text := by
  intro line member isLine
  have inText : line <:+: text := by
    have inFlatten := List.infix_of_mem_flatten member
    rwa [flatten_lines] at inFlatten
  apply absent
  rcases isLine with rfl | rfl
  · exact inText
  · exact (List.prefix_append _ _).isInfix.trans inText

omit [DecidableEq α] in
theorem Ended.seam {marker front back : List α} (plain : markers.newline ∉ marker)
    (ended : markers.Ended front) : Seam marker front back := by
  rcases ended with rfl | ⟨body, rfl⟩
  · exact .nil_left
  · exact .of_last plain

omit [DecidableEq α] in
theorem Ended.line {front body : List α} (ended : markers.Ended body) :
    markers.Ended (front ++ markers.newline :: body) := by
  rcases ended with rfl | ⟨inner, rfl⟩
  · exact .inr ⟨front, rfl⟩
  · exact .inr ⟨front ++ markers.newline :: inner, by simp⟩

theorem noLine_nil {marker : List α} : markers.NoLine marker [] := by
  simp [NoLine, Framing.lines]

theorem NoLine.line {marker front back : List α} (plain : markers.newline ∉ marker)
    (absent : markers.newline ∉ front) (other : front ≠ marker) (rest : markers.NoLine marker back) :
    markers.NoLine marker (front ++ markers.newline :: back) := by
  intro line member
  rw [Framing.lines_of_sep absent, List.mem_cons] at member
  rcases member with rfl | later
  · rintro (same | same)
    · apply plain
      rw [← same]
      simp
    · exact other (List.append_cancel_right same)
  · exact rest line later

theorem NoLine.of_unended {marker text : List α} (absent : markers.newline ∉ text)
    (other : text ≠ marker) : markers.NoLine marker text := by
  by_cases empty : text = []
  · subst empty
    exact noLine_nil
  · intro line member
    rw [Framing.lines_of_not_mem absent empty, List.mem_singleton] at member
    subst member
    rintro (same | same)
    · exact other same
    · apply absent
      rw [same]
      simp

theorem exists_first_line {marker : List α} (plain : markers.newline ∉ marker) (text : List α) :
    markers.NoLine marker text ∨ ∃ front after, text = front ++ (marker ++ after) ∧
      markers.Ended front ∧ markers.NoLine marker front ∧ markers.LineEnd after := by
  induction size : text.length using Nat.strong_induction_on generalizing text with
  | _ size ih =>
    by_cases empty : text = []
    · subst empty
      exact .inl noLine_nil
    · obtain ⟨line, back, begins⟩ := @Framing.exists_begins _ _ markers.newline _ empty
      cases begins with
      | unended absent nonempty =>
        by_cases isMarker : text = marker
        · subst isMarker
          exact .inr ⟨[], [], by simp, .inl rfl, noLine_nil, .inl rfl⟩
        · exact .inl (.of_unended absent isMarker)
      | @ended front absent back =>
        by_cases isMarker : front = marker
        · subst isMarker
          exact .inr ⟨[], markers.newline :: back, by simp, .inl rfl, noLine_nil, .inr ⟨back, rfl⟩⟩
        · rcases ih back.length (by simp at size; omega) back rfl with none | found
          · exact .inl (none.line plain absent isMarker)
          · obtain ⟨body, after, rfl, bodyEnded, bodyPlain, lineEnd⟩ := found
            exact .inr ⟨front ++ markers.newline :: body, after, by simp, bodyEnded.line,
              bodyPlain.line plain absent isMarker, lineEnd⟩

theorem lines_marker {marker after : List α} (plain : markers.newline ∉ marker)
    (nonempty : marker ≠ []) (lineEnd : markers.LineEnd after) :
    ∃ line, markers.IsLine marker line ∧ Framing.lines markers.newline (marker ++ after) =
      line :: Framing.lines markers.newline (markers.dropNewline after) := by
  rcases lineEnd with rfl | ⟨back, rfl⟩
  · refine ⟨marker, .inl rfl, ?_⟩
    rw [List.append_nil, Framing.lines_of_not_mem plain nonempty]
    rfl
  · refine ⟨marker ++ [markers.newline], .inr rfl, ?_⟩
    rw [Framing.lines_of_sep plain, markers.dropNewline_newline]

end Lines

section Removal

variable {markers}

theorem removeLines_front {front : List (List α)}
    (plain : ∀ line ∈ front, ¬ markers.IsLine markers.start line) (rest : List (List α)) :
    markers.removeLines none (front ++ rest) = front.flatten ++ markers.removeLines none rest := by
  induction front with
  | nil => rfl
  | cons line front ih =>
    rw [List.cons_append, removeLines, if_neg (plain line List.mem_cons_self),
      ih fun other member => plain other (List.mem_cons_of_mem _ member), List.flatten_cons,
      List.append_assoc]

theorem removeLines_held {body : List (List α)}
    (plain : ∀ line ∈ body, ¬ markers.IsLine markers.stop line) (held : List α)
    (rest : List (List α)) :
    markers.removeLines (some held) (body ++ rest) =
      markers.removeLines (some (held ++ body.flatten)) rest := by
  induction body generalizing held with
  | nil => simp
  | cons line body ih =>
    rw [List.cons_append, removeLines, if_neg (plain line List.mem_cons_self),
      ih fun other member => plain other (List.mem_cons_of_mem _ member), List.flatten_cons,
      List.append_assoc]

theorem removeBlocks_of_noLine {text : List α} (plain : markers.NoLine markers.start text) :
    markers.removeBlocks text = text := by
  have kept := removeLines_front plain []
  rw [List.append_nil, flatten_lines] at kept
  rw [removeBlocks, kept, removeLines, List.append_nil]

theorem removeBlocks_start {front : List α} (ended : markers.Ended front)
    (plain : markers.NoLine markers.start front) (back : List α) :
    markers.removeBlocks (front ++ (markers.start ++ (markers.newline :: back))) =
      front ++ markers.removeLines (some (markers.start ++ [markers.newline]))
        (Framing.lines markers.newline back) := by
  have first : markers.IsLine markers.start (markers.start ++ [markers.newline]) := .inr rfl
  rw [removeBlocks, Framing.lines_append ended, removeLines_front plain, flatten_lines,
    Framing.lines_of_sep markers.newline_not_mem_start, removeLines, if_pos first]

theorem removeBlocks_block {front body after : List α} (ended : markers.Ended front)
    (plain : markers.NoLine markers.start front) (bodyEnded : markers.Ended body)
    (bodyPlain : markers.NoLine markers.stop body) (lineEnd : markers.LineEnd after) :
    markers.removeBlocks
        (front ++ (markers.start ++ (markers.newline :: (body ++ (markers.stop ++ after))))) =
      front ++ markers.removeBlocks (markers.dropNewline after) := by
  obtain ⟨line, isStop, lines⟩ :=
    lines_marker markers.newline_not_mem_stop (List.cons_ne_nil _ _) lineEnd
  rw [removeBlocks_start ended plain, Framing.lines_append bodyEnded, removeLines_held bodyPlain,
    lines, removeLines, if_pos isStop]
  rfl

theorem removeBlocks_cases (text : List α) :
    markers.removeBlocks text = text ∨ ∃ front body after,
      text = front ++ (markers.start ++ (markers.newline :: (body ++ (markers.stop ++ after)))) ∧
      markers.Ended front ∧ markers.NoLine markers.start front ∧ markers.Ended body ∧
      markers.NoLine markers.stop body ∧ markers.LineEnd after := by
  rcases exists_first_line markers.newline_not_mem_start text with plain | found
  · exact .inl (removeBlocks_of_noLine plain)
  · obtain ⟨front, behind, rfl, ended, plain, lineEnd⟩ := found
    rcases lineEnd with rfl | ⟨back, rfl⟩
    · refine .inl ?_
      have lines := Framing.lines_of_not_mem markers.newline_not_mem_start
        (List.cons_ne_nil markers.mark markers.startTail)
      have first : markers.IsLine markers.start markers.start := .inl rfl
      rw [List.append_nil, removeBlocks, Framing.lines_append ended, removeLines_front plain,
        flatten_lines]
      change front ++ markers.removeLines none (Framing.lines markers.newline markers.start) = _
      have single : Framing.lines markers.newline markers.start = [markers.start] := lines
      rw [single, removeLines, if_pos first]
      rfl
    · rcases exists_first_line markers.newline_not_mem_stop back with bodyPlain | found
      · refine .inl ?_
        have held := removeLines_held bodyPlain (markers.start ++ [markers.newline]) []
        rw [List.append_nil, flatten_lines] at held
        rw [removeBlocks_start ended plain, held, removeLines]
        simp
      · obtain ⟨body, after, rfl, bodyEnded, bodyPlain, lineEnd⟩ := found
        exact .inr ⟨front, body, after, rfl, ended, plain, bodyEnded, bodyPlain, lineEnd⟩

theorem removeBlocks_of_normal {text : List α} (normal : markers.Normal text) :
    markers.removeBlocks text = text := by
  rcases @removeBlocks_cases _ _ markers text with kept | ⟨front, body, after, whole, -⟩
  · exact kept
  · exact absurd whole (normal front (markers.newline :: body) after)

end Removal

section Arrangement

/-- Each start marker with a stop marker behind it lies in a block, and the bodies of the blocks are
    as `inner` says. -/
inductive Arranged (inner : List α → Prop) : List α → Prop where
  | plain {text : List α} : markers.Normal text → Arranged inner text
  | block {front body after : List α} : markers.Ended front → ¬ markers.start <:+: front →
      markers.Ended body → markers.NoLine markers.stop body → inner body →
      markers.LineEnd after → Arranged inner (markers.dropNewline after) →
      Arranged inner
        (front ++ (markers.start ++ (markers.newline :: (body ++ (markers.stop ++ after)))))

def Covered : List α → Prop := markers.Arranged fun _ => True

/-- And no block holds a stop marker before its stop line. -/
def Tidy : List α → Prop := markers.Arranged fun body => ¬ markers.stop <:+: body

variable {markers}

omit [DecidableEq α] in
theorem not_stop_infix_newline_cons {body : List α} (plain : ¬ markers.stop <:+: body) :
    ¬ markers.stop <:+: markers.newline :: body := by
  have seam : Seam markers.stop ([] ++ [markers.newline]) body :=
    .of_last markers.newline_not_mem_stop
  have absent : ¬ markers.stop <:+: [] ++ [markers.newline] ++ body := by
    rw [seam.infix_append, not_or]
    exact ⟨not_stop_infix_newline, plain⟩
  exact absent

/-- In a tidy text the loop takes out the blocks and nothing else. -/
theorem Tidy.strip_eq {text : List α} (tidy : markers.Tidy text) :
    markers.strip text = markers.removeBlocks text := by
  induction tidy with
  | plain normal => rw [markers.strip_of_normal normal, removeBlocks_of_normal normal]
  | @block front body after ended absent bodyEnded bodyPlain noStop lineEnd _ ih =>
    have round := @strip_of_first _ markers _ front (markers.newline :: body) after absent
      (not_stop_infix_newline_cons noStop)
    rw [List.cons_append] at round
    rw [round, markers.strip_append_of_not_start
      (fun _ => ended.seam markers.newline_not_mem_start) absent, ih,
      removeBlocks_block ended (.of_absent absent) bodyEnded bodyPlain lineEnd]

end Arrangement

section Last

variable {markers}

omit [DecidableEq α] in
theorem last_unique {front after before behind : List α}
    (split : front ++ (markers.stop ++ after) = before ++ (markers.stop ++ behind))
    (noStop : ¬ markers.stop <:+: behind) :
    (before = front ∧ behind = after) ∨
      ∃ rest, after = rest ++ (markers.stop ++ behind) ∧
        before = front ++ (markers.stop ++ rest) := by
  rcases markers.seam_stop_stop.cases split with ⟨rest, -, eq⟩ | ⟨rest, eq, inStop⟩
  · exact absurd ⟨rest, after, by rw [eq, List.append_assoc]⟩ noStop
  · have seam : Seam markers.stop markers.stop after :=
      markers.seam_after_marker markers.mark_stop rfl (by rw [stop, List.length_cons])
    rcases seam.cases inStop with ⟨cut, within, behindEq⟩ | ⟨cut, eqRest, afterEq⟩
    · have lengths := congrArg List.length within
      simp only [List.length_append] at lengths
      have noRest : rest = [] := List.length_eq_zero_iff.mp (by omega)
      have noCut : cut = [] := List.length_eq_zero_iff.mp (by omega)
      subst noRest noCut
      exact .inl ⟨by simpa using eq, by simpa using behindEq⟩
    · exact .inr ⟨cut, afterEq, by rw [eq, eqRest]⟩

theorem dropNewline_append_stop (front back : List α) :
    markers.dropNewline (front ++ (markers.stop ++ back)) =
      markers.dropNewline front ++ (markers.stop ++ back) := by
  cases front with
  | nil => exact if_neg (Ne.symm markers.newline_mark)
  | cons symbol front =>
    simp only [List.cons_append, dropNewline]
    split <;> rfl

theorem exists_dropNewline (text : List α) :
    ∃ ending, text = ending ++ markers.dropNewline text ∧ (ending = [] ∨ ending = [markers.newline]) := by
  cases text with
  | nil => exact ⟨[], rfl, .inl rfl⟩
  | cons symbol rest =>
    by_cases newline : symbol = markers.newline
    · subst newline
      exact ⟨[markers.newline], by rw [markers.dropNewline_newline]; rfl, .inr rfl⟩
    · refine ⟨[], ?_, .inl rfl⟩
      rw [dropNewline, if_neg newline, List.nil_append]

omit [DecidableEq α] in
theorem not_start_infix_append_stop {front : List α} (absent : ¬ markers.start <:+: front) :
    ¬ markers.start <:+: front ++ markers.stop := by
  have seam := @seam_start_stop _ markers front []
  rw [List.append_nil] at seam
  rw [seam.infix_append, not_or]
  exact ⟨absent, markers.not_start_infix_stop⟩

theorem exists_upto_stop (front after : List α) :
    ∃ upto, front ++ (markers.stop ++ after) = upto ++ markers.dropNewline after ∧
      (markers.start <:+: upto ↔ markers.start <:+: front) := by
  obtain ⟨ending, whole, eq⟩ := @exists_dropNewline _ _ markers after
  refine ⟨front ++ markers.stop ++ ending, ?_, ?_⟩
  · simp only [List.append_assoc]
    rw [← whole]
  · have stopped : markers.start <:+: front ++ markers.stop ↔ markers.start <:+: front := by
      constructor
      · intro inside
        by_contra absent
        exact not_start_infix_append_stop absent inside
      · intro inside
        exact inside.trans (List.prefix_append _ _).isInfix
    rcases eq with rfl | rfl
    · rwa [List.append_nil]
    · rwa [start_infix_concat_newline]

omit [DecidableEq α] in
theorem normal_append_of_not_stop {front back : List α} (absent : ¬ markers.start <:+: front)
    (noStop : ¬ markers.stop <:+: back) : markers.Normal (front ++ back) := by
  intro before body after eq
  rw [← List.append_assoc] at eq
  rcases List.append_eq_append_iff.mp eq with ⟨rest, -, backEq⟩ | ⟨rest, frontEq, -⟩
  · exact noStop ⟨rest ++ body, after, by rw [backEq]; simp⟩
  · exact absent ⟨before, rest, by rw [frontEq]⟩

theorem not_infix_dropNewline {pattern after : List α} (absent : ¬ pattern <:+: after) :
    ¬ pattern <:+: markers.dropNewline after := by
  intro inside
  obtain ⟨ending, whole, -⟩ := @exists_dropNewline _ _ markers after
  apply absent
  rw [whole]
  exact inside.trans (List.suffix_append _ _).isInfix

/-- The loop leaves no start marker before the end of the last stop marker. -/
theorem strip_upto_last (text : List α) :
    ∀ front after, text = front ++ (markers.stop ++ after) → ¬ markers.stop <:+: after →
      ∃ upto, markers.strip text = upto ++ markers.dropNewline after ∧
        ¬ markers.start <:+: upto := by
  induction text using markers.strip_induction with
  | alone text normal =>
    intro front after whole _
    have absent : ¬ markers.start <:+: front := by
      rintro ⟨before, body, rfl⟩
      apply normal before body after
      rw [whole]
      simp
    obtain ⟨upto, eq, same⟩ := @exists_upto_stop _ _ markers front after
    exact ⟨upto, by rw [markers.strip_of_normal normal, whole, eq], mt same.mp absent⟩
  | round before body behind first plain ih =>
    intro front after whole noStop
    rw [markers.strip_of_first first plain]
    have regroup : (before ++ (markers.start ++ body)) ++ (markers.stop ++ behind) =
        front ++ (markers.stop ++ after) := by
      rw [← whole]
      simp
    rcases last_unique regroup noStop with ⟨-, rfl⟩ | ⟨rest, rfl, -⟩
    · refine ⟨before, ?_, first⟩
      exact markers.strip_of_normal
        (normal_append_of_not_stop first (not_infix_dropNewline noStop))
    · apply ih (before ++ markers.dropNewline rest) after _ noStop
      rw [dropNewline_append_stop, List.append_assoc]

/-- The removal of the blocks leaves no start marker there only if they were all in blocks. -/
theorem removeBlocks_upto_last (text : List α) :
    ∀ front after, text = front ++ (markers.stop ++ after) → ¬ markers.stop <:+: after →
      ∃ upto, markers.removeBlocks text = upto ++ markers.dropNewline after ∧
        (¬ markers.start <:+: upto → markers.Covered text) := by
  induction length : text.length using Nat.strong_induction_on generalizing text with
  | _ size ih =>
    intro front after whole noStop
    rcases @removeBlocks_cases _ _ markers text with kept | found
    · obtain ⟨upto, eq, same⟩ := @exists_upto_stop _ _ markers front after
      refine ⟨upto, by rw [kept, whole, eq], ?_⟩
      intro absent
      apply Arranged.plain
      rw [whole, ← List.append_assoc]
      exact normal_append_of_not_stop (not_start_infix_append_stop (mt same.mpr absent)) noStop
    · obtain ⟨before, body, behind, rfl, ended, plain, bodyEnded, bodyPlain, lineEnd⟩ := found
      rw [removeBlocks_block ended plain bodyEnded bodyPlain lineEnd]
      have regroup : (before ++ (markers.start ++ (markers.newline :: body))) ++
          (markers.stop ++ behind) = front ++ (markers.stop ++ after) := by
        rw [← whole]
        simp
      rcases last_unique regroup noStop with ⟨-, rfl⟩ | ⟨rest, rfl, -⟩
      · have normal : markers.Normal (markers.dropNewline after) :=
          .of_not_stop (not_infix_dropNewline noStop)
        refine ⟨before, by rw [removeBlocks_of_normal normal], ?_⟩
        intro absent
        exact .block ended absent bodyEnded bodyPlain trivial lineEnd (.plain normal)
      · rw [dropNewline_append_stop]
        have lower : (markers.dropNewline rest ++ (markers.stop ++ after)).length < size := by
          have shorter := markers.length_dropNewline_le rest
          rw [← length]
          simp only [List.length_append, List.length_cons]
          omega
        obtain ⟨upto, eq, covered⟩ := ih _ lower _ rfl (markers.dropNewline rest) after rfl noStop
        refine ⟨before ++ upto, by rw [eq, List.append_assoc], ?_⟩
        intro absent
        have absentFront : ¬ markers.start <:+: before := fun inside =>
          absent (inside.trans (List.prefix_append _ _).isInfix)
        have absentBack : ¬ markers.start <:+: upto := fun inside =>
          absent (inside.trans (List.suffix_append _ _).isInfix)
        refine .block ended absentFront bodyEnded bodyPlain trivial lineEnd ?_
        rw [dropNewline_append_stop]
        exact covered absentBack

end Last

section Compared

variable {markers} {blank : α → Bool}

omit [DecidableEq α] in
theorem exists_last {pattern : List α} (nonempty : pattern ≠ []) (text : List α)
    (inside : pattern <:+: text) :
    ∃ front after, text = front ++ (pattern ++ after) ∧ ¬ pattern <:+: after := by
  induction length : text.length using Nat.strong_induction_on generalizing text with
  | _ size ih =>
    obtain ⟨front, back, rfl⟩ := inside
    by_cases again : pattern <:+: back
    · have positive := List.length_pos_iff.mpr nonempty
      obtain ⟨before, after, rfl, last⟩ := ih back.length (by simp at length; omega) back again rfl
      exact ⟨front ++ (pattern ++ before), after, by simp, last⟩
    · exact ⟨front, back, by simp, again⟩

omit [DecidableEq α] in
theorem not_start_infix_of_trimStart {left right tail : List α}
    (visible : blank markers.mark = false)
    (same : (left ++ tail).dropWhile blank = (right ++ tail).dropWhile blank)
    (absent : ¬ markers.start <:+: left) : ¬ markers.start <:+: right := by
  intro inside
  have kept : markers.start <:+: right.dropWhile blank := infix_dropWhile visible inside
  have some : right.dropWhile blank ≠ [] := by
    intro none
    rw [none] at kept
    cases List.infix_nil.mp kept
  have rightKept : (right ++ tail).dropWhile blank = right.dropWhile blank ++ tail := by
    rw [List.dropWhile_append, if_neg (by simpa [List.isEmpty_iff] using some)]
  rw [rightKept, List.dropWhile_append] at same
  split at same
  · have lengths := congrArg List.length same
    have shorter := (List.dropWhile_suffix blank (l := tail)).length_le
    have positive := List.length_pos_iff.mpr some
    rw [List.length_append] at lengths
    omega
  · rw [← List.append_cancel_right same] at kept
    exact absent (kept.trans (List.dropWhile_suffix blank).isInfix)

omit [DecidableEq α] in
theorem not_start_infix_of_trimEnd {left right tail body : List α} {last : α}
    (shape : markers.start = body ++ [last]) (visible : blank last = false)
    (same : (left ++ tail).rdropWhile blank = (right ++ tail).rdropWhile blank)
    (absent : ¬ markers.start <:+: left) : ¬ markers.start <:+: right := by
  intro inside
  by_cases blanks : ∀ symbol ∈ tail, blank symbol = true
  · have trimmed : ∀ front : List α, (front ++ tail).rdropWhile blank = front.rdropWhile blank := by
      intro front
      rw [List.rdropWhile, List.rdropWhile, List.reverse_append, List.dropWhile_append_of_pos
        fun symbol member => blanks symbol (List.mem_reverse.mp member)]
    rw [trimmed, trimmed] at same
    have kept : markers.start <:+: right.rdropWhile blank := by
      rw [shape] at inside ⊢
      exact infix_rdropWhile visible inside
    rw [← same] at kept
    exact absent (kept.trans (List.rdropWhile_prefix _ _).isInfix)
  · simp only [not_forall] at blanks
    obtain ⟨symbol, member, seen⟩ := blanks
    obtain ⟨before, after, rfl⟩ := List.append_of_mem member
    have split : ∀ front : List α, (front ++ (before ++ symbol :: after)).rdropWhile blank =
        front ++ (before ++ [symbol] ++ after.rdropWhile blank) := by
      intro front
      have kept := @rdropWhile_append_visible _ blank (front ++ before) symbol (by simpa using seen)
        after
      simp only [List.append_assoc, List.singleton_append] at kept ⊢
      exact kept
    rw [split, split] at same
    rw [List.append_cancel_right same] at absent
    exact absent inside

/-- If the two removals agree up to blanks in front, all start markers were in blocks. -/
theorem Covered.of_trimStart (visible : blank markers.mark = false) {text : List α}
    (same : (markers.strip text).dropWhile blank = (markers.removeBlocks text).dropWhile blank) :
    markers.Covered text := by
  by_cases inside : markers.stop <:+: text
  · obtain ⟨front, after, whole, noStop⟩ := exists_last (List.cons_ne_nil _ _) text inside
    obtain ⟨left, stripped, absent⟩ := strip_upto_last text front after whole noStop
    obtain ⟨right, removed, covered⟩ := removeBlocks_upto_last text front after whole noStop
    rw [stripped, removed] at same
    exact covered (not_start_infix_of_trimStart visible same absent)
  · exact .plain (.of_not_stop inside)

theorem Covered.of_trimEnd {body : List α} {last : α} (shape : markers.start = body ++ [last])
    (visible : blank last = false) {text : List α}
    (same : (markers.strip text).rdropWhile blank = (markers.removeBlocks text).rdropWhile blank) :
    markers.Covered text := by
  by_cases inside : markers.stop <:+: text
  · obtain ⟨front, after, whole, noStop⟩ := exists_last (List.cons_ne_nil _ _) text inside
    obtain ⟨left, stripped, absent⟩ := strip_upto_last text front after whole noStop
    obtain ⟨right, removed, covered⟩ := removeBlocks_upto_last text front after whole noStop
    rw [stripped, removed] at same
    exact covered (not_start_infix_of_trimEnd shape visible same absent)
  · exact .plain (.of_not_stop inside)

end Compared

end Markers
