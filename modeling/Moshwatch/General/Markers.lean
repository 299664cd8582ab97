import Moshwatch.General.Loop

section Occurrences

variable {α : Type*}

/-- No occurrence of `pattern` crosses the place where the two lists meet. -/
def Seam (pattern front back : List α) : Prop :=
  ∀ first second, pattern = first ++ second → first ≠ [] → second ≠ [] →
    first <:+ front → second <+: back → False

variable {pattern front back : List α}

theorem Seam.cases {before after : List α} (seam : Seam pattern front back)
    (split : front ++ back = before ++ (pattern ++ after)) :
    (∃ rest, front = before ++ (pattern ++ rest) ∧ after = rest ++ back) ∨
      ∃ rest, before = front ++ rest ∧ back = rest ++ (pattern ++ after) := by
  rcases List.append_eq_append_iff.mp split with ⟨rest, beforeEq, backEq⟩ | ⟨rest, frontEq, whole⟩
  · exact .inr ⟨rest, beforeEq, backEq⟩
  · rcases List.append_eq_append_iff.mp whole with ⟨cut, restEq, afterEq⟩ | ⟨cut, patternEq, backEq⟩
    · exact .inl ⟨cut, by rw [frontEq, restEq], afterEq⟩
    · by_cases noRest : rest = []
      · subst noRest
        refine .inr ⟨[], by simpa using frontEq.symm, ?_⟩
        rw [backEq, patternEq]
        rfl
      · by_cases noCut : cut = []
        · subst noCut
          refine .inl ⟨[], ?_, by simpa using backEq.symm⟩
          simp only [frontEq, patternEq, List.append_nil]
        · exact (seam rest cut patternEq noRest noCut ⟨before, frontEq.symm⟩
            ⟨after, backEq.symm⟩).elim

theorem Seam.infix_append (seam : Seam pattern front back) :
    pattern <:+: front ++ back ↔ pattern <:+: front ∨ pattern <:+: back := by
  rw [List.infix_append_iff]
  constructor
  · rintro (inFront | inBack | ⟨first, second, rfl, suffix, isPrefix⟩)
    · exact .inl inFront
    · exact .inr inBack
    · by_cases noFirst : first = []
      · subst noFirst
        exact .inr isPrefix.isInfix
      · by_cases noSecond : second = []
        · subst noSecond
          exact .inl (by simpa using suffix.isInfix)
        · exact (seam first second rfl noFirst noSecond suffix isPrefix).elim
  · rintro (inFront | inBack)
    · exact .inl inFront
    · exact .inr (.inl inBack)

theorem Seam.of_head {head : α} {tail : List α} (absent : head ∉ pattern.tail) :
    Seam pattern front (head :: tail) := by
  intro first second eq noFirst noSecond _ isPrefix
  obtain ⟨symbol, first, rfl⟩ := List.exists_cons_of_ne_nil noFirst
  obtain ⟨next, second, rfl⟩ := List.exists_cons_of_ne_nil noSecond
  obtain ⟨rest, whole⟩ := isPrefix
  injection whole with same
  apply absent
  rw [eq, same]
  simp

theorem Seam.of_last {last : α} {body : List α} (absent : last ∉ pattern) :
    Seam pattern (body ++ [last]) back := by
  intro first second eq noFirst _ suffix _
  obtain ⟨rest, whole⟩ := suffix
  have ends : first.getLast noFirst = last := by
    have lasts := congrArg List.getLast? whole
    rw [List.getLast?_append_of_ne_nil _ noFirst, List.getLast?_concat,
      List.getLast?_eq_some_getLast noFirst] at lasts
    exact Option.some.inj lasts
  apply absent
  rw [eq, ← ends]
  exact List.mem_append_left _ (List.getLast_mem noFirst)

theorem Seam.nil_left : Seam pattern [] back := by
  intro first _ _ noFirst _ suffix _
  exact noFirst (List.suffix_nil.mp suffix)

variable [DecidableEq α]

theorem dropInfix_go_isSome (before after passed : List α) :
    (List.dropInfix?.go pattern (before ++ (pattern ++ after)) passed).isSome := by
  induction before generalizing passed with
  | nil =>
    cases whole : pattern ++ after with
    | nil =>
      have empty := (List.append_eq_nil_iff.mp whole).1
      subst empty
      rfl
    | cons symbol rest =>
      have found : (symbol :: rest).dropPrefix? pattern = some after := by
        rw [List.dropPrefix?_eq_some_iff]
        exact ⟨pattern, whole.symm, beq_self_eq_true _⟩
      rw [List.nil_append, List.dropInfix?.go, found]
      rfl
  | cons symbol before ih =>
    rw [List.cons_append, List.dropInfix?.go]
    split
    · exact ih _
    · rfl

theorem dropInfix_eq_none_iff {text : List α} :
    text.dropInfix? pattern = none ↔ ¬ pattern <:+: text := by
  constructor
  · rintro none ⟨before, after, rfl⟩
    have some := @dropInfix_go_isSome _ pattern _ before after []
    rw [List.append_assoc] at none
    rw [List.dropInfix?] at none
    rw [none] at some
    contradiction
  · intro absent
    cases found : text.dropInfix? pattern with
    | none => rfl
    | some parts =>
      obtain ⟨⟨matched, whole, same⟩, -⟩ := List.dropInfix?_eq_some_iff.mp found
      rw [beq_iff_eq.mp same] at whole
      exact absurd ⟨parts.1, parts.2, whole.symm⟩ absent

/-- The first symbol of the pattern does not come back in it. -/
def HeadOnce (pattern : List α) : Prop :=
  ∃ head tail, pattern = head :: tail ∧ head ∉ tail

omit [DecidableEq α] in
theorem HeadOnce.seam (once : HeadOnce pattern) : Seam pattern front (pattern ++ back) := by
  obtain ⟨head, tail, rfl, absent⟩ := once
  exact .of_head absent

theorem HeadOnce.dropInfix_append (once : HeadOnce pattern) (first : ¬ pattern <:+: front) :
    (front ++ (pattern ++ back)).dropInfix? pattern = some (front, back) := by
  cases found : (front ++ (pattern ++ back)).dropInfix? pattern with
  | none =>
    exact absurd ⟨front, back, List.append_assoc _ _ _⟩ (dropInfix_eq_none_iff.mp found)
  | some parts =>
    obtain ⟨⟨matched, whole, same⟩, least⟩ := List.dropInfix?_eq_some_iff.mp found
    rw [beq_iff_eq.mp same, List.append_assoc] at whole
    have early := least front pattern back (List.append_assoc _ _ _).symm (beq_self_eq_true _)
    rcases once.seam.cases whole with ⟨rest, inFront, -⟩ | ⟨rest, before, behind⟩
    · exact absurd ⟨parts.1, rest, by rw [inFront, List.append_assoc]⟩ first
    · have none : rest = [] := by
        have length := congrArg List.length before
        rw [List.length_append] at length
        exact List.length_eq_zero_iff.mp (by omega)
      subst none
      rw [List.append_nil] at before
      have after : back = parts.2 := List.append_cancel_left behind
      rw [after, ← before]

theorem HeadOnce.eq_of_dropInfix {text : List α} (once : HeadOnce pattern)
    (found : text.dropInfix? pattern = some (front, back)) :
    text = front ++ (pattern ++ back) ∧ ¬ pattern <:+: front := by
  obtain ⟨⟨matched, whole, same⟩, least⟩ := List.dropInfix?_eq_some_iff.mp found
  rw [beq_iff_eq.mp same, List.append_assoc] at whole
  refine ⟨whole, ?_⟩
  rintro ⟨before, after, eq⟩
  have early := least before pattern (after ++ (pattern ++ back)) (by rw [whole, ← eq]; simp)
    (beq_self_eq_true _)
  have length := congrArg List.length eq
  obtain ⟨head, tail, rfl, -⟩ := once
  simp only [List.length_append, List.length_cons] at length early
  omega

end Occurrences

section Trims

variable {α : Type*} {drop : α → Bool}

theorem rdropWhile_append_visible {front : List α} {last : α} (visible : drop last = false)
    (back : List α) :
    (front ++ [last] ++ back).rdropWhile drop = front ++ [last] ++ back.rdropWhile drop := by
  induction back using List.reverseRecOn with
  | nil =>
    rw [List.append_nil, List.rdropWhile_concat, visible]
    simp
  | append_singleton back symbol ih =>
    rw [← List.append_assoc, List.rdropWhile_concat, List.rdropWhile_concat]
    split
    · exact ih
    · simp

theorem infix_rdropWhile {body text : List α} {last : α} (visible : drop last = false)
    (inside : body ++ [last] <:+: text) : body ++ [last] <:+: text.rdropWhile drop := by
  obtain ⟨front, back, rfl⟩ := inside
  refine ⟨front, back.rdropWhile drop, ?_⟩
  have kept := @rdropWhile_append_visible _ drop (front ++ body) last visible back
  simp only [List.append_assoc] at kept ⊢
  exact kept.symm

theorem infix_dropWhile {tail text : List α} {head : α} (visible : drop head = false)
    (inside : head :: tail <:+: text) : head :: tail <:+: text.dropWhile drop := by
  obtain ⟨front, back, rfl⟩ := inside
  have kept : (head :: tail ++ back).dropWhile drop = head :: tail ++ back := by
    rw [List.cons_append, List.dropWhile_cons_of_neg (by simp [visible])]
  rw [List.append_assoc, List.dropWhile_append]
  split
  · rw [kept]
    exact (List.prefix_append _ _).isInfix
  · exact ⟨front.dropWhile drop, back, by rw [List.append_assoc]⟩

end Trims

/-- A start and a stop marker on lines of their own: one symbol only begins a marker, another only
    ends a line, and neither marker begins like the other. -/
structure Markers (α : Type*) where
  mark : α
  newline : α
  startTail : List α
  stopTail : List α
  mark_start : mark ∉ startTail
  mark_stop : mark ∉ stopTail
  newline_mark : newline ≠ mark
  newline_start : newline ∉ startTail
  newline_stop : newline ∉ stopTail
  same_length : startTail.length = stopTail.length
  different : startTail ≠ stopTail

namespace Markers

variable {α : Type*} (markers : Markers α)

def start : List α := markers.mark :: markers.startTail

def stop : List α := markers.mark :: markers.stopTail

/-- No stop marker stands behind a start marker. -/
def Normal (text : List α) : Prop :=
  ∀ front body back, text ≠ front ++ (markers.start ++ (body ++ (markers.stop ++ back)))

section Seams

theorem start_ne_stop : markers.start ≠ markers.stop := by
  intro eq
  injection eq with _ tails
  exact markers.different tails

theorem length_start : markers.start.length = markers.stop.length := by
  rw [start, stop, List.length_cons, List.length_cons, markers.same_length]

theorem newline_not_mem_start : markers.newline ∉ markers.start := by
  rw [start, List.mem_cons, not_or]
  exact ⟨markers.newline_mark, markers.newline_start⟩

theorem newline_not_mem_stop : markers.newline ∉ markers.stop := by
  rw [stop, List.mem_cons, not_or]
  exact ⟨markers.newline_mark, markers.newline_stop⟩

variable {front back : List α}

theorem once_start : HeadOnce markers.start := ⟨_, _, rfl, markers.mark_start⟩

theorem once_stop : HeadOnce markers.stop := ⟨_, _, rfl, markers.mark_stop⟩

theorem seam_start_start : Seam markers.start front (markers.start ++ back) :=
  .of_head markers.mark_start

theorem seam_start_stop : Seam markers.start front (markers.stop ++ back) :=
  .of_head markers.mark_start

theorem seam_stop_start : Seam markers.stop front (markers.start ++ back) :=
  .of_head markers.mark_stop

theorem seam_stop_stop : Seam markers.stop front (markers.stop ++ back) :=
  .of_head markers.mark_stop

theorem seam_start_newline : Seam markers.start front (markers.newline :: back) :=
  .of_head markers.newline_start

theorem seam_stop_newline : Seam markers.stop front (markers.newline :: back) :=
  .of_head markers.newline_stop

/-- A marker that is no suffix of another one cannot begin inside it. -/
theorem seam_after_marker {pattern tail : List α} (absent : markers.mark ∉ tail)
    (head : pattern.head? = some markers.mark) (longer : pattern.length ≤ tail.length + 1) :
    Seam pattern (markers.mark :: tail) back := by
  intro first second eq noFirst noSecond suffix _
  obtain ⟨symbol, first, rfl⟩ := List.exists_cons_of_ne_nil noFirst
  have begins : symbol = markers.mark := by
    rw [eq] at head
    exact Option.some.inj head
  subst begins
  rcases List.suffix_cons_iff.mp suffix with whole | inside
  · have total := congrArg List.length eq
    have positive := List.length_pos_iff.mpr noSecond
    rw [whole, List.length_append, List.length_cons] at total
    omega
  · exact absent (inside.subset List.mem_cons_self)

theorem seam_stop_after_start : Seam markers.stop markers.start back :=
  markers.seam_after_marker markers.mark_start rfl
    (by rw [stop, List.length_cons, markers.same_length])

theorem seam_start_after_start : Seam markers.start markers.start back :=
  markers.seam_after_marker markers.mark_start rfl (by rw [start, List.length_cons])

theorem seam_start_after_stop : Seam markers.start markers.stop back :=
  markers.seam_after_marker markers.mark_stop rfl
    (by rw [start, List.length_cons, markers.same_length])

theorem not_stop_infix_start : ¬ markers.stop <:+: markers.start := by
  intro inside
  exact markers.start_ne_stop (inside.eq_of_length markers.length_start.symm).symm

theorem not_start_infix_stop : ¬ markers.start <:+: markers.stop := by
  intro inside
  exact markers.start_ne_stop (inside.eq_of_length markers.length_start)

end Seams

section Normal

variable {markers} {front back : List α}

theorem Normal.of_append_right (normal : markers.Normal (front ++ back)) : markers.Normal back := by
  intro before body after eq
  apply normal (front ++ before) body after
  rw [eq, List.append_assoc]

theorem Normal.of_not_start (absent : ¬ markers.start <:+: front) : markers.Normal front := by
  intro before body after eq
  exact absent ⟨before, body ++ (markers.stop ++ after), by rw [eq, List.append_assoc]⟩

theorem Normal.of_not_stop (absent : ¬ markers.stop <:+: front) : markers.Normal front := by
  intro before body after eq
  exact absent ⟨before ++ (markers.start ++ body), after, by rw [eq]; simp⟩

theorem Normal.append (seam : Seam markers.start front back) (absent : ¬ markers.start <:+: front)
    (normal : markers.Normal back) : markers.Normal (front ++ back) := by
  intro before body after eq
  rcases seam.cases eq with ⟨rest, inFront, -⟩ | ⟨rest, -, inBack⟩
  · exact absent ⟨before, rest, by rw [inFront, List.append_assoc]⟩
  · exact normal rest body after inBack

theorem not_start_infix_newline : ¬ markers.start <:+: [markers.newline] := by
  intro inside
  have only := List.mem_singleton.mp (inside.subset (List.mem_cons_self : _ ∈ markers.start))
  exact markers.newline_mark only.symm

theorem not_stop_infix_newline : ¬ markers.stop <:+: [markers.newline] := by
  intro inside
  have only := List.mem_singleton.mp (inside.subset (List.mem_cons_self : _ ∈ markers.stop))
  exact markers.newline_mark only.symm

theorem start_infix_concat_newline :
    markers.start <:+: front ++ [markers.newline] ↔ markers.start <:+: front := by
  rw [markers.seam_start_newline.infix_append]
  simp [not_start_infix_newline]

theorem stop_infix_concat_newline :
    markers.stop <:+: front ++ [markers.newline] ↔ markers.stop <:+: front := by
  rw [markers.seam_stop_newline.infix_append]
  simp [not_stop_infix_newline]

theorem Normal.newline_cons (normal : markers.Normal back) :
    markers.Normal (markers.newline :: back) := by
  have seam : Seam markers.start ([] ++ [markers.newline]) back :=
    .of_last markers.newline_not_mem_start
  exact normal.append seam not_start_infix_newline

end Normal

variable [DecidableEq α]

def dropNewline : List α → List α
  | [] => []
  | symbol :: rest => if symbol = markers.newline then rest else symbol :: rest

/-- Take out the first start marker, the text up to the first stop marker behind it, and a newline
    after that. -/
def stripOnce (text : List α) : Option (List α) := do
  let (front, rest) ← text.dropInfix? markers.start
  let (_, after) ← (markers.start ++ rest).dropInfix? markers.stop
  return front ++ markers.dropNewline after

/-- The loop ends within its fuel, for every round takes out a marker. -/
def strip (text : List α) : List α := Loop.iterate markers.stripOnce text.length text

section Strip

theorem length_dropNewline_le (text : List α) : (markers.dropNewline text).length ≤ text.length := by
  unfold dropNewline
  split
  · rfl
  · split <;> simp

theorem dropNewline_newline (text : List α) : markers.dropNewline (markers.newline :: text) = text :=
  if_pos rfl

theorem stripOnce_of_first {front body after : List α} (first : ¬ markers.start <:+: front)
    (plain : ¬ markers.stop <:+: body) :
    markers.stripOnce (front ++ (markers.start ++ (body ++ (markers.stop ++ after)))) =
      some (front ++ markers.dropNewline after) := by
  have stopFirst : ¬ markers.stop <:+: markers.start ++ body := by
    rw [markers.seam_stop_after_start.infix_append, not_or]
    exact ⟨markers.not_stop_infix_start, plain⟩
  have found : (markers.start ++ (body ++ (markers.stop ++ after))).dropInfix? markers.stop =
      some (markers.start ++ body, after) := by
    rw [← List.append_assoc]
    exact markers.once_stop.dropInfix_append stopFirst
  simp only [stripOnce, markers.once_start.dropInfix_append first, Option.bind_eq_bind,
    Option.bind_some, found]
  rfl

theorem exists_of_stripOnce {text next : List α} (round : markers.stripOnce text = some next) :
    ∃ front body after, text = front ++ (markers.start ++ (body ++ (markers.stop ++ after))) ∧
      ¬ markers.start <:+: front ∧ ¬ markers.stop <:+: body ∧
      next = front ++ markers.dropNewline after := by
  simp only [stripOnce, Option.bind_eq_bind, Option.bind_eq_some_iff, Prod.exists] at round
  obtain ⟨front, rest, foundStart, matched, after, foundStop, eq⟩ := round
  obtain ⟨whole, first⟩ := markers.once_start.eq_of_dropInfix foundStart
  obtain ⟨inside, stopFirst⟩ := markers.once_stop.eq_of_dropInfix foundStop
  rcases markers.seam_stop_after_start.cases inside with ⟨cut, within, -⟩ | ⟨body, before, behind⟩
  · exact absurd ⟨matched, cut, by rw [within, List.append_assoc]⟩ markers.not_stop_infix_start
  · rw [before, markers.seam_stop_after_start.infix_append, not_or] at stopFirst
    exact ⟨front, body, after, by rw [whole, behind], first, stopFirst.2, (Option.some.inj eq).symm⟩

theorem stripOnce_eq_none_iff {text : List α} :
    markers.stripOnce text = none ↔ markers.Normal text := by
  constructor
  · intro stops front body back eq
    cases foundStart : text.dropInfix? markers.start with
    | none =>
      apply dropInfix_eq_none_iff.mp foundStart
      exact ⟨front, body ++ (markers.stop ++ back), by rw [eq, List.append_assoc]⟩
    | some parts =>
      obtain ⟨before, rest⟩ := parts
      obtain ⟨whole, first⟩ := markers.once_start.eq_of_dropInfix foundStart
      simp only [stripOnce, foundStart, Option.bind_eq_bind, Option.bind_some,
        Option.bind_eq_none_iff] at stops
      cases foundStop : (markers.start ++ rest).dropInfix? markers.stop with
      | some found => exact absurd (stops found foundStop) (by simp)
      | none =>
        apply dropInfix_eq_none_iff.mp foundStop
        -- The first start marker comes no later than the one before the stop marker.
        rw [whole] at eq
        rcases markers.seam_start_start.cases eq with ⟨cut, inFront, -⟩ | ⟨cut, -, behind⟩
        · exact absurd ⟨front, cut, by rw [inFront, List.append_assoc]⟩ first
        · rw [behind]
          exact ⟨cut ++ (markers.start ++ body), back, by simp⟩
  · intro normal
    cases round : markers.stripOnce text with
    | none => rfl
    | some next =>
      obtain ⟨front, body, after, whole, -⟩ := markers.exists_of_stripOnce round
      exact absurd whole (normal front body after)

theorem length_stripOnce_lt {text next : List α} (round : markers.stripOnce text = some next) :
    next.length < text.length := by
  obtain ⟨front, body, after, whole, -, -, rfl⟩ := markers.exists_of_stripOnce round
  have shorter := markers.length_dropNewline_le after
  rw [whole]
  simp only [List.length_append, start, stop, List.length_cons]
  omega

theorem stripOnce_strip (text : List α) : markers.stripOnce (markers.strip text) = none :=
  Loop.iterate_exits List.length (fun _ _ => markers.length_stripOnce_lt) text.length text le_rfl

theorem normal_strip (text : List α) : markers.Normal (markers.strip text) :=
  markers.stripOnce_eq_none_iff.mp (markers.stripOnce_strip text)

theorem strip_of_normal {text : List α} (normal : markers.Normal text) :
    markers.strip text = text :=
  Loop.iterate_of_exit (markers.stripOnce_eq_none_iff.mpr normal) text.length

theorem strip_of_stripOnce {text next : List α} (round : markers.stripOnce text = some next) :
    markers.strip text = markers.strip next := by
  have shorter := markers.length_stripOnce_lt round
  obtain ⟨fuel, eq⟩ : ∃ fuel, text.length = fuel + 1 := ⟨text.length - 1, by omega⟩
  rw [strip, eq, Loop.iterate, round]
  exact Loop.iterate_of_le next.length fuel next (by omega) (markers.stripOnce_strip next)

theorem strip_of_first {front body after : List α} (first : ¬ markers.start <:+: front)
    (plain : ¬ markers.stop <:+: body) :
    markers.strip (front ++ (markers.start ++ (body ++ (markers.stop ++ after)))) =
      markers.strip (front ++ markers.dropNewline after) :=
  markers.strip_of_stripOnce (markers.stripOnce_of_first first plain)

/-- A rule for what the loop leaves: it holds of text that is left alone, and it holds before a
    round if it holds after it. -/
theorem strip_induction {motive : List α → Prop} (text : List α)
    (alone : ∀ text, markers.Normal text → motive text)
    (round : ∀ front body after, ¬ markers.start <:+: front → ¬ markers.stop <:+: body →
      motive (front ++ markers.dropNewline after) →
      motive (front ++ (markers.start ++ (body ++ (markers.stop ++ after))))) : motive text := by
  induction size : text.length using Nat.strong_induction_on generalizing text with
  | _ size ih =>
    cases next : markers.stripOnce text with
    | none => exact alone text (markers.stripOnce_eq_none_iff.mp next)
    | some shorter =>
      have lower := markers.length_stripOnce_lt next
      obtain ⟨front, body, after, rfl, first, plain, rfl⟩ := markers.exists_of_stripOnce next
      exact round front body after first plain (ih _ (by omega) _ rfl)

theorem strip_append_of_not_start {front : List α} (seam : ∀ back, Seam markers.start front back)
    (absent : ¬ markers.start <:+: front) (back : List α) :
    markers.strip (front ++ back) = front ++ markers.strip back := by
  induction back using markers.strip_induction with
  | alone back normal =>
    rw [markers.strip_of_normal normal, markers.strip_of_normal (normal.append (seam back) absent)]
  | round before body after first plain ih =>
    have firstToo : ¬ markers.start <:+: front ++ before := by
      rw [(seam before).infix_append, not_or]
      exact ⟨absent, first⟩
    rw [markers.strip_of_first first plain, ← ih, ← List.append_assoc,
      markers.strip_of_first firstToo plain, List.append_assoc]

end Strip

section LeftOver

/-- A start marker is left over when each leftmost start marker is crossed out together with the
    first stop marker behind it. -/
inductive LeavesStart : List α → Prop where
  | lone {text : List α} : markers.start <:+: text → markers.Normal text → LeavesStart text
  | pair {front body after : List α} : ¬ markers.start <:+: front → ¬ markers.stop <:+: body →
      LeavesStart (front ++ markers.dropNewline after) →
      LeavesStart (front ++ (markers.start ++ (body ++ (markers.stop ++ after))))

theorem leavesStart_iff {text : List α} :
    markers.LeavesStart text ↔ markers.start <:+: markers.strip text := by
  constructor
  · intro leaves
    induction leaves with
    | lone present normal => rwa [markers.strip_of_normal normal]
    | pair first plain _ ih => rwa [markers.strip_of_first first plain]
  · induction text using markers.strip_induction with
    | alone text normal =>
      intro present
      rw [markers.strip_of_normal normal] at present
      exact .lone present normal
    | round front body after first plain ih =>
      intro present
      rw [markers.strip_of_first first plain] at present
      exact .pair first plain (ih present)

end LeftOver

section Found

/-- From a start marker up to the next stop marker, and the newline after it. -/
def IsBlock (block : List α) : Prop :=
  ∃ body, block = markers.start ++ (body ++ (markers.stop ++ [markers.newline])) ∧
    ¬ markers.stop <:+: body

theorem block_unique {body rest front found back : List α} (noStart : ¬ markers.start <:+: body)
    (noStop : ¬ markers.stop <:+: body) (normal : markers.Normal rest)
    (isBlock : markers.IsBlock found)
    (split : markers.start ++ (body ++ (markers.stop ++ (markers.newline :: rest))) =
      front ++ (found ++ back)) :
    front = [] ∧ found = markers.start ++ (body ++ (markers.stop ++ [markers.newline])) := by
  obtain ⟨inner, rfl, plain⟩ := isBlock
  simp only [List.append_assoc, List.cons_append, List.nil_append] at split
  rcases markers.seam_start_after_start.cases split with ⟨cut, within, -⟩ | ⟨cut, before, behind⟩
  · have length := congrArg List.length within
    simp only [List.length_append] at length
    have none : front = [] := List.length_eq_zero_iff.mp (by omega)
    subst none
    have bodies : body ++ (markers.stop ++ (markers.newline :: rest)) =
        inner ++ (markers.stop ++ (markers.newline :: back)) := List.append_cancel_left split
    have first := @HeadOnce.dropInfix_append _ _ _ (markers.newline :: rest) _ markers.once_stop noStop
    rw [bodies, markers.once_stop.dropInfix_append plain] at first
    injection first with same
    injection same with eq
    exact ⟨rfl, by rw [eq]⟩
  · exfalso
    rcases markers.seam_start_stop.cases behind with ⟨other, inBody, -⟩ | ⟨other, -, inStop⟩
    · exact noStart ⟨cut, other, by rw [inBody, List.append_assoc]⟩
    · rcases markers.seam_start_after_stop.cases inStop with ⟨last, within, -⟩ | ⟨last, -, inRest⟩
      · exact markers.not_start_infix_stop ⟨other, last, by rw [List.append_assoc, ← within]⟩
      · exact normal.newline_cons last inner (markers.newline :: back) inRest

end Found

end Markers
