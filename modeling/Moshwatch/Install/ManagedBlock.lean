import Moshwatch.Core.Str
import Moshwatch.General.Markers

namespace Moshwatch

def pathBlockStart : String := "# >>> moshwatch path >>>"

def pathBlockEnd : String := "# <<< moshwatch path <<<"

def pathMarkers : Markers Char where
  mark := '#'
  newline := '\n'
  startTail := pathBlockStart.toList.tail
  stopTail := pathBlockEnd.toList.tail
  mark_start := by decide
  mark_stop := by decide
  newline_mark := by decide
  newline_start := by decide
  newline_stop := by decide
  same_length := by decide
  different := by decide

@[simp] theorem pathMarkers_newline : pathMarkers.newline = '\n' := rfl

inductive Placement where
  | prepend
  | append
  deriving DecidableEq, Repr

def stripManagedBlock (contents : List Char) : List Char := pathMarkers.strip contents

/-- The text that `upsert_managed_block` writes. -/
def updatedContents (placement : Placement) (block existing : List Char) : List Char :=
  let cleaned := stripManagedBlock existing
  match placement with
  | .prepend =>
    if trimChars cleaned = [] then block
    else block ++ '\n' :: cleaned.dropWhile (· = '\n')
  | .append =>
    if trimChars cleaned = [] then block
    else cleaned.rdropWhile isWhitespace ++ '\n' :: '\n' :: block

/-- `upsert_managed_block` on the contents of the file; contents that are no UTF-8 text are read as
    the empty text. -/
def upsertManagedBlock (placement : Placement) (block : List Char) (file : List UInt8) :
    List UInt8 :=
  let existing := (fromUtf8 file).getD ""
  asBytes (String.ofList (updatedContents placement block existing.toList))

/-- Start marker, body without markers, end marker, newline. -/
structure ManagedBlock where
  body : List Char
  no_start : ¬ pathMarkers.start <:+: body
  no_stop : ¬ pathMarkers.stop <:+: body

def ManagedBlock.text (block : ManagedBlock) : List Char :=
  pathMarkers.start ++ (block.body ++ (pathMarkers.stop ++ ['\n']))

/-- There is one block from a start marker to the next end marker, and it is at the chosen end. -/
def OneBlockAt (placement : Placement) (block contents : List Char) : Prop :=
  match placement with
  | .prepend => (∃ rest, contents = block ++ rest) ∧ ∀ front found back,
      pathMarkers.IsBlock found → contents = front ++ (found ++ back) → front = [] ∧ found = block
  | .append => (∃ rest, contents = rest ++ block) ∧ ∀ front found back,
      pathMarkers.IsBlock found → contents = front ++ (found ++ back) → back = [] ∧ found = block

section Blanks

theorem trimChars_ne_nil {chars : List Char} {ch : Char} (member : ch ∈ chars)
    (visible : isWhitespace ch = false) : trimChars chars ≠ [] := by
  intro blank
  rw [trimChars_eq_nil.mp blank ch member] at visible
  contradiction

theorem trimChars_eq_nil_of_subset {chars others : List Char} (subset : others ⊆ chars)
    (blank : trimChars chars = []) : trimChars others = [] := by
  rw [trimChars_eq_nil] at blank ⊢
  intro ch member
  exact blank ch (subset member)

theorem isWhitespace_of_mem_newlines {text : List Char} {ch : Char}
    (member : ch ∈ text.takeWhile (· = '\n')) : isWhitespace ch = true := by
  have newline : ch = '\n' := by simpa using List.mem_takeWhile_imp member
  rw [newline]
  rfl

theorem dropWhile_newlines_not_blank {cleaned : List Char} (text : trimChars cleaned ≠ []) :
    trimChars (cleaned.dropWhile (· = '\n')) ≠ [] := by
  intro blank
  apply text
  rw [trimChars_eq_nil] at blank ⊢
  intro ch member
  rw [← List.takeWhile_append_dropWhile (p := (· = '\n')) (l := cleaned)] at member
  rcases List.mem_append.mp member with front | back
  · exact isWhitespace_of_mem_newlines front
  · exact blank ch back

theorem rdropWhile_not_blank {cleaned : List Char} (text : trimChars cleaned ≠ []) :
    trimChars (cleaned.rdropWhile isWhitespace) ≠ [] := by
  intro blank
  apply text
  rw [trimChars_eq_nil] at blank ⊢
  intro ch member
  rw [← List.rdropWhile_append_rtakeWhile (p := isWhitespace) (l := cleaned)] at member
  rcases List.mem_append.mp member with front | back
  · exact blank ch front
  · exact List.mem_rtakeWhile_imp back

end Blanks

section Update

variable (block : ManagedBlock) {existing cleaned : List Char}

theorem normal_nil : pathMarkers.Normal [] := by
  apply Markers.Normal.of_not_stop
  intro inside
  cases List.infix_nil.mp inside

theorem normal_cleaned : pathMarkers.Normal (stripManagedBlock existing) :=
  pathMarkers.normal_strip existing

theorem normal_dropWhile_newlines :
    pathMarkers.Normal ((stripManagedBlock existing).dropWhile (· = '\n')) := by
  have whole := @normal_cleaned existing
  rw [← List.takeWhile_append_dropWhile (p := (· = '\n')) (l := stripManagedBlock existing)]
    at whole
  exact whole.of_append_right

theorem strip_block_append (rest : List Char) :
    stripManagedBlock (block.text ++ rest) = stripManagedBlock rest := by
  have none : ¬ pathMarkers.start <:+: ([] : List Char) := by
    intro inside
    cases List.infix_nil.mp inside
  have round := @Markers.strip_of_first _ pathMarkers _ [] block.body ('\n' :: rest) none
    block.no_stop
  rw [List.nil_append, List.nil_append] at round
  have whole : block.text ++ rest =
      pathMarkers.start ++ (block.body ++ (pathMarkers.stop ++ '\n' :: rest)) := by
    simp [ManagedBlock.text]
  rw [stripManagedBlock, whole, round]
  rfl

theorem strip_block : stripManagedBlock block.text = [] := by
  have round := strip_block_append block []
  rw [List.append_nil] at round
  exact round.trans (pathMarkers.strip_of_normal normal_nil)

theorem updatedContents_of_blank (placement : Placement)
    (blank : trimChars (stripManagedBlock existing) = []) :
    updatedContents placement block.text existing = block.text := by
  cases placement <;> exact if_pos blank

theorem updatedContents_prepend (text : trimChars (stripManagedBlock existing) ≠ []) :
    updatedContents .prepend block.text existing =
      block.text ++ '\n' :: (stripManagedBlock existing).dropWhile (· = '\n') :=
  if_neg text

theorem updatedContents_append (text : trimChars (stripManagedBlock existing) ≠ []) :
    updatedContents .append block.text existing =
      (stripManagedBlock existing).rdropWhile isWhitespace ++ '\n' :: '\n' :: block.text :=
  if_neg text

theorem updatedContents_block (placement : Placement) :
    updatedContents placement block.text block.text = block.text := by
  apply updatedContents_of_blank
  rw [strip_block]
  rfl

theorem updatedContents_prepend_twice :
    updatedContents .prepend block.text (updatedContents .prepend block.text existing) =
      updatedContents .prepend block.text existing := by
  by_cases text : trimChars (stripManagedBlock existing) = []
  · rw [updatedContents_of_blank block _ text, updatedContents_block]
  · rw [updatedContents_prepend block text]
    have again : stripManagedBlock
        (block.text ++ '\n' :: (stripManagedBlock existing).dropWhile (· = '\n')) =
        '\n' :: (stripManagedBlock existing).dropWhile (· = '\n') := by
      rw [strip_block_append]
      exact pathMarkers.strip_of_normal normal_dropWhile_newlines.newline_cons
    have visible : trimChars
        ('\n' :: (stripManagedBlock existing).dropWhile (· = '\n')) ≠ [] := by
      intro blank
      exact dropWhile_newlines_not_blank text
        (trimChars_eq_nil_of_subset (List.subset_cons_self _ _) blank)
    rw [updatedContents_prepend block (by rw [again]; exact visible), again,
      List.dropWhile_cons_of_pos (by simp), List.dropWhile_idempotent]

theorem block_found_first {rest front found back : List Char} (normal : pathMarkers.Normal rest)
    (isBlock : pathMarkers.IsBlock found)
    (split : block.text ++ rest = front ++ (found ++ back)) : front = [] ∧ found = block.text := by
  have whole : pathMarkers.start ++ (block.body ++ (pathMarkers.stop ++ '\n' :: rest)) =
      front ++ (found ++ back) := by
    rw [← split]
    simp [ManagedBlock.text]
  exact pathMarkers.block_unique block.no_start block.no_stop normal isBlock whole

theorem oneBlockAt_prepend :
    OneBlockAt .prepend block.text (updatedContents .prepend block.text existing) := by
  by_cases text : trimChars (stripManagedBlock existing) = []
  · rw [updatedContents_of_blank block _ text]
    refine ⟨⟨[], by simp⟩, ?_⟩
    intro front found back isBlock split
    rw [← List.append_nil block.text] at split
    exact block_found_first block normal_nil isBlock split
  · rw [updatedContents_prepend block text]
    refine ⟨⟨_, rfl⟩, ?_⟩
    intro front found back isBlock split
    exact block_found_first block normal_dropWhile_newlines.newline_cons isBlock split

theorem not_infix_newlines {marker front : List Char}
    (concat : ∀ text, marker <:+: text ++ ['\n'] ↔ marker <:+: text) (absent : ¬ marker <:+: front) :
    ¬ marker <:+: front ++ ['\n'] ++ ['\n'] := by
  rwa [concat, concat]

theorem not_start_infix_newlines {front : List Char} (absent : ¬ pathMarkers.start <:+: front) :
    ¬ pathMarkers.start <:+: front ++ ['\n'] ++ ['\n'] :=
  not_infix_newlines (fun _ => Markers.start_infix_concat_newline) absent

theorem not_stop_infix_newlines {front : List Char} (absent : ¬ pathMarkers.stop <:+: front) :
    ¬ pathMarkers.stop <:+: front ++ ['\n'] ++ ['\n'] :=
  not_infix_newlines (fun _ => Markers.stop_infix_concat_newline) absent

theorem strip_append_block {front : List Char} (absent : ¬ pathMarkers.start <:+: front) :
    stripManagedBlock (front ++ '\n' :: '\n' :: block.text) = front ++ ['\n', '\n'] := by
  have seam : ∀ back, Seam pathMarkers.start (front ++ ['\n'] ++ ['\n']) back :=
    fun _ => .of_last pathMarkers.newline_not_mem_start
  have kept := pathMarkers.strip_append_of_not_start seam (not_start_infix_newlines absent)
    block.text
  have stripped : pathMarkers.strip block.text = [] := strip_block block
  rw [stripped] at kept
  simpa [stripManagedBlock] using kept

theorem not_start_infix_rdropWhile (absent : ¬ pathMarkers.start <:+: cleaned) :
    ¬ pathMarkers.start <:+: cleaned.rdropWhile isWhitespace := by
  intro inside
  exact absent (inside.trans (List.rdropWhile_prefix _ _).isInfix)

theorem updatedContents_append_twice
    (absent : ¬ pathMarkers.start <:+: stripManagedBlock existing) :
    updatedContents .append block.text (updatedContents .append block.text existing) =
      updatedContents .append block.text existing := by
  by_cases text : trimChars (stripManagedBlock existing) = []
  · rw [updatedContents_of_blank block _ text, updatedContents_block]
  · rw [updatedContents_append block text]
    have again := strip_append_block block (not_start_infix_rdropWhile absent)
    have visible : trimChars
        ((stripManagedBlock existing).rdropWhile isWhitespace ++ ['\n', '\n']) ≠ [] := by
      intro blank
      exact rdropWhile_not_blank text
        (trimChars_eq_nil_of_subset (List.subset_append_left _ _) blank)
    have blanks : ∀ ch ∈ ['\n', '\n'], isWhitespace ch = true := by simp [isWhitespace]
    rw [updatedContents_append block (by rw [again]; exact visible), again,
      rdropWhile_append blanks, List.rdropWhile_idempotent]

theorem oneBlockAt_append (absent : ¬ pathMarkers.start <:+: stripManagedBlock existing) :
    OneBlockAt .append block.text (updatedContents .append block.text existing) := by
  have last : ∀ front found back, pathMarkers.IsBlock found →
      block.text = front ++ (found ++ back) → back = [] ∧ found = block.text := by
    intro front found back isBlock split
    rw [← List.append_nil block.text] at split
    obtain ⟨rfl, rfl⟩ := block_found_first block normal_nil isBlock split
    exact ⟨(List.append_cancel_left split).symm, rfl⟩
  by_cases text : trimChars (stripManagedBlock existing) = []
  · rw [updatedContents_of_blank block _ text]
    exact ⟨⟨[], rfl⟩, last⟩
  · rw [updatedContents_append block text]
    refine ⟨⟨(stripManagedBlock existing).rdropWhile isWhitespace ++ ['\n', '\n'], by simp⟩, ?_⟩
    intro front found back isBlock split
    have absentToo := not_start_infix_newlines (not_start_infix_rdropWhile absent)
    obtain ⟨inner, rfl, plain⟩ := isBlock
    have seam : Seam pathMarkers.start
        ((stripManagedBlock existing).rdropWhile isWhitespace ++ ['\n'] ++ ['\n']) block.text :=
      .of_last pathMarkers.newline_not_mem_start
    have occurrence : (stripManagedBlock existing).rdropWhile isWhitespace ++ ['\n'] ++ ['\n'] ++
        block.text = front ++ (pathMarkers.start ++
          (inner ++ (pathMarkers.stop ++ [pathMarkers.newline]) ++ back)) := by
      simpa using split
    rcases seam.cases occurrence with ⟨rest, inFront, -⟩ | ⟨rest, -, inBlock⟩
    · exact absurd ⟨front, rest, by rw [inFront, List.append_assoc]⟩ absentToo
    · refine last rest _ back ⟨inner, rfl, plain⟩ ?_
      rw [inBlock, List.append_assoc pathMarkers.start]

/-- A start marker that is left over, and the text before and behind it. -/
theorem exists_leftover (present : pathMarkers.start <:+: stripManagedBlock existing) :
    ∃ front rest, stripManagedBlock existing = front ++ (pathMarkers.start ++ rest) ∧
      ¬ pathMarkers.start <:+: front ∧ ¬ pathMarkers.stop <:+: rest := by
  cases found : (stripManagedBlock existing).dropInfix? pathMarkers.start with
  | none => exact absurd present (dropInfix_eq_none_iff.mp found)
  | some parts =>
    obtain ⟨front, rest⟩ := parts
    obtain ⟨whole, first⟩ := pathMarkers.once_start.eq_of_dropInfix found
    refine ⟨front, rest, whole, first, ?_⟩
    rintro ⟨before, after, rfl⟩
    apply @normal_cleaned existing front before after
    rw [whole]
    simp

theorem trimmed_leftover (front rest : List Char) :
    (front ++ (pathMarkers.start ++ rest)).rdropWhile isWhitespace =
      front ++ (pathMarkers.start ++ rest.rdropWhile isWhitespace) := by
  have visible : isWhitespace '>' = false := by decide
  have shape : pathMarkers.start = pathMarkers.start.dropLast ++ ['>'] := by decide
  have ends := @rdropWhile_append_visible _ isWhitespace (front ++ pathMarkers.start.dropLast) '>'
    visible rest
  rw [List.append_assoc front, ← shape] at ends
  rw [← List.append_assoc, ends, List.append_assoc]

/-- It makes a pair with the end marker of the block, whatever stands between them. -/
theorem strip_leftover_block {front rest : List Char} (first : ¬ pathMarkers.start <:+: front)
    (plain : ¬ pathMarkers.stop <:+: rest) :
    stripManagedBlock (front ++ (pathMarkers.start ++ rest) ++ '\n' :: '\n' :: block.text) =
      front := by
  have plainBody : ¬ pathMarkers.stop <:+:
      rest ++ ['\n'] ++ ['\n'] ++ (pathMarkers.start ++ block.body) := by
    rw [pathMarkers.seam_stop_start.infix_append, pathMarkers.seam_stop_after_start.infix_append,
      not_or, not_or]
    exact ⟨not_stop_infix_newlines plain, pathMarkers.not_stop_infix_start, block.no_stop⟩
  have whole : front ++ (pathMarkers.start ++ rest) ++ '\n' :: '\n' :: block.text =
      front ++ (pathMarkers.start ++ (rest ++ ['\n'] ++ ['\n'] ++
        (pathMarkers.start ++ block.body) ++ (pathMarkers.stop ++ ['\n']))) := by
    simp [ManagedBlock.text]
  have none : pathMarkers.dropNewline ['\n'] = [] := rfl
  rw [whole, stripManagedBlock, pathMarkers.strip_of_first first plainBody, none, List.append_nil,
    pathMarkers.strip_of_normal (.of_not_start first)]

theorem length_updatedContents_append_le :
    (updatedContents .append block.text existing).length ≤
      (stripManagedBlock existing).length + 2 + block.text.length := by
  by_cases text : trimChars (stripManagedBlock existing) = []
  · rw [updatedContents_of_blank block _ text]
    omega
  · rw [updatedContents_append block text]
    have trimmed := (List.rdropWhile_prefix isWhitespace (stripManagedBlock existing)).length_le
    simp only [List.length_append, List.length_cons]
    omega

theorem updatedContents_append_changes
    (present : pathMarkers.start <:+: stripManagedBlock existing) :
    updatedContents .append block.text (updatedContents .append block.text existing) ≠
      updatedContents .append block.text existing := by
  obtain ⟨front, rest, whole, first, plain⟩ := exists_leftover present
  have visible : isWhitespace '>' = false := by decide
  have text : trimChars (stripManagedBlock existing) ≠ [] := by
    rw [whole]
    exact trimChars_ne_nil (List.mem_append_right _ (List.mem_append_left _ (by decide))) visible
  have once : updatedContents .append block.text existing =
      front ++ (pathMarkers.start ++ rest.rdropWhile isWhitespace) ++
        '\n' :: '\n' :: block.text := by
    rw [updatedContents_append block text, whole, trimmed_leftover]
  have plainRest : ¬ pathMarkers.stop <:+: rest.rdropWhile isWhitespace :=
    fun inside => plain (inside.trans (List.rdropWhile_prefix _ _).isInfix)
  have again := strip_leftover_block block first plainRest
  rw [← once] at again
  -- Less is left of the text in front of the block than there was.
  have shorter := @length_updatedContents_append_le block
    (updatedContents .append block.text existing)
  intro same
  rw [same, again, once] at shorter
  have marker : 0 < pathMarkers.start.length := by decide
  simp only [List.length_append, List.length_cons] at shorter
  omega

end Update

section Runs

variable (placement : Placement) (block : ManagedBlock)

theorem upsertManagedBlock_text (text : String) :
    upsertManagedBlock placement block.text (asBytes text) =
      asBytes (String.ofList (updatedContents placement block.text text.toList)) := by
  rw [upsertManagedBlock, fromUtf8_asBytes, Option.getD_some]

theorem iterate_upsertManagedBlock (text : String) (runs : Nat) :
    (upsertManagedBlock placement block.text)^[runs] (asBytes text) =
      asBytes (String.ofList ((updatedContents placement block.text)^[runs] text.toList)) := by
  induction runs with
  | zero => simp
  | succ runs ih =>
    rw [Function.iterate_succ_apply', Function.iterate_succ_apply', ih, upsertManagedBlock_text,
      String.toList_ofList]

theorem iterate_of_twice {update : List Char → List Char} {text : List Char}
    (twice : update (update text) = update text) (runs : Nat) :
    update^[runs + 1] text = update text := by
  rw [Function.iterate_succ_apply]
  exact Function.iterate_fixed twice runs

/-- Another run changes nothing, and from the first one on there is one block at its place. -/
def Idempotent (file : List UInt8) : Prop :=
  upsertManagedBlock placement block.text (upsertManagedBlock placement block.text file) =
      upsertManagedBlock placement block.text file ∧
    ∀ runs, 0 < runs → ∃ contents,
      (upsertManagedBlock placement block.text)^[runs] file = asBytes (String.ofList contents) ∧
        OneBlockAt placement block.text contents

theorem idempotent_of_twice {text : String}
    (twice : updatedContents placement block.text
      (updatedContents placement block.text text.toList) =
        updatedContents placement block.text text.toList)
    (one : OneBlockAt placement block.text (updatedContents placement block.text text.toList)) :
    Idempotent placement block (asBytes text) := by
  constructor
  · rw [upsertManagedBlock_text, upsertManagedBlock_text, String.toList_ofList, twice]
  · intro runs positive
    obtain ⟨earlier, rfl⟩ := Nat.exists_eq_succ_of_ne_zero positive.ne'
    refine ⟨_, iterate_upsertManagedBlock placement block text _, ?_⟩
    rw [iterate_of_twice twice]
    exact one

/-- For the start of the file always; for its end unless a start marker without an end marker is
    left over from what the file held before. -/
theorem upsert_idempotent_iff (text : String) :
    Idempotent placement block (asBytes text) ↔
      (placement = .append → ¬ pathMarkers.LeavesStart text.toList) := by
  cases placement with
  | prepend =>
    have idempotent : Idempotent .prepend block (asBytes text) :=
      idempotent_of_twice .prepend block (updatedContents_prepend_twice block)
        (oneBlockAt_prepend block)
    simp [idempotent]
  | append =>
    simp only [pathMarkers.leavesStart_iff, forall_const]
    constructor
    · rintro ⟨twice, -⟩ present
      rw [upsertManagedBlock_text, upsertManagedBlock_text, asBytes_inj, String.toList_ofList]
        at twice
      exact updatedContents_append_changes block present (String.ofList_injective twice)
    · intro absent
      exact idempotent_of_twice .append block (updatedContents_append_twice block absent)
        (oneBlockAt_append block absent)

/-- The block of the test of `upsert_managed_block`. -/
def testBlock : ManagedBlock where
  body := "\nmanaged\n".toList
  no_start := by decide
  no_stop := by decide

/-- A start marker whose end marker was lost, and a line of the user after it. -/
def brokenProfile : String := "# >>> moshwatch path >>>\nexport EDITOR=vi\n"

/-- The second run drops the user's line. -/
theorem append_drops_user_line :
    let once := upsertManagedBlock .append testBlock.text (asBytes brokenProfile)
    once = asBytes (brokenProfile ++ "\n" ++ String.ofList testBlock.text) ∧
      upsertManagedBlock .append testBlock.text once = asBytes (String.ofList testBlock.text) ∧
      ¬ Idempotent .append testBlock (asBytes brokenProfile) := by
  have first : updatedContents .append testBlock.text brokenProfile.toList =
      (brokenProfile ++ "\n" ++ String.ofList testBlock.text).toList := by decide +kernel
  have second : updatedContents .append testBlock.text
      (brokenProfile ++ "\n" ++ String.ofList testBlock.text).toList = testBlock.text := by
    decide +kernel
  have once : upsertManagedBlock .append testBlock.text (asBytes brokenProfile) =
      asBytes (brokenProfile ++ "\n" ++ String.ofList testBlock.text) := by
    rw [upsertManagedBlock_text, first, String.ofList_toList]
  have twice : upsertManagedBlock .append testBlock.text
      (asBytes (brokenProfile ++ "\n" ++ String.ofList testBlock.text)) =
      asBytes (String.ofList testBlock.text) := by
    rw [upsertManagedBlock_text, second]
  refine ⟨once, by rw [once, twice], ?_⟩
  rintro ⟨idempotent, -⟩
  rw [once, twice, asBytes_inj] at idempotent
  have differ : String.ofList testBlock.text ≠
      brokenProfile ++ "\n" ++ String.ofList testBlock.text := by decide
  exact differ idempotent

end Runs

end Moshwatch
