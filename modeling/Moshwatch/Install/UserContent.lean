import Moshwatch.Core.Encoded
import Moshwatch.General.MarkedBlocks
import Moshwatch.Install.ManagedBlock

namespace Moshwatch

theorem asBytes_of_fromUtf8 {bytes : List UInt8} {text : String}
    (decoded : fromUtf8 bytes = some text) : asBytes text = bytes := by
  unfold fromUtf8 String.fromUTF8? at decoded
  split at decoded
  · cases decoded
    simp [asBytes, String.fromUTF8]
  · contradiction

def pathMarkerBytes : Markers UInt8 where
  mark := 35
  newline := 10
  startTail := (asBytes pathBlockStart).tail
  stopTail := (asBytes pathBlockEnd).tail
  mark_start := by decide
  mark_stop := by decide
  newline_mark := by decide
  newline_start := by decide
  newline_stop := by decide
  same_length := by decide
  different := by decide

theorem pathMarkerBytes_start : pathMarkerBytes.start = encoded pathMarkers.start := by decide

theorem pathMarkerBytes_stop : pathMarkerBytes.stop = encoded pathMarkers.stop := by decide

def userBytes (file : List UInt8) : List UInt8 := pathMarkerBytes.removeBlocks file

def Blank (bytes : List UInt8) : Prop :=
  ∃ text : List Char, bytes = encoded text ∧ ∀ ch ∈ text, isWhitespace ch = true

/-- The file is the block and the bytes outside the managed blocks, up to blanks where the two
    meet. -/
def Preserves (placement : Placement) (block file updated : List UInt8) : Prop :=
  ∃ kept blanks dropped, Blank blanks ∧ Blank dropped ∧
    match placement with
    | .prepend => updated = block ++ (blanks ++ kept) ∧ userBytes file = dropped ++ kept
    | .append => updated = kept ++ (blanks ++ block) ∧ userBytes file = kept ++ dropped

section Bytes

theorem isLine_encoded {marker line : List Char} :
    pathMarkerBytes.IsLine (encoded marker) (encoded line) ↔ pathMarkers.IsLine marker line := by
  have newline : encoded marker ++ [pathMarkerBytes.newline] =
      encoded (marker ++ [pathMarkers.newline]) := by
    rw [encoded_append]
    rfl
  rw [Markers.IsLine, Markers.IsLine, newline, encoded_injective.eq_iff, encoded_injective.eq_iff]

theorem removeLines_encoded (lines : List (List Char)) :
    ∀ held, pathMarkerBytes.removeLines (held.map encoded) (lines.map encoded) =
      encoded (pathMarkers.removeLines held lines) := by
  induction lines with
  | nil =>
    intro held
    cases held <;> rfl
  | cons line rest ih =>
    intro held
    cases held with
    | none =>
      rw [List.map_cons, Option.map_none, Markers.removeLines, Markers.removeLines,
        pathMarkerBytes_start]
      simp only [isLine_encoded]
      split
      · exact ih (some line)
      · rw [encoded_append]
        exact congrArg _ (ih none)
    | some held =>
      rw [List.map_cons, Option.map_some, Markers.removeLines, Markers.removeLines,
        pathMarkerBytes_stop]
      simp only [isLine_encoded]
      split
      · exact ih none
      · rw [← encoded_append]
        exact ih (some (held ++ line))

theorem userBytes_encoded (text : List Char) :
    userBytes (encoded text) = encoded (pathMarkers.removeBlocks text) := by
  rw [userBytes, Markers.removeBlocks, Markers.removeBlocks]
  exact (congrArg (pathMarkerBytes.removeLines none) (lines_encoded text)).trans
    (removeLines_encoded (Framing.lines '\n' text) none)

theorem blank_nil : Blank [] := ⟨[], rfl, by simp⟩

theorem blank_encoded {text : List Char} (blank : ∀ ch ∈ text, isWhitespace ch = true) :
    Blank (encoded text) := ⟨text, rfl, blank⟩

end Bytes

section Text

variable (block : List Char) {existing : List Char}

theorem preserves_of_strip_eq (placement : Placement)
    (same : stripManagedBlock existing = pathMarkers.removeBlocks existing) :
    Preserves placement (encoded block) (encoded existing)
      (encoded (updatedContents placement block existing)) := by
  by_cases text : trimChars (stripManagedBlock existing) = []
  · have blank : Blank (encoded (stripManagedBlock existing)) :=
      blank_encoded (trimChars_eq_nil.mp text)
    refine ⟨[], [], encoded (stripManagedBlock existing), blank_nil, blank, ?_⟩
    cases placement with
    | prepend =>
      have written : updatedContents .prepend block existing = block := if_pos text
      exact ⟨by rw [written]; simp, by rw [userBytes_encoded, same]; simp⟩
    | append =>
      have written : updatedContents .append block existing = block := if_pos text
      exact ⟨by rw [written]; simp, by rw [userBytes_encoded, same]; simp⟩
  · cases placement with
    | prepend =>
      have written : updatedContents .prepend block existing =
          block ++ '\n' :: (stripManagedBlock existing).dropWhile (· = '\n') := if_neg text
      refine ⟨encoded ((stripManagedBlock existing).dropWhile (· = '\n')), encoded ['\n'],
        encoded ((stripManagedBlock existing).takeWhile (· = '\n')), blank_encoded (by simp [isWhitespace]),
        ?_, ?_, ?_⟩
      · apply blank_encoded
        intro ch member
        exact isWhitespace_of_mem_newlines member
      · rw [written, encoded_append, ← encoded_append ['\n']]
        rfl
      · rw [userBytes_encoded, ← same, ← encoded_append, List.takeWhile_append_dropWhile]
    | append =>
      have written : updatedContents .append block existing =
          (stripManagedBlock existing).rdropWhile isWhitespace ++ '\n' :: '\n' :: block :=
        if_neg text
      refine ⟨encoded ((stripManagedBlock existing).rdropWhile isWhitespace), encoded ['\n', '\n'],
        encoded ((stripManagedBlock existing).rtakeWhile isWhitespace), blank_encoded (by simp [isWhitespace]), ?_, ?_, ?_⟩
      · apply blank_encoded
        intro ch member
        exact List.mem_rtakeWhile_imp member
      · rw [written, encoded_append, ← encoded_append ['\n', '\n']]
        rfl
      · rw [userBytes_encoded, ← same, ← encoded_append, List.rdropWhile_append_rtakeWhile]

theorem dropWhile_dropWhile_newlines (text : List Char) :
    (text.dropWhile (· = '\n')).dropWhile isWhitespace = text.dropWhile isWhitespace := by
  have blank : ∀ ch ∈ text.takeWhile (· = '\n'), isWhitespace ch = true := by
    intro ch member
    exact isWhitespace_of_mem_newlines member
  have whole := @List.dropWhile_append_of_pos _ _ _ (text.dropWhile (· = '\n')) blank
  rw [List.takeWhile_append_dropWhile] at whole
  exact whole.symm

theorem trimStart_of_preserves
    (preserves : Preserves .prepend (encoded block) (encoded existing)
      (encoded (updatedContents .prepend block existing))) :
    (stripManagedBlock existing).dropWhile isWhitespace =
      (pathMarkers.removeBlocks existing).dropWhile isWhitespace := by
  obtain ⟨kept, _, _, ⟨blanks, rfl, blank⟩, ⟨dropped, rfl, blankDropped⟩, updated, user⟩ := preserves
  rw [userBytes_encoded] at user
  obtain ⟨text, removed, rfl⟩ := exists_of_encoded_front user
  rw [← encoded_append, ← encoded_append] at updated
  have written := encoded_injective updated
  rw [removed, List.dropWhile_append_of_pos blankDropped]
  by_cases empty : trimChars (stripManagedBlock existing) = []
  · have alone : updatedContents .prepend block existing = block := if_pos empty
    have none : blanks ++ text = [] := by simpa [alone] using written
    rw [(List.append_eq_nil_iff.mp none).2]
    exact List.dropWhile_eq_nil_iff.mpr (trimChars_eq_nil.mp empty)
  · have joined : updatedContents .prepend block existing =
        block ++ '\n' :: (stripManagedBlock existing).dropWhile (· = '\n') := if_neg empty
    rw [joined] at written
    have behind := congrArg (List.dropWhile isWhitespace) (List.append_cancel_left written)
    have newline : isWhitespace '\n' = true := rfl
    rwa [List.dropWhile_cons_of_pos newline, dropWhile_dropWhile_newlines,
      List.dropWhile_append_of_pos blank] at behind

theorem trimEnd_of_preserves
    (preserves : Preserves .append (encoded block) (encoded existing)
      (encoded (updatedContents .append block existing))) :
    (stripManagedBlock existing).rdropWhile isWhitespace =
      (pathMarkers.removeBlocks existing).rdropWhile isWhitespace := by
  obtain ⟨kept, _, _, ⟨blanks, rfl, blank⟩, ⟨dropped, rfl, blankDropped⟩, updated, user⟩ := preserves
  rw [userBytes_encoded] at user
  obtain ⟨text, removed, rfl⟩ := exists_of_encoded_back user
  rw [← encoded_append, ← encoded_append] at updated
  have written := encoded_injective updated
  rw [removed, rdropWhile_append blankDropped]
  by_cases empty : trimChars (stripManagedBlock existing) = []
  · have alone : updatedContents .append block existing = block := if_pos empty
    have none : text ++ blanks = [] := by simpa [alone, ← List.append_assoc] using written
    rw [(List.append_eq_nil_iff.mp none).1]
    exact List.rdropWhile_eq_nil_iff.mpr (trimChars_eq_nil.mp empty)
  · have joined : updatedContents .append block existing =
        (stripManagedBlock existing).rdropWhile isWhitespace ++ ['\n', '\n'] ++ block := by
      rw [List.append_assoc]
      exact if_neg empty
    rw [joined, ← List.append_assoc text] at written
    have before := congrArg (List.rdropWhile isWhitespace) (List.append_cancel_right written)
    have newlines : ∀ ch ∈ ['\n', '\n'], isWhitespace ch = true := by simp [isWhitespace]
    rwa [rdropWhile_append newlines, List.rdropWhile_idempotent, rdropWhile_append blank] at before

theorem covered_of_preserves (placement : Placement)
    (preserves : Preserves placement (encoded block) (encoded existing)
      (encoded (updatedContents placement block existing))) :
    pathMarkers.Covered existing := by
  cases placement with
  | prepend => exact Markers.Covered.of_trimStart (by decide) (trimStart_of_preserves block preserves)
  | append =>
    have shape : pathMarkers.start = pathMarkers.start.dropLast ++ ['>'] := by decide
    exact Markers.Covered.of_trimEnd shape (by decide) (trimEnd_of_preserves block preserves)

end Text

section Files

variable (placement : Placement) (block : List Char) {file : List UInt8}

theorem upsertManagedBlock_of_text {text : String} (decoded : fromUtf8 file = some text) :
    upsertManagedBlock placement block file =
      encoded (updatedContents placement block text.toList) := by
  rw [upsertManagedBlock, decoded, Option.getD_some, asBytes_ofList_eq_encoded]

theorem file_of_text {text : String} (decoded : fromUtf8 file = some text) :
    file = encoded text.toList := by
  rw [← asBytes_eq_encoded, asBytes_of_fromUtf8 decoded]

/-- Contents that are no text are read as empty. -/
theorem upsertManagedBlock_of_not_text (notText : fromUtf8 file = none) :
    upsertManagedBlock placement block file = encoded block := by
  have blank : trimChars (stripManagedBlock []) = [] := by decide
  have written : updatedContents placement block [] = block := by
    cases placement <;> simp only [updatedContents, if_pos blank]
  have empty : "".toList = [] := rfl
  rw [upsertManagedBlock, notText, Option.getD_none, empty, written, asBytes_ofList_eq_encoded]

theorem preserves_of_not_text (notText : fromUtf8 file = none) :
    Preserves placement (encoded block) file (upsertManagedBlock placement block file) ↔
      Blank (userBytes file) := by
  rw [upsertManagedBlock_of_not_text placement block notText]
  constructor
  · rintro ⟨kept, blanks, dropped, -, blank, preserves⟩
    cases placement with
    | prepend =>
      obtain ⟨same, user⟩ := preserves
      have none : blanks ++ kept = [] := by simpa using same
      rw [user, (List.append_eq_nil_iff.mp none).2, List.append_nil]
      exact blank
    | append =>
      obtain ⟨same, user⟩ := preserves
      have none : kept ++ blanks = [] := by simpa [← List.append_assoc] using same
      rw [user, (List.append_eq_nil_iff.mp none).1, List.nil_append]
      exact blank
  · intro blank
    refine ⟨[], [], userBytes file, blank_nil, blank, ?_⟩
    cases placement <;> simp

/-- The markers of a text are the marker lines of its blocks; what is no text has only blocks. -/
def TidyFile (file : List UInt8) : Prop :=
  match fromUtf8 file with
  | some text => pathMarkers.Tidy text.toList
  | none => Blank (userBytes file)

/-- The same without a word on the end markers inside a block. -/
def CoveredFile (file : List UInt8) : Prop :=
  match fromUtf8 file with
  | some text => pathMarkers.Covered text.toList
  | none => Blank (userBytes file)

/-- In a tidy file only the blocks are replaced, and where only blocks are replaced each start
    marker was in one. -/
theorem upsert_preserves_user_bytes (file : List UInt8) :
    (TidyFile file →
      Preserves placement (encoded block) file (upsertManagedBlock placement block file)) ∧
    (Preserves placement (encoded block) file (upsertManagedBlock placement block file) →
      CoveredFile file) := by
  cases decoded : fromUtf8 file with
  | none =>
    simp only [TidyFile, CoveredFile, decoded]
    rw [preserves_of_not_text placement block decoded]
    exact ⟨id, id⟩
  | some text =>
    simp only [TidyFile, CoveredFile, decoded]
    rw [upsertManagedBlock_of_text placement block decoded, file_of_text decoded]
    constructor
    · intro tidy
      exact preserves_of_strip_eq block placement tidy.strip_eq
    · exact covered_of_preserves block placement

/-- The block that `install_shell_integration` writes. -/
def pathBlock : ManagedBlock where
  body := ("\n[ -r \"$HOME/.config/moshwatch/path.sh\" ] && " ++
    ". \"$HOME/.config/moshwatch/path.sh\"\n").toList
  no_start := by decide +kernel
  no_stop := by decide +kernel

/-- The file of the test of `strip_managed_block`. -/
def managedProfile : String :=
  "before\n" ++ pathBlockStart ++ "\nmanaged\n" ++ pathBlockEnd ++ "\nafter\n"

theorem managedProfile_tidy : TidyFile (asBytes managedProfile) := by
  have decoded : fromUtf8 (asBytes managedProfile) = some managedProfile := fromUtf8_asBytes _
  have noStop : ¬ pathMarkers.stop <:+: pathMarkers.dropNewline "\nafter\n".toList := by
    decide +kernel
  have arranged : pathMarkers.Tidy ("before\n".toList ++ (pathMarkers.start ++
      (pathMarkers.newline :: ("managed\n".toList ++ (pathMarkers.stop ++ "\nafter\n".toList))))) :=
    .block (.inr ⟨"before".toList, rfl⟩) (by decide +kernel) (.inr ⟨"managed".toList, rfl⟩)
      (.of_absent (by decide +kernel)) (by decide +kernel) (.inr ⟨"after\n".toList, rfl⟩)
      (.plain (.of_not_stop noStop))
  simp only [TidyFile, decoded]
  exact arranged

theorem managed_profile_is_preserved :
    Preserves .append (encoded pathBlock.text) (asBytes managedProfile)
      (upsertManagedBlock .append pathBlock.text (asBytes managedProfile)) :=
  (upsert_preserves_user_bytes .append pathBlock.text (asBytes managedProfile)).1
    managedProfile_tidy

/-- A user's line between two lines that quote the markers. -/
def quotedMarkers : String :=
  "echo '# >>> moshwatch path >>>'\nexport EDITOR=vi\necho '# <<< moshwatch path <<<'\n"

def latinProfile : List UInt8 := asBytes "export NAME=caf" ++ [0xE9, 10]

/-- Both files lose a line of the user. -/
theorem upsert_drops_user_lines :
    upsertManagedBlock .prepend pathBlock.text (asBytes quotedMarkers) =
      encoded pathBlock.text ++ asBytes "\necho ''\n" ∧
    ¬ Preserves .prepend (encoded pathBlock.text) (asBytes quotedMarkers)
      (upsertManagedBlock .prepend pathBlock.text (asBytes quotedMarkers)) ∧
    upsertManagedBlock .append pathBlock.text latinProfile = encoded pathBlock.text ∧
    ¬ Preserves .append (encoded pathBlock.text) latinProfile
      (upsertManagedBlock .append pathBlock.text latinProfile) := by
  have decoded : fromUtf8 (asBytes quotedMarkers) = some quotedMarkers := fromUtf8_asBytes _
  have notText : fromUtf8 latinProfile = none := by decide +kernel
  refine ⟨?_, ?_, upsertManagedBlock_of_not_text .append pathBlock.text notText, ?_⟩
  · have written : updatedContents .prepend pathBlock.text quotedMarkers.toList =
        pathBlock.text ++ "\necho ''\n".toList := by decide +kernel
    rw [upsertManagedBlock_of_text .prepend pathBlock.text decoded, written, encoded_append,
      asBytes_eq_encoded "\necho ''\n"]
  · rw [upsertManagedBlock_of_text .prepend pathBlock.text decoded, asBytes_eq_encoded]
    intro preserves
    have different : (stripManagedBlock quotedMarkers.toList).dropWhile isWhitespace ≠
        (pathMarkers.removeBlocks quotedMarkers.toList).dropWhile isWhitespace := by decide +kernel
    exact different (trimStart_of_preserves pathBlock.text preserves)
  · rw [preserves_of_not_text .append pathBlock.text notText]
    rintro ⟨text, same, blank⟩
    have user : userBytes latinProfile = latinProfile := by decide +kernel
    have read : text = Utf8.lossy latinProfile := by
      rw [← user, same, encoded, Utf8.lossy_flatMap]
    have letter : 'e' ∈ Utf8.lossy latinProfile := by decide +kernel
    rw [← read] at letter
    exact absurd (blank 'e' letter) (by decide)

end Files

end Moshwatch
