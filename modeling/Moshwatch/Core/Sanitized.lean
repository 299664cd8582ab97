import Moshwatch.Core.Sanitize
import Moshwatch.General.Squeeze

namespace Moshwatch

/-- A control character is shown as a space or as a question mark. -/
def replaceControl (ch : Char) : Char :=
  if isControl ch then (if isWhitespace ch then ' ' else '?') else ch

/-- The text with its control characters replaced and each run of whitespace collapsed. -/
def collapsedText (value : String) : List Char :=
  Squeeze.squeeze isWhitespace ' ' (value.toList.map replaceControl)

def trimmedText (value : String) : List Char := trimChars (collapsedText value)

/-- What `sanitize_text` is for, one stage after the other. -/
def stagedText (value : String) (maxChars : Nat) : Option String :=
  if trimmedText value = [] then none
  else if maxChars < (trimmedText value).length then
    some (String.ofList ((trimmedText value).take (maxChars - 3)) ++ "...")
  else some (String.ofList (trimmedText value))

structure CanonicalText (maxChars : Nat) (text : String) : Prop where
  nonempty : text.toList ≠ []
  bounded : text.toList.length ≤ maxChars
  printable : ∀ ch ∈ text.toList, isControl ch = false
  spaced : Squeeze.Canonical isWhitespace ' ' text.toList

section Loop

theorem isControl_replaceControl (ch : Char) : isControl (replaceControl ch) = false := by
  unfold replaceControl
  by_cases control : isControl ch = true
  · rw [if_pos control]
    by_cases white : isWhitespace ch = true
    · rw [if_pos white]
      decide
    · rw [if_neg white]
      decide
  · rw [if_neg control]
    exact Bool.eq_false_iff.mpr control

theorem replaceControl_of_printable {ch : Char} (printable : isControl ch = false) :
    replaceControl ch = ch := by
  rw [replaceControl, printable, if_neg Bool.false_ne_true]

/-- The loop emits what is collapsed up to the limit, and breaks off if there is more. -/
theorem sanitizeLoop_eq {maxChars : Nat} (chars : List Char) :
    ∀ (sanitized : List Char) (emitted : Nat) (previousWasWhitespace : Bool), emitted ≤ maxChars →
      sanitizeLoop maxChars chars sanitized emitted previousWasWhitespace =
        (sanitized ++ (Squeeze.squeezeFrom isWhitespace ' ' previousWasWhitespace
            (chars.map replaceControl)).take (maxChars - emitted),
          decide (maxChars - emitted < (Squeeze.squeezeFrom isWhitespace ' ' previousWasWhitespace
            (chars.map replaceControl)).length)) := by
  induction chars with
  | nil =>
    intro sanitized emitted previousWasWhitespace _
    simp [sanitizeLoop, Squeeze.squeezeFrom]
  | cons ch rest ih =>
    intro sanitized emitted previousWasWhitespace room
    rw [sanitizeLoop, List.map_cons, Squeeze.squeezeFrom]
    change (if isWhitespace (replaceControl ch) = true then _ else _) = _
    by_cases white : isWhitespace (replaceControl ch) = true
    · rw [if_pos white, if_pos white]
      by_cases previous : previousWasWhitespace = true
      · rw [if_pos previous, if_pos previous]
        exact ih sanitized emitted true room
      · rw [if_neg previous, if_neg previous]
        by_cases full : maxChars ≤ emitted
        · rw [if_pos full, Nat.sub_eq_zero_of_le full]
          simp
        · rw [if_neg full, ih _ _ true (by omega),
            show maxChars - emitted = maxChars - (emitted + 1) + 1 by omega]
          simp
    · rw [if_neg white, if_neg white]
      by_cases full : maxChars ≤ emitted
      · rw [if_pos full, Nat.sub_eq_zero_of_le full]
        simp
      · rw [if_neg full, ih _ _ false (by omega),
          show maxChars - emitted = maxChars - (emitted + 1) + 1 by omega]
        simp [replaceControl]

theorem spaced_collapsedText (value : String) :
    Squeeze.Spaced isWhitespace ' ' (collapsedText value) := Squeeze.spaced_squeezeFrom _ _

theorem canonical_trimmedText (value : String) :
    Squeeze.Canonical isWhitespace ' ' (trimmedText value) :=
  (spaced_collapsedText value).canonical_trim

theorem sanitizeText_eq {maxChars : Nat} (long : 3 < maxChars) (value : String) :
    sanitizeText value maxChars =
      if trimmedText value = [] then none
      else if maxChars < (collapsedText value).length then
        some (String.ofList ((trimmedText value).take (maxChars - 3)) ++ "...")
      else some (String.ofList (trimmedText value)) := by
  have looped := sanitizeLoop_eq value.toList [] 0 false (Nat.zero_le maxChars)
  rw [List.nil_append, Nat.sub_zero] at looped
  change sanitizeLoop maxChars value.toList [] 0 false =
    ((collapsedText value).take maxChars, decide (maxChars < (collapsedText value).length)) at looped
  have dots : ellipsis.length = 3 := rfl
  simp only [sanitizeText, looped, dots, long, decide_true, Bool.and_true, decide_eq_true_eq]
  by_cases cut : maxChars < (collapsedText value).length
  · have spaced := spaced_collapsedText value
    have front : Squeeze.Spaced isWhitespace ' ' ((collapsedText value).take maxChars) :=
      spaced.of_infix (List.take_prefix _ _).isInfix
    have filled : maxChars - 3 ≤ (trimChars ((collapsedText value).take maxChars)).length :=
      (front.take_trim (by rw [List.length_take]; omega)).1
    have whole : maxChars - 3 ≤ (trimmedText value).length := (spaced.take_trim (by omega)).1
    have same : (trimChars ((collapsedText value).take maxChars)).take (maxChars - 3) =
        (trimmedText value).take (maxChars - 3) := spaced.take_trim_take (by omega) cut.le
    have emitted : trimChars ((collapsedText value).take maxChars) ≠ [] := by
      intro empty
      change maxChars - 3 ≤ (trimChars _).length at filled
      rw [empty, List.length_nil] at filled
      omega
    have visible : trimmedText value ≠ [] := by
      intro empty
      change maxChars - 3 ≤ (trimmedText value).length at whole
      rw [empty, List.length_nil] at whole
      omega
    rw [if_neg emitted, if_neg visible, if_pos cut, if_pos cut]
    exact congrArg (fun text => some (String.ofList text ++ "...")) same
  · rw [List.take_of_length_le (not_lt.mp cut), if_neg cut, if_neg cut]
    rfl

end Loop

section NormalForm

variable {maxChars : Nat}

theorem printable_collapsedText (value : String) :
    ∀ ch ∈ collapsedText value, isControl ch = false := by
  have shown (chars : List Char) : ∀ (afterBlank : Bool),
      ∀ ch ∈ Squeeze.squeezeFrom isWhitespace ' ' afterBlank (chars.map replaceControl),
        isControl ch = false := by
    induction chars with
    | nil => simp [Squeeze.squeezeFrom]
    | cons first rest ih =>
      intro afterBlank ch member
      rw [List.map_cons, Squeeze.squeezeFrom] at member
      by_cases white : isWhitespace (replaceControl first) = true
      · rw [if_pos white] at member
        cases afterBlank with
        | true => exact ih true ch member
        | false =>
          rcases List.mem_cons.mp member with rfl | later
          · decide
          · exact ih true ch later
      · rw [if_neg white] at member
        rcases List.mem_cons.mp member with rfl | later
        · exact isControl_replaceControl first
        · exact ih false ch later
  exact shown value.toList false

theorem canonicalText_trimmed {value : String} (visible : trimmedText value ≠ [])
    (bounded : (trimmedText value).length ≤ maxChars) :
    CanonicalText maxChars (String.ofList (trimmedText value)) := by
  refine ⟨?_, ?_, ?_, ?_⟩ <;> rw [String.toList_ofList]
  · exact visible
  · exact bounded
  · intro ch member
    exact printable_collapsedText value ch ((Squeeze.trim_isInfix _).subset member)
  · exact canonical_trimmedText value

theorem canonicalText_truncated (long : 3 < maxChars) (value : String) :
    CanonicalText maxChars
      (String.ofList ((trimmedText value).take (maxChars - 3)) ++ "...") := by
  have dots : ("..." : String).toList = ['.', '.', '.'] := rfl
  have dotPrintable : isControl '.' = false := by decide
  have dotVisible : isWhitespace '.' = false := by decide
  have dotsPrintable : ∀ ch ∈ ['.', '.', '.'], isControl ch = false := by simp [dotPrintable]
  have dotsVisible : ∀ ch ∈ ['.', '.', '.'], isWhitespace ch = false := by simp [dotVisible]
  refine ⟨?_, ?_, ?_, ?_⟩ <;> rw [String.toList_append, String.toList_ofList, dots]
  · exact List.append_ne_nil_of_right_ne_nil _ (List.cons_ne_nil _ _)
  · rw [List.length_append, List.length_take]
    simp only [List.length_cons, List.length_nil]
    omega
  · intro ch member
    rcases List.mem_append.mp member with inside | dot
    · exact printable_collapsedText value ch
        ((Squeeze.trim_isInfix _).subset (List.mem_of_mem_take inside))
    · exact dotsPrintable ch dot
  · exact (canonical_trimmedText value).take_append _ dotsVisible (List.cons_ne_nil _ _)

theorem canonicalText_sanitizeText (long : 3 < maxChars) {value result : String}
    (sanitized : sanitizeText value maxChars = some result) : CanonicalText maxChars result := by
  rw [sanitizeText_eq long] at sanitized
  by_cases blank : trimmedText value = []
  · rw [if_pos blank] at sanitized
    cases sanitized
  rw [if_neg blank] at sanitized
  by_cases cut : maxChars < (collapsedText value).length
  · rw [if_pos cut, Option.some.injEq] at sanitized
    rw [← sanitized]
    exact canonicalText_truncated long value
  · rw [if_neg cut, Option.some.injEq] at sanitized
    rw [← sanitized]
    have shorter : (trimmedText value).length ≤ (collapsedText value).length :=
      Squeeze.length_trim_le _
    exact canonicalText_trimmed blank (shorter.trans (not_lt.mp cut))

theorem CanonicalText.sanitizeText_eq_self (long : 3 < maxChars) {text : String}
    (canonical : CanonicalText maxChars text) : sanitizeText text maxChars = some text := by
  have replaced : text.toList.map replaceControl = text.toList := by
    have fixed : ∀ ch ∈ text.toList, replaceControl ch = ch :=
      fun ch member => replaceControl_of_printable (canonical.printable ch member)
    rw [List.map_congr_left fixed, List.map_id']
  have collapsed : collapsedText text = text.toList := by
    rw [collapsedText, replaced, canonical.spaced.squeeze_eq]
  have trimmed : trimmedText text = text.toList := by
    rw [trimmedText, collapsed]
    exact canonical.spaced.trim_eq
  rw [sanitizeText_eq long, trimmed, collapsed, if_neg canonical.nonempty,
    if_neg (not_lt.mpr canonical.bounded), String.ofList_toList]

end NormalForm

/-- `sanitize_text` computes a normal form, and the texts that it leaves alone are known. -/
structure SanitizesToNormalForm (maxChars : Nat) : Prop where
  canonical : ∀ value result, sanitizeText value maxChars = some result →
    CanonicalText maxChars result
  idempotent : ∀ value result, sanitizeText value maxChars = some result →
    sanitizeText result maxChars = some result
  fixed : ∀ text, sanitizeText text maxChars = some text ↔ CanonicalText maxChars text
  exact : ∀ text, textIsExactAndBounded text maxChars = true ↔ CanonicalText maxChars text

theorem sanitizesToNormalForm {maxChars : Nat} (long : 3 < maxChars) :
    SanitizesToNormalForm maxChars := by
  have fixed : ∀ text, sanitizeText text maxChars = some text ↔ CanonicalText maxChars text :=
    fun text => ⟨canonicalText_sanitizeText long, fun canonical => canonical.sanitizeText_eq_self long⟩
  refine ⟨?_, ?_, fixed, ?_⟩
  · intro value result sanitized
    exact canonicalText_sanitizeText long sanitized
  · intro value result sanitized
    exact (canonicalText_sanitizeText long sanitized).sanitizeText_eq_self long
  · intro text
    rw [textIsExactAndBounded, decide_eq_true_eq]
    exact fixed text

theorem sanitizeOptionalText_idempotent {maxChars : Nat} (long : 3 < maxChars)
    (value : Option String) :
    sanitizeOptionalText (sanitizeOptionalText value maxChars) maxChars =
      sanitizeOptionalText value maxChars := by
  cases value with
  | none => rfl
  | some text =>
    change (sanitizeText text maxChars).bind (sanitizeText · maxChars) = sanitizeText text maxChars
    cases sanitized : sanitizeText text maxChars with
    | none => rfl
    | some result => exact (sanitizesToNormalForm long).idempotent text result sanitized

/-- The endpoints and the display id of the sample were sanitized when they came in. -/
structure HistorySample.Ingested (sample : HistorySample) : Prop where
  displaySessionId : ∃ raw, sample.displaySessionId = sanitizeDisplaySessionId raw
  bindAddr : ∃ raw, sample.bindAddr = sanitizeEndpoint raw
  clientAddr : ∃ raw, sample.clientAddr = sanitizeEndpoint raw
  currentClientAddr : ∃ raw, sample.currentClientAddr = sanitizeEndpoint raw

/-- For every limit beyond the ellipsis `sanitize_text` is a normal form, so that what was
    sanitized when it came in passes the sanitizing of a history read unchanged. -/
theorem sanitizer_normal_form {maxChars : Nat} (long : 3 < maxChars) :
    SanitizesToNormalForm maxChars ∧
    (∀ raw, sanitizeEndpoint (sanitizeEndpoint raw) = sanitizeEndpoint raw) ∧
    (∀ raw, sanitizeDisplaySessionId (sanitizeDisplaySessionId raw) =
      sanitizeDisplaySessionId raw) ∧
    ∀ sample read, sanitizeHistorySample sample = some read → sample.Ingested →
      read.displaySessionId = sample.displaySessionId ∧ read.bindAddr = sample.bindAddr ∧
        read.clientAddr = sample.clientAddr ∧
        read.currentClientAddr = sample.currentClientAddr := by
  have again : ∀ raw, sanitizeEndpoint (sanitizeEndpoint raw) = sanitizeEndpoint raw :=
    sanitizeOptionalText_idempotent (by decide)
  refine ⟨sanitizesToNormalForm long, again, again, ?_⟩
  intro sample read accepted ingested
  unfold sanitizeHistorySample at accepted
  split at accepted
  · cases accepted
  split at accepted
  · cases accepted
  split at accepted
  · cases accepted
  cases accepted
  obtain ⟨display, displayed⟩ := ingested.displaySessionId
  obtain ⟨bound, bindAddr⟩ := ingested.bindAddr
  obtain ⟨client, clientAddr⟩ := ingested.clientAddr
  obtain ⟨current, currentAddr⟩ := ingested.currentClientAddr
  refine ⟨?_, ?_, ?_, ?_⟩
  · change sanitizeDisplaySessionId sample.displaySessionId = sample.displaySessionId
    rw [displayed]
    exact again display
  · change sanitizeEndpoint sample.bindAddr = sample.bindAddr
    rw [bindAddr]
    exact again bound
  · change sanitizeEndpoint sample.clientAddr = sample.clientAddr
    rw [clientAddr]
    exact again client
  · change sanitizeEndpoint sample.currentClientAddr = sample.currentClientAddr
    rw [currentAddr]
    exact again current

theorem sanitizer_normal_form_endpoint : SanitizesToNormalForm 128 :=
  (sanitizer_normal_form (by decide : 3 < 128)).1

section Staged

variable {maxChars : Nat} {value : String}

def IsBlankText (text : String) : Prop := ∀ ch ∈ text.toList, isWhitespace ch = true

/-- What the staged definition promises for a value. -/
structure MeetsStages (maxChars : Nat) (value : String) : Prop where
  staged : sanitizeText value maxChars = stagedText value maxChars
  padded : ∀ front back, IsBlankText front → IsBlankText back →
    sanitizeText (front ++ value ++ back) maxChars = sanitizeText value maxChars
  whole : trimmedText value ≠ [] → (trimmedText value).length ≤ maxChars →
    sanitizeText value maxChars = some (String.ofList (trimmedText value))

/-- The text happens to be what its truncation would be. -/
def EndsInEllipsis (maxChars : Nat) (chars : List Char) : Prop :=
  chars.drop (maxChars - 3) = ['.', '.', '.']

theorem replaceControl_of_whitespace {ch : Char} (white : isWhitespace ch = true) :
    isWhitespace (replaceControl ch) = true := by
  unfold replaceControl
  by_cases control : isControl ch = true
  · rw [if_pos control, if_pos white]
    decide
  · rw [if_neg control]
    exact white

theorem trimmedText_padded {front back : String} (frontBlank : IsBlankText front)
    (backBlank : IsBlankText back) : trimmedText (front ++ value ++ back) = trimmedText value := by
  have blanks {text : String} (blank : IsBlankText text) :
      ∀ ch ∈ text.toList.map replaceControl, isWhitespace ch = true := by
    intro ch member
    obtain ⟨raw, inside, rfl⟩ := List.mem_map.mp member
    exact replaceControl_of_whitespace (blank raw inside)
  have padded := @Squeeze.trim_squeeze_padded _ isWhitespace ' '
    (value.toList.map replaceControl) _ _ (by decide) (blanks frontBlank) (blanks backBlank)
  rw [trimmedText, trimmedText, collapsedText, collapsedText, String.toList_append,
    String.toList_append, List.map_append, List.map_append]
  exact padded

theorem length_collapsedText_padded (visible : trimmedText value ≠ []) :
    (collapsedText (" " ++ value ++ " ")).length = (trimmedText value).length + 2 := by
  have space : replaceControl ' ' = ' ' := by decide
  have padded := @Squeeze.squeeze_padded _ isWhitespace ' ' (value.toList.map replaceControl)
    (by decide) ' ' (by decide) visible
  have chars : (" " ++ value ++ " ").toList.map replaceControl =
      ' ' :: value.toList.map replaceControl ++ [' '] := by
    rw [String.toList_append, String.toList_append, List.map_append, List.map_append]
    change [replaceControl ' '] ++ _ ++ [replaceControl ' '] = _
    rw [space]
    rfl
  rw [collapsedText, chars, padded, List.length_append, List.length_cons, List.length_singleton]
  rfl

theorem length_collapsedText (value : String) :
    (trimmedText value).length ≤ (collapsedText value).length ∧
      (collapsedText value).length ≤ (trimmedText value).length + 2 := by
  refine ⟨Squeeze.length_trim_le _, ?_⟩
  by_contra longer
  have most : (collapsedText value).length - 2 ≤ (trimmedText value).length :=
    ((spaced_collapsedText value).take_trim (by omega)).1
  omega

theorem truncated_eq_iff :
    String.ofList ((trimmedText value).take (maxChars - 3)) ++ "..." =
        String.ofList (trimmedText value) ↔
      EndsInEllipsis maxChars (trimmedText value) := by
  have truncated : (String.ofList ((trimmedText value).take (maxChars - 3)) ++ "...").toList =
      (trimmedText value).take (maxChars - 3) ++ ['.', '.', '.'] := by
    rw [String.toList_append, String.toList_ofList]
    rfl
  rw [← String.toList_inj, truncated, String.toList_ofList]
  constructor
  · intro same
    have split := same.trans (List.take_append_drop (maxChars - 3) (trimmedText value)).symm
    exact (List.append_cancel_left split).symm
  · intro ends
    rw [← ends, List.take_append_drop]

theorem trimmedText_ne_nil_of_cut (long : 3 < maxChars)
    (cut : maxChars < (collapsedText value).length) : trimmedText value ≠ [] := by
  intro blank
  have near := (length_collapsedText value).2
  rw [blank, List.length_nil] at near
  omega

theorem stagedText_of_le (visible : trimmedText value ≠ [])
    (bounded : (trimmedText value).length ≤ maxChars) :
    stagedText value maxChars = some (String.ofList (trimmedText value)) := by
  rw [stagedText, if_neg visible, if_neg (not_lt.mpr bounded)]

theorem sanitizeText_of_cut (long : 3 < maxChars) (cut : maxChars < (collapsedText value).length) :
    sanitizeText value maxChars =
      some (String.ofList ((trimmedText value).take (maxChars - 3)) ++ "...") := by
  rw [sanitizeText_eq long, if_neg (trimmedText_ne_nil_of_cut long cut), if_pos cut]

/-- The code follows the stages unless whitespace that is trimmed later reaches the limit. -/
theorem sanitizeText_eq_staged_iff (long : 3 < maxChars) :
    sanitizeText value maxChars = stagedText value maxChars ↔
      ¬((trimmedText value).length ≤ maxChars ∧ maxChars < (collapsedText value).length) ∨
        EndsInEllipsis maxChars (trimmedText value) := by
  by_cases cut : maxChars < (collapsedText value).length
  · have visible := trimmedText_ne_nil_of_cut long cut
    rw [sanitizeText_of_cut long cut]
    by_cases bounded : (trimmedText value).length ≤ maxChars
    · rw [stagedText_of_le visible bounded, Option.some.injEq, truncated_eq_iff,
        or_iff_right (not_not.mpr ⟨bounded, cut⟩)]
    · rw [stagedText, if_neg visible, if_pos (not_le.mp bounded)]
      exact iff_of_true rfl (.inl fun both => bounded both.1)
  · have shorter := (length_collapsedText value).1
    have short : ¬maxChars < (trimmedText value).length := by omega
    refine iff_of_true ?_ (.inl fun both => cut both.2)
    rw [sanitizeText_eq long, stagedText, if_neg cut, if_neg short]

/-- The stages are met exactly by the texts that are short enough to be padded, or too long as
    they are, or already their own truncation. -/
theorem meetsStages_iff (long : 3 < maxChars) :
    MeetsStages maxChars value ↔
      ((trimmedText value).length ≤ maxChars → maxChars ≤ (trimmedText value).length + 1 →
        EndsInEllipsis maxChars (trimmedText value)) := by
  constructor
  · intro meets bounded near
    have visible : trimmedText value ≠ [] := by
      intro blank
      rw [blank, List.length_nil] at near
      omega
    have space : IsBlankText " " := by
      intro ch member
      rw [List.mem_singleton.mp member]
      decide
    have cut : maxChars < (collapsedText (" " ++ value ++ " ")).length := by
      rw [length_collapsedText_padded visible]
      omega
    have padded := meets.padded " " " " space space
    rw [sanitizeText_of_cut long cut, trimmedText_padded space space, meets.staged,
      stagedText_of_le visible bounded, Option.some.injEq] at padded
    exact truncated_eq_iff.mp padded
  · intro steady
    have staged (text : String) (same : trimmedText text = trimmedText value) :
        sanitizeText text maxChars = stagedText text maxChars := by
      rw [sanitizeText_eq_staged_iff long, same]
      by_cases near : (trimmedText value).length ≤ maxChars ∧
          maxChars < (collapsedText text).length
      · have most := (length_collapsedText text).2
        rw [same] at most
        exact .inr (steady near.1 (by omega))
      · exact .inl near
    have own := staged value rfl
    refine ⟨own, ?_, ?_⟩
    · intro front back frontBlank backBlank
      have same : trimmedText (front ++ value ++ back) = trimmedText value :=
        trimmedText_padded frontBlank backBlank
      rw [staged _ same, own, stagedText, stagedText, same]
    · intro visible bounded
      rw [own, stagedText_of_le visible bounded]

/-- When `sanitize_text` is the staged definition, at one value and under padding. -/
theorem sanitizer_stages_iff (long : 3 < maxChars) (value : String) :
    (sanitizeText value maxChars = stagedText value maxChars ↔
      ¬((trimmedText value).length ≤ maxChars ∧ maxChars < (collapsedText value).length) ∨
        EndsInEllipsis maxChars (trimmedText value)) ∧
    (MeetsStages maxChars value ↔
      ((trimmedText value).length ≤ maxChars → maxChars ≤ (trimmedText value).length + 1 →
        EndsInEllipsis maxChars (trimmedText value))) :=
  ⟨sanitizeText_eq_staged_iff long, meetsStages_iff long⟩

/-- A display id of the greatest length, followed by a space. -/
def fullThenSpace : String := String.ofList (List.replicate 128 'x' ++ [' '])

theorem sanitizer_stages_fullThenSpace :
    MeetsStages 128 fullThenSpace ↔
      ((trimmedText fullThenSpace).length ≤ 128 → 128 ≤ (trimmedText fullThenSpace).length + 1 →
        EndsInEllipsis 128 (trimmedText fullThenSpace)) :=
  (sanitizer_stages_iff (by decide : 3 < 128) fullThenSpace).2

/-- The id itself is kept, but with the space its end is lost. -/
theorem fullThenSpace_truncated :
    ¬MeetsStages 128 fullThenSpace ∧
      sanitizeText fullThenSpace 128 = some (String.ofList (List.replicate 125 'x') ++ "...") ∧
      stagedText fullThenSpace 128 = some (String.ofList (List.replicate 128 'x')) := by
  have cut : sanitizeText fullThenSpace 128 =
      some (String.ofList (List.replicate 125 'x') ++ "...") := by decide +kernel
  have kept : stagedText fullThenSpace 128 = some (String.ofList (List.replicate 128 'x')) := by
    decide +kernel
  refine ⟨?_, cut, kept⟩
  intro meets
  have same := meets.staged
  rw [cut, kept] at same
  exact absurd same (by decide +kernel)

end Staged

end Moshwatch
