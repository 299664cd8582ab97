import Moshwatch.Core.Number
import Moshwatch.General.Preference
import Moshwatch.Metrics.HeaderLines
import Moshwatch.Metrics.Text

namespace Moshwatch

/-- A quality the range check lets through; the `f32` is the rational it denotes. -/
abbrev Quality := {value : ℚ // 0 ≤ value ∧ value ≤ 1}

def Quality.one : Quality := ⟨1, by norm_num, le_refl _⟩

structure AcceptMatch where
  quality : Quality
  specificity : Nat
  deriving DecidableEq

structure AcceptPreference where
  openmetrics : Option AcceptMatch := none
  textPlain : Option AcceptMatch := none

namespace AcceptMatch

def isCandidatePreferredOver (candidate other : AcceptMatch) : Bool :=
  other.specificity < candidate.specificity ||
    (candidate.specificity = other.specificity && other.quality < candidate.quality)

def isFinallyPreferredOver (candidate other : AcceptMatch) : Bool :=
  other.quality < candidate.quality ||
    (candidate.quality = other.quality && other.specificity < candidate.specificity)

end AcceptMatch

def AcceptPreference.prefersOpenmetrics (preference : AcceptPreference) : Bool :=
  match preference.openmetrics, preference.textPlain with
  | some openmetrics, some textPlain => openmetrics.isFinallyPreferredOver textPlain
  | some openmetrics, none => 0 < openmetrics.quality.val
  | none, _ => false

def mergeAcceptMatch (current candidate : Option AcceptMatch) : Option AcceptMatch :=
  match current, candidate with
  | some current, some candidate =>
    if candidate.isCandidatePreferredOver current then some candidate else some current
  | some current, none => some current
  | none, some candidate => some candidate
  | none, none => none

def openMetricsMediaType : List Char := "application/openmetrics-text".toList

def prometheusMediaType : List Char := "text/plain".toList

def prometheusTextVersion : List Char := "0.0.4".toList

def openMetricsTextVersion : List Char := "1.0.0".toList

def metricsTextCharset : List Char := "utf-8".toList

def acceptName : List Char := ['a', 'c', 'c', 'e', 'p', 't']

def qualityName : List Char := ['q']

def versionName : List Char := ['v', 'e', 'r', 's', 'i', 'o', 'n']

def charsetName : List Char := ['c', 'h', 'a', 'r', 's', 'e', 't']

/-- `str::trim_matches('"')`. -/
def trimQuotes (text : List Char) : List Char :=
  (text.dropWhile fun ch => ch = '"').rdropWhile fun ch => ch = '"'

/-- `(0.0..=1.0).contains`, with the quality it lets through. -/
def unitQuality (value : F64) : Option Quality :=
  if unit : value.isFinite = true ∧ 0 ≤ value.number ∧ value.number ≤ 1 then
    some ⟨value.number, unit.2⟩
  else none

def acceptMediaTypeMatches (candidate expected : List Char) : Option Nat := do
  let (candidateType, candidateSubtype) ← splitOnce candidate '/'
  let (expectedType, expectedSubtype) ← splitOnce expected '/'
  let candidateType := trimChars candidateType
  let candidateSubtype := trimChars candidateSubtype
  if candidateType = ['*'] ∧ candidateSubtype = ['*'] then some 0
  else if candidateSubtype = ['*'] ∧ charsEqIgnoreAsciiCase candidateType expectedType then some 1
  else if charsEqIgnoreAsciiCase candidateType expectedType ∧
      charsEqIgnoreAsciiCase candidateSubtype expectedSubtype then some 2
  else none

structure AcceptParameters where
  quality : Quality := .one
  version : Option (List Char) := none
  charset : Option (List Char) := none

section Negotiation

-- `parseF32` is the `FromStr` of an `f32`, each of which is a double.
variable (parseF32 : List Char → Option F64)

def acceptParameter (seen : AcceptParameters) (parameter : List Char) :
    Option AcceptParameters := do
  let (name, rawValue) ← splitOnce parameter '='
  let name := trimChars name
  let value := trimQuotes (trimChars rawValue)
  if charsEqIgnoreAsciiCase name qualityName then do
    let parsed ← parseF32 value
    let quality ← unitQuality parsed
    some { seen with quality := quality }
  else if charsEqIgnoreAsciiCase name versionName then some { seen with version := some value }
  else if charsEqIgnoreAsciiCase name charsetName then some { seen with charset := some value }
  else some seen

def acceptItemQuality (item expectedMediaType expectedVersion : List Char) : Option AcceptMatch :=
  match item.splitOn ';' with
  | [] => none
  | mediaType :: parameters =>
    let mediaType := trimChars mediaType
    if mediaType = [] then none
    else do
      let specificity ← acceptMediaTypeMatches mediaType expectedMediaType
      let seen ← parameters.foldlM (acceptParameter parseF32) {}
      if seen.version.any (· ≠ expectedVersion) then none
      else if seen.charset.any (charsEqIgnoreAsciiCase · metricsTextCharset = false) then none
      else some ⟨seen.quality, specificity⟩

def acceptHeaderPreference (value : List Char) : AcceptPreference :=
  (value.splitOn ',').foldl (fun preference item =>
    let preference :=
      match acceptItemQuality parseF32 item openMetricsMediaType openMetricsTextVersion with
      | none => preference
      | some candidate =>
        { preference with openmetrics := mergeAcceptMatch preference.openmetrics (some candidate) }
    match acceptItemQuality parseF32 item prometheusMediaType prometheusTextVersion with
    | none => preference
    | some candidate =>
      { preference with textPlain := mergeAcceptMatch preference.textPlain (some candidate) }) {}

/-- The loop over the lines, with the preference and whether an `Accept` header was seen. -/
def negotiateLines : AcceptPreference → Bool → List (List Char) → AcceptPreference × Bool
  | preference, sawAcceptHeader, [] => (preference, sawAcceptHeader)
  | preference, sawAcceptHeader, line :: rest =>
    let line := trimCarriages line
    if line = [] then (preference, sawAcceptHeader)
    else
      match splitOnce line ':' with
      | none => negotiateLines preference sawAcceptHeader rest
      | some (name, value) =>
        if charsEqIgnoreAsciiCase name acceptName = false then
          negotiateLines preference sawAcceptHeader rest
        else
          let parsed := acceptHeaderPreference parseF32 value
          negotiateLines
            { openmetrics := mergeAcceptMatch preference.openmetrics parsed.openmetrics
              textPlain := mergeAcceptMatch preference.textPlain parsed.textPlain }
            true rest

def requestedMetricsFormat (request : List Char) : Option MetricsTextFormat :=
  let (preference, sawAcceptHeader) := negotiateLines parseF32 {} false ((strLines request).drop 1)
  if preference.prefersOpenmetrics then some .openMetricsText
  else if preference.textPlain.any fun textPlain => 0 < textPlain.quality.val then
    some .prometheusText
  else if sawAcceptHeader = false then some .prometheusText
  else none

end Negotiation

section Ranks

/-- The order in which the candidates for one format compete. -/
def acceptRank (candidate : AcceptMatch) : Nat ×ₗ Quality :=
  toLex (candidate.specificity, candidate.quality)

/-- The order in which the two formats compete. -/
def finalRank (candidate : AcceptMatch) : Quality ×ₗ Nat :=
  toLex (candidate.quality, candidate.specificity)

theorem acceptRank_injective : Function.Injective acceptRank := by
  intro left right same
  have both := Prod.mk.inj (toLex.injective same)
  cases left
  cases right
  rw [AcceptMatch.mk.injEq]
  exact ⟨both.2, both.1⟩

theorem isCandidatePreferredOver_iff {candidate other : AcceptMatch} :
    candidate.isCandidatePreferredOver other = true ↔ acceptRank other < acceptRank candidate := by
  rw [acceptRank, acceptRank, Prod.Lex.toLex_lt_toLex, AcceptMatch.isCandidatePreferredOver]
  simp only [Bool.or_eq_true, Bool.and_eq_true, decide_eq_true_eq]
  rw [eq_comm]

theorem isFinallyPreferredOver_iff {candidate other : AcceptMatch} :
    candidate.isFinallyPreferredOver other = true ↔ finalRank other < finalRank candidate := by
  rw [finalRank, finalRank, Prod.Lex.toLex_lt_toLex, AcceptMatch.isFinallyPreferredOver]
  simp only [Bool.or_eq_true, Bool.and_eq_true, decide_eq_true_eq]
  rw [eq_comm]

theorem mergeAcceptMatch_eq (current candidate : Option AcceptMatch) :
    mergeAcceptMatch current candidate = Preference.merge acceptRank current candidate := by
  cases current with
  | none => cases candidate <;> rfl
  | some current =>
    cases candidate with
    | none => rfl
    | some candidate =>
      simp only [mergeAcceptMatch, Preference.merge, isCandidatePreferredOver_iff]

end Ranks

section Candidates

variable (parseF32 : List Char → Option F64)

namespace MetricsTextFormat

def mediaType : MetricsTextFormat → List Char
  | prometheusText => prometheusMediaType
  | openMetricsText => openMetricsMediaType

def textVersion : MetricsTextFormat → List Char
  | prometheusText => prometheusTextVersion
  | openMetricsText => openMetricsTextVersion

end MetricsTextFormat

/-- The candidates the items give for a format. -/
def acceptCandidates (format : MetricsTextFormat) (items : List (List Char)) : List AcceptMatch :=
  items.filterMap fun item => acceptItemQuality parseF32 item format.mediaType format.textVersion

/-- The value of a header line, if it is an `Accept` header. -/
def acceptHeaderValue (line : List Char) : Option (List Char) :=
  match splitOnce line ':' with
  | none => none
  | some (name, value) => if charsEqIgnoreAsciiCase name acceptName then some value else none

def acceptValues (request : List Char) : List (List Char) :=
  (headerLines request).filterMap acceptHeaderValue

/-- The items of all `Accept` headers of a request. -/
def acceptItems (request : List Char) : List (List Char) :=
  (acceptValues request).flatMap fun value => value.splitOn ','

/-- The preference that the items of some `Accept` headers express. -/
def itemsPreference (items : List (List Char)) : AcceptPreference where
  openmetrics := (acceptCandidates parseF32 .openMetricsText items).argmax acceptRank
  textPlain := (acceptCandidates parseF32 .prometheusText items).argmax acceptRank

def AcceptPreference.merge (current parsed : AcceptPreference) : AcceptPreference where
  openmetrics := Preference.merge acceptRank current.openmetrics parsed.openmetrics
  textPlain := Preference.merge acceptRank current.textPlain parsed.textPlain

variable {parseF32}

theorem acceptCandidates_append (format : MetricsTextFormat) (front back : List (List Char)) :
    acceptCandidates parseF32 format (front ++ back) =
      acceptCandidates parseF32 format front ++ acceptCandidates parseF32 format back :=
  List.filterMap_append

theorem itemsPreference_append (front back : List (List Char)) :
    itemsPreference parseF32 (front ++ back) =
      (itemsPreference parseF32 front).merge (itemsPreference parseF32 back) := by
  simp only [itemsPreference, AcceptPreference.merge, acceptCandidates_append,
    Preference.argmax_append]

theorem AcceptPreference.merge_itemsPreference_nil (preference : AcceptPreference) :
    preference.merge (itemsPreference parseF32 []) = preference := by
  simp [AcceptPreference.merge, itemsPreference, acceptCandidates]

theorem AcceptPreference.merge_assoc (first second third : AcceptPreference) :
    (first.merge second).merge third = first.merge (second.merge third) := by
  simp only [AcceptPreference.merge, Preference.merge_assoc]

theorem acceptHeaderPreference_eq (value : List Char) :
    acceptHeaderPreference parseF32 value = itemsPreference parseF32 (value.splitOn ',') := by
  rw [acceptHeaderPreference]
  induction value.splitOn ',' using List.reverseRecOn with
  | nil => rfl
  | append_singleton items item ih =>
    rw [List.foldl_append, List.foldl_cons, List.foldl_nil, ih, itemsPreference_append]
    simp only [mergeAcceptMatch_eq]
    cases openmetrics :
        acceptItemQuality parseF32 item openMetricsMediaType openMetricsTextVersion <;>
      cases textPlain :
        acceptItemQuality parseF32 item prometheusMediaType prometheusTextVersion <;>
      simp [itemsPreference, AcceptPreference.merge, acceptCandidates,
        MetricsTextFormat.mediaType, MetricsTextFormat.textVersion, openmetrics, textPlain]

theorem negotiateLines_eq (preference : AcceptPreference) (sawAcceptHeader : Bool)
    (lines : List (List Char)) :
    negotiateLines parseF32 preference sawAcceptHeader lines =
      let values := (((lines.map trimCarriages).takeWhile fun line => line ≠ []).filterMap
        acceptHeaderValue)
      (preference.merge (itemsPreference parseF32 (values.flatMap fun value => value.splitOn ',')),
        sawAcceptHeader || values ≠ []) := by
  induction lines generalizing preference sawAcceptHeader with
  | nil => simp [negotiateLines, AcceptPreference.merge_itemsPreference_nil]
  | cons line rest ih =>
    rw [negotiateLines]
    by_cases empty : trimCarriages line = []
    · simp [empty, AcceptPreference.merge_itemsPreference_nil]
    · simp only [empty, if_false, List.map_cons]
      rw [List.takeWhile_cons_of_pos (by simpa using empty), List.filterMap_cons]
      cases split : splitOnce (trimCarriages line) ':' with
      | none => simp only [acceptHeaderValue, split, ih]
      | some found =>
        obtain ⟨name, value⟩ := found
        cases named : charsEqIgnoreAsciiCase name acceptName with
        | false => simp only [acceptHeaderValue, split, named, ih, if_true, Bool.false_eq_true, if_false]
        | true =>
          simp only [acceptHeaderValue, split, named, ih, Bool.true_eq_false, if_false, if_true,
            List.flatMap_cons, itemsPreference_append, mergeAcceptMatch_eq,
            acceptHeaderPreference_eq, ← AcceptPreference.merge_assoc]
          simp [AcceptPreference.merge]

end Candidates

end Moshwatch
