import Moshwatch.Metrics.Accept

namespace Moshwatch

variable (parseF32 : List Char → Option F64)

/-- A parameter's value, if the parameter has the name. -/
def parameterNamed (name parameter : List Char) : Option (List Char) :=
  match splitOnce parameter '=' with
  | none => none
  | some (found, rawValue) =>
    if charsEqIgnoreAsciiCase (trimChars found) name then some (trimQuotes (trimChars rawValue))
    else none

def namedValues (name item : List Char) : List (List Char) :=
  (item.splitOn ';').tail.filterMap (parameterNamed name)

def parseQuality (text : List Char) : Option Quality := (parseF32 text).bind unitQuality

/-- An item of an `Accept` header matches a format: its range covers the media type, every
    parameter has a `=`, every quality is in range, and the last of each parameter counts. -/
structure IsAcceptMatch (item : List Char) (format : MetricsTextFormat) (found : AcceptMatch) :
    Prop where
  range : acceptMediaTypeMatches (trimChars ((item.splitOn ';').headD [])) format.mediaType =
    some found.specificity
  assigned : ∀ parameter ∈ (item.splitOn ';').tail, '=' ∈ parameter
  inRange : ∀ text ∈ namedValues qualityName item, ∃ quality, parseQuality parseF32 text = some quality
  version : ∀ text ∈ (namedValues versionName item).getLast?, text = format.textVersion
  charset : ∀ text ∈ (namedValues charsetName item).getLast?,
    charsEqIgnoreAsciiCase text metricsTextCharset = true
  quality : ((namedValues qualityName item).getLast?.bind (parseQuality parseF32)).getD .one =
    found.quality

variable {parseF32}

section Item

/-- The three parameter names differ, so a parameter has one of them at most. -/
theorem charsEqIgnoreAsciiCase_unique {text left : List Char} (right : List Char)
    (isLeft : charsEqIgnoreAsciiCase text left = true)
    (differ : left.map Char.toLower ≠ right.map Char.toLower) :
    charsEqIgnoreAsciiCase text right = false := by
  rw [charsEqIgnoreAsciiCase, decide_eq_true_eq] at isLeft
  rw [charsEqIgnoreAsciiCase, decide_eq_false_iff_not, isLeft]
  exact differ

theorem acceptParameter_eq_some {seen result : AcceptParameters} {parameter : List Char} :
    acceptParameter parseF32 seen parameter = some result ↔
      '=' ∈ parameter ∧
      (∀ text ∈ parameterNamed qualityName parameter,
        ∃ quality, parseQuality parseF32 text = some quality) ∧
      result =
        { quality := ((parameterNamed qualityName parameter).bind
            (parseQuality parseF32)).getD seen.quality
          version := (parameterNamed versionName parameter).or seen.version
          charset := (parameterNamed charsetName parameter).or seen.charset } := by
  unfold acceptParameter parameterNamed
  cases split : splitOnce parameter '=' with
  | none => simp [splitOnce_eq_none.mp split]
  | some found =>
    obtain ⟨name, rawValue⟩ := found
    have assigned : '=' ∈ parameter := by
      by_contra absent
      rw [splitOnce_eq_none.mpr absent] at split
      cases split
    simp only [Option.bind_eq_bind, Option.bind_some, assigned, true_and]
    cases isQuality : charsEqIgnoreAsciiCase (trimChars name) qualityName with
    | true =>
      have notVersion := charsEqIgnoreAsciiCase_unique versionName isQuality (by decide)
      have notCharset := charsEqIgnoreAsciiCase_unique charsetName isQuality (by decide)
      simp only [notVersion, notCharset, if_true, Bool.false_eq_true, if_false, parseQuality,
        Option.bind_some, Option.none_or]
      cases parsed : parseF32 (trimQuotes (trimChars rawValue)) with
      | none => simp [parsed]
      | some value =>
        cases inRange : unitQuality value with
        | none => simp [parsed, inRange]
        | some quality =>
          simp only [parsed, inRange, Option.bind_some, Option.some.injEq, Option.mem_def,
            forall_eq', exists_eq', true_and, Option.getD_some]
          rw [eq_comm]
    | false =>
      cases isVersion : charsEqIgnoreAsciiCase (trimChars name) versionName with
      | true =>
        have notCharset := charsEqIgnoreAsciiCase_unique charsetName isVersion (by decide)
        simp [notCharset, eq_comm]
      | false =>
        cases isCharset : charsEqIgnoreAsciiCase (trimChars name) charsetName with
        | true => simp [eq_comm]
        | false =>
          cases seen
          simp [eq_comm]

def lastParameters (parseF32 : List Char → Option F64) (parameters : List (List Char)) :
    AcceptParameters where
  quality := ((parameters.filterMap (parameterNamed qualityName)).getLast?.bind
    (parseQuality parseF32)).getD .one
  version := (parameters.filterMap (parameterNamed versionName)).getLast?
  charset := (parameters.filterMap (parameterNamed charsetName)).getLast?

theorem getLast?_filterMap_concat {α β : Type*} (pick : α → Option β) (items : List α) (last : α) :
    ((items ++ [last]).filterMap pick).getLast? = (pick last).or (items.filterMap pick).getLast? := by
  rw [List.filterMap_append, List.getLast?_append]
  cases picked : pick last <;> simp [picked]

theorem lastParameters_concat {parameters : List (List Char)} {last : List Char}
    (inRange : ∀ text ∈ parameterNamed qualityName last,
      ∃ quality, parseQuality parseF32 text = some quality) :
    lastParameters parseF32 (parameters ++ [last]) =
      { quality := ((parameterNamed qualityName last).bind (parseQuality parseF32)).getD
          (lastParameters parseF32 parameters).quality
        version := (parameterNamed versionName last).or (lastParameters parseF32 parameters).version
        charset :=
          (parameterNamed charsetName last).or (lastParameters parseF32 parameters).charset } := by
  simp only [lastParameters, getLast?_filterMap_concat]
  cases named : parameterNamed qualityName last with
  | none => rfl
  | some text =>
    obtain ⟨quality, parsed⟩ := inRange text named
    simp [parsed]

theorem foldlM_acceptParameter {parameters : List (List Char)} {result : AcceptParameters} :
    parameters.foldlM (acceptParameter parseF32) {} = some result ↔
      (∀ parameter ∈ parameters, '=' ∈ parameter) ∧
      (∀ text ∈ parameters.filterMap (parameterNamed qualityName),
        ∃ quality, parseQuality parseF32 text = some quality) ∧
      result = lastParameters parseF32 parameters := by
  induction parameters using List.reverseRecOn generalizing result with
  | nil => simp [lastParameters, eq_comm]
  | append_singleton parameters last ih =>
    have concat : (parameters ++ [last]).foldlM (acceptParameter parseF32) {} =
        (parameters.foldlM (acceptParameter parseF32) {}).bind
          fun seen => acceptParameter parseF32 seen last := by
      rw [List.foldlM_append, Option.bind_eq_bind]
      congr 1
      funext seen
      rw [List.foldlM_cons]
      cases acceptParameter parseF32 seen last <;> rfl
    rw [concat, Option.bind_eq_some_iff]
    simp only [ih, acceptParameter_eq_some, List.forall_mem_append, List.forall_mem_singleton,
      List.filterMap_append]
    have alone : ∀ text, text ∈ [last].filterMap (parameterNamed qualityName) ↔
        text ∈ parameterNamed qualityName last := by
      simp [List.mem_filterMap]
    simp only [alone]
    constructor
    · intro run
      obtain ⟨seen, ⟨assigned, inRange, rfl⟩, lastAssigned, lastInRange, rfl⟩ := run
      exact ⟨⟨assigned, lastAssigned⟩, ⟨inRange, lastInRange⟩,
        (lastParameters_concat lastInRange).symm⟩
    · intro held
      obtain ⟨⟨assigned, lastAssigned⟩, ⟨inRange, lastInRange⟩, same⟩ := held
      exact ⟨_, ⟨assigned, inRange, rfl⟩, lastAssigned, lastInRange,
        same.trans (lastParameters_concat lastInRange)⟩

/-- The two checks after the parameters pass on the last version and charset. -/
theorem checks_eq_some {seen : AcceptParameters} {version : List Char} {specificity : Nat}
    {found : AcceptMatch} :
    (if seen.version.any (· ≠ version) then none
      else if seen.charset.any (charsEqIgnoreAsciiCase · metricsTextCharset = false) then none
      else some (⟨seen.quality, specificity⟩ : AcceptMatch)) = some found ↔
      (∀ text ∈ seen.version, text = version) ∧
        (∀ text ∈ seen.charset, charsEqIgnoreAsciiCase text metricsTextCharset = true) ∧
        seen.quality = found.quality ∧ specificity = found.specificity := by
  obtain ⟨quality, stated, charset⟩ := seen
  obtain ⟨expected, rank⟩ := found
  cases stated with
  | none => cases charset <;> simp
  | some stated =>
    by_cases same : stated = version
    · cases charset <;> simp [same]
    · simp [same]

theorem isAcceptMatch_iff {item mediaType : List Char} {parameters : List (List Char)}
    {format : MetricsTextFormat} {found : AcceptMatch}
    (split : item.splitOn ';' = mediaType :: parameters) :
    IsAcceptMatch parseF32 item format found ↔
      acceptMediaTypeMatches (trimChars mediaType) format.mediaType = some found.specificity ∧
      ((∀ parameter ∈ parameters, '=' ∈ parameter) ∧
        ∀ text ∈ parameters.filterMap (parameterNamed qualityName),
          ∃ quality, parseQuality parseF32 text = some quality) ∧
      (∀ text ∈ (lastParameters parseF32 parameters).version, text = format.textVersion) ∧
      (∀ text ∈ (lastParameters parseF32 parameters).charset,
        charsEqIgnoreAsciiCase text metricsTextCharset = true) ∧
      (lastParameters parseF32 parameters).quality = found.quality := by
  have values (name : List Char) :
      namedValues name item = parameters.filterMap (parameterNamed name) := by
    rw [namedValues, split, List.tail_cons]
  constructor
  · intro isMatch
    obtain ⟨range, assigned, inRange, version, charset, quality⟩ := isMatch
    rw [split, List.headD_cons] at range
    rw [split, List.tail_cons] at assigned
    rw [values] at inRange version charset quality
    exact ⟨range, ⟨assigned, inRange⟩, version, charset, quality⟩
  · intro parts
    obtain ⟨range, ⟨assigned, inRange⟩, version, charset, quality⟩ := parts
    rw [lastParameters] at version charset quality
    constructor
    case range => rw [split, List.headD_cons, range]
    case assigned => rw [split, List.tail_cons]; exact assigned
    case inRange => rw [values]; exact inRange
    case version => rw [values]; exact version
    case charset => rw [values]; exact charset
    case quality => rw [values]; exact quality

theorem acceptMediaTypeMatches_nil (expected : List Char) :
    acceptMediaTypeMatches [] expected = none := rfl

theorem acceptItemQuality_eq_some {item : List Char} {format : MetricsTextFormat}
    {found : AcceptMatch} :
    acceptItemQuality parseF32 item format.mediaType format.textVersion = some found ↔
      IsAcceptMatch parseF32 item format found := by
  unfold acceptItemQuality
  obtain ⟨mediaType, parameters, split⟩ := List.exists_cons_of_ne_nil (List.splitOn_ne_nil ';' item)
  rw [isAcceptMatch_iff split, split]
  simp only [Option.bind_eq_bind]
  by_cases empty : trimChars mediaType = []
  · rw [if_pos empty, empty, acceptMediaTypeMatches_nil]
    simp
  · rw [if_neg empty, Option.bind_eq_some_iff]
    simp only [Option.bind_eq_some_iff, foldlM_acceptParameter, checks_eq_some]
    constructor
    · intro run
      obtain ⟨specificity, range, seen, ⟨assigned, inRange, rfl⟩, version, charset, quality, rank⟩ :=
        run
      rw [rank] at range
      exact ⟨range, ⟨assigned, inRange⟩, version, charset, quality⟩
    · intro parts
      obtain ⟨range, ⟨assigned, inRange⟩, version, charset, quality⟩ := parts
      exact ⟨found.specificity, range, lastParameters parseF32 parameters,
        ⟨assigned, inRange, rfl⟩, version, charset, quality, rfl⟩

end Item

section Best

variable (parseF32) (request : List Char)

/-- The match of highest specificity, then highest quality, over all items of all headers. -/
structure IsBestMatch (format : MetricsTextFormat) (best : AcceptMatch) : Prop where
  found : ∃ item ∈ acceptItems request, IsAcceptMatch parseF32 item format best
  highest : ∀ item ∈ acceptItems request, ∀ other, IsAcceptMatch parseF32 item format other →
    acceptRank other ≤ acceptRank best

/-- An answer respects refused formats and prefers the better of two acceptable ones. -/
structure Negotiated (answer : Option MetricsTextFormat) : Prop where
  neverZero : ∀ format best, IsBestMatch parseF32 request format best → best.quality.val = 0 →
    answer ≠ some format
  refused : answer = none ↔ acceptValues request ≠ [] ∧
    ∀ format best, IsBestMatch parseF32 request format best → ¬ 0 < best.quality.val
  preferred : ∀ openmetrics textPlain,
    IsBestMatch parseF32 request .openMetricsText openmetrics →
    IsBestMatch parseF32 request .prometheusText textPlain →
    0 < openmetrics.quality.val → 0 < textPlain.quality.val →
    answer = some (if finalRank textPlain < finalRank openmetrics then .openMetricsText
      else .prometheusText)
  absent : acceptValues request = [] → answer = some .prometheusText

/-- Both formats are refused, and OpenMetrics by the more specific range. -/
def RefusedTie : Prop :=
  ∃ openmetrics textPlain,
    IsBestMatch parseF32 request .openMetricsText openmetrics ∧
    IsBestMatch parseF32 request .prometheusText textPlain ∧
    openmetrics.quality.val = 0 ∧ textPlain.quality.val = 0 ∧
    textPlain.specificity < openmetrics.specificity

variable {parseF32 request}

theorem mem_acceptCandidates {format : MetricsTextFormat} {items : List (List Char)}
    {candidate : AcceptMatch} :
    candidate ∈ acceptCandidates parseF32 format items ↔
      ∃ item ∈ items, IsAcceptMatch parseF32 item format candidate := by
  simp only [acceptCandidates, List.mem_filterMap, acceptItemQuality_eq_some]

theorem argmax_acceptCandidates_iff {format : MetricsTextFormat} {best : AcceptMatch} :
    (acceptCandidates parseF32 format (acceptItems request)).argmax acceptRank = some best ↔
      IsBestMatch parseF32 request format best := by
  rw [Preference.argmax_eq_some_iff acceptRank_injective]
  simp only [mem_acceptCandidates]
  constructor
  · intro best
    exact ⟨best.1, fun item member other isMatch => best.2 other ⟨item, member, isMatch⟩⟩
  · intro best
    refine ⟨best.found, fun other found => ?_⟩
    obtain ⟨item, member, isMatch⟩ := found
    exact best.highest item member other isMatch

theorem negotiateLines_request :
    negotiateLines parseF32 {} false ((strLines request).drop 1) =
      (itemsPreference parseF32 (acceptItems request), decide (acceptValues request ≠ [])) := by
  rw [negotiateLines_eq]
  simp only [Bool.false_or, Prod.mk.injEq]
  refine ⟨?_, rfl⟩
  change AcceptPreference.merge {} (itemsPreference parseF32 (acceptItems request)) = _
  simp [AcceptPreference.merge]

theorem acceptItems_eq_nil (absent : acceptValues request = []) : acceptItems request = [] := by
  rw [acceptItems, absent]
  rfl

theorem prefersOpenmetrics_iff :
    (itemsPreference parseF32 (acceptItems request)).prefersOpenmetrics = true ↔
      ∃ openmetrics, IsBestMatch parseF32 request .openMetricsText openmetrics ∧
        ((∀ textPlain, IsBestMatch parseF32 request .prometheusText textPlain →
            finalRank textPlain < finalRank openmetrics) ∧
          ((∀ textPlain, ¬ IsBestMatch parseF32 request .prometheusText textPlain) →
            0 < openmetrics.quality.val)) := by
  simp only [← argmax_acceptCandidates_iff, itemsPreference, AcceptPreference.prefersOpenmetrics]
  cases (acceptCandidates parseF32 .openMetricsText (acceptItems request)).argmax acceptRank with
  | none => simp
  | some openmetrics =>
    cases (acceptCandidates parseF32 .prometheusText (acceptItems request)).argmax acceptRank with
    | none => simp
    | some textPlain => simp [isFinallyPreferredOver_iff]

theorem offersPrometheus_iff :
    ((itemsPreference parseF32 (acceptItems request)).textPlain.any
      fun textPlain => 0 < textPlain.quality.val) = true ↔
      ∃ textPlain, IsBestMatch parseF32 request .prometheusText textPlain ∧
        0 < textPlain.quality.val := by
  simp only [← argmax_acceptCandidates_iff, itemsPreference, Option.any_eq_true,
    decide_eq_true_eq]

theorem IsBestMatch.unique {format : MetricsTextFormat} {left right : AcceptMatch}
    (isLeft : IsBestMatch parseF32 request format left)
    (isRight : IsBestMatch parseF32 request format right) : left = right := by
  rw [← argmax_acceptCandidates_iff] at isLeft isRight
  exact Option.some.inj (isLeft.symm.trans isRight)

theorem IsBestMatch.accepted {format : MetricsTextFormat} {best : AcceptMatch}
    (isBest : IsBestMatch parseF32 request format best) : acceptValues request ≠ [] := by
  intro absent
  obtain ⟨item, member, -⟩ := isBest.found
  rw [acceptItems_eq_nil absent] at member
  cases member

theorem finalRank_lt_of_zero {openmetrics textPlain : AcceptMatch}
    (zero : openmetrics.quality.val = 0) (below : finalRank textPlain < finalRank openmetrics) :
    textPlain.quality.val = 0 ∧ textPlain.specificity < openmetrics.specificity := by
  rw [finalRank, finalRank, Prod.Lex.toLex_lt_toLex] at below
  rcases below with less | ⟨same, less⟩
  · have positive : textPlain.quality.val < openmetrics.quality.val := less
    have floor := textPlain.quality.2.1
    rw [zero] at positive
    exact absurd positive (not_lt.mpr floor)
  · exact ⟨(congrArg Subtype.val same).trans zero, less⟩

theorem finalRank_lt_of_tie {openmetrics textPlain : AcceptMatch}
    (zero : openmetrics.quality.val = 0) (alsoZero : textPlain.quality.val = 0)
    (specific : textPlain.specificity < openmetrics.specificity) :
    finalRank textPlain < finalRank openmetrics := by
  rw [finalRank, finalRank, Prod.Lex.toLex_lt_toLex]
  exact .inr ⟨Subtype.ext (alsoZero.trans zero.symm), specific⟩

theorem finalRank_lt_of_positive {openmetrics textPlain : AcceptMatch}
    (zero : textPlain.quality.val = 0) (positive : 0 < openmetrics.quality.val) :
    finalRank textPlain < finalRank openmetrics := by
  rw [finalRank, finalRank, Prod.Lex.toLex_lt_toLex]
  apply Or.inl
  change textPlain.quality.val < openmetrics.quality.val
  rw [zero]
  exact positive

theorem requestedMetricsFormat_eq :
    requestedMetricsFormat parseF32 request =
      if (itemsPreference parseF32 (acceptItems request)).prefersOpenmetrics then
        some .openMetricsText
      else if (itemsPreference parseF32 (acceptItems request)).textPlain.any
          fun textPlain => 0 < textPlain.quality.val then some .prometheusText
      else if acceptValues request = [] then some .prometheusText
      else none := by
  rw [requestedMetricsFormat, negotiateLines_request]
  by_cases absent : acceptValues request = [] <;> simp [absent]

/-- OpenMetrics with quality 0 is only offered on a refused tie. -/
theorem positive_of_prefersOpenmetrics (noTie : ¬ RefusedTie parseF32 request)
    (prefers : (itemsPreference parseF32 (acceptItems request)).prefersOpenmetrics = true) :
    ∃ openmetrics, IsBestMatch parseF32 request .openMetricsText openmetrics ∧
      0 < openmetrics.quality.val := by
  obtain ⟨openmetrics, isBest, ranked, alone⟩ := prefersOpenmetrics_iff.mp prefers
  refine ⟨openmetrics, isBest, ?_⟩
  by_contra notPositive
  have zero : openmetrics.quality.val = 0 :=
    le_antisymm (not_lt.mp notPositive) openmetrics.quality.2.1
  refine notPositive (alone fun textPlain other => noTie ?_)
  obtain ⟨alsoZero, specific⟩ := finalRank_lt_of_zero zero (ranked textPlain other)
  exact ⟨openmetrics, textPlain, isBest, other, zero, alsoZero, specific⟩

theorem rank_of_not_prefersOpenmetrics
    (rejected : (itemsPreference parseF32 (acceptItems request)).prefersOpenmetrics = false)
    {openmetrics textPlain : AcceptMatch}
    (isBest : IsBestMatch parseF32 request .openMetricsText openmetrics)
    (other : IsBestMatch parseF32 request .prometheusText textPlain) :
    ¬ finalRank textPlain < finalRank openmetrics := by
  intro ranked
  rw [← Bool.not_eq_true, prefersOpenmetrics_iff] at rejected
  refine rejected ⟨openmetrics, isBest, fun rival isRival => ?_, fun none => absurd other (none _)⟩
  rw [isRival.unique other]
  exact ranked

theorem zero_of_not_offered
    (rejected : (itemsPreference parseF32 (acceptItems request)).prefersOpenmetrics = false)
    (notOffered : ((itemsPreference parseF32 (acceptItems request)).textPlain.any
      fun textPlain => 0 < textPlain.quality.val) = false)
    {format : MetricsTextFormat} {best : AcceptMatch}
    (isBest : IsBestMatch parseF32 request format best) : ¬ 0 < best.quality.val := by
  rw [← Bool.not_eq_true, offersPrometheus_iff] at notOffered
  intro positive
  cases format with
  | prometheusText => exact notOffered ⟨best, isBest, positive⟩
  | openMetricsText =>
    by_cases alone : ∃ textPlain, IsBestMatch parseF32 request .prometheusText textPlain
    · obtain ⟨textPlain, other⟩ := alone
      have zero : textPlain.quality.val = 0 :=
        le_antisymm (not_lt.mp fun offered => notOffered ⟨textPlain, other, offered⟩)
          textPlain.quality.2.1
      exact rank_of_not_prefersOpenmetrics rejected isBest other
        (finalRank_lt_of_positive zero positive)
    · rw [← Bool.not_eq_true, prefersOpenmetrics_iff] at rejected
      exact rejected ⟨best, isBest, fun textPlain other => absurd ⟨textPlain, other⟩ alone,
        fun _ => positive⟩

theorem negotiated_openMetrics (noTie : ¬ RefusedTie parseF32 request)
    (prefers : (itemsPreference parseF32 (acceptItems request)).prefersOpenmetrics = true) :
    Negotiated parseF32 request (some .openMetricsText) := by
  obtain ⟨openmetrics, isBest, positive⟩ := positive_of_prefersOpenmetrics noTie prefers
  refine ⟨?_, ?_, ?_, ?_⟩
  · intro format best isMatch zero same
    cases same
    rw [isMatch.unique isBest] at zero
    exact absurd zero positive.ne'
  · constructor
    · intro impossible
      cases impossible
    · intro refused
      exact absurd positive (refused.2 _ openmetrics isBest)
  · intro preferred textPlain isPreferred other _ _
    obtain ⟨winner, isWinner, ranked, -⟩ := prefersOpenmetrics_iff.mp prefers
    rw [isPreferred.unique isWinner, if_pos (ranked textPlain other)]
  · intro absent
    exact absurd absent isBest.accepted

theorem negotiated_prometheus
    (rejected : (itemsPreference parseF32 (acceptItems request)).prefersOpenmetrics = false)
    {textPlain : AcceptMatch} (isBest : IsBestMatch parseF32 request .prometheusText textPlain)
    (positive : 0 < textPlain.quality.val) :
    Negotiated parseF32 request (some .prometheusText) := by
  refine ⟨?_, ?_, ?_, fun _ => rfl⟩
  · intro format best isMatch zero same
    cases same
    rw [isMatch.unique isBest] at zero
    exact absurd zero positive.ne'
  · constructor
    · intro impossible
      cases impossible
    · intro refused
      exact absurd positive (refused.2 _ textPlain isBest)
  · intro openmetrics other isOther isMatch _ _
    rw [if_neg (rank_of_not_prefersOpenmetrics rejected isOther isMatch)]

theorem negotiated_default (absent : acceptValues request = []) :
    Negotiated parseF32 request (some .prometheusText) := by
  refine ⟨?_, ?_, ?_, fun _ => rfl⟩
  · intro format best isMatch
    exact absurd absent isMatch.accepted
  · constructor
    · intro impossible
      cases impossible
    · intro refused
      exact absurd absent refused.1
  · intro openmetrics textPlain isMatch
    exact absurd absent isMatch.accepted

theorem negotiated_refusal
    (rejected : (itemsPreference parseF32 (acceptItems request)).prefersOpenmetrics = false)
    (notOffered : ((itemsPreference parseF32 (acceptItems request)).textPlain.any
      fun textPlain => 0 < textPlain.quality.val) = false)
    (accepted : acceptValues request ≠ []) : Negotiated parseF32 request none := by
  refine ⟨?_, ?_, ?_, ?_⟩
  · intro format best isMatch zero impossible
    cases impossible
  · exact iff_of_true rfl
      ⟨accepted, fun format best isMatch => zero_of_not_offered rejected notOffered isMatch⟩
  · intro openmetrics textPlain isMatch other positive
    exact absurd positive (zero_of_not_offered rejected notOffered isMatch)
  · intro absent
    exact absurd absent accepted

/-- The negotiation is right exactly when the two formats are not refused together with
    OpenMetrics named more specifically. -/
theorem negotiated_iff (parseF32 : List Char → Option F64) (request : List Char) :
    Negotiated parseF32 request (requestedMetricsFormat parseF32 request) ↔
      ¬ RefusedTie parseF32 request := by
  rw [requestedMetricsFormat_eq]
  constructor
  · intro negotiated tie
    obtain ⟨openmetrics, textPlain, isBest, other, zero, alsoZero, specific⟩ := tie
    cases prefers : (itemsPreference parseF32 (acceptItems request)).prefersOpenmetrics with
    | true =>
      rw [prefers] at negotiated
      exact negotiated.neverZero .openMetricsText openmetrics isBest zero rfl
    | false =>
      exact rank_of_not_prefersOpenmetrics prefers isBest other
        (finalRank_lt_of_tie zero alsoZero specific)
  · intro noTie
    cases prefers : (itemsPreference parseF32 (acceptItems request)).prefersOpenmetrics with
    | true => exact negotiated_openMetrics noTie prefers
    | false =>
      cases offered : (itemsPreference parseF32 (acceptItems request)).textPlain.any
          fun textPlain => 0 < textPlain.quality.val with
      | true =>
        obtain ⟨textPlain, isBest, positive⟩ := offersPrometheus_iff.mp offered
        exact negotiated_prometheus prefers isBest positive
      | false =>
        by_cases absent : acceptValues request = []
        · simpa [absent] using negotiated_default absent
        · simpa [absent] using negotiated_refusal prefers offered absent

/-- An `f32` parser that knows one text. -/
def parseZero (text : List Char) : Option F64 := if text = ['0'] then some (.ofNat 0) else none

/-- `q_zero_for_both_supported_metrics_formats_is_not_acceptable`, with a wildcard for the
    second format. -/
def refusedTieRequest : List Char :=
  "GET /metrics HTTP/1.1\r\nAccept: application/openmetrics-text; q=0, */*; q=0\r\n\r\n".toList

theorem refusedTie_offered :
    ¬ Negotiated parseZero refusedTieRequest
      (requestedMetricsFormat parseZero refusedTieRequest) := by
  intro negotiated
  have offered : requestedMetricsFormat parseZero refusedTieRequest = some .openMetricsText := by
    decide
  have refused : IsBestMatch parseZero refusedTieRequest .openMetricsText
      ⟨⟨0, le_refl _, by norm_num⟩, 2⟩ := by
    rw [← argmax_acceptCandidates_iff]
    decide
  exact negotiated.neverZero _ _ refused rfl offered

end Best

end Moshwatch
