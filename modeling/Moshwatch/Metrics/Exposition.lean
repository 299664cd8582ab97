import Moshwatch.General.Buckets
import Moshwatch.General.Escaping
import Moshwatch.General.Framing
import Moshwatch.Metrics.Text

namespace Moshwatch

/-- What the text formats escape in the value of a label. -/
def labelEscaping : Escaping Char where
  mark := '\\'
  code ch :=
    if ch = '\\' then some '\\' else if ch = '\n' then some 'n' else if ch = '"' then some '"'
    else none
  decode ch := if ch = 'n' then '\n' else ch
  marked := by simp
  decode_code := by
    intro ch coded
    split
    · rintro ⟨⟩
      simp_all
    · split
      · rintro ⟨⟩
        simp_all
      · split
        · rintro ⟨⟩
          simp_all
        · simp

/-- The three replacements, one after the other, escape every character once. -/
theorem toList_escapeLabel (value : String) :
    (escapeLabel value).toList = labelEscaping.escape value.toList := by
  unfold escapeLabel replaceChar Escaping.escape
  rw [String.toList_ofList, List.flatMap_assoc, List.flatMap_assoc]
  refine List.flatMap_congr fun ch _ => ?_
  by_cases backslash : ch = '\\'
  · subst backslash
    rfl
  · by_cases newline : ch = '\n'
    · subst newline
      rfl
    · by_cases quote : ch = '"'
      · subst quote
        rfl
      · simp [Escaping.escapeSymbol, labelEscaping, backslash, newline, quote]

/-! A reader of the text formats, which knows nothing of what was rendered. -/

structure ReadSample where
  name : String
  labels : List (String × String)
  value : F64
  deriving DecidableEq

def isNameChar (ch : Char) : Bool := ch.isAlphanum || ch = '_' || ch = ':'

/-- Labels up to the closing brace, and what follows it. The fuel bounds their number. -/
def readLabels : Nat → List Char → Option (List (String × String) × List Char)
  | 0, _ => none
  | fuel + 1, text =>
    match text.dropWhile isNameChar with
    | '=' :: '"' :: quoted => do
      let (value, after) ← labelEscaping.readQuoted '"' quoted
      let label := (String.ofList (text.takeWhile isNameChar), String.ofList value)
      match after with
      | ',' :: rest => do
        let (labels, left) ← readLabels fuel rest
        some (label :: labels, left)
      | '\x7d' :: left => some ([label], left)
      | _ => none
    | _ => none

section Reader

-- `parse` is the `FromStr` of an `f64`.
variable (parse : String → Option F64)

def readSample (line : List Char) : Option ReadSample :=
  let name := String.ofList (line.takeWhile isNameChar)
  match line.dropWhile isNameChar with
  | ' ' :: value => (parse (String.ofList value)).map fun value => { name, labels := [], value }
  | '\x7b' :: labelled => do
    let (labels, rest) ← readLabels labelled.length labelled
    match rest with
    | ' ' :: value => (parse (String.ofList value)).map fun value => { name, labels, value }
    | _ => none
  | _ => none

/-- The lines before an end marker that are neither empty nor comments. -/
def sampleLines (text : List Char) : List (List Char) :=
  (((Framing.lines '\n' text).map fun line => line.rdropWhile (· = '\n')).takeWhile fun line =>
    line ≠ "# EOF".toList).filter fun line => line ≠ [] ∧ line.head? ≠ some '#'

/-- One sample for each line that is no comment. -/
def readExposition (text : String) : Option (List ReadSample) :=
  (sampleLines text.toList).mapM (readSample parse)

end Reader

theorem takeWhile_name {name : List Char} (named : ∀ ch ∈ name, isNameChar ch = true) {stop : Char}
    (stops : isNameChar stop = false) (rest : List Char) :
    (name ++ stop :: rest).takeWhile isNameChar = name ∧
      (name ++ stop :: rest).dropWhile isNameChar = stop :: rest := by
  rw [List.takeWhile_append_of_pos named, List.dropWhile_append_of_pos named,
    List.takeWhile_cons_of_neg (by simp [stops]), List.dropWhile_cons_of_neg (by simp [stops]),
    List.append_nil]
  exact ⟨rfl, rfl⟩

def labelChars (label : String × String) : List Char :=
  label.1.toList ++ '=' :: '"' :: (labelEscaping.escape label.2.toList ++ ['"'])

def NamedPlainly (labels : List (String × String)) : Prop :=
  ∀ label ∈ labels, ∀ ch ∈ label.1.toList, isNameChar ch = true

theorem toList_renderLabel (label : String × String) :
    (renderLabel label).toList = labelChars label := by
  rw [renderLabel, String.toList_append, String.toList_append, String.toList_append,
    toList_escapeLabel, List.append_assoc, List.append_assoc]
  rfl

theorem readQuoted_label (value rest : List Char) :
    labelEscaping.readQuoted '"' (labelEscaping.escape value ++ '"' :: rest) = some (value, rest) :=
  Escaping.readQuoted_escape (by decide) (by decide) value rest

theorem newline_not_mem_escape (value : List Char) : '\n' ∉ labelEscaping.escape value := by
  refine Escaping.not_mem_escape (by decide) (by decide) ?_ value
  intro other coded
  simp only [labelEscaping] at coded
  split at coded
  · simp at coded
  · split at coded
    · simp at coded
    · split at coded <;> simp at coded

theorem readLabels_label {label : String × String}
    (named : ∀ ch ∈ label.1.toList, isNameChar ch = true) (fuel : Nat) (after : List Char) :
    readLabels (fuel + 1) (labelChars label ++ after) =
      match after with
      | ',' :: rest => do
        let (labels, left) ← readLabels fuel rest
        some (label :: labels, left)
      | '\x7d' :: left => some ([label], left)
      | _ => none := by
  obtain ⟨name, value⟩ := label
  have text : labelChars (name, value) ++ after =
      name.toList ++ '=' :: '"' :: (labelEscaping.escape value.toList ++ '"' :: after) := by
    simp [labelChars]
  obtain ⟨taken, dropped⟩ := takeWhile_name named (show isNameChar '=' = false by decide)
    ('"' :: (labelEscaping.escape value.toList ++ '"' :: after))
  rw [text, readLabels, taken, dropped]
  simp only
  rw [readQuoted_label, Option.bind_eq_bind, Option.bind_some, String.ofList_toList,
    String.ofList_toList]

theorem readLabels_intercalate {labels : List (String × String)} (some' : labels ≠ [])
    (named : NamedPlainly labels) (left : List Char) :
    ∀ fuel, labels.length ≤ fuel →
      readLabels fuel ([','].intercalate (labels.map labelChars) ++ '\x7d' :: left) =
        some (labels, left) := by
  induction labels with
  | nil => exact absurd rfl some'
  | cons label labels ih =>
    intro fuel enough
    rw [List.length_cons] at enough
    obtain ⟨fuel, rfl⟩ := Nat.exists_eq_add_of_le' (show 1 ≤ fuel by omega)
    have own := named label List.mem_cons_self
    cases labels with
    | nil =>
      rw [List.map_singleton, List.intercalate_singleton, readLabels_label own]
      rfl
    | cons next labels =>
      have rest := ih (List.cons_ne_nil _ _)
        (fun other member => named other (List.mem_cons_of_mem _ member)) fuel (by omega)
      rw [List.map_cons] at rest
      rw [List.map_cons, List.map_cons, List.intercalate_cons_cons, List.append_assoc,
        List.append_assoc, readLabels_label own]
      simp only [List.cons_append, List.nil_append]
      rw [rest]
      rfl

theorem length_le_intercalate (labels : List (String × String)) :
    labels.length ≤ ([','].intercalate (labels.map labelChars)).length := by
  have positive : ∀ label, 1 ≤ (labelChars label).length := by
    intro label
    simp only [labelChars, List.length_append, List.length_cons]
    omega
  induction labels with
  | nil => exact Nat.zero_le _
  | cons label labels ih =>
    have own := positive label
    cases labels with
    | nil => simpa using own
    | cons next labels =>
      rw [List.map_cons] at ih
      rw [List.map_cons, List.map_cons, List.intercalate_cons_cons, List.length_append,
        List.length_append, List.length_cons]
      omega

/-- What the labels of a sample look like on its line. -/
def labelsChars (labels : List (String × String)) : List Char :=
  if labels = [] then []
  else '\x7b' :: ([','].intercalate (labels.map labelChars) ++ ['\x7d'])

def sampleLineChars (display : F64 → String) (name : String) (sample : MetricSample) : List Char :=
  name.toList ++ (labelsChars sample.labels ++ ' ' :: (display sample.value).toList)

/-- The value of a sample is shown on one line and read back from it. -/
structure ShownExactly (display : F64 → String) (parse : String → Option F64) (value : F64) :
    Prop where
  oneLine : '\n' ∉ (display value).toList
  parsed : parse (display value) = some value

section Sample

variable {display : F64 → String} {parse : String → Option F64} {name : String}
  {sample : MetricSample}

theorem toList_renderMetricSample (descriptor : MetricDescriptor) (sample : MetricSample) :
    (renderMetricSample display descriptor sample).toList =
      sampleLineChars display descriptor.name sample ++ ['\n'] := by
  have labels : ∀ labels : List (String × String),
      (labels.map renderLabel).map String.toList = labels.map labelChars := by
    intro labels
    rw [List.map_map]
    exact List.map_congr_left fun label _ => toList_renderLabel label
  unfold renderMetricSample sampleLineChars labelsChars
  split
  · simp only [String.toList_append, List.nil_append, List.append_assoc]
    rfl
  · simp only [String.toList_append, String.toList_intercalate, labels, List.append_assoc,
      List.cons_append, List.nil_append]
    rfl

theorem readSample_sampleLineChars (named : ∀ ch ∈ name.toList, isNameChar ch = true)
    (plain : NamedPlainly sample.labels) (shown : ShownExactly display parse sample.value) :
    readSample parse (sampleLineChars display name sample) =
      some { name, labels := sample.labels, value := sample.value } := by
  unfold sampleLineChars labelsChars
  by_cases bare : sample.labels = []
  · obtain ⟨taken, dropped⟩ := takeWhile_name named (show isNameChar ' ' = false by decide)
      (display sample.value).toList
    rw [if_pos bare, List.nil_append, readSample, taken, dropped]
    simp only [String.ofList_toList, shown.parsed, Option.map_some, bare]
  · obtain ⟨taken, dropped⟩ := takeWhile_name named (show isNameChar '\x7b' = false by decide)
      ([','].intercalate (sample.labels.map labelChars) ++
        '\x7d' :: ' ' :: (display sample.value).toList)
    rw [if_neg bare, List.cons_append, List.append_assoc, List.singleton_append, readSample, taken,
      dropped]
    simp only
    rw [readLabels_intercalate bare plain]
    · simp only [Option.bind_eq_bind, Option.bind_some, String.ofList_toList, shown.parsed,
        Option.map_some]
    · have enough := length_le_intercalate sample.labels
      rw [List.length_append]
      omega

theorem newline_not_mem_labelChars {label : String × String}
    (named : ∀ ch ∈ label.1.toList, isNameChar ch = true) : '\n' ∉ labelChars label := by
  have name : '\n' ∉ label.1.toList := fun member =>
    absurd (named _ member) (by decide)
  have value := newline_not_mem_escape label.2.toList
  simp [labelChars, name, value]

theorem newline_not_mem_sampleLineChars (named : ∀ ch ∈ name.toList, isNameChar ch = true)
    (plain : NamedPlainly sample.labels) (shown : ShownExactly display parse sample.value) :
    '\n' ∉ sampleLineChars display name sample := by
  have absent : '\n' ∉ name.toList := fun member => absurd (named _ member) (by decide)
  have joined : ∀ labels, NamedPlainly labels →
      '\n' ∉ [','].intercalate (labels.map labelChars) := by
    intro labels plain
    induction labels with
    | nil => simp
    | cons label labels ih =>
      have own := newline_not_mem_labelChars (plain label List.mem_cons_self)
      have rest := ih fun other member => plain other (List.mem_cons_of_mem _ member)
      cases labels with
      | nil => simpa using own
      | cons next labels =>
        rw [List.map_cons] at rest
        rw [List.map_cons, List.map_cons, List.intercalate_cons_cons, List.mem_append,
          List.mem_append, List.mem_singleton]
        rintro ((inFirst | isComma) | inRest)
        · exact own inFirst
        · exact absurd isComma (by decide)
        · exact rest inRest
  have value := shown.oneLine
  have labels := joined sample.labels plain
  unfold sampleLineChars labelsChars
  split <;> simp [absent, value, labels]

end Sample

def metricBodies (display : F64 → String) (format : MetricsTextFormat)
    (descriptor : MetricDescriptor) (series : List MetricSample) : List (List Char) :=
  ("# HELP " ++ descriptor.name ++ " " ++ descriptor.help).toList ::
    ("# TYPE " ++ descriptor.name ++ " " ++ metricTypeText descriptor format).toList ::
    series.map (sampleLineChars display descriptor.name)

def catalogBodies (display : F64 → String) (samples : MetricSamples) (format : MetricsTextFormat) :
    List (List Char) :=
  metricCatalog.flatMap fun descriptor =>
    if samples.series descriptor.id = [] then []
    else metricBodies display format descriptor (samples.series descriptor.id)

def endBodies (format : MetricsTextFormat) : List (List Char) :=
  if format = .openMetricsText then ["# EOF".toList] else []

theorem toList_renderMetric (display : F64 → String) (format : MetricsTextFormat)
    (descriptor : MetricDescriptor) (series : List MetricSample) :
    (renderMetric display format descriptor series).toList =
      (metricBodies display format descriptor series).flatMap (· ++ ['\n']) := by
  have lines : (series.map (renderMetricSample display descriptor)).flatMap String.toList =
      (series.map (sampleLineChars display descriptor.name)).flatMap (· ++ ['\n']) := by
    rw [List.flatMap_map, List.flatMap_map]
    exact List.flatMap_congr fun sample _ => toList_renderMetricSample descriptor sample
  change ("# HELP " ++ descriptor.name ++ " " ++ descriptor.help ++ "\n" ++ "# TYPE " ++
      descriptor.name ++ " " ++ metricTypeText descriptor format ++ "\n" ++
      String.join (series.map (renderMetricSample display descriptor))).toList = _
  rw [metricBodies, String.toList_append, String.toList_join, lines, List.flatMap_cons,
    List.flatMap_cons]
  simp only [String.toList_append, List.append_assoc]
  rfl

theorem toList_renderMetricSamples (display : F64 → String) (samples : MetricSamples)
    (format : MetricsTextFormat) :
    (renderMetricSamples display samples format).toList =
      (catalogBodies display samples format ++ endBodies format).flatMap (· ++ ['\n']) := by
  rw [renderMetricSamples, String.toList_append, String.toList_join, List.flatMap_append,
    catalogBodies, List.flatMap_assoc, List.flatMap_map]
  congr 1
  · refine List.flatMap_congr fun descriptor _ => ?_
    simp only
    split
    · rfl
    · exact toList_renderMetric display format descriptor _
  · unfold endBodies
    split <;> rfl

/-- What a metric's line needs of the catalog to be read. -/
structure Plain (descriptor : MetricDescriptor) : Prop where
  nonempty : descriptor.name.toList ≠ []
  named : ∀ ch ∈ descriptor.name.toList, isNameChar ch = true
  help : '\n' ∉ descriptor.help.toList

theorem plain_of_chars {descriptor : MetricDescriptor} {name help : List Char}
    (isName : descriptor.name = String.ofList name) (isHelp : descriptor.help = String.ofList help)
    (checked : (!name.isEmpty && (name.all isNameChar && help.all (· ≠ '\n'))) = true) :
    Plain descriptor := by
  simp only [List.all_eq_true, Bool.and_eq_true, Bool.not_eq_true', List.isEmpty_eq_false_iff,
    decide_eq_true_eq] at checked
  obtain ⟨nonempty, named, unbroken⟩ := checked
  refine ⟨?_, ?_, ?_⟩
  · rw [isName, String.toList_ofList]
    exact nonempty
  · rw [isName, String.toList_ofList]
    exact named
  · rw [isHelp, String.toList_ofList]
    exact fun newline => unbroken _ newline rfl

-- The characters of a literal are found by unification; computing them is slow.
theorem metricCatalog_plain : ∀ descriptor ∈ metricCatalog, Plain descriptor := by
  unfold metricCatalog
  repeat refine List.forall_mem_cons.mpr ⟨plain_of_chars rfl rfl (by decide +kernel), ?_⟩
  exact List.forall_mem_nil _

structure IsComment (line : List Char) : Prop where
  marked : line.head? = some '#'
  unended : line ≠ "# EOF".toList
  oneLine : '\n' ∉ line

theorem isComment_bodies (format : MetricsTextFormat) {descriptor : MetricDescriptor}
    (plain : Plain descriptor) :
    IsComment ("# HELP " ++ descriptor.name ++ " " ++ descriptor.help).toList ∧
      IsComment ("# TYPE " ++ descriptor.name ++ " " ++ metricTypeText descriptor format).toList := by
  have name : '\n' ∉ descriptor.name.toList :=
    fun member => absurd (plain.named _ member) (by decide)
  have typeText : '\n' ∉ (metricTypeText descriptor format).toList := by
    unfold metricTypeText
    split <;> decide
  constructor
  · refine ⟨?_, ?_, ?_⟩
    · simp only [String.toList_append]
      rfl
    · simp only [String.toList_append]
      intro same
      have third : some 'H' = some 'E' := congrArg List.head? (congrArg (List.drop 2) same)
      exact absurd third (by decide)
    · simp only [String.toList_append, List.mem_append, name, plain.help]
      decide
  · refine ⟨?_, ?_, ?_⟩
    · simp only [String.toList_append]
      rfl
    · simp only [String.toList_append]
      intro same
      have third : some 'T' = some 'E' := congrArg List.head? (congrArg (List.drop 2) same)
      exact absurd third (by decide)
    · simp only [String.toList_append, List.mem_append, name, typeText]
      decide

theorem strip_line {body : List Char} (unbroken : '\n' ∉ body) :
    (body ++ ['\n']).rdropWhile (· = '\n') = body := by
  rw [List.rdropWhile_concat_pos _ _ _ (by simp), List.rdropWhile_eq_self_iff]
  intro nonempty last
  rw [decide_eq_true_eq] at last
  exact unbroken (last ▸ List.getLast_mem nonempty)

section Samples

variable {display : F64 → String} {parse : String → Option F64} {samples : MetricSamples}

structure Readable (display : F64 → String) (parse : String → Option F64) (samples : MetricSamples) :
    Prop where
  plain : ∀ entry ∈ samples, NamedPlainly entry.2.labels
  shown : ∀ entry ∈ samples, ShownExactly display parse entry.2.value

theorem sampleLineChars_apart {descriptor : MetricDescriptor} (plain : Plain descriptor)
    (sample : MetricSample) :
    sampleLineChars display descriptor.name sample ≠ [] ∧
      (sampleLineChars display descriptor.name sample).head? ≠ some '#' ∧
      sampleLineChars display descriptor.name sample ≠ "# EOF".toList := by
  obtain ⟨first, rest, name⟩ := List.exists_cons_of_ne_nil plain.nonempty
  have nameChar : isNameChar first = true := plain.named first (by simp [name])
  have differ : first ≠ '#' := by
    rintro rfl
    exact absurd nameChar (by decide)
  refine ⟨by simp [sampleLineChars, name], by simpa [sampleLineChars, name] using differ, ?_⟩
  intro same
  have heads := congrArg List.head? same
  rw [sampleLineChars, name] at heads
  exact differ (by simpa using heads)

theorem filter_metricBodies (format : MetricsTextFormat) {descriptor : MetricDescriptor}
    (plain : Plain descriptor) (series : List MetricSample) :
    (metricBodies display format descriptor series).filter
        (fun line => line ≠ [] ∧ line.head? ≠ some '#') =
      series.map (sampleLineChars display descriptor.name) := by
  rw [metricBodies, List.filter_cons_of_neg (by simp),
    List.filter_cons_of_neg (by simp), List.filter_eq_self]
  intro line member
  obtain ⟨sample, -, rfl⟩ := List.mem_map.mp member
  obtain ⟨nonempty, unmarked, -⟩ := @sampleLineChars_apart display _ plain sample
  simp [nonempty, unmarked]

theorem mem_catalogBodies {format : MetricsTextFormat} {line : List Char}
    (member : line ∈ catalogBodies display samples format) :
    IsComment line ∨ ∃ descriptor ∈ metricCatalog, ∃ sample ∈ samples.series descriptor.id,
      line = sampleLineChars display descriptor.name sample := by
  obtain ⟨descriptor, listed, inside⟩ := List.mem_flatMap.mp member
  obtain ⟨help, type⟩ := isComment_bodies format (metricCatalog_plain descriptor listed)
  split at inside
  · cases inside
  · simp only [metricBodies, List.mem_cons, List.mem_map] at inside
    rcases inside with rfl | rfl | ⟨sample, kept, rfl⟩
    · exact .inl help
    · exact .inl type
    · exact .inr ⟨descriptor, listed, sample, kept, rfl⟩

/-- The lines that a reader takes for samples are those of the samples, in order. -/
theorem sampleLines_render (readable : Readable display parse samples)
    (format : MetricsTextFormat) :
    sampleLines (renderMetricSamples display samples format).toList =
      metricCatalog.flatMap fun descriptor =>
        (samples.series descriptor.id).map (sampleLineChars display descriptor.name) := by
  have unbroken : ∀ line ∈ catalogBodies display samples format, '\n' ∉ line := by
    intro line member
    rcases mem_catalogBodies member with comment | ⟨descriptor, listed, sample, kept, rfl⟩
    · exact comment.oneLine
    · have collected := MetricSamples.mem_series.mp kept
      exact newline_not_mem_sampleLineChars (metricCatalog_plain descriptor listed).named
        (readable.plain _ collected) (readable.shown _ collected)
  have unended : ∀ line ∈ catalogBodies display samples format,
      decide (line ≠ "# EOF".toList) = true := by
    intro line member
    rw [decide_eq_true_eq]
    rcases mem_catalogBodies member with comment | ⟨descriptor, listed, sample, -, rfl⟩
    · exact comment.unended
    · exact (sampleLineChars_apart (metricCatalog_plain descriptor listed) sample).2.2
  have allUnbroken : ∀ line ∈ catalogBodies display samples format ++ endBodies format,
      '\n' ∉ line := by
    intro line member
    rcases List.mem_append.mp member with member | member
    · exact unbroken line member
    · unfold endBodies at member
      split at member
      · rw [List.mem_singleton.mp member]
        decide
      · cases member
  have stripped : ((catalogBodies display samples format ++ endBodies format).map
      (· ++ ['\n'])).map (fun line => line.rdropWhile (· = '\n')) =
        catalogBodies display samples format ++ endBodies format := by
    rw [List.map_map]
    exact (List.map_congr_left fun line member => strip_line (allUnbroken line member)).trans
      (List.map_id _)
  have ends : (endBodies format).takeWhile (fun line => line ≠ "# EOF".toList) = [] := by
    unfold endBodies
    split <;> rfl
  rw [sampleLines, toList_renderMetricSamples, Framing.lines_flatMap allUnbroken, stripped,
    List.takeWhile_append_of_pos unended, ends, List.append_nil, catalogBodies,
    List.filter_flatMap]
  refine List.flatMap_congr fun descriptor listed => ?_
  split
  · rename_i none
    rw [none]
    rfl
  · exact filter_metricBodies format (metricCatalog_plain descriptor listed) _

end Samples

end Moshwatch
