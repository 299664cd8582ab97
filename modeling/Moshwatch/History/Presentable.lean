import Moshwatch.History.Recall

namespace Moshwatch

theorem sanitizeLoop_length {maxChars : Nat} (chars : List Char) :
    ∀ (sanitized : List Char) (emitted : Nat) (previousWasWhitespace : Bool),
      sanitized.length = emitted → emitted ≤ maxChars →
        (sanitizeLoop maxChars chars sanitized emitted previousWasWhitespace).1.length ≤ maxChars := by
  induction chars with
  | nil =>
    intro sanitized emitted previous counted bounded
    exact counted.trans_le bounded
  | cons ch rest ih =>
    intro sanitized emitted previous counted bounded
    have emit : ∀ shown previous, ¬maxChars ≤ emitted →
        (sanitizeLoop maxChars rest (sanitized ++ [shown]) (emitted + 1) previous).1.length ≤
          maxChars := by
      intro shown previous room
      refine ih _ _ previous ?_ (by omega)
      rw [List.length_append, counted, List.length_singleton]
    unfold sanitizeLoop
    extract_lets replacement
    split
    · split
      · exact ih _ _ _ counted bounded
      · split
        · exact counted.trans_le bounded
        · rename_i room
          exact emit _ _ room
    · split
      · exact counted.trans_le bounded
      · rename_i room
        exact emit _ _ room

theorem trimChars_length (chars : List Char) : (trimChars chars).length ≤ chars.length :=
  (List.rdropWhile_prefix _ _).length_le.trans (List.dropWhile_suffix _).length_le

theorem sanitizeText_length {value result : String} {maxChars : Nat}
    (sanitized : sanitizeText value maxChars = some result) : result.length ≤ maxChars := by
  have emitted := (trimChars_length _).trans
    (@sanitizeLoop_length maxChars value.toList [] 0 false rfl (Nat.zero_le _))
  unfold sanitizeText at sanitized
  simp only at sanitized
  split at sanitized
  · cases sanitized
  · split at sanitized
    · rename_i cut
      rw [Bool.and_eq_true, decide_eq_true_eq] at cut
      cases sanitized
      rw [String.length_append, String.length_ofList, List.length_take]
      omega
    · cases sanitized
      rw [String.length_ofList]
      exact emitted

theorem length_le_of_sanitizeOptionalText {value : Option String} {maxChars : Nat}
    (fixed : sanitizeOptionalText value maxChars = value) :
    (value.map String.length).getD 0 ≤ maxChars := by
  cases value with
  | none => exact Nat.zero_le _
  | some text => exact sanitizeText_length fixed

def NonNegative (value : Option F64) : Prop :=
  ∀ metric ∈ value, metric.isFinite = true ∧ 0 ≤ metric.number

def Percentage (value : Option F64) : Prop :=
  ∀ metric ∈ value, metric.isFinite = true ∧ 0 ≤ metric.number ∧ metric.number ≤ 100

theorem F64.ge_zero_iff {metric : F64} (finite : metric.isFinite = true) :
    metric.ge (.ofNat 0) = true ↔ 0 ≤ metric.number := by
  rw [F64.ge_iff finite F64.isFinite_ofNat_zero, F64.number_ofNat_zero]

theorem F64.hundred_ge_iff {metric : F64} (finite : metric.isFinite = true) :
    (F64.ofNat 100).ge metric = true ↔ metric.number ≤ 100 := by
  rw [F64.ge_iff (F64.isFinite_ofNat (by norm_num)) finite, F64.number_ofNat (by norm_num),
    Nat.cast_ofNat]

theorem sanitizeNonnegativeMetric_of {value : Option F64} (sound : NonNegative value) :
    sanitizeNonnegativeMetric value = value := by
  cases value with
  | none => rfl
  | some metric =>
    obtain ⟨finite, positive⟩ := sound metric rfl
    have above := (F64.ge_zero_iff finite).mpr positive
    simp [sanitizeNonnegativeMetric, finite, above]

theorem sanitizePercentage_of {value : Option F64} (sound : Percentage value) :
    sanitizePercentage value = value := by
  cases value with
  | none => rfl
  | some metric =>
    obtain ⟨finite, positive, bounded⟩ := sound metric rfl
    have above := (F64.ge_zero_iff finite).mpr positive
    have below := (F64.hundred_ge_iff finite).mpr bounded
    simp [sanitizePercentage, finite, above, below]

/-- A summary whose texts are sanitized and whose metrics are in range. -/
structure Presentable (summary : SessionSummary) : Prop where
  pid : 0 < summary.pid
  sessionId : textIsExactAndBounded summary.sessionId 128 = true
  displaySessionId : sanitizeDisplaySessionId summary.displaySessionId = summary.displaySessionId
  bindAddr : sanitizeEndpoint summary.bindAddr = summary.bindAddr
  clientAddr : sanitizeEndpoint summary.peer.lastClientAddr = summary.peer.lastClientAddr
  currentClientAddr :
    sanitizeEndpoint summary.peer.currentClientAddr = summary.peer.currentClientAddr
  srttMs : NonNegative summary.metrics.srttMs
  rttvarMs : NonNegative summary.metrics.rttvarMs
  lastRttMs : NonNegative summary.metrics.lastRttMs
  retransmitPct10s : Percentage summary.metrics.retransmitPct10s
  retransmitPct60s : Percentage summary.metrics.retransmitPct60s

def sampleChars (sample : HistorySample) : Nat :=
  let chars := fun text : Option String => (text.map String.length).getD 0
  (sample.observer.map fun observer =>
      observer.nodeName.length + observer.systemId.length).getD 0 +
    sample.sessionId.length + chars sample.displaySessionId + chars sample.bindAddr +
    chars sample.clientAddr + chars sample.currentClientAddr

/-- What `serde_json` promises of a sample: `from_slice` decodes what `to_writer` encoded, which
    escapes a character with six bytes at most, besides keys and numbers. -/
structure HistoryCodec.Faithful (codec : HistoryCodec) (sample : HistorySample) : Prop where
  decodes : codec.decode (codec.encode sample) = some sample
  compact : (codec.encode sample).length ≤ 4096 + 6 * sampleChars sample

variable {observer : ObserverInfo} {summary : SessionSummary} {recordedAtUnixMs : Int}

theorem sanitizeHistorySample_historySample
    (observed : sanitizeObserverInfo observer = some observer) (sound : Presentable summary)
    (kind : summary.kind = .instrumented) :
    sanitizeHistorySample (historySample observer recordedAtUnixMs summary) =
      some (historySample observer recordedAtUnixMs summary) := by
  have pid := sound.pid
  unfold sanitizeHistorySample
  simp only [historySample, kind, ne_eq, not_true_eq_false, if_false, sound.sessionId,
    Bool.not_true, Bool.false_eq_true, if_neg (not_le.mpr pid), Option.bind_some, observed,
    sound.displaySessionId, sound.bindAddr, sound.clientAddr, sound.currentClientAddr,
    sanitizeNonnegativeMetric_of sound.srttMs, sanitizeNonnegativeMetric_of sound.rttvarMs,
    sanitizeNonnegativeMetric_of sound.lastRttMs, sanitizePercentage_of sound.retransmitPct10s,
    sanitizePercentage_of sound.retransmitPct60s]

theorem sampleChars_historySample (observed : sanitizeObserverInfo observer = some observer)
    (sound : Presentable summary) :
    sampleChars (historySample observer recordedAtUnixMs summary) ≤ 1150 := by
  have named : observer.nodeName.length ≤ 255 ∧ observer.systemId.length ≤ 255 := by
    simp only [sanitizeObserverInfo, Option.bind_eq_bind, Option.pure_def,
      Option.bind_eq_some_iff, Option.some.injEq] at observed
    obtain ⟨nodeName, node, systemId, system, rfl⟩ := observed
    exact ⟨sanitizeText_length node, sanitizeText_length system⟩
  have sessionId : summary.sessionId.length ≤ 128 :=
    sanitizeText_length (of_decide_eq_true sound.sessionId)
  have displaySessionId := length_le_of_sanitizeOptionalText sound.displaySessionId
  have bindAddr := length_le_of_sanitizeOptionalText sound.bindAddr
  have clientAddr := length_le_of_sanitizeOptionalText sound.clientAddr
  have currentClientAddr := length_le_of_sanitizeOptionalText sound.currentClientAddr
  simp only [sampleChars, historySample, Option.map_some, Option.getD_some]
  omega

theorem recalled_of_faithful {codec : HistoryCodec} {sample : HistorySample}
    (faithful : codec.Faithful sample) (fixed : sanitizeHistorySample sample = some sample)
    (short : sampleChars sample ≤ 1150) (sessionId : String) (sinceUnixMs : Int) :
    recalled codec sessionId sinceUnixMs sample =
      if sampleMatches sessionId sinceUnixMs sample then some sample else none := by
  have compact := faithful.compact
  have line : (historyLine codec sample).length ≤ maxHistoryLineBytes := by
    rw [historyLine, List.length_append, List.length_singleton]
    unfold maxHistoryLineBytes
    omega
  rw [recalled, Framing.bound, if_neg (by omega), outcomeMatch, lineSample_historyLine,
    faithful.decodes, Option.bind_some, fixed, Option.filter_some]

end Moshwatch
