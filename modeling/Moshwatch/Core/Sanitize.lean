import Moshwatch.Core.Protocol
import Moshwatch.Core.Text

namespace Moshwatch

def ellipsis : String := "..."

/-- The loop of `sanitize_text`: the characters emitted so far and whether the loop broke
    off because `maxChars` had been emitted. -/
def sanitizeLoop (maxChars : Nat) :
    List Char → List Char → Nat → Bool → List Char × Bool
  | [], sanitized, _, _ => (sanitized, false)
  | ch :: rest, sanitized, emitted, previousWasWhitespace =>
    let replacement := if isControl ch then (if isWhitespace ch then ' ' else '?') else ch
    if isWhitespace replacement then
      if previousWasWhitespace then sanitizeLoop maxChars rest sanitized emitted true
      else if maxChars ≤ emitted then (sanitized, true)
      else sanitizeLoop maxChars rest (sanitized ++ [' ']) (emitted + 1) true
    else if maxChars ≤ emitted then (sanitized, true)
    else sanitizeLoop maxChars rest (sanitized ++ [replacement]) (emitted + 1) false

def sanitizeText (value : String) (maxChars : Nat) : Option String :=
  let (emitted, truncated) := sanitizeLoop maxChars value.toList [] 0 false
  let sanitized := trimChars emitted
  if sanitized = [] then none
  else if truncated && ellipsis.length < maxChars then
    some (String.ofList (sanitized.take (maxChars - ellipsis.length)) ++ ellipsis)
  else some (String.ofList sanitized)

def sanitizeOptionalText (value : Option String) (maxChars : Nat) : Option String :=
  value.bind fun value => sanitizeText value maxChars

def sanitizeDisplaySessionId (value : Option String) : Option String :=
  sanitizeOptionalText value 128

def sanitizeEndpoint (value : Option String) : Option String :=
  sanitizeOptionalText value 128

def sanitizeCmdline (value : String) : String :=
  (sanitizeText value 1024).getD "unknown"

def sanitizeObserverInfo (observer : ObserverInfo) : Option ObserverInfo := do
  let nodeName ← sanitizeText observer.nodeName 255
  let systemId ← sanitizeText observer.systemId 255
  return { nodeName, systemId }

def sanitizeNonnegativeMetric (value : Option F64) : Option F64 :=
  value.filter fun value => value.isFinite && value.ge (.ofNat 0)

def sanitizePercentage (value : Option F64) : Option F64 :=
  value.filter fun value => value.isFinite && (value.ge (.ofNat 0) && (F64.ofNat 100).ge value)

def textIsExactAndBounded (value : String) (maxChars : Nat) : Bool :=
  sanitizeText value maxChars = some value

def sanitizeHistorySample (sample : HistorySample) : Option HistorySample :=
  if sample.kind ≠ .instrumented then none
  else if sample.pid ≤ 0 then none
  else if !textIsExactAndBounded sample.sessionId 128 then none
  else
    some { sample with
      displaySessionId := sanitizeDisplaySessionId sample.displaySessionId
      bindAddr := sanitizeEndpoint sample.bindAddr
      clientAddr := sanitizeEndpoint sample.clientAddr
      currentClientAddr := sanitizeEndpoint sample.currentClientAddr
      observer := sample.observer.bind sanitizeObserverInfo
      metrics := { sample.metrics with
        srttMs := sanitizeNonnegativeMetric sample.metrics.srttMs
        rttvarMs := sanitizeNonnegativeMetric sample.metrics.rttvarMs
        lastRttMs := sanitizeNonnegativeMetric sample.metrics.lastRttMs
        retransmitPct10s := sanitizePercentage sample.metrics.retransmitPct10s
        retransmitPct60s := sanitizePercentage sample.metrics.retransmitPct60s } }

theorem sanitizeText_visible {value result : String} {maxChars : Nat}
    (sanitized : sanitizeText value maxChars = some result) : isBlank result = false := by
  unfold sanitizeText at sanitized
  cases looped : sanitizeLoop maxChars value.toList [] 0 false with
  | mk emitted truncated =>
    simp only [looped] at sanitized
    by_cases empty : trimChars emitted = []
    · simp [empty] at sanitized
    · rw [if_neg empty] at sanitized
      split at sanitized
      · cases sanitized
        have member : '.' ∈ (String.ofList ((trimChars emitted).take (maxChars - ellipsis.length)) ++
            ellipsis).toList := by
          rw [String.toList_append]
          exact List.mem_append_right _ (by decide)
        exact isBlank_eq_false_of_mem member (by decide)
      · cases sanitized
        have visible : ∃ ch ∈ emitted, isWhitespace ch = false := by
          by_contra blank
          apply empty
          rw [trimChars_eq_nil]
          intro ch member
          by_contra shown
          exact blank ⟨ch, member, by simpa using shown⟩
        obtain ⟨ch, member, shown⟩ := visible
        have kept : ch ∈ (String.ofList (trimChars emitted)).toList := by
          rw [String.toList_ofList]
          exact mem_trimChars member shown
        exact isBlank_eq_false_of_mem kept shown

theorem sanitizeEndpoint_visible {value : Option String} {result : String}
    (sanitized : sanitizeEndpoint value = some result) : isBlank result = false := by
  cases value with
  | none => cases sanitized
  | some value => exact sanitizeText_visible sanitized

example : sanitizeDisplaySessionId (some "abc\x1b[31m\r\nxyz") = some "abc?[31m xyz" := by decide

end Moshwatch
