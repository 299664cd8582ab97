import Moshwatch.State.View
import Moshwatch.State.Windows

namespace Moshwatch

inductive Color where
  | red
  | yellow
  | green
  | darkGray
  deriving DecidableEq, Repr

inductive BreachLevel where
  | warn
  | crit
  deriving DecidableEq, Repr

/-- One entry of `health_reasons`, with the values its text shows. -/
inductive HealthReason where
  | legacy
  | silence (value : Nat) (level : BreachLevel) (threshold : Nat)
  | rtt (value : F64) (level : BreachLevel) (threshold : Nat)
  | rtx60 (value : F64) (level : BreachLevel) (threshold : F64)
  | rtx10 (value : F64) (threshold : F64)
  | windowsWarming
  | windowsIdle
  | countersMissing
  deriving DecidableEq

namespace HealthReason

def level : HealthReason → Option BreachLevel
  | silence _ level _ | rtt _ level _ | rtx60 _ level _ => some level
  | rtx10 _ _ => some .warn
  | legacy | windowsWarming | windowsIdle | countersMissing => none

section Text

-- The format `{:.1}`.
variable (oneDecimal : F64 → String)

def fmtDurationMs (value : Nat) : String :=
  if value < 1000 then s!"{value}ms"
  else if value < 60000 then oneDecimal (.round (Binary64.rounded value / 1000)) ++ "s"
  else if value < 3600000 then oneDecimal (.round (Binary64.rounded value / 60000)) ++ "m"
  else oneDecimal (.round (Binary64.rounded value / 3600000)) ++ "h"

def levelText : BreachLevel → String
  | .warn => "warn"
  | .crit => "crit"

def text : HealthReason → String
  | legacy => "legacy session (no verified telemetry)"
  | silence value level threshold =>
    s!"silence {fmtDurationMs oneDecimal value} >= {levelText level} {fmtDurationMs oneDecimal threshold}"
  | rtt value level threshold =>
    s!"RTT {oneDecimal value}ms >= {levelText level} {threshold}ms"
  | rtx60 value level threshold =>
    s!"RTX60 {oneDecimal value}% >= {levelText level} {oneDecimal threshold}%"
  | rtx10 value threshold => s!"RTX10 {oneDecimal value}% >= warn {oneDecimal threshold}%"
  | windowsWarming => "RTX windows warming"
  | windowsIdle => "RTX windows idle"
  | countersMissing => "RTX counters missing"

end Text

end HealthReason

/-- The reason that `value` gives, if it reaches one of the two thresholds. -/
def thresholdReasons (value : Option α) (reaches : α → τ → Bool)
    (reason : α → BreachLevel → τ → HealthReason) (critical warn : τ) : List HealthReason :=
  match value with
  | none => []
  | some value =>
    if reaches value critical then [reason value .crit critical]
    else if reaches value warn then [reason value .warn warn]
    else []

def silenceReasons (metrics : SessionMetrics) (thresholds : HealthThresholds) :
    List HealthReason :=
  thresholdReasons metrics.lastHeardAgeMs (fun value threshold => threshold ≤ value) .silence
    thresholds.criticalSilenceMs thresholds.warnSilenceMs

def rttReasons (metrics : SessionMetrics) (thresholds : HealthThresholds) : List HealthReason :=
  thresholdReasons metrics.srttMs (fun value threshold => value.ge (.ofNat threshold)) .rtt
    thresholds.criticalRttMs thresholds.warnRttMs

def rtx60Reasons (metrics : SessionMetrics) (thresholds : HealthThresholds) : List HealthReason :=
  if metrics.retransmitWindow60sComplete then
    thresholdReasons metrics.retransmitPct60s F64.ge .rtx60
      thresholds.criticalRetransmitPct thresholds.warnRetransmitPct
  else []

def rtx10Reasons (metrics : SessionMetrics) (thresholds : HealthThresholds) : List HealthReason :=
  match metrics.retransmitPct10s with
  | none => []
  | some value =>
    if metrics.retransmitWindow10sComplete && value.ge thresholds.warnRetransmitPct then
      [.rtx10 value thresholds.warnRetransmitPct]
    else []

/-- Why the retransmit panel of a session without a breach is quiet. -/
def quietReasons (metrics : SessionMetrics) : List HealthReason :=
  if !metrics.retransmitWindow10sComplete || !metrics.retransmitWindow60sComplete then
    [.windowsWarming]
  else if metrics.retransmitWindow10sBreakdown.transmissionsTotal = some 0 &&
      metrics.retransmitWindow60sBreakdown.transmissionsTotal = some 0 then
    [.windowsIdle]
  else if metrics.retransmitPct10s.isNone && metrics.retransmitPct60s.isNone then
    [.countersMissing]
  else []

def healthReasons (summary : SessionSummary) (thresholds : HealthThresholds) :
    List HealthReason :=
  if summary.kind = .legacy then [.legacy]
  else
    let reasons := silenceReasons summary.metrics thresholds ++
      (rttReasons summary.metrics thresholds ++
        (rtx60Reasons summary.metrics thresholds ++ rtx10Reasons summary.metrics thresholds))
    if reasons = [] then quietReasons summary.metrics else reasons

def retransmitColor (metrics : SessionMetrics) (thresholds : HealthThresholds) : Color :=
  let hasRetransmitValue := metrics.retransmitPct10s.isSome || metrics.retransmitPct60s.isSome
  let critical := metrics.retransmitWindow60sComplete &&
    metrics.retransmitPct60s.any (·.ge thresholds.criticalRetransmitPct)
  let warn :=
    (metrics.retransmitWindow10sComplete &&
      metrics.retransmitPct10s.any (·.ge thresholds.warnRetransmitPct)) ||
    (metrics.retransmitWindow60sComplete &&
      metrics.retransmitPct60s.any (·.ge thresholds.warnRetransmitPct))
  if critical then .red
  else if warn then .yellow
  else if metrics.retransmitWindow10sComplete && hasRetransmitValue then .green
  else .darkGray

section Classified

variable (metrics : SessionMetrics) (thresholds : HealthThresholds)

def retransmitCritical : Bool := metrics.retransmitPct60s.any (·.ge thresholds.criticalRetransmitPct)

def retransmitWarn : Bool :=
  metrics.retransmitPct10s.any (·.ge thresholds.warnRetransmitPct) ||
    metrics.retransmitPct60s.any (·.ge thresholds.warnRetransmitPct)

def rttReaches (threshold : Nat) : Bool := metrics.srttMs.any (·.ge (.ofNat threshold))

def silenceReaches (threshold : Nat) : Bool := metrics.lastHeardAgeMs.any (threshold ≤ ·)

def anyCritical : Bool :=
  rttReaches metrics thresholds.criticalRttMs || retransmitCritical metrics thresholds ||
    silenceReaches metrics thresholds.criticalSilenceMs

def anyWarn : Bool :=
  rttReaches metrics thresholds.warnRttMs || retransmitWarn metrics thresholds ||
    silenceReaches metrics thresholds.warnSilenceMs

theorem classifyHealth_eq (kind : SessionKind) :
    classifyHealth kind metrics thresholds =
      if kind = .legacy then .legacy
      else if anyCritical metrics thresholds then .critical
      else if anyWarn metrics thresholds then .degraded
      else .ok := rfl

end Classified

/-- A retransmit percentage is shown only of a complete window. -/
structure RetransmitGated (metrics : SessionMetrics) : Prop where
  ten : metrics.retransmitPct10s.isSome → metrics.retransmitWindow10sComplete = true
  sixty : metrics.retransmitPct60s.isSome → metrics.retransmitWindow60sComplete = true

section Reachable

theorem retransmitPct_gated (history : List CounterSample) (windowMs : Int)
    (shown : (retransmitPct history windowMs).pct.isSome) :
    (retransmitPct history windowMs).complete = true := by
  cases last : history.getLast? with
  | none => simp [retransmitPct, last] at shown
  | some latest =>
    cases found : history.reverse.find? fun sample => windowMs ≤ latest.unixMs - sample.unixMs with
    | none => simp [retransmitPct, last, found] at shown
    | some baseline =>
      by_cases lacking : LacksCounter baseline latest
      · rw [retransmitPct_of_lacking last found lacking]
      · rw [retransmitPct_of_counted last found lacking]

theorem Traces.retransmitGated {config : AppConfig} {clocks : Set Int} {key : String}
    {record : SessionRecord} {log : List Applied} (traces : Traces config clocks key record log) :
    RetransmitGated record.summary.metrics := by
  obtain ⟨ten, sixty⟩ := traces.windows
  constructor
  · have gated := retransmitPct_gated record.counters 10000
    rw [← ten] at gated
    exact gated
  · have gated := retransmitPct_gated record.counters 60000
    rw [← sixty] at gated
    exact gated

theorem RetransmitGated.aged {summary : SessionSummary} (gated : RetransmitGated summary.metrics)
    (nowMs : Int) : RetransmitGated (ServiceState.agedMetrics summary nowMs) := by
  unfold ServiceState.agedMetrics
  split
  · exact ⟨gated.ten, gated.sixty⟩
  · exact gated

end Reachable

section Agreement

def Shows (reasons : List HealthReason) (level : BreachLevel) : Prop :=
  ∃ reason ∈ reasons, reason.level = some level

def ShowsBreach (reasons : List HealthReason) : Prop := Shows reasons .crit ∨ Shows reasons .warn

theorem shows_append {left right : List HealthReason} {level : BreachLevel} :
    Shows (left ++ right) level ↔ Shows left level ∨ Shows right level := by
  simp only [Shows, List.mem_append, or_and_right, exists_or]

theorem showsBreach_append {left right : List HealthReason} :
    ShowsBreach (left ++ right) ↔ ShowsBreach left ∨ ShowsBreach right := by
  simp only [ShowsBreach, shows_append]
  exact or_or_or_comm

theorem shows_thresholdReasons {value : Option α} {reaches : α → τ → Bool}
    {reason : α → BreachLevel → τ → HealthReason} {critical warn : τ}
    (leveled : ∀ value level threshold, (reason value level threshold).level = some level) :
    (Shows (thresholdReasons value reaches reason critical warn) .crit ↔
      value.any (reaches · critical) = true) ∧
    (ShowsBreach (thresholdReasons value reaches reason critical warn) ↔
      value.any (reaches · critical) = true ∨ value.any (reaches · warn) = true) := by
  cases value with
  | none => simp [thresholdReasons, ShowsBreach, Shows]
  | some value =>
    cases high : reaches value critical with
    | true => simp [thresholdReasons, ShowsBreach, Shows, high, leveled]
    | false =>
      cases low : reaches value warn with
      | true => simp [thresholdReasons, ShowsBreach, Shows, high, low, leveled]
      | false => simp [thresholdReasons, ShowsBreach, Shows, high, low]

variable {metrics : SessionMetrics} (gated : RetransmitGated metrics)
  (thresholds : HealthThresholds)

include gated

theorem complete10_and_any {reaches : F64 → Bool} :
    (metrics.retransmitWindow10sComplete && metrics.retransmitPct10s.any reaches) =
      metrics.retransmitPct10s.any reaches := by
  cases shown : metrics.retransmitPct10s with
  | none => simp
  | some value => rw [gated.ten (by rw [shown]; rfl), Bool.true_and]

theorem complete60_and_any {reaches : F64 → Bool} :
    (metrics.retransmitWindow60sComplete && metrics.retransmitPct60s.any reaches) =
      metrics.retransmitPct60s.any reaches := by
  cases shown : metrics.retransmitPct60s with
  | none => simp
  | some value => rw [gated.sixty (by rw [shown]; rfl), Bool.true_and]

theorem retransmitColor_eq :
    retransmitColor metrics thresholds =
      if retransmitCritical metrics thresholds then .red
      else if retransmitWarn metrics thresholds then .yellow
      else if metrics.retransmitWindow10sComplete &&
          (metrics.retransmitPct10s.isSome || metrics.retransmitPct60s.isSome) then .green
      else .darkGray := by
  simp only [retransmitColor, complete10_and_any gated, complete60_and_any gated]
  rfl

theorem retransmitColor_of_gated :
    (retransmitColor metrics thresholds = .red ↔ retransmitCritical metrics thresholds = true) ∧
    (retransmitColor metrics thresholds = .red ∨ retransmitColor metrics thresholds = .yellow ↔
      retransmitCritical metrics thresholds = true ∨ retransmitWarn metrics thresholds = true) := by
  rw [retransmitColor_eq gated]
  cases retransmitCritical metrics thresholds with
  | true => simp
  | false =>
    cases retransmitWarn metrics thresholds with
    | true => simp
    | false =>
      simp only [Bool.false_eq_true, if_false]
      split <;> simp

theorem rtx60Reasons_of_gated :
    rtx60Reasons metrics thresholds =
      thresholdReasons metrics.retransmitPct60s F64.ge .rtx60 thresholds.criticalRetransmitPct
        thresholds.warnRetransmitPct := by
  unfold rtx60Reasons
  cases shown : metrics.retransmitPct60s with
  | none => simp [thresholdReasons]
  | some value => rw [if_pos (gated.sixty (by rw [shown]; rfl))]

theorem shows_rtx10Reasons :
    ¬ Shows (rtx10Reasons metrics thresholds) .crit ∧
    (ShowsBreach (rtx10Reasons metrics thresholds) ↔
      metrics.retransmitPct10s.any (·.ge thresholds.warnRetransmitPct) = true) := by
  unfold rtx10Reasons
  cases shown : metrics.retransmitPct10s with
  | none => simp [ShowsBreach, Shows]
  | some value =>
    have complete := gated.ten (by rw [shown]; rfl)
    cases reached : value.ge thresholds.warnRetransmitPct with
    | true => simp [ShowsBreach, Shows, complete, reached, HealthReason.level]
    | false => simp [ShowsBreach, Shows, complete, reached]

/-- The reasons of the four threshold checks. -/
def breachReasons (metrics : SessionMetrics) (thresholds : HealthThresholds) : List HealthReason :=
  silenceReasons metrics thresholds ++
    (rttReasons metrics thresholds ++
      (rtx60Reasons metrics thresholds ++ rtx10Reasons metrics thresholds))

theorem shows_breachReasons :
    (Shows (breachReasons metrics thresholds) .crit ↔ anyCritical metrics thresholds = true) ∧
    (ShowsBreach (breachReasons metrics thresholds) ↔
      anyCritical metrics thresholds = true ∨ anyWarn metrics thresholds = true) := by
  obtain ⟨silenceCrit, silenceWarn⟩ := @shows_thresholdReasons _ _ metrics.lastHeardAgeMs
    (fun value threshold => decide (threshold ≤ value)) .silence thresholds.criticalSilenceMs
    thresholds.warnSilenceMs fun _ _ _ => rfl
  obtain ⟨rttCrit, rttWarn⟩ := @shows_thresholdReasons _ _ metrics.srttMs
    (fun value threshold => value.ge (.ofNat threshold)) .rtt thresholds.criticalRttMs
    thresholds.warnRttMs fun _ _ _ => rfl
  obtain ⟨rtxCrit, rtxWarn⟩ := @shows_thresholdReasons _ _ metrics.retransmitPct60s F64.ge .rtx60
    thresholds.criticalRetransmitPct thresholds.warnRetransmitPct fun _ _ _ => rfl
  obtain ⟨noCrit, tenWarn⟩ := shows_rtx10Reasons gated thresholds
  simp only [breachReasons, shows_append, showsBreach_append, silenceReasons, rttReasons,
    rtx60Reasons_of_gated gated, silenceCrit, silenceWarn, rttCrit, rttWarn, rtxCrit, rtxWarn,
    noCrit, tenWarn, anyCritical, anyWarn, retransmitCritical, retransmitWarn, rttReaches,
    silenceReaches, Bool.or_eq_true, or_false]
  constructor
  · simp only [or_comm]
  · simp only [or_assoc, or_comm, or_left_comm]

omit gated in
theorem not_shows_quietReasons {level : BreachLevel} : ¬ Shows (quietReasons metrics) level := by
  rintro ⟨reason, member, leveled⟩
  unfold quietReasons at member
  repeat' split at member
  all_goals simp only [List.mem_singleton, List.not_mem_nil] at member
  all_goals
    subst member
    cases leveled

omit gated in
/-- The quiet reasons stand only where no threshold is breached. -/
theorem shows_healthReasons {summary : SessionSummary} (kind : summary.kind ≠ .legacy)
    {level : BreachLevel} :
    Shows (healthReasons summary thresholds) level ↔
      Shows (breachReasons summary.metrics thresholds) level := by
  rw [healthReasons, if_neg kind]
  change Shows (if breachReasons summary.metrics thresholds = [] then _ else _) level ↔ _
  split
  case isTrue empty =>
    rw [empty]
    refine iff_of_false not_shows_quietReasons ?_
    rintro ⟨reason, member, -⟩
    cases member
  case isFalse => rfl

end Agreement

namespace ServiceState

/-- The UI's reasons and retransmit colour for a materialised summary agree with its health. -/
theorem health_reasons_agree (config : AppConfig) (operations : List Operation) :
    ∀ key record nowMs, (run config operations).sessions.lookup key = some record →
      let summary := materializeSummary config record nowMs
      let reasons := healthReasons summary config.thresholds
      let color := retransmitColor summary.metrics config.thresholds
      (ShowsBreach reasons ↔
        summary.health = .degraded ∨ summary.health = .critical) ∧
      (Shows reasons .crit ↔ summary.health = .critical) ∧
      (summary.kind = .legacy → reasons = [.legacy]) ∧
      (color = .red ↔ retransmitCritical summary.metrics config.thresholds = true) ∧
      (color = .red ∨ color = .yellow ↔
        retransmitCritical summary.metrics config.thresholds = true ∨
          retransmitWarn summary.metrics config.thresholds = true) := by
  intro key record nowMs found summary reasons color
  have traces : Traces config (Journal.clocks operations) key record
      ((Journal.run config operations).log key) :=
    Journal.traces operations key record (by rw [Journal.run_state]; exact found)
  have gated : RetransmitGated summary.metrics := traces.retransmitGated.aged nowMs
  have health : summary.health = classifyHealth summary.kind summary.metrics config.thresholds := rfl
  obtain ⟨colorRed, colorWarn⟩ := retransmitColor_of_gated gated config.thresholds
  rw [health, classifyHealth_eq]
  by_cases kind : summary.kind = .legacy
  · have only : reasons = [.legacy] := if_pos kind
    have silent : ∀ level, ¬ Shows reasons level := by
      rintro level ⟨reason, member, leveled⟩
      rw [only, List.mem_singleton] at member
      subst member
      cases leveled
    refine ⟨?_, ?_, fun _ => only, colorRed, colorWarn⟩
    · simp [ShowsBreach, silent, kind]
    · simp [silent, kind]
  · obtain ⟨crit, warn⟩ := shows_breachReasons gated config.thresholds
    have shows_ : ∀ level, Shows reasons level ↔
        Shows (breachReasons summary.metrics config.thresholds) level :=
      fun level => shows_healthReasons config.thresholds kind
    refine ⟨?_, ?_, fun legacy => absurd legacy kind, colorRed, colorWarn⟩
    · rw [ShowsBreach, shows_, shows_, ← ShowsBreach, warn, if_neg kind]
      cases anyCritical summary.metrics config.thresholds with
      | true => simp
      | false => cases anyWarn summary.metrics config.thresholds <;> simp
    · rw [shows_, crit, if_neg kind]
      cases anyCritical summary.metrics config.thresholds with
      | true => simp
      | false => cases anyWarn summary.metrics config.thresholds <;> simp

/-- After `twoTicks` the retransmit ratio of the 10 s window is over the warning threshold. -/
theorem health_reasons_agree_twoTicks :
    ∃ record, (run {} twoTicks).sessions.lookup "instrumented:10:1" = some record ∧
      (materializeSummary {} record 11000).health = .degraded ∧
      (Shows (healthReasons (materializeSummary {} record 11000) {}) .crit ↔
        (materializeSummary {} record 11000).health = .critical) := by
  cases found : (run {} twoTicks).sessions.lookup "instrumented:10:1" with
  | none => exact absurd found (by decide +kernel)
  | some record =>
    have degraded : ((run {} twoTicks).sessions.lookup "instrumented:10:1").map
        (fun record => (materializeSummary {} record 11000).health) = some .degraded := by
      decide +kernel
    rw [found, Option.map_some, Option.some.injEq] at degraded
    exact ⟨record, rfl, degraded,
      (health_reasons_agree {} twoTicks "instrumented:10:1" record 11000 found).2.1⟩

end ServiceState

end Moshwatch
