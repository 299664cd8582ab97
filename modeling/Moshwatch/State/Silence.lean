import Moshwatch.State.Journal
import Moshwatch.State.View

namespace Moshwatch

open ServiceState (agedMetrics materializeSummary)

def HealthState.severity : HealthState → Nat
  | .ok => 0
  | .degraded => 1
  | .critical => 2
  | .legacy => 0

/-- An age that is absent lies below every age. -/
def AgeLe (left right : Option Nat) : Prop := ∀ age ∈ left, ∃ older ∈ right, age ≤ older

/-- The ages of an event have the type `Option<u64>`. -/
def Operation.AgesFit : Operation → Prop
  | .telemetry event _ _ _ =>
    (∀ age ∈ event.lastHeardAgeMs, age ≤ u64Max) ∧ ∀ age ∈ event.remoteStateAgeMs, age ≤ u64Max
  | .discovery _ _ => True

abbrev TypedOperation := { operation : Operation // operation.AgesFit }

section Ages

theorem AgeLe.refl (age : Option Nat) : AgeLe age age := fun value held => ⟨value, held, le_rfl⟩

theorem AgeLe.trans {first second third : Option Nat} (lower : AgeLe first second)
    (upper : AgeLe second third) : AgeLe first third := by
  intro age held
  obtain ⟨older, olderHeld, le⟩ := lower age held
  obtain ⟨oldest, oldestHeld, later⟩ := upper older olderHeld
  exact ⟨oldest, oldestHeld, le.trans later⟩

theorem AgeLe.satAdd {age : Option Nat} (fits : ∀ value ∈ age, value ≤ u64Max) (elapsed : Nat) :
    AgeLe age (some (satAdd (age.getD 0) elapsed)) := by
  intro value held
  refine ⟨_, rfl, ?_⟩
  rw [held, Option.getD_some]
  exact le_min (Nat.le_add_right _ _) (fits value held)

theorem satAdd_mono (left : Nat) {less more : Nat} (ordered : less ≤ more) :
    satAdd left less ≤ satAdd left more := by
  unfold satAdd
  omega

theorem AgeLe.any {left right : Option Nat} (older : AgeLe left right) {threshold : Nat}
    (reached : left.any (threshold ≤ ·) = true) : right.any (threshold ≤ ·) = true := by
  cases left with
  | none => cases reached
  | some age =>
    obtain ⟨oldest, held, le⟩ := older age rfl
    rw [Option.mem_def.mp held, Option.any_some, decide_eq_true_eq]
    exact (of_decide_eq_true reached).trans le

end Ages

section Health

variable {metrics other : SessionMetrics} {thresholds : HealthThresholds}

theorem severity_flags_mono : ∀ critical warn silenceCritical silenceWarn laterCritical laterWarn : Bool,
    (silenceCritical = true → laterCritical = true) → (silenceWarn = true → laterWarn = true) →
    HealthState.severity (if critical || silenceCritical then .critical
      else if warn || silenceWarn then .degraded else .ok) ≤
    HealthState.severity (if critical || laterCritical then .critical
      else if warn || laterWarn then .degraded else .ok) := by
  decide

/-- Of two sets of metrics that differ in the ages only, the one with the longer silence is no
    healthier. -/
theorem severity_classifyHealth_mono (kind : SessionKind)
    (older : AgeLe metrics.lastHeardAgeMs other.lastHeardAgeMs)
    (same : other = { metrics with
      lastHeardAgeMs := other.lastHeardAgeMs
      remoteStateAgeMs := other.remoteStateAgeMs }) :
    (classifyHealth kind metrics thresholds).severity ≤
      (classifyHealth kind other thresholds).severity := by
  cases kind with
  | legacy => exact le_rfl
  | instrumented =>
    have critical := @AgeLe.any _ _ older thresholds.criticalSilenceMs
    have warn := @AgeLe.any _ _ older thresholds.warnSilenceMs
    have srtt : other.srttMs = metrics.srttMs := by rw [same]
    have pct10 : other.retransmitPct10s = metrics.retransmitPct10s := by rw [same]
    have pct60 : other.retransmitPct60s = metrics.retransmitPct60s := by rw [same]
    simp only [classifyHealth, srtt, pct10, pct60, reduceCtorEq, if_false]
    exact severity_flags_mono _ _ _ _ _ _ critical warn

theorem classifyHealth_of_silence (critical : metrics.lastHeardAgeMs.any
    (thresholds.criticalSilenceMs ≤ ·) = true) :
    classifyHealth .instrumented metrics thresholds = .critical := by
  simp [classifyHealth, critical]

end Health

section Summary

variable (config : AppConfig) (record : SessionRecord)

/-- What the ages and the health of a record do while time passes and nothing is heard. -/
structure SilenceAges : Prop where
  monotone : ∀ earlier later, earlier ≤ later →
    AgeLe (materializeSummary config record earlier).metrics.lastHeardAgeMs
        (materializeSummary config record later).metrics.lastHeardAgeMs ∧
      AgeLe (materializeSummary config record earlier).metrics.remoteStateAgeMs
        (materializeSummary config record later).metrics.remoteStateAgeMs ∧
      (materializeSummary config record earlier).health.severity ≤
        (materializeSummary config record later).health.severity
  atLeast : ∀ nowMs,
    AgeLe record.summary.metrics.lastHeardAgeMs
        (materializeSummary config record nowMs).metrics.lastHeardAgeMs ∧
      AgeLe record.summary.metrics.remoteStateAgeMs
        (materializeSummary config record nowMs).metrics.remoteStateAgeMs
  aged : record.summary.kind = .instrumented → ∀ nowMs, record.summary.lastObservedUnixMs < nowMs →
    let elapsedMs := (nowMs - record.summary.lastObservedUnixMs).toNat
    (materializeSummary config record nowMs).metrics.lastHeardAgeMs =
        some (satAdd (record.summary.metrics.lastHeardAgeMs.getD 0) elapsedMs) ∧
      (materializeSummary config record nowMs).metrics.remoteStateAgeMs =
        some (satAdd (record.summary.metrics.remoteStateAgeMs.getD 0) elapsedMs)
  critical : record.summary.kind = .instrumented → ∀ nowMs,
    record.summary.lastObservedUnixMs < nowMs →
    nowMs - record.summary.lastObservedUnixMs ≤ i64Max →
    config.thresholds.criticalSilenceMs ≤ nowMs - record.summary.lastObservedUnixMs →
    (materializeSummary config record nowMs).health = .critical
  legacy : record.summary.kind = .legacy → ∀ nowMs,
    (materializeSummary config record nowMs).metrics.lastHeardAgeMs = none ∧
      (materializeSummary config record nowMs).metrics.remoteStateAgeMs = none ∧
      (materializeSummary config record nowMs).health = .legacy
  others : ∀ nowMs, ∃ lastHeardAgeMs remoteStateAgeMs health,
    materializeSummary config record nowMs = { record.summary with
      health
      metrics := { record.summary.metrics with lastHeardAgeMs, remoteStateAgeMs } }

variable {config record}

/-- The ages of a reachable record have the type `Option<u64>`, and a legacy record has none. -/
structure SessionRecord.AgesFit (record : SessionRecord) : Prop where
  lastHeard : ∀ age ∈ record.summary.metrics.lastHeardAgeMs, age ≤ u64Max
  remoteState : ∀ age ∈ record.summary.metrics.remoteStateAgeMs, age ≤ u64Max

theorem agedMetrics_of_unaged {summary : SessionSummary} {nowMs : Int}
    (unaged : ¬(summary.kind = .instrumented ∧ summary.lastObservedUnixMs < nowMs)) :
    agedMetrics summary nowMs = summary.metrics := by
  rw [agedMetrics, if_neg]
  simpa using unaged

theorem agedMetrics_of_aged {summary : SessionSummary} {nowMs : Int}
    (instrumented : summary.kind = .instrumented) (late : summary.lastObservedUnixMs < nowMs) :
    agedMetrics summary nowMs = { summary.metrics with
      lastHeardAgeMs := some (satAdd (summary.metrics.lastHeardAgeMs.getD 0)
        (nowMs - summary.lastObservedUnixMs).toNat)
      remoteStateAgeMs := some (satAdd (summary.metrics.remoteStateAgeMs.getD 0)
        (nowMs - summary.lastObservedUnixMs).toNat) } := by
  rw [agedMetrics, if_pos]
  simp [instrumented, late]

theorem agedMetrics_frame (summary : SessionSummary) (nowMs : Int) :
    agedMetrics summary nowMs = { summary.metrics with
      lastHeardAgeMs := (agedMetrics summary nowMs).lastHeardAgeMs
      remoteStateAgeMs := (agedMetrics summary nowMs).remoteStateAgeMs } := by
  by_cases aged : summary.kind = .instrumented ∧ summary.lastObservedUnixMs < nowMs
  · rw [agedMetrics_of_aged aged.1 aged.2]
  · rw [agedMetrics_of_unaged aged]

theorem ageLe_agedMetrics (fits : record.AgesFit) (nowMs : Int) :
    AgeLe record.summary.metrics.lastHeardAgeMs (agedMetrics record.summary nowMs).lastHeardAgeMs ∧
      AgeLe record.summary.metrics.remoteStateAgeMs
        (agedMetrics record.summary nowMs).remoteStateAgeMs := by
  by_cases aged : record.summary.kind = .instrumented ∧ record.summary.lastObservedUnixMs < nowMs
  · rw [agedMetrics_of_aged aged.1 aged.2]
    exact ⟨.satAdd fits.lastHeard _, .satAdd fits.remoteState _⟩
  · rw [agedMetrics_of_unaged aged]
    exact ⟨.refl _, .refl _⟩

theorem agedMetrics_mono (fits : record.AgesFit) {earlier later : Int} (ordered : earlier ≤ later) :
    AgeLe (agedMetrics record.summary earlier).lastHeardAgeMs
        (agedMetrics record.summary later).lastHeardAgeMs ∧
      AgeLe (agedMetrics record.summary earlier).remoteStateAgeMs
        (agedMetrics record.summary later).remoteStateAgeMs := by
  by_cases aged : record.summary.kind = .instrumented ∧ record.summary.lastObservedUnixMs < earlier
  · have longer : (earlier - record.summary.lastObservedUnixMs).toNat ≤
        (later - record.summary.lastObservedUnixMs).toNat := by omega
    rw [agedMetrics_of_aged aged.1 aged.2, agedMetrics_of_aged aged.1 (aged.2.trans_le ordered)]
    refine ⟨?_, ?_⟩
    · rintro age ⟨⟩
      exact ⟨_, rfl, satAdd_mono _ longer⟩
    · rintro age ⟨⟩
      exact ⟨_, rfl, satAdd_mono _ longer⟩
  · rw [agedMetrics_of_unaged aged]
    exact ageLe_agedMetrics fits later

theorem silenceAges (fits : record.AgesFit)
    (legacyAges : record.summary.kind = .legacy → record.summary.metrics = {}) :
    SilenceAges config record := by
  refine ⟨?_, ageLe_agedMetrics fits, ?_, ?_, ?_, ?_⟩
  · intro earlier later ordered
    obtain ⟨lastHeard, remoteState⟩ := agedMetrics_mono fits ordered
    refine ⟨lastHeard, remoteState, severity_classifyHealth_mono _ lastHeard ?_⟩
    rw [agedMetrics_frame record.summary earlier, agedMetrics_frame record.summary later]
  · intro instrumented nowMs late
    have aged := agedMetrics_of_aged instrumented late
    exact ⟨congrArg SessionMetrics.lastHeardAgeMs aged, congrArg SessionMetrics.remoteStateAgeMs aged⟩
  · intro instrumented nowMs late representable silent
    change classifyHealth record.summary.kind (agedMetrics record.summary nowMs) config.thresholds = _
    rw [instrumented, agedMetrics_of_aged instrumented late]
    apply classifyHealth_of_silence
    have reached : config.thresholds.criticalSilenceMs ≤
        satAdd (record.summary.metrics.lastHeardAgeMs.getD 0)
          (nowMs - record.summary.lastObservedUnixMs).toNat := by
      unfold satAdd u64Max
      unfold i64Max at representable
      omega
    simpa using reached
  · intro legacy nowMs
    have unaged : ¬(record.summary.kind = .instrumented ∧
        record.summary.lastObservedUnixMs < nowMs) := by
      rw [legacy]
      exact fun aged => by cases aged.1
    have ages : agedMetrics record.summary nowMs = {} :=
      (agedMetrics_of_unaged unaged).trans (legacyAges legacy)
    refine ⟨congrArg SessionMetrics.lastHeardAgeMs ages,
      congrArg SessionMetrics.remoteStateAgeMs ages, ?_⟩
    change classifyHealth record.summary.kind _ _ = _
    rw [legacy]
    rfl
  · intro nowMs
    refine ⟨(agedMetrics record.summary nowMs).lastHeardAgeMs,
      (agedMetrics record.summary nowMs).remoteStateAgeMs,
      (materializeSummary config record nowMs).health, ?_⟩
    rw [← agedMetrics_frame]
    rfl

end Summary

section Reachable

variable {config : AppConfig}

theorem agesFit_run (operations : List TypedOperation) :
    ∀ key record, (ServiceState.run config (operations.map (·.1))).sessions.lookup key =
      some record → record.AgesFit := by
  induction operations using List.reverseRecOn with
  | nil => intro key record found; cases found
  | append_singleton operations operation ih =>
    intro key record found
    rw [List.map_append, List.map_singleton, ServiceState.run_concat] at found
    obtain ⟨operation, typed⟩ := operation
    cases operation with
    | discovery discovered nowMs =>
      refine ServiceState.mergeDiscovery_induction (fun _ record => record.AgesFit) ih ?_ ?_
        (ServiceState.lookup_step_discovery found)
      · intro session _ _ _ _
        exact ⟨by simp [ServiceState.newLegacyRecord], by simp [ServiceState.newLegacyRecord]⟩
      · intro session _ _ record _ earlier
        refine ⟨?_, ?_⟩ <;> rw [ServiceState.refreshRecord_metrics]
        · exact earlier.lastHeard
        · exact earlier.remoteState
    | telemetry event startedAt receivedAt fits =>
      rcases ServiceState.lookup_step_telemetry fits found with ⟨-, -, rfl⟩ | ⟨-, tracked⟩
      · refine ⟨?_, ?_⟩ <;> rw [ServiceState.recordOf, applyEvent_metrics]
        · exact typed.1
        · exact typed.2
      · exact ih key record tracked

/-- In every reachable state the ages of an instrumented session grow with the silence and its
    health only gets worse, and nothing else of a session depends on the time. -/
theorem silence_ageing (operations : List TypedOperation) {key : String} {record : SessionRecord}
    (tracked : (ServiceState.run config (operations.map (·.1))).sessions.lookup key = some record) :
    SilenceAges config record := by
  apply silenceAges (agesFit_run operations key record tracked)
  intro legacy
  have traces := @Journal.traces config (operations.map (·.1)) key record
  rw [Journal.run_state] at traces
  have history := traces tracked
  rcases history.identified.named with ⟨instrumented, -⟩ | ⟨-, empty, -⟩
  · rw [legacy] at instrumented
    cases instrumented
  · rw [empty] at history
    exact history.blank.metrics

end Reachable

def oneHeardTick : List TypedOperation :=
  [⟨.telemetry { event := .sessionTick, pid := 1, unixMs := 71000, lastHeardAgeMs := some 500 } 10
    71000 rfl, by simp [Operation.AgesFit, u64Max]⟩]

theorem silence_ageing_oneHeardTick : ∃ record,
    (ServiceState.run {} (oneHeardTick.map (·.1))).sessions.lookup "instrumented:10:1" =
      some record ∧ SilenceAges {} record := by
  cases found : (ServiceState.run {} (oneHeardTick.map (·.1))).sessions.lookup
      "instrumented:10:1" with
  | none => exact absurd found (by decide +kernel)
  | some record => exact ⟨record, rfl, silence_ageing oneHeardTick found⟩

def oneDiscovery : List TypedOperation :=
  [⟨.discovery [⟨1, 10, none, none, "mosh-server"⟩] 72000, trivial⟩]

/-- A session without telemetry is not aged: five milliseconds after it was found its ages are
    absent, not five. -/
theorem oneDiscovery_unaged : ∃ record,
    (ServiceState.run {} (oneDiscovery.map (·.1))).sessions.lookup "legacy:10:1" = some record ∧
      record.summary.lastObservedUnixMs = 72000 ∧
      (materializeSummary {} record 72005).metrics.lastHeardAgeMs ≠
        some (satAdd (record.summary.metrics.lastHeardAgeMs.getD 0) 5) := by
  have shown : ((ServiceState.run {} (oneDiscovery.map (·.1))).sessions.lookup
      "legacy:10:1").any (fun record => decide (record.summary.lastObservedUnixMs = 72000 ∧
        (materializeSummary {} record 72005).metrics.lastHeardAgeMs ≠
          some (satAdd (record.summary.metrics.lastHeardAgeMs.getD 0) 5))) = true := by
    decide +kernel
  obtain ⟨present, unaged⟩ := Option.any_eq_true_iff_get _ _ |>.mp shown
  exact ⟨_, (Option.some_get present).symm, of_decide_eq_true unaged⟩

end Moshwatch
