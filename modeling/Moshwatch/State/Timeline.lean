import Moshwatch.State.Identity

namespace Moshwatch

open TimeSeries

/-- How far back the samples of a record may reach. -/
def AppConfig.historyMs (config : AppConfig) : Int := (config.historySecs : Int) * 1000

theorem AppConfig.historyMs_nonneg (config : AppConfig) : 0 ≤ config.historyMs := by
  unfold AppConfig.historyMs
  omega

theorem lastObserved_le_normalize (summary : SessionSummary) (eventUnixMs receivedAt : Int) :
    summary.lastObservedUnixMs ≤ normalizeEventUnixMs summary eventUnixMs receivedAt := by
  rw [normalizeEventUnixMs_eq]
  exact le_max_right _ _

structure Settled (now : Int) (record : SessionRecord) : Prop where
  history : Past MetricPoint.unixMs now record.history
  counters : Past CounterSample.unixMs now record.counters

/-- The series of a record end at its last observation. -/
structure Timed (config : AppConfig) (record : SessionRecord) : Prop where
  history : EndsAt MetricPoint.unixMs config.historyMs record.summary.lastObservedUnixMs
    record.history
  counters : EndsAt CounterSample.unixMs config.historyMs record.summary.lastObservedUnixMs
    record.counters

theorem Timed.settled {config : AppConfig} {record : SessionRecord} (timed : Timed config record)
    {now : Int} (later : record.summary.lastObservedUnixMs ≤ now) : Settled now record :=
  ⟨timed.history.past.mono later, timed.counters.past.mono later⟩

theorem Traces.Blank.settled {record : SessionRecord} (blank : Traces.Blank record) (now : Int) :
    Settled now record :=
  ⟨blank.history ▸ Past.nil now, blank.counters ▸ Past.nil now⟩

/-- Clearing is the only change before an event's own samples are added. -/
theorem clearRegressed_cases {entry : SessionRecord} (event : TelemetryEvent) {now : Int}
    (settled : Settled now entry) :
    ((clearRegressed entry event now).history = [] ∧
        (clearRegressed entry event now).counters = []) ∨
      ((clearRegressed entry event now).history = entry.history ∧
        (clearRegressed entry event now).counters = entry.counters) := by
  cases regressed : metricsRegressed entry.summary.metrics event with
  | true => exact .inl (clearRegressed_of_regressed regressed now)
  | false =>
    rw [clearRegressed_of_timely regressed settled.history.older]
    exact .inr ⟨rfl, rfl⟩

theorem Settled.clearRegressed {entry : SessionRecord} {now : Int}
    (settled : Settled now entry) (event : TelemetryEvent) : Settled now (clearRegressed entry event now) := by
  rcases clearRegressed_cases event settled with ⟨history, counters⟩ | ⟨history, counters⟩
  · exact ⟨history ▸ Past.nil now, counters ▸ Past.nil now⟩
  · exact ⟨history ▸ settled.history, counters ▸ settled.counters⟩

theorem timed_applyEvent (config : AppConfig) (sessionId : String) (event : TelemetryEvent)
    (startedAt receivedAt : Int) {entry : SessionRecord}
    (settled : Settled (normalizeEventUnixMs entry.summary event.unixMs receivedAt) entry) :
    Timed config (applyEvent config sessionId event startedAt receivedAt entry) := by
  obtain ⟨-, -, -, -, observed, -⟩ :=
    applyEvent_identity config sessionId event startedAt receivedAt entry
  have cleared := settled.clearRegressed event
  constructor
  · rw [observed, applyEvent_history]
    exact Past.endsAt cleared.history rfl config.historyMs_nonneg
  · rw [observed, applyEvent_counters]
    exact Past.endsAt cleared.counters rfl config.historyMs_nonneg

namespace Traces

variable {config : AppConfig} {clocks : Set Int} {key : String} {record : SessionRecord}
  {log : List Applied}

theorem timed (traces : Traces config clocks key record log) (nonempty : log ≠ []) :
    Timed config record := by
  induction traces with
  | discovered => exact absurd rfl nonempty
  | opened => exact absurd rfl nonempty
  | upgraded => exact absurd rfl nonempty
  | @refreshed key record log session nowMs read named earlier ih =>
    have kind : record.summary.kind = .instrumented := by
      rcases earlier.identified.named with ⟨kind, -⟩ | ⟨-, empty, -⟩
      · exact kind
      · exact absurd empty nonempty
    rw [ServiceState.refreshRecord_instrumented kind]
    exact ⟨(ih nonempty).history, (ih nonempty).counters⟩
  | @applied record log event startedAt receivedAt read fits earlier ih =>
    apply timed_applyEvent
    by_cases first : log = []
    · subst first
      exact earlier.blank.settled _
    · exact (ih first).settled (lastObserved_le_normalize _ _ _)

theorem settled (traces : Traces config clocks key record log) :
    Settled record.summary.lastObservedUnixMs record := by
  by_cases empty : log = []
  · subst empty
    exact traces.blank.settled _
  · exact (traces.timed empty).settled (le_refl _)

theorem history_span (traces : Traces config clocks key record log) {point newest : MetricPoint}
    (member : point ∈ record.history) (last : record.history.getLast? = some newest) :
    newest.unixMs - point.unixMs ≤ config.historyMs := by
  by_cases empty : log = []
  · subst empty
    rw [traces.blank.history] at member
    cases member
  · exact (traces.timed empty).history.within_last member last

theorem counters_span (traces : Traces config clocks key record log)
    {sample newest : CounterSample} (member : sample ∈ record.counters)
    (last : record.counters.getLast? = some newest) :
    newest.unixMs - sample.unixMs ≤ config.historyMs := by
  by_cases empty : log = []
  · subst empty
    rw [traces.blank.counters] at member
    cases member
  · exact (traces.timed empty).counters.within_last member last

theorem exists_clock (traces : Traces config clocks key record log) :
    ∃ time ∈ clocks, record.summary.lastObservedUnixMs ≤ time := by
  induction traces with
  | @discovered session nowMs read => exact ⟨nowMs, read, le_refl _⟩
  | @opened event startedAt receivedAt read => exact ⟨receivedAt, read, min_le_right _ _⟩
  | upgraded _ ih => exact ih
  | @refreshed key record log session nowMs read named earlier ih =>
    cases kind : record.summary.kind with
    | legacy =>
      rw [ServiceState.refreshRecord_legacy kind]
      exact ⟨nowMs, read, le_refl _⟩
    | instrumented =>
      rw [ServiceState.refreshRecord_instrumented kind]
      exact ih
  | @applied record log event startedAt receivedAt read fits earlier ih =>
    obtain ⟨-, -, -, -, observed, -⟩ := applyEvent_identity config
      (instrumentedSessionId event.pid startedAt) event startedAt receivedAt record
    rw [observed, normalizeEventUnixMs_eq]
    rcases le_total (min event.unixMs receivedAt) record.summary.lastObservedUnixMs with kept | moved
    · rw [max_eq_right kept]
      exact ih
    · rw [max_eq_left moved]
      exact ⟨receivedAt, read, min_le_right _ _⟩

end Traces

namespace ServiceState

theorem settled_entryOf (config : AppConfig) (operations : List Operation) (event : TelemetryEvent)
    (startedAt receivedAt : Int) :
    let entry := (run config operations).entryOf event startedAt receivedAt
    Settled entry.summary.lastObservedUnixMs entry := by
  intro entry
  have tracked : ∀ key record, (run config operations).sessions.lookup key = some record →
      Settled record.summary.lastObservedUnixMs record := by
    intro key record found
    exact (Journal.traces operations key record (by rw [Journal.run_state]; exact found)).settled
  rcases entryOf_cases (run config operations) event startedAt receivedAt with
    found | ⟨-, ⟨record, found, upgraded⟩ | ⟨-, opened⟩⟩
  · exact tracked _ _ found
  · change Settled entry.summary.lastObservedUnixMs entry
    have same : entry = upgradeRecord _ record := upgraded
    rw [same]
    exact ⟨(tracked _ _ found).history, (tracked _ _ found).counters⟩
  · have same : entry = newInstrumentedRecord _ _ _ _ := opened
    rw [same]
    exact ⟨Past.nil _, Past.nil _⟩

theorem lastObserved_le_step (config : AppConfig) (operations : List Operation)
    (event : TelemetryEvent) (startedAt receivedAt : Int) (fits : event.fits = true)
    {pid started : Int} {before after : SessionRecord}
    (tracked : (run config operations).TracksAs pid started before)
    (still : ((run config operations).step
      (.telemetry event startedAt receivedAt fits)).TracksAs pid started after) :
    before.summary.lastObservedUnixMs ≤ after.summary.lastObservedUnixMs := by
  have identities := identities_run config operations
  obtain ⟨key, found, rfl, rfl⟩ := tracked
  obtain ⟨lastKey, lastFound, samePid, sameStart⟩ := still
  rcases lookup_step_telemetry fits lastFound with ⟨-, -, rfl⟩ | ⟨-, untouched⟩
  · rw [recordOf_pid] at samePid
    rw [recordOf_startedAt] at sameStart
    have observed := (applyEvent_identity (run config operations).config
      (instrumentedSessionId event.pid startedAt) (event.verified startedAt) startedAt receivedAt
      ((run config operations).entryOf event startedAt receivedAt)).2.2.2.2.1
    have kept : ((run config operations).entryOf event startedAt
        receivedAt).summary.lastObservedUnixMs = before.summary.lastObservedUnixMs := by
      rcases entryOf_of_tracked receivedAt identities found samePid.symm sameStart.symm with
        same | upgraded
      · rw [same]
      · rw [upgraded]
        rfl
    rw [recordOf, observed, ← kept]
    exact lastObserved_le_normalize _ _ _
  · rw [identities.key_unique untouched found samePid sameStart, found, Option.some.injEq] at untouched
    rw [untouched]

theorem newest_le_normalize (config : AppConfig) (operations : List Operation)
    (event : TelemetryEvent) (startedAt receivedAt : Int) :
    let entry := (run config operations).entryOf event startedAt receivedAt
    (entry.history.getLast?.any fun point =>
      normalizeEventUnixMs entry.summary event.unixMs receivedAt < point.unixMs) = false := by
  intro entry
  have settled : Settled entry.summary.lastObservedUnixMs entry :=
    settled_entryOf config operations event startedAt receivedAt
  cases last : entry.history.getLast? with
  | none => rfl
  | some point =>
    have older := settled.history.older point (List.mem_of_getLast? last)
    have later := lastObserved_le_normalize entry.summary event.unixMs receivedAt
    simp only [Option.any_some, decide_eq_false_iff_not, not_lt]
    omega

/-- The timeline of every record in every reachable state, and that no telemetry event runs
    into the clear branch for a time regression. -/
theorem record_timeline (config : AppConfig) (operations : List Operation) :
    (∀ key record, (run config operations).sessions.lookup key = some record →
      Increasing MetricPoint.unixMs record.history ∧
      Increasing CounterSample.unixMs record.counters ∧
      (∀ point ∈ record.history, ∀ newest, record.history.getLast? = some newest →
        newest.unixMs - point.unixMs ≤ (config.historySecs : Int) * 1000) ∧
      (∀ sample ∈ record.counters, ∀ newest, record.counters.getLast? = some newest →
        newest.unixMs - sample.unixMs ≤ (config.historySecs : Int) * 1000) ∧
      (record.summary.kind = .instrumented →
        record.history.getLast?.map MetricPoint.unixMs =
            some record.summary.lastObservedUnixMs ∧
          record.counters.getLast?.map CounterSample.unixMs =
            some record.summary.lastObservedUnixMs) ∧
      ∃ operation ∈ operations, record.summary.lastObservedUnixMs ≤ operation.clock) ∧
    ∀ (event : TelemetryEvent) (startedAt receivedAt : Int) (fits : event.fits = true),
      (∀ pid started before after,
        (run config operations).TracksAs pid started before →
        ((run config operations).step
          (.telemetry event startedAt receivedAt fits)).TracksAs pid started after →
        before.summary.lastObservedUnixMs ≤ after.summary.lastObservedUnixMs) ∧
      let entry := (run config operations).entryOf event startedAt receivedAt
      (entry.history.getLast?.any fun point =>
        normalizeEventUnixMs entry.summary event.unixMs receivedAt < point.unixMs) = false := by
  refine ⟨?_, ?_⟩
  · intro key record found
    have traced := Journal.traces operations key record (by rw [Journal.run_state]; exact found)
    have nonempty := Journal.log_ne_nil operations key record
      (by rw [Journal.run_state]; exact found)
    have settled := traced.settled
    refine ⟨settled.history.increasing, settled.counters.increasing, ?_, ?_, ?_, ?_⟩
    · intro point member newest last
      exact traced.history_span member last
    · intro sample member newest last
      exact traced.counters_span member last
    · intro instrumented
      have timed := traced.timed (nonempty instrumented)
      exact ⟨timed.history.last, timed.counters.last⟩
    · obtain ⟨time, ⟨operation, member, read⟩, bound⟩ := traced.exists_clock
      exact ⟨operation, member, read ▸ bound⟩
  · intro event startedAt receivedAt fits
    refine ⟨?_, newest_le_normalize config operations event startedAt receivedAt⟩
    intro pid started before after tracked still
    exact lastObserved_le_step config operations event startedAt receivedAt fits tracked still

end ServiceState

end Moshwatch
