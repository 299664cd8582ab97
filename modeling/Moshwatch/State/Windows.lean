import Moshwatch.State.Timeline

namespace Moshwatch

open TimeSeries Binary64

def SessionMetrics.window10s (metrics : SessionMetrics) : RetransmitWindow :=
  { pct := metrics.retransmitPct10s
    complete := metrics.retransmitWindow10sComplete
    breakdown := metrics.retransmitWindow10sBreakdown }

def SessionMetrics.window60s (metrics : SessionMetrics) : RetransmitWindow :=
  { pct := metrics.retransmitPct60s
    complete := metrics.retransmitWindow60sComplete
    breakdown := metrics.retransmitWindow60sBreakdown }

def Applied.sample (applied : Applied) : CounterSample :=
  CounterSample.ofEvent applied.event applied.unixMs

/-- The events since, and including, the last one that triggered a counter-regression clear. -/
def sinceClear (log : List Applied) : List Applied :=
  log.foldl (fun kept applied => if applied.regressed then [applied] else kept ++ [applied]) []

/-- The counter samples a batch recomputation starts from. -/
def countedSamples (log : List Applied) : List CounterSample :=
  coalesce CounterSample.unixMs ((sinceClear log).map Applied.sample)

/-- The sample a window is measured from: the newest of those at least `windowMs` and at most
    `spanMs` older than the newest. -/
structure IsBaseline (spanMs windowMs : Int) (samples : List CounterSample)
    (newest baseline : CounterSample) : Prop where
  member : baseline ∈ samples
  old : windowMs ≤ newest.unixMs - baseline.unixMs
  reached : newest.unixMs - baseline.unixMs ≤ spanMs
  latest : ∀ sample ∈ samples, windowMs ≤ newest.unixMs - sample.unixMs →
    newest.unixMs - sample.unixMs ≤ spanMs → sample.unixMs ≤ baseline.unixMs

/-- The sum of the three deltas, as `u64::saturating_add` forms it. -/
def transmissionTotal (baseline newest : CounterSample) : Nat :=
  min (newest.stateUpdatesTxTotal.getD 0 - baseline.stateUpdatesTxTotal.getD 0 +
      (newest.retransmitsTotal.getD 0 - baseline.retransmitsTotal.getD 0) +
      (newest.emptyAcksTxTotal.getD 0 - baseline.emptyAcksTxTotal.getD 0)) u64Max

def LacksCounter (baseline newest : CounterSample) : Prop :=
  newest.stateUpdatesTxTotal = none ∨ baseline.stateUpdatesTxTotal = none ∨
    newest.retransmitsTotal = none ∨ baseline.retransmitsTotal = none

/-- `shown` is the double of `part * 100 / total`, each step rounded to nearest even. Rounding can
    pass a hundred by one unit in the last place, and does not below `2 ^ 53`. -/
structure IsRoundedPercentage (part total : Nat) (shown : F64) : Prop where
  finite : shown.isFinite = true
  number : shown.number = rounded (rounded (rounded part * 100) / rounded total)
  nonneg : 0 ≤ shown.number
  bounded : shown.number ≤ 100 + 1 / 2 ^ 46
  small : part * 100 ≤ 2 ^ 53 → shown.number ≤ 100

/-- The formula applied to the two ends of a window. -/
structure MeasuredBetween (baseline newest : CounterSample) (pct : Option F64)
    (breakdown : RetransmitWindowBreakdown) : Prop where
  lacking : LacksCounter baseline newest → breakdown = {}
  counted : ¬LacksCounter baseline newest →
    breakdown =
      { transmissionsTotal := some (transmissionTotal baseline newest)
        retransmitsTotal :=
          some (newest.retransmitsTotal.getD 0 - baseline.retransmitsTotal.getD 0)
        stateUpdatesTotal :=
          some (newest.stateUpdatesTxTotal.getD 0 - baseline.stateUpdatesTxTotal.getD 0)
        emptyAcksTotal :=
          some (newest.emptyAcksTxTotal.getD 0 - baseline.emptyAcksTxTotal.getD 0) }
  none_iff : pct = none ↔ LacksCounter baseline newest ∨ transmissionTotal baseline newest = 0
  value : ∀ shown, pct = some shown →
    IsRoundedPercentage (newest.retransmitsTotal.getD 0 - baseline.retransmitsTotal.getD 0)
      (transmissionTotal baseline newest) shown

def ReachesBack (spanMs windowMs : Int) (samples : List CounterSample) : Prop :=
  ∃ newest, samples.getLast? = some newest ∧
    ∃ sample ∈ samples, windowMs ≤ newest.unixMs - sample.unixMs ∧
      newest.unixMs - sample.unixMs ≤ spanMs

/-- The window that a batch recomputation over the samples gives. -/
structure IsBatchWindow (spanMs windowMs : Int) (samples : List CounterSample)
    (window : RetransmitWindow) : Prop where
  complete_iff : window.complete = true ↔ ReachesBack spanMs windowMs samples
  measured : window.complete = true →
    ∃ newest baseline, samples.getLast? = some newest ∧
      IsBaseline spanMs windowMs samples newest baseline ∧
        MeasuredBetween baseline newest window.pct window.breakdown
  incomplete : window.complete = false → window.pct = none ∧ window.breakdown = {}

/-- The retransmit counter has the type `Option<u64>`. -/
def CounterSample.Fits (sample : CounterSample) : Prop :=
  ∀ total ∈ sample.retransmitsTotal, total ≤ u64Max

section Formula

variable {history : List CounterSample} {windowMs : Int} {latest baseline : CounterSample}

theorem transmissionTotal_eq (baseline newest : CounterSample) :
    transmissionTotal baseline newest =
      satAdd (satAdd (newest.stateUpdatesTxTotal.getD 0 - baseline.stateUpdatesTxTotal.getD 0)
        (newest.retransmitsTotal.getD 0 - baseline.retransmitsTotal.getD 0))
        (newest.emptyAcksTxTotal.getD 0 - baseline.emptyAcksTxTotal.getD 0) := by
  unfold transmissionTotal satAdd
  omega

theorem retransmitDelta_le_total (baseline : CounterSample) (fits : latest.Fits) :
    latest.retransmitsTotal.getD 0 - baseline.retransmitsTotal.getD 0 ≤
      transmissionTotal baseline latest := by
  have bound : latest.retransmitsTotal.getD 0 ≤ u64Max := by
    cases total : latest.retransmitsTotal with
    | none => exact Nat.zero_le _
    | some total' => exact fits total' total
  unfold transmissionTotal
  omega

theorem isRoundedPercentage {part total : Nat} (part_le : part ≤ total) (positive : total ≠ 0) :
    IsRoundedPercentage part total (.percentage part total) := by
  obtain ⟨double, same⟩ := F64.percentage_eq part_le positive
  rw [same]
  exact {
    finite := rfl
    number := rfl
    nonneg := rounded_nonneg F64.quotient_nonneg
    bounded := F64.rounded_quotient_le part_le positive
    small := F64.rounded_quotient_le_hundred part_le positive }

theorem retransmitPct_of_lacking (last : history.getLast? = some latest)
    (found : (history.reverse.find? fun sample => windowMs ≤ latest.unixMs - sample.unixMs) =
      some baseline) (lacking : LacksCounter baseline latest) :
    retransmitPct history windowMs = { pct := none, complete := true, breakdown := {} } := by
  simp only [retransmitPct, last, found]
  split
  · rename_i updatesLatest updatesBaseline retransmitsLatest retransmitsBaseline
    rcases lacking with none | none | none | none
    · rw [none] at updatesLatest
      cases updatesLatest
    · rw [none] at updatesBaseline
      cases updatesBaseline
    · rw [none] at retransmitsLatest
      cases retransmitsLatest
    · rw [none] at retransmitsBaseline
      cases retransmitsBaseline
  · rfl

theorem retransmitPct_of_counted (last : history.getLast? = some latest)
    (found : (history.reverse.find? fun sample => windowMs ≤ latest.unixMs - sample.unixMs) =
      some baseline) (counted : ¬LacksCounter baseline latest) :
    retransmitPct history windowMs =
      { pct :=
          if transmissionTotal baseline latest = 0 then none
          else some (.percentage
            (latest.retransmitsTotal.getD 0 - baseline.retransmitsTotal.getD 0)
            (transmissionTotal baseline latest))
        complete := true
        breakdown :=
          { transmissionsTotal := some (transmissionTotal baseline latest)
            retransmitsTotal :=
              some (latest.retransmitsTotal.getD 0 - baseline.retransmitsTotal.getD 0)
            stateUpdatesTotal :=
              some (latest.stateUpdatesTxTotal.getD 0 - baseline.stateUpdatesTxTotal.getD 0)
            emptyAcksTotal :=
              some (latest.emptyAcksTxTotal.getD 0 - baseline.emptyAcksTxTotal.getD 0) } } := by
  simp only [LacksCounter, not_or] at counted
  obtain ⟨updates, updatesBefore, retransmits, retransmitsBefore⟩ := counted
  obtain ⟨updatesLatest, updatesLatest_eq⟩ := Option.ne_none_iff_exists'.mp updates
  obtain ⟨updatesBaseline, updatesBaseline_eq⟩ := Option.ne_none_iff_exists'.mp updatesBefore
  obtain ⟨retransmitsLatest, retransmitsLatest_eq⟩ := Option.ne_none_iff_exists'.mp retransmits
  obtain ⟨retransmitsBaseline, retransmitsBaseline_eq⟩ :=
    Option.ne_none_iff_exists'.mp retransmitsBefore
  simp only [retransmitPct, last, found, transmissionTotal_eq, updatesLatest_eq,
    updatesBaseline_eq, retransmitsLatest_eq, retransmitsBaseline_eq, Option.getD_some]
  split <;> rfl

theorem retransmitPct_of_found (last : history.getLast? = some latest)
    (found : (history.reverse.find? fun sample => windowMs ≤ latest.unixMs - sample.unixMs) =
      some baseline) (fits : latest.Fits) :
    (retransmitPct history windowMs).complete = true ∧
      MeasuredBetween baseline latest (retransmitPct history windowMs).pct
        (retransmitPct history windowMs).breakdown := by
  by_cases lacking : LacksCounter baseline latest
  · rw [retransmitPct_of_lacking last found lacking]
    refine ⟨rfl, fun _ => rfl, fun counted => absurd lacking counted, ?_, ?_⟩
    · simp [lacking]
    · intro shown measured
      cases measured
  · rw [retransmitPct_of_counted last found lacking]
    refine ⟨rfl, fun lacks => absurd lacks lacking, fun _ => rfl, ?_, ?_⟩
    · simp [lacking]
    · intro shown measured
      by_cases empty : transmissionTotal baseline latest = 0
      · simp [empty] at measured
      · simp only [empty, if_false, Option.some.injEq] at measured
        rw [← measured]
        exact isRoundedPercentage (retransmitDelta_le_total baseline fits) empty

theorem retransmitPct_of_not_found (last : history.getLast? = some latest)
    (missing : (history.reverse.find? fun sample => windowMs ≤ latest.unixMs - sample.unixMs) =
      none) : retransmitPct history windowMs = { pct := none, complete := false, breakdown := {} } := by
  simp only [retransmitPct, last, missing]

/-- On an increasing series the code's window over the trimmed samples is the batch window. -/
theorem isBatchWindow_retransmitPct {samples : List CounterSample} {spanMs : Int}
    (increasing : Increasing CounterSample.unixMs samples) (positive : 0 ≤ spanMs)
    (fits : ∀ sample ∈ samples, sample.Fits) (windowMs : Int) :
    IsBatchWindow spanMs windowMs samples
      (retransmitPct (TimeSeries.trim CounterSample.unixMs spanMs samples) windowMs) := by
  cases last : samples.getLast? with
  | none =>
    rw [List.getLast?_eq_none_iff] at last
    subst last
    exact ⟨by simp [ReachesBack, retransmitPct, TimeSeries.trim],
      by simp [retransmitPct, TimeSeries.trim],
      fun _ => ⟨rfl, rfl⟩⟩
  | some newest =>
    have trimmedLast := getLast?_trim increasing last positive
    have trimmed := increasing.trim spanMs
    have mem_iff : ∀ sample, sample ∈ TimeSeries.trim CounterSample.unixMs spanMs samples ↔
        sample ∈ samples ∧ newest.unixMs - sample.unixMs ≤ spanMs := by
      intro sample
      rw [trim_eq_filter increasing last, List.mem_filter, decide_eq_true_eq]
      constructor <;> rintro ⟨member, reached⟩ <;> exact ⟨member, by omega⟩
    cases found : (TimeSeries.trim CounterSample.unixMs spanMs samples).reverse.find? fun sample =>
        windowMs ≤ newest.unixMs - sample.unixMs with
    | none =>
      rw [retransmitPct_of_not_found trimmedLast found]
      have empty : ¬∃ sample ∈ samples, windowMs ≤ newest.unixMs - sample.unixMs ∧
          newest.unixMs - sample.unixMs ≤ spanMs := by
        rintro ⟨sample, member, old, reached⟩
        have young := List.find?_eq_none.mp found sample
          (List.mem_reverse.mpr ((mem_iff sample).mpr ⟨member, reached⟩))
        simp only [decide_eq_true_eq] at young
        exact young old
      refine ⟨?_, (fun complete => by cases complete), fun _ => ⟨rfl, rfl⟩⟩
      simp only [ReachesBack, last, Option.some.injEq, exists_eq_left', Bool.false_eq_true,
        false_iff]
      exact empty
    | some baseline =>
      obtain ⟨complete, measured⟩ :=
        retransmitPct_of_found trimmedLast found (fits newest (List.mem_of_getLast? last))
      obtain ⟨member, old, latest⟩ := (find?_reverse_eq_some trimmed).mp found
      obtain ⟨inside, reached⟩ := (mem_iff baseline).mp member
      rw [decide_eq_true_eq] at old
      have isBaseline : IsBaseline spanMs windowMs samples newest baseline := by
        refine ⟨inside, old, reached, ?_⟩
        intro sample present far near
        exact latest sample ((mem_iff sample).mpr ⟨present, near⟩) (by simpa using far)
      refine ⟨?_, fun _ => ⟨newest, baseline, last, isBaseline, measured⟩, ?_⟩
      · simp only [complete, true_iff]
        exact ⟨newest, last, baseline, inside, old, reached⟩
      · intro incomplete
        rw [complete] at incomplete
        cases incomplete

end Formula

section Counted

variable (applied : Applied) (log : List Applied)

theorem sinceClear_concat :
    sinceClear (log ++ [applied]) =
      if applied.regressed then [applied] else sinceClear log ++ [applied] := by
  simp [sinceClear, List.foldl_append]

theorem countedSamples_concat :
    countedSamples (log ++ [applied]) =
      if applied.regressed then [applied.sample]
      else upsert CounterSample.unixMs (countedSamples log) applied.sample := by
  unfold countedSamples
  rw [sinceClear_concat]
  split
  · rfl
  · rw [List.map_append, List.map_singleton, coalesce_concat]

theorem sinceClear_subset : sinceClear log ⊆ log := by
  induction log using List.reverseRecOn with
  | nil => exact List.Subset.refl _
  | append_singleton log applied ih =>
    rw [sinceClear_concat]
    split
    · exact List.subset_append_right _ _
    · exact List.append_subset.mpr
        ⟨List.Subset.trans ih (List.subset_append_left _ _), List.subset_append_right _ _⟩

theorem mem_countedSamples {sample : CounterSample} (member : sample ∈ countedSamples log) :
    ∃ applied ∈ log, applied.sample = sample := by
  obtain ⟨applied, present, same⟩ := List.mem_map.mp (mem_of_mem_coalesce member)
  exact ⟨applied, sinceClear_subset log present, same⟩

end Counted

namespace Traces

variable {config : AppConfig} {clocks : Set Int} {key : String} {record : SessionRecord}
  {log : List Applied}

theorem fits (traces : Traces config clocks key record log) :
    ∀ applied ∈ log, applied.event.fits = true := by
  induction traces with
  | discovered => exact fun _ member => by cases member
  | opened => exact fun _ member => by cases member
  | upgraded => exact fun _ member => by cases member
  | refreshed _ _ _ _ ih => exact ih
  | applied event startedAt read fits _ ih =>
    intro applied member
    rcases List.mem_append.mp member with earlier | new
    · exact ih applied earlier
    · rw [List.mem_singleton.mp new]
      exact fits

theorem sample_fits {applied : Applied} (fits : applied.event.fits = true) :
    applied.sample.Fits := by
  intro total present
  simp only [TelemetryEvent.fits, List.all_eq_true] at fits
  have counter := fits applied.event.retransmitsTotal (by simp [TelemetryEvent.counters])
  have same : applied.event.retransmitsTotal = some total := present
  rw [same] at counter
  simpa using counter

/-- The counters of a record are the trimmed batch samples of its log. -/
structure Counted (config : AppConfig) (record : SessionRecord) (log : List Applied) : Prop where
  counters : record.counters = TimeSeries.trim CounterSample.unixMs config.historyMs (countedSamples log)
  past : Past CounterSample.unixMs record.summary.lastObservedUnixMs (countedSamples log)

theorem counted (traces : Traces config clocks key record log) : Counted config record log := by
  induction traces with
  | discovered => exact ⟨rfl, Past.nil _⟩
  | opened => exact ⟨rfl, Past.nil _⟩
  | upgraded _ ih => exact ⟨ih.counters, Past.nil _⟩
  | @refreshed key record log session nowMs read named earlier ih =>
    cases kind : record.summary.kind with
    | legacy =>
      have empty : log = [] := by
        rcases earlier.identified.named with ⟨instrumented, -⟩ | ⟨-, empty, -⟩
        · rw [kind] at instrumented
          cases instrumented
        · exact empty
      subst empty
      exact ⟨by rw [ServiceState.refreshRecord_counters]; exact ih.counters, Past.nil _⟩
    | instrumented =>
      rw [ServiceState.refreshRecord_instrumented kind]
      exact ⟨ih.counters, ih.past⟩
  | @applied record log event startedAt receivedAt read fits earlier ih =>
    obtain ⟨-, -, -, -, observed, -⟩ := applyEvent_identity config
      (instrumentedSessionId event.pid startedAt) event startedAt receivedAt record
    have later := lastObserved_le_normalize record.summary event.unixMs receivedAt
    have settled := earlier.settled
    cases regressed : metricsRegressed record.summary.metrics event with
    | true =>
      have samples : countedSamples (log ++ [{ before := record, event, receivedAt }]) =
          [Applied.sample { before := record, event, receivedAt }] := by
        rw [countedSamples_concat]
        exact if_pos regressed
      refine ⟨?_, ?_⟩
      · rw [applyEvent_counters, (clearRegressed_of_regressed regressed _).2, samples]
        rfl
      · rw [observed, samples]
        refine ⟨List.pairwise_singleton _ _, ?_⟩
        intro sample member
        rw [List.mem_singleton.mp member]
        exact le_refl _
    | false =>
      have samples : countedSamples (log ++ [{ before := record, event, receivedAt }]) =
          upsert CounterSample.unixMs (countedSamples log)
            (Applied.sample { before := record, event, receivedAt }) := by
        rw [countedSamples_concat]
        exact if_neg (Bool.eq_false_iff.mp regressed)
      have past := ih.past.mono later
      refine ⟨?_, ?_⟩
      · rw [applyEvent_counters, clearRegressed_of_timely regressed
          (settled.history.mono later).older, ih.counters, samples]
        exact trim_upsert_trim past.increasing past.older config.historyMs_nonneg
      · rw [observed, samples]
        exact ⟨past.increasing.upsert past.older, past.older.upsert⟩

def batchPct (config : AppConfig) (log : List Applied) : Option F64 :=
  (retransmitPct (TimeSeries.trim CounterSample.unixMs config.historyMs (countedSamples log))
    10000).pct

/-- Where a retained history point comes from: the last event of its time. -/
def Recorded (config : AppConfig) (log : List Applied) (point : MetricPoint) : Prop :=
  ∃ earlier applied later, log = earlier ++ applied :: later ∧
    (∀ other ∈ later, other.unixMs ≠ point.unixMs) ∧
    point = MetricPoint.recorded applied.event applied.unixMs
      (batchPct config (earlier ++ [applied]))

theorem Recorded.concat {point : MetricPoint} {applied : Applied}
    (recorded : Recorded config log point) (other : applied.unixMs ≠ point.unixMs) :
    Recorded config (log ++ [applied]) point := by
  obtain ⟨earlier, last, later, whole, apart, same⟩ := recorded
  refine ⟨earlier, last, later ++ [applied], by simp [whole], ?_, same⟩
  intro item member
  rcases List.mem_append.mp member with old | new
  · exact apart item old
  · rw [List.mem_singleton.mp new]
    exact other

theorem recorded (traces : Traces config clocks key record log) :
    ∀ point ∈ record.history, Recorded config log point := by
  induction traces with
  | discovered => exact fun _ member => by cases member
  | opened => exact fun _ member => by cases member
  | upgraded _ ih => exact ih
  | refreshed _ _ _ _ ih => simpa only [ServiceState.refreshRecord_history] using ih
  | @applied record log event startedAt receivedAt read fits earlier ih =>
    intro point member
    have counters := (Traces.applied event startedAt read fits earlier).counted.counters
    have later := lastObserved_le_normalize record.summary event.unixMs receivedAt
    have settled := earlier.settled
    have cleared := (settled.history.mono later)
    have past : Past MetricPoint.unixMs
        (normalizeEventUnixMs record.summary event.unixMs receivedAt)
        (clearRegressed record event
          (normalizeEventUnixMs record.summary event.unixMs receivedAt)).history :=
      (Settled.clearRegressed ⟨cleared, settled.counters.mono later⟩ event).history
    rw [applyEvent_history, counters] at member
    rcases (past.mem_trim_upsert rfl config.historyMs_nonneg).mp member with
      ⟨inside, apart, -⟩ | new
    · have before : point ∈ record.history := by
        rcases clearRegressed_cases event ⟨cleared, settled.counters.mono later⟩ with
          ⟨emptied, -⟩ | ⟨same, -⟩
        · rw [emptied] at inside
          cases inside
        · rwa [same] at inside
      exact (ih point before).concat (fun same => apart same.symm)
    · exact ⟨log, _, [], rfl, by simp, new⟩

theorem windows (traces : Traces config clocks key record log) :
    record.summary.metrics.window10s = retransmitPct record.counters 10000 ∧
      record.summary.metrics.window60s = retransmitPct record.counters 60000 := by
  induction traces with
  | discovered => exact ⟨rfl, rfl⟩
  | opened => exact ⟨rfl, rfl⟩
  | upgraded _ ih => exact ih
  | refreshed _ _ _ _ ih =>
    rw [ServiceState.refreshRecord_metrics, ServiceState.refreshRecord_counters]
    exact ih
  | applied event startedAt =>
    rw [applyEvent_metrics]
    exact ⟨rfl, rfl⟩

theorem isBatchWindow (traces : Traces config clocks key record log) (windowMs : Int) :
    IsBatchWindow config.historyMs windowMs (countedSamples log)
      (retransmitPct (TimeSeries.trim CounterSample.unixMs config.historyMs (countedSamples log))
        windowMs) := by
  apply isBatchWindow_retransmitPct traces.counted.past.increasing config.historyMs_nonneg
  intro sample member
  obtain ⟨applied, present, rfl⟩ := mem_countedSamples log member
  exact sample_fits (traces.fits applied present)

end Traces

/-- The windows a record reports, and those its history points were written with, are the
    ones a batch recomputation over the record's events gives. -/
theorem windows_eq_batch (config : AppConfig) (operations : List Operation) :
    ∀ key record, (ServiceState.run config operations).sessions.lookup key = some record →
      (Journal.run config operations).log key ≠ [] →
      let log := (Journal.run config operations).log key
      IsBatchWindow config.historyMs 10000 (countedSamples log) record.summary.metrics.window10s ∧
      IsBatchWindow config.historyMs 60000 (countedSamples log) record.summary.metrics.window60s ∧
      ∀ point ∈ record.history, ∃ earlier applied later window,
        log = earlier ++ applied :: later ∧ applied.unixMs = point.unixMs ∧
          (∀ other ∈ later, other.unixMs ≠ point.unixMs) ∧
          IsBatchWindow config.historyMs 10000 (countedSamples (earlier ++ [applied])) window ∧
          point.retransmitPct10s = window.pct := by
  intro key record found nonempty log
  have traces : Traces config (Journal.clocks operations) key record log :=
    Journal.traces operations key record (by rw [Journal.run_state]; exact found)
  obtain ⟨ten, sixty⟩ := traces.windows
  rw [ten, sixty, traces.counted.counters]
  refine ⟨traces.isBatchWindow 10000, traces.isBatchWindow 60000, ?_⟩
  intro point member
  obtain ⟨earlier, applied, later, whole, apart, same⟩ := traces.recorded point member
  have front : earlier ++ [applied] <+: log := ⟨later, by simp [whole]⟩
  obtain ⟨old, between⟩ := traces.exists_of_prefix front
  refine ⟨earlier, applied, later, _, whole, ?_, apart, between.isBatchWindow 10000, ?_⟩
  · rw [same]
    rfl
  · rw [same]
    rfl

def twoTicks : List Operation :=
  [.telemetry
      { event := .sessionTick, pid := 1, unixMs := 1000, stateUpdatesTxTotal := some 10,
        retransmitsTotal := some 2, emptyAcksTxTotal := some 0 } 10 1000 rfl,
    .telemetry
      { event := .sessionTick, pid := 1, unixMs := 11000, stateUpdatesTxTotal := some 30,
        retransmitsTotal := some 7, emptyAcksTxTotal := some 5 } 10 11000 rfl]

theorem windows_eq_batch_twoTicks :
    ∃ record, (ServiceState.run {} twoTicks).sessions.lookup "instrumented:10:1" = some record ∧
      IsBatchWindow 900000 10000 (countedSamples ((Journal.run {} twoTicks).log "instrumented:10:1"))
        record.summary.metrics.window10s := by
  cases found : (ServiceState.run {} twoTicks).sessions.lookup "instrumented:10:1" with
  | none => exact absurd found (by decide +kernel)
  | some record =>
    have kinds : ((ServiceState.run {} twoTicks).sessions.lookup "instrumented:10:1").map
        (fun record => record.summary.kind) = some .instrumented := by decide +kernel
    rw [found, Option.map_some, Option.some.injEq] at kinds
    have nonempty := Journal.log_ne_nil twoTicks "instrumented:10:1" record
      (by rw [Journal.run_state]; exact found) kinds
    exact ⟨record, rfl, (windows_eq_batch {} twoTicks _ record found nonempty).1⟩

/-- Every transmission between the two ticks is a retransmit. -/
def onlyRetransmits : List Operation :=
  [.telemetry
      { event := .sessionTick, pid := 1, unixMs := 1000, stateUpdatesTxTotal := some 0,
        retransmitsTotal := some 0 } 10 1000 rfl,
    .telemetry
      { event := .sessionTick, pid := 1, unixMs := 11000, stateUpdatesTxTotal := some 0,
        retransmitsTotal := some 1000000000000006 } 10 11000 rfl]

/-- The quotient is a hundred, and the percentage is the double above it. -/
theorem onlyRetransmits_pass_hundred :
    ∃ record shown,
      (ServiceState.run {} onlyRetransmits).sessions.lookup "instrumented:10:1" = some record ∧
      record.summary.metrics.retransmitPct10s = some shown ∧
      record.summary.metrics.retransmitWindow10sBreakdown.retransmitsTotal =
        some 1000000000000006 ∧
      record.summary.metrics.retransmitWindow10sBreakdown.transmissionsTotal =
        some 1000000000000006 ∧
      shown.number = 100 + 1 / 2 ^ 46 ∧ ¬shown.number ≤ 100 := by
  have measured : ((ServiceState.run {} onlyRetransmits).sessions.lookup "instrumented:10:1").map
      (fun record => (record.summary.metrics.retransmitPct10s.map F64.number,
        record.summary.metrics.retransmitWindow10sBreakdown)) =
      some (some (100 + 1 / 2 ^ 46),
        { transmissionsTotal := some 1000000000000006, retransmitsTotal := some 1000000000000006,
          stateUpdatesTotal := some 0, emptyAcksTotal := some 0 }) := by
    decide +kernel
  obtain ⟨record, found, same⟩ := Option.map_eq_some_iff.mp measured
  obtain ⟨percentage, breakdown⟩ := Prod.mk.inj same
  obtain ⟨shown, present, number⟩ := Option.map_eq_some_iff.mp percentage
  refine ⟨record, shown, found, present, by rw [breakdown], by rw [breakdown], number, ?_⟩
  rw [number]
  norm_num

end Moshwatch
