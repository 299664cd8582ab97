import Moshwatch.State.Windows

namespace Moshwatch

open TimeSeries

/-- The known values of a counter never decrease from the oldest sample to the newest. -/
def KnownNondecreasing (counter : CounterSample → Option Nat) (samples : List CounterSample) :
    Prop :=
  (samples.filterMap counter).Pairwise (· ≤ ·)

/-- A reported delta is the increase between two known values at the ends of the window. -/
def IsTrueIncrease (config : AppConfig) (windowMs : Int) (samples : List CounterSample)
    (counter : CounterSample → Option Nat) (delta : Nat) : Prop :=
  ∃ newest baseline before after, samples.getLast? = some newest ∧
    IsBaseline config.historyMs windowMs samples newest baseline ∧
    counter baseline = some before ∧ counter newest = some after ∧ before + delta = after

/-- Every delta that a window reports is a true increase. -/
structure IsTrueWindow (config : AppConfig) (windowMs : Int) (samples : List CounterSample)
    (window : RetransmitWindow) : Prop where
  updates : ∀ delta ∈ window.breakdown.stateUpdatesTotal,
    IsTrueIncrease config windowMs samples CounterSample.stateUpdatesTxTotal delta
  retransmits : ∀ delta ∈ window.breakdown.retransmitsTotal,
    IsTrueIncrease config windowMs samples CounterSample.retransmitsTotal delta
  emptyAcks : ∀ delta ∈ window.breakdown.emptyAcksTotal,
    IsTrueIncrease config windowMs samples CounterSample.emptyAcksTxTotal delta

/-- What the retained window of a record promises about its counters. -/
structure CountersSound (config : AppConfig) (record : SessionRecord) : Prop where
  updates : KnownNondecreasing CounterSample.stateUpdatesTxTotal record.counters
  retransmits : KnownNondecreasing CounterSample.retransmitsTotal record.counters
  emptyAcks : KnownNondecreasing CounterSample.emptyAcksTxTotal record.counters
  window10s : IsTrueWindow config 10000 record.counters record.summary.metrics.window10s
  window60s : IsTrueWindow config 60000 record.counters record.summary.metrics.window60s

/-- The samples that an event's own sample joins. -/
def Applied.keptSamples (config : AppConfig) (applied : Applied) : List CounterSample :=
  if applied.regressed then []
  else
    applied.before.counters.filter fun sample =>
      sample.unixMs ≠ applied.unixMs ∧ applied.unixMs - sample.unixMs ≤ config.historyMs

/-- The event reports no counter below a known value of a sample that stays. -/
def Applied.CountsUp (config : AppConfig) (applied : Applied) : Prop :=
  ∀ sample ∈ applied.keptSamples config,
    (∀ known ∈ sample.stateUpdatesTxTotal, ∀ reported ∈ applied.event.stateUpdatesTxTotal,
      known ≤ reported) ∧
    (∀ known ∈ sample.retransmitsTotal, ∀ reported ∈ applied.event.retransmitsTotal,
      known ≤ reported) ∧
    ∀ known ∈ sample.emptyAcksTxTotal, ∀ reported ∈ applied.event.emptyAcksTxTotal,
      known ≤ reported

/-- Where the event makes a window report deltas, it knows its empty acks at both ends. -/
def Applied.EndsKnown (config : AppConfig) (applied : Applied) : Prop :=
  ∀ windowMs ∈ [(10000 : Int), 60000],
    ∀ baseline ∈ (applied.keptSamples config).reverse.find? fun sample =>
        windowMs ≤ applied.unixMs - sample.unixMs,
      LacksCounter baseline applied.sample ∨
        (baseline.emptyAcksTxTotal.isSome = true ∧ applied.event.emptyAcksTxTotal.isSome = true)

theorem KnownNondecreasing.concat {counter : CounterSample → Option Nat}
    {samples : List CounterSample} {sample : CounterSample}
    (sound : KnownNondecreasing counter samples)
    (above : ∀ earlier ∈ samples, ∀ known ∈ counter earlier, ∀ reported ∈ counter sample,
      known ≤ reported) : KnownNondecreasing counter (samples ++ [sample]) := by
  unfold KnownNondecreasing at sound ⊢
  rw [List.filterMap_append]
  refine List.pairwise_append.mpr ⟨sound, ?_, ?_⟩
  · cases reported : counter sample <;> simp [reported]
  · intro known member reported new
    obtain ⟨earlier, present, earlierKnown⟩ := List.mem_filterMap.mp member
    obtain ⟨last, single, lastKnown⟩ := List.mem_filterMap.mp new
    rw [List.mem_singleton.mp single] at lastKnown
    exact above earlier present known earlierKnown reported lastKnown

theorem KnownNondecreasing.sublist {counter : CounterSample → Option Nat}
    {samples kept : List CounterSample} (sound : KnownNondecreasing counter samples)
    (sublist : kept.Sublist samples) : KnownNondecreasing counter kept :=
  List.Pairwise.sublist (sublist.filterMap counter) sound

theorem keptSamples_sublist (config : AppConfig) (applied : Applied) :
    (applied.keptSamples config).Sublist applied.before.counters := by
  unfold Applied.keptSamples
  split
  · exact List.nil_sublist _
  · exact List.filter_sublist

theorem applyEvent_counters_eq (config : AppConfig) (sessionId : String) (event : TelemetryEvent)
    (startedAt receivedAt : Int) {record : SessionRecord}
    (settled : Settled (normalizeEventUnixMs record.summary event.unixMs receivedAt) record) :
    let applied : Applied := { before := record, event, receivedAt }
    (applyEvent config sessionId event startedAt receivedAt record).counters =
      applied.keptSamples config ++ [applied.sample] := by
  intro applied
  rw [applyEvent_counters]
  cases regressed : metricsRegressed record.summary.metrics event with
  | true =>
    have cleared : applied.keptSamples config = [] := if_pos regressed
    rw [(clearRegressed_of_regressed regressed _).2, cleared]
    exact trim_concat [] _ config.historyMs_nonneg
  | false =>
    have kept : applied.keptSamples config =
        record.counters.filter fun sample =>
          sample.unixMs ≠ applied.unixMs ∧ applied.unixMs - sample.unixMs ≤ config.historyMs :=
      if_neg (Bool.eq_false_iff.mp regressed)
    rw [clearRegressed_of_timely regressed settled.history.older, kept]
    have older : UpTo CounterSample.unixMs applied.sample.unixMs record.counters :=
      settled.counters.older
    refine (trim_upsert_eq_filter settled.counters.increasing older
      config.historyMs_nonneg).trans ?_
    congr 1
    apply List.filter_congr
    intro sample _
    change decide (sample.unixMs ≠ applied.unixMs ∧
      applied.unixMs - config.historyMs ≤ sample.unixMs) = _
    congr 2
    exact propext ⟨fun near => by omega, fun near => by omega⟩

section Window

variable {config : AppConfig} {applied : Applied}

theorem isTrueIncrease_of_known {windowMs : Int} {counter : CounterSample → Option Nat}
    {baseline : CounterSample}
    (isBaseline : IsBaseline config.historyMs windowMs
      (applied.keptSamples config ++ [applied.sample]) applied.sample baseline)
    (countsUp : ∀ known ∈ counter baseline, ∀ reported ∈ counter applied.sample, known ≤ reported)
    (baselineKnown : counter baseline ≠ none) (newestKnown : counter applied.sample ≠ none) :
    IsTrueIncrease config windowMs (applied.keptSamples config ++ [applied.sample]) counter
      ((counter applied.sample).getD 0 - (counter baseline).getD 0) := by
  obtain ⟨before, baselineEq⟩ := Option.ne_none_iff_exists'.mp baselineKnown
  obtain ⟨after, newestEq⟩ := Option.ne_none_iff_exists'.mp newestKnown
  refine ⟨applied.sample, baseline, before, after, List.getLast?_concat, isBaseline, baselineEq,
    newestEq, ?_⟩
  have increase := countsUp before baselineEq after newestEq
  rw [baselineEq, newestEq, Option.getD_some, Option.getD_some]
  omega

theorem positive_of_listed {windowMs : Int} (listed : windowMs ∈ [(10000 : Int), 60000]) :
    0 < windowMs := by
  rcases List.mem_cons.mp listed with rfl | listed
  · decide
  · rw [List.mem_singleton.mp listed]
    decide

theorem find?_concat_sample {windowMs : Int} (positive : 0 < windowMs) :
    ((applied.keptSamples config ++ [applied.sample]).reverse.find? fun sample =>
        windowMs ≤ applied.sample.unixMs - sample.unixMs) =
      (applied.keptSamples config).reverse.find? fun sample =>
        windowMs ≤ applied.unixMs - sample.unixMs := by
  have young : ¬windowMs ≤ applied.sample.unixMs - applied.sample.unixMs := by omega
  rw [List.reverse_append, List.reverse_singleton, List.singleton_append,
    List.find?_cons_of_neg (by simpa using young)]
  rfl

theorem isTrueWindow_of_countsUp (countsUp : applied.CountsUp config)
    (endsKnown : applied.EndsKnown config)
    (ends : EndsAt CounterSample.unixMs config.historyMs applied.unixMs
      (applied.keptSamples config ++ [applied.sample]))
    {windowMs : Int} (listed : windowMs ∈ [(10000 : Int), 60000]) :
    IsTrueWindow config windowMs (applied.keptSamples config ++ [applied.sample])
      (retransmitPct (applied.keptSamples config ++ [applied.sample]) windowMs) := by
  have last : (applied.keptSamples config ++ [applied.sample]).getLast? = some applied.sample :=
    List.getLast?_concat
  have search := @find?_concat_sample config applied windowMs (positive_of_listed listed)
  cases found : (applied.keptSamples config).reverse.find? fun sample =>
      windowMs ≤ applied.unixMs - sample.unixMs with
  | none =>
    rw [retransmitPct_of_not_found last (search.trans found)]
    exact ⟨by simp, by simp, by simp⟩
  | some baseline =>
    rcases endsKnown windowMs listed baseline found with lacking | ⟨baselineAcks, newestAcks⟩
    · rw [retransmitPct_of_lacking last (search.trans found) lacking]
      exact ⟨by simp, by simp, by simp⟩
    · by_cases lacking : LacksCounter baseline applied.sample
      · rw [retransmitPct_of_lacking last (search.trans found) lacking]
        exact ⟨by simp, by simp, by simp⟩
      obtain ⟨member, old, latest⟩ :=
        (find?_reverse_eq_some ends.increasing).mp (search.trans found)
      have isBaseline : IsBaseline config.historyMs windowMs
          (applied.keptSamples config ++ [applied.sample]) applied.sample baseline := by
        refine ⟨member, by simpa using old, ends.within baseline member, ?_⟩
        intro sample present far _
        exact latest sample present (by simpa using far)
      have kept : baseline ∈ applied.keptSamples config :=
        List.mem_reverse.mp (List.mem_of_find?_eq_some found)
      obtain ⟨updates, retransmits, acks⟩ := countsUp baseline kept
      rw [retransmitPct_of_counted last (search.trans found) lacking]
      simp only [LacksCounter, not_or] at lacking
      obtain ⟨updatesNewest, updatesBaseline, retransmitsNewest, retransmitsBaseline⟩ := lacking
      refine ⟨?_, ?_, ?_⟩
      · rintro delta ⟨⟩
        exact isTrueIncrease_of_known isBaseline updates updatesBaseline updatesNewest
      · rintro delta ⟨⟩
        exact isTrueIncrease_of_known isBaseline retransmits retransmitsBaseline retransmitsNewest
      · rintro delta ⟨⟩
        exact isTrueIncrease_of_known isBaseline acks (Option.isSome_iff_ne_none.mp baselineAcks)
          (Option.isSome_iff_ne_none.mp newestAcks)

end Window

namespace Traces

variable {config : AppConfig} {clocks : Set Int} {key : String} {record : SessionRecord}
  {log : List Applied}

theorem countersSound_of_blank (blank : Blank record) : CountersSound config record := by
  have empty : ∀ counter, KnownNondecreasing counter record.counters := by
    intro counter
    rw [blank.counters]
    exact List.Pairwise.nil
  have windows : ∀ windowMs,
      IsTrueWindow config windowMs record.counters record.summary.metrics.window10s ∧
        IsTrueWindow config windowMs record.counters record.summary.metrics.window60s := by
    intro windowMs
    rw [blank.metrics]
    exact ⟨⟨by simp [SessionMetrics.window10s], by simp [SessionMetrics.window10s],
      by simp [SessionMetrics.window10s]⟩, ⟨by simp [SessionMetrics.window60s],
      by simp [SessionMetrics.window60s], by simp [SessionMetrics.window60s]⟩⟩
  exact ⟨empty _, empty _, empty _, (windows 10000).1, (windows 60000).2⟩

theorem countersSound (traces : Traces config clocks key record log)
    (steady : ∀ applied ∈ log, applied.CountsUp config ∧ applied.EndsKnown config) :
    CountersSound config record := by
  induction traces with
  | discovered => exact countersSound_of_blank ⟨rfl, rfl, rfl, rfl, rfl⟩
  | opened => exact countersSound_of_blank ⟨rfl, rfl, rfl, rfl, rfl⟩
  | upgraded legacy ih => exact countersSound_of_blank (upgraded legacy).blank
  | refreshed session read named earlier ih =>
    have sound := ih steady
    constructor
    · rw [ServiceState.refreshRecord_counters]
      exact sound.updates
    · rw [ServiceState.refreshRecord_counters]
      exact sound.retransmits
    · rw [ServiceState.refreshRecord_counters]
      exact sound.emptyAcks
    · rw [ServiceState.refreshRecord_counters, ServiceState.refreshRecord_metrics]
      exact sound.window10s
    · rw [ServiceState.refreshRecord_counters, ServiceState.refreshRecord_metrics]
      exact sound.window60s
  | @applied record log event startedAt receivedAt read fits earlier ih =>
    have whole := Traces.applied event startedAt read fits earlier
    have sound := ih fun applied member => steady applied (List.mem_append_left _ member)
    obtain ⟨countsUp, endsKnown⟩ := steady { before := record, event, receivedAt } (by simp)
    have settled : Settled (normalizeEventUnixMs record.summary event.unixMs receivedAt) record :=
      ⟨earlier.settled.history.mono (lastObserved_le_normalize _ _ _),
        earlier.settled.counters.mono (lastObserved_le_normalize _ _ _)⟩
    have counters := applyEvent_counters_eq config (instrumentedSessionId event.pid startedAt) event
      startedAt receivedAt settled
    have ends := (whole.timed (by simp)).counters
    obtain ⟨-, -, -, -, observed, -⟩ := applyEvent_identity config
      (instrumentedSessionId event.pid startedAt) event startedAt receivedAt record
    obtain ⟨ten, sixty⟩ := whole.windows
    rw [observed, counters] at ends
    have sublist := keptSamples_sublist config { before := record, event, receivedAt }
    constructor
    · rw [counters]
      exact (sound.updates.sublist sublist).concat fun sample member => (countsUp sample member).1
    · rw [counters]
      exact (sound.retransmits.sublist sublist).concat fun sample member =>
        (countsUp sample member).2.1
    · rw [counters]
      exact (sound.emptyAcks.sublist sublist).concat fun sample member =>
        (countsUp sample member).2.2
    · rw [ten, counters]
      exact isTrueWindow_of_countsUp countsUp endsKnown ends (by simp)
    · rw [sixty, counters]
      exact isTrueWindow_of_countsUp countsUp endsKnown ends (by simp)

end Traces

/-- In every run, a record whose events each report no counter below a retained one, and know
    the empty acks of the windows they report, keeps its counters sound. -/
theorem counters_sound_of_steady (config : AppConfig) (operations : List Operation) (key : String)
    (record : SessionRecord)
    (found : (ServiceState.run config operations).sessions.lookup key = some record)
    (steady : ∀ applied ∈ (Journal.run config operations).log key,
      applied.CountsUp config ∧ applied.EndsKnown config) : CountersSound config record :=
  (Journal.traces operations key record (by rw [Journal.run_state]; exact found)).countersSound
    steady

instance (baseline newest : CounterSample) : Decidable (LacksCounter baseline newest) :=
  inferInstanceAs (Decidable (_ ∨ _ ∨ _ ∨ _))

instance (config : AppConfig) (applied : Applied) : Decidable (applied.CountsUp config) :=
  inferInstanceAs (Decidable (∀ _ ∈ _, _ ∧ _ ∧ _))

instance (config : AppConfig) (applied : Applied) : Decidable (applied.EndsKnown config) :=
  inferInstanceAs (Decidable (∀ _ ∈ _, ∀ _ ∈ _, _ ∨ _))

theorem counters_sound_of_twoTicks :
    ∃ record, (ServiceState.run {} twoTicks).sessions.lookup "instrumented:10:1" = some record ∧
      CountersSound {} record := by
  cases found : (ServiceState.run {} twoTicks).sessions.lookup "instrumented:10:1" with
  | none => exact absurd found (by decide +kernel)
  | some record =>
    exact ⟨record, rfl, counters_sound_of_steady {} twoTicks _ record found (by decide +kernel)⟩

def gappedTicks : List Operation :=
  [.telemetry { event := .sessionTick, pid := 1, unixMs := 1000, stateUpdatesTxTotal := some 10 }
      10 1000 rfl,
    .telemetry { event := .sessionTick, pid := 1, unixMs := 2000 } 10 2000 rfl,
    .telemetry { event := .sessionTick, pid := 1, unixMs := 3000, stateUpdatesTxTotal := some 5 }
      10 3000 rfl]

/-- The gap hides the regression from the detector, which compares with the last event only. -/
theorem gappedTicks_regress :
    ¬∀ key record, (ServiceState.run {} gappedTicks).sessions.lookup key = some record →
      KnownNondecreasing CounterSample.stateUpdatesTxTotal record.counters := by
  intro sound
  have known : ((ServiceState.run {} gappedTicks).sessions.lookup "instrumented:10:1").map
      (fun record => record.counters.filterMap CounterSample.stateUpdatesTxTotal) =
        some [10, 5] := by decide +kernel
  obtain ⟨record, found, regressed⟩ := Option.map_eq_some_iff.mp known
  have ordered := sound _ record found
  rw [KnownNondecreasing, regressed] at ordered
  exact absurd ordered (by decide)

end Moshwatch
