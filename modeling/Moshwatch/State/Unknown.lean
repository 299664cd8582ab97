import Moshwatch.State.Windows

namespace Moshwatch

structure WindowEnds (counters : List CounterSample) (windowMs : Int)
    (newest baseline : CounterSample) : Prop where
  last : counters.getLast? = some newest
  found : (counters.reverse.find? fun sample => windowMs ≤ newest.unixMs - sample.unixMs) =
    some baseline

def KnownAtEnds (counters : List CounterSample) (windowMs : Int)
    (counter : CounterSample → Option Nat) : Prop :=
  ∃ newest baseline, WindowEnds counters windowMs newest baseline ∧
    counter newest ≠ none ∧ counter baseline ≠ none

/-- The counter rose by `delta` from one known value to another. -/
def RoseBy (counter : CounterSample → Option Nat) (baseline newest : CounterSample) (delta : Nat) :
    Prop :=
  ∃ before after, counter baseline = some before ∧ counter newest = some after ∧
    before + delta = after

def IsTrueTotal (baseline newest : CounterSample) (total : Nat) : Prop :=
  ∃ updates retransmits acks,
    RoseBy CounterSample.stateUpdatesTxTotal baseline newest updates ∧
    RoseBy CounterSample.retransmitsTotal baseline newest retransmits ∧
    RoseBy CounterSample.emptyAcksTxTotal baseline newest acks ∧
    total = updates + retransmits + acks

/-- A window reports nothing that is derived from a counter unknown at one of its ends, and where
    there is a percentage its total is what the counters rose by. -/
structure UnknownIsNotZero (counters : List CounterSample) (windowMs : Int)
    (window : RetransmitWindow) : Prop where
  stateUpdates : window.breakdown.stateUpdatesTotal ≠ none →
    KnownAtEnds counters windowMs CounterSample.stateUpdatesTxTotal
  retransmits : window.breakdown.retransmitsTotal ≠ none →
    KnownAtEnds counters windowMs CounterSample.retransmitsTotal
  emptyAcks : window.breakdown.emptyAcksTotal ≠ none →
    KnownAtEnds counters windowMs CounterSample.emptyAcksTxTotal
  derived : window.breakdown.transmissionsTotal ≠ none ∨ window.pct ≠ none →
    KnownAtEnds counters windowMs CounterSample.stateUpdatesTxTotal ∧
      KnownAtEnds counters windowMs CounterSample.retransmitsTotal ∧
      KnownAtEnds counters windowMs CounterSample.emptyAcksTxTotal
  total : window.pct ≠ none → ∀ newest baseline, WindowEnds counters windowMs newest baseline →
    ∃ total, window.breakdown.transmissionsTotal = some total ∧
      IsTrueTotal baseline newest total

def EachCounter (order : Nat → Nat → Prop) (baseline newest : CounterSample) : Prop :=
  order (baseline.stateUpdatesTxTotal.getD 0) (newest.stateUpdatesTxTotal.getD 0) ∧
    order (baseline.retransmitsTotal.getD 0) (newest.retransmitsTotal.getD 0) ∧
    order (baseline.emptyAcksTxTotal.getD 0) (newest.emptyAcksTxTotal.getD 0)

def CounterSample.countedSum (sample : CounterSample) : Nat :=
  sample.stateUpdatesTxTotal.getD 0 + sample.retransmitsTotal.getD 0 +
    sample.emptyAcksTxTotal.getD 0

/-- Samples that carry the other two counters at both ends carry the empty acks too. Either no
    counter rose between them, or none fell and they rose by what fits into a `u64` together. -/
def CountsAcks (counters : List CounterSample) (windowMs : Int) : Prop :=
  ∀ newest baseline, WindowEnds counters windowMs newest baseline →
    ¬ LacksCounter baseline newest →
    newest.emptyAcksTxTotal ≠ none ∧ baseline.emptyAcksTxTotal ≠ none ∧
      (EachCounter (· ≥ ·) baseline newest ∨
        EachCounter (· ≤ ·) baseline newest ∧
          newest.countedSum ≤ baseline.countedSum + u64Max)

section Formula

variable {counters : List CounterSample} {windowMs : Int} {newest baseline : CounterSample}

theorem WindowEnds.unique {other older : CounterSample}
    (ends : WindowEnds counters windowMs newest baseline)
    (same : WindowEnds counters windowMs other older) : other = newest ∧ older = baseline := by
  have last := same.last
  rw [ends.last, Option.some.injEq] at last
  subst last
  have found := same.found
  rw [ends.found, Option.some.injEq] at found
  exact ⟨rfl, found.symm⟩

theorem knownAtEnds_iff (ends : WindowEnds counters windowMs newest baseline)
    (counter : CounterSample → Option Nat) :
    KnownAtEnds counters windowMs counter ↔ counter newest ≠ none ∧ counter baseline ≠ none := by
  constructor
  · rintro ⟨other, older, same, known⟩
    obtain ⟨rfl, rfl⟩ := ends.unique same
    exact known
  · exact fun known => ⟨newest, baseline, ends, known⟩

theorem transmissionTotal_eq_zero_iff :
    transmissionTotal baseline newest = 0 ↔ EachCounter (· ≥ ·) baseline newest := by
  have positive : 0 < u64Max := by decide
  unfold transmissionTotal EachCounter
  omega

theorem roseBy_iff {counter : CounterSample → Option Nat} {delta : Nat}
    (known : counter newest ≠ none) (knownBefore : counter baseline ≠ none) :
    RoseBy counter baseline newest delta ↔
      (counter baseline).getD 0 + delta = (counter newest).getD 0 := by
  obtain ⟨after, after_eq⟩ := Option.ne_none_iff_exists'.mp known
  obtain ⟨before, before_eq⟩ := Option.ne_none_iff_exists'.mp knownBefore
  constructor
  · rintro ⟨low, high, low_eq, high_eq, rose⟩
    simpa [low_eq, high_eq] using rose
  · intro rose
    exact ⟨before, after, before_eq, after_eq, by simpa [before_eq, after_eq] using rose⟩

/-- The saturated sum of truncated differences is a true total exactly if nothing was cut off. -/
theorem isTrueTotal_iff (counted : ¬ LacksCounter baseline newest)
    (acks : newest.emptyAcksTxTotal ≠ none) (acksBefore : baseline.emptyAcksTxTotal ≠ none) :
    IsTrueTotal baseline newest (transmissionTotal baseline newest) ↔
      EachCounter (· ≤ ·) baseline newest ∧ newest.countedSum ≤ baseline.countedSum + u64Max := by
  simp only [LacksCounter, not_or] at counted
  obtain ⟨updates, updatesBefore, retransmits, retransmitsBefore⟩ := counted
  simp only [IsTrueTotal, roseBy_iff updates updatesBefore,
    roseBy_iff retransmits retransmitsBefore, roseBy_iff acks acksBefore]
  unfold transmissionTotal EachCounter CounterSample.countedSum
  constructor
  · rintro ⟨updatesDelta, retransmitsDelta, acksDelta, total⟩
    omega
  · rintro ⟨⟨updatesUp, retransmitsUp, acksUp⟩, fits⟩
    exact ⟨_, _, _, Nat.add_sub_cancel' updatesUp, Nat.add_sub_cancel' retransmitsUp,
      Nat.add_sub_cancel' acksUp, by omega⟩

/-- A window that reports nothing keeps every unknown apart from zero. -/
theorem unknownIsNotZero_of_silent {window : RetransmitWindow} (pct : window.pct = none)
    (breakdown : window.breakdown = {}) : UnknownIsNotZero counters windowMs window := by
  refine ⟨?_, ?_, ?_, ?_, ?_⟩ <;> simp [pct, breakdown]

/-- Without two ends, or without the two counters that are checked, nothing is reported. -/
theorem retransmitPct_silent
    (silent : ∀ newest baseline, WindowEnds counters windowMs newest baseline →
      LacksCounter baseline newest) :
    (retransmitPct counters windowMs).pct = none ∧
      (retransmitPct counters windowMs).breakdown = {} := by
  cases last : counters.getLast? with
  | none => simp [retransmitPct, last]
  | some newest =>
    cases found : counters.reverse.find? fun sample =>
        windowMs ≤ newest.unixMs - sample.unixMs with
    | none =>
      rw [retransmitPct_of_not_found last found]
      exact ⟨rfl, rfl⟩
    | some baseline =>
      rw [retransmitPct_of_lacking last found (silent newest baseline ⟨last, found⟩)]
      exact ⟨rfl, rfl⟩

theorem unknownIsNotZero_of_counted (ends : WindowEnds counters windowMs newest baseline)
    (counted : ¬ LacksCounter baseline newest) :
    UnknownIsNotZero counters windowMs (retransmitPct counters windowMs) ↔
      newest.emptyAcksTxTotal ≠ none ∧ baseline.emptyAcksTxTotal ≠ none ∧
        (EachCounter (· ≥ ·) baseline newest ∨
          EachCounter (· ≤ ·) baseline newest ∧
            newest.countedSum ≤ baseline.countedSum + u64Max) := by
  rw [retransmitPct_of_counted ends.last ends.found counted]
  have known := counted
  simp only [LacksCounter, not_or] at known
  obtain ⟨updates, updatesBefore, retransmits, retransmitsBefore⟩ := known
  constructor
  · intro honest
    have acks := (knownAtEnds_iff ends _).mp (honest.emptyAcks (by simp))
    refine ⟨acks.1, acks.2, ?_⟩
    by_cases empty : transmissionTotal baseline newest = 0
    · exact .inl (transmissionTotal_eq_zero_iff.mp empty)
    · obtain ⟨total, reported, isTrue⟩ := honest.total (by simp [empty]) newest baseline ends
      rw [← Option.some.inj reported] at isTrue
      exact .inr ((isTrueTotal_iff counted acks.1 acks.2).mp isTrue)
  · rintro ⟨acks, acksBefore, rose⟩
    refine ⟨fun _ => ?_, fun _ => ?_, fun _ => ?_, fun _ => ⟨?_, ?_, ?_⟩, ?_⟩
    · exact (knownAtEnds_iff ends _).mpr ⟨updates, updatesBefore⟩
    · exact (knownAtEnds_iff ends _).mpr ⟨retransmits, retransmitsBefore⟩
    · exact (knownAtEnds_iff ends _).mpr ⟨acks, acksBefore⟩
    · exact (knownAtEnds_iff ends _).mpr ⟨updates, updatesBefore⟩
    · exact (knownAtEnds_iff ends _).mpr ⟨retransmits, retransmitsBefore⟩
    · exact (knownAtEnds_iff ends _).mpr ⟨acks, acksBefore⟩
    · intro shown other older same
      obtain ⟨rfl, rfl⟩ := ends.unique same
      refine ⟨_, rfl, (isTrueTotal_iff counted acks acksBefore).mpr ?_⟩
      rcases rose with none | up
      · simp [transmissionTotal_eq_zero_iff.mpr none] at shown
      · exact up

theorem unknownIsNotZero_iff :
    UnknownIsNotZero counters windowMs (retransmitPct counters windowMs) ↔
      CountsAcks counters windowMs := by
  by_cases silent : ∀ newest baseline, WindowEnds counters windowMs newest baseline →
      LacksCounter baseline newest
  · obtain ⟨pct, breakdown⟩ := retransmitPct_silent silent
    refine iff_of_true (unknownIsNotZero_of_silent pct breakdown) ?_
    exact fun newest baseline ends counted => absurd (silent newest baseline ends) counted
  · push Not at silent
    obtain ⟨newest, baseline, ends, counted⟩ := silent
    rw [unknownIsNotZero_of_counted ends counted]
    constructor
    · intro counts other older same _
      obtain ⟨rfl, rfl⟩ := ends.unique same
      exact counts
    · exact fun counts => counts newest baseline ends counted

end Formula

/-- The windows of a record keep what is unknown apart from zero, and total true increases, exactly
    if its samples count the empty acks at both ends and no counter falls where another rises. -/
theorem windows_keep_unknown_iff (config : AppConfig) (operations : List Operation) :
    ∀ key record, (ServiceState.run config operations).sessions.lookup key = some record →
      (UnknownIsNotZero record.counters 10000 record.summary.metrics.window10s ↔
        CountsAcks record.counters 10000) ∧
      (UnknownIsNotZero record.counters 60000 record.summary.metrics.window60s ↔
        CountsAcks record.counters 60000) := by
  intro key record found
  have traces : Traces config (Journal.clocks operations) key record
      ((Journal.run config operations).log key) :=
    Journal.traces operations key record (by rw [Journal.run_state]; exact found)
  obtain ⟨ten, sixty⟩ := traces.windows
  rw [ten, sixty]
  exact ⟨unknownIsNotZero_iff, unknownIsNotZero_iff⟩

theorem windows_keep_unknown_iff_twoTicks :
    ∃ record, (ServiceState.run {} twoTicks).sessions.lookup "instrumented:10:1" = some record ∧
      (UnknownIsNotZero record.counters 10000 record.summary.metrics.window10s ↔
        CountsAcks record.counters 10000) := by
  cases found : (ServiceState.run {} twoTicks).sessions.lookup "instrumented:10:1" with
  | none => exact absurd found (by decide +kernel)
  | some record => exact ⟨record, rfl, (windows_keep_unknown_iff {} twoTicks _ record found).1⟩

/-- Two ticks ten seconds apart, the first without the counter of empty acks. -/
def lateAcks : List Operation :=
  [.telemetry
      { event := .sessionTick, pid := 1, unixMs := 1000, stateUpdatesTxTotal := some 10,
        retransmitsTotal := some 0 } 10 1000 rfl,
    .telemetry
      { event := .sessionTick, pid := 1, unixMs := 11000, stateUpdatesTxTotal := some 20,
        retransmitsTotal := some 1, emptyAcksTxTotal := some 500 } 10 11000 rfl]

/-- The second tick reports the 500 acks of the whole session as those of ten seconds. -/
theorem lateAcks_counted_whole :
    ∃ record, (ServiceState.run {} lateAcks).sessions.lookup "instrumented:10:1" = some record ∧
      record.summary.metrics.window10s.breakdown.emptyAcksTotal = some 500 ∧
      record.summary.metrics.window10s.breakdown.transmissionsTotal = some 511 ∧
      ¬ UnknownIsNotZero record.counters 10000 record.summary.metrics.window10s := by
  cases found : (ServiceState.run {} lateAcks).sessions.lookup "instrumented:10:1" with
  | none => exact absurd found (by decide +kernel)
  | some record =>
    have counters : ((ServiceState.run {} lateAcks).sessions.lookup "instrumented:10:1").map
        (fun record => record.counters) = some
          [{ unixMs := 1000, stateUpdatesTxTotal := some 10, retransmitsTotal := some 0,
              emptyAcksTxTotal := none },
            { unixMs := 11000, stateUpdatesTxTotal := some 20, retransmitsTotal := some 1,
              emptyAcksTxTotal := some 500 }] := by decide +kernel
    have window : ((ServiceState.run {} lateAcks).sessions.lookup "instrumented:10:1").map
        (fun record => record.summary.metrics.window10s.breakdown) = some
          { transmissionsTotal := some 511, retransmitsTotal := some 1, stateUpdatesTotal := some 10,
            emptyAcksTotal := some 500 } := by decide +kernel
    rw [found, Option.map_some, Option.some.injEq] at counters window
    refine ⟨record, rfl, by rw [window], by rw [window], ?_⟩
    intro honest
    obtain ⟨newest, baseline, ends, -, known⟩ := honest.emptyAcks (by simp [window])
    rw [counters] at ends
    have found := ends.found
    have last := ends.last
    simp only [List.getLast?_cons_cons, List.getLast?_singleton, Option.some.injEq] at last
    subst last
    simp at found
    subst found
    exact known rfl

end Moshwatch
