import Moshwatch.Daemon.Telemetry
import Moshwatch.History.Presentable

namespace Moshwatch

def InI64 (value : Int) : Prop := i64Min ≤ value ∧ value ≤ i64Max

instance (value : Int) : Decidable (InI64 value) := inferInstanceAs (Decidable (_ ∧ _))

/-- A debug build panics where an `i64` result overflows. -/
def checkedI64 (value : Int) : Option Int := if InI64 value then some value else none

def wrappedI64 (value : Int) : Option Int := some (wrapI64 value)

section Source

variable (i64 : Int → Option Int)

/-- `telemetry_event_is_plausible`, with the arithmetic of a build; `none` is a panic. -/
def telemetryEventIsPlausibleBy (nowMs : Int) (event : TelemetryEvent) : Option Bool :=
  (i64 (nowMs - 60000)).bind fun earliest =>
    if event.unixMs < earliest then some false
    else
      (i64 (nowMs + 60000)).map fun latest =>
        event.unixMs ≤ latest && telemetryMetricIsPlausible event.srttMs &&
          telemetryMetricIsPlausible event.rttvarMs && telemetryMetricIsPlausible event.lastRttMs

/-- `telemetry_event_matches_peer`, with the arithmetic of a build. -/
def telemetryEventMatchesPeerBy (nowMs : Int) (event : TelemetryEvent)
    (peer : VerifiedTelemetryPeer) : Option Bool :=
  (telemetryEventIsPlausibleBy i64 nowMs event).bind fun credible =>
    if !credible then some false
    else if event.pid ≠ peer.pid then some false
    else if !isSupportedMoshServerExe peer.exeName then some false
    else
      match event.startedAtUnixMs with
      | none => some true
      | some startedAtUnixMs =>
        (i64 (peer.startedAtUnixMs - startedAtUnixMs)).bind fun difference =>
          (i64 |difference|).map fun drift => decide (drift ≤ 10000)

end Source

/-- A check of a decoded event; its times are `i64`, and the start time of the peer is
    realistic. -/
structure PeerCheck where
  nowMs : Int
  event : DecodedEvent
  peer : VerifiedTelemetryPeer
  now_i64 : InI64 nowMs
  stamp_i64 : InI64 event.1.unixMs
  start_i64 : ∀ startedAt, event.1.startedAtUnixMs = some startedAt → InI64 startedAt
  realistic : 0 ≤ peer.startedAtUnixMs ∧ peer.startedAtUnixMs ≤ 2 ^ 53

namespace PeerCheck

variable (check : PeerCheck)

def debugResult : Option Bool :=
  telemetryEventMatchesPeerBy checkedI64 check.nowMs check.event.1 check.peer

def releaseResult : Option Bool :=
  telemetryEventMatchesPeerBy wrappedI64 check.nowMs check.event.1 check.peer

structure Credible : Prop where
  timely : |check.event.1.unixMs - check.nowMs| ≤ 60000
  srtt : NonNegative check.event.1.srttMs
  rttvar : NonNegative check.event.1.rttvarMs
  lastRtt : NonNegative check.event.1.lastRttMs
  pid : check.event.1.pid = check.peer.pid
  supported : isSupportedMoshServerExe check.peer.exeName = true

structure Matches : Prop extends check.Credible where
  started : ∀ startedAt, check.event.1.startedAtUnixMs = some startedAt →
    |check.peer.startedAtUnixMs - startedAt| ≤ 10000

/-- The window around the clock is not in `i64`, or the start time that is stated lies 2^63 ms
    or more before the peer's. -/
def Overflows : Prop :=
  check.nowMs - 60000 < i64Min ∨
    (check.nowMs - 60000 ≤ check.event.1.unixMs ∧ i64Max < check.nowMs + 60000) ∨
    (check.Credible ∧ ∃ startedAt, check.event.1.startedAtUnixMs = some startedAt ∧
      startedAt ≤ check.peer.startedAtUnixMs - 2 ^ 63)

end PeerCheck

section Arithmetic

theorem checkedI64_of_in {value : Int} (inside : InI64 value) : checkedI64 value = some value :=
  if_pos inside

theorem checkedI64_of_not_in {value : Int} (outside : ¬InI64 value) : checkedI64 value = none :=
  if_neg outside

theorem wrapI64_of_shifted {value : Int} (turns : Int) (inside : InI64 (value + turns * 2 ^ 64)) :
    wrapI64 value = value + turns * 2 ^ 64 := by
  obtain ⟨lower, upper⟩ := inside
  unfold i64Min at lower
  unfold i64Max at upper
  have shifted := Int.add_mul_bmod_self_right value turns (2 ^ 64)
  rw [wrapI64, ← shifted]
  exact Int.bmod_eq_of_le (by omega) (by omega)

theorem wrapI64_of_in {value : Int} (inside : InI64 value) : wrapI64 value = value := by
  have same := wrapI64_of_shifted 0 (by simpa using inside)
  simpa using same

theorem telemetryMetricIsPlausible_iff {value : Option F64} :
    telemetryMetricIsPlausible value = true ↔ NonNegative value := by
  cases value with
  | none => simp [telemetryMetricIsPlausible, NonNegative]
  | some metric =>
    simp only [telemetryMetricIsPlausible, NonNegative, Option.all_some, Option.mem_some_iff,
      forall_eq', Bool.and_eq_true]
    exact and_congr_right fun finite => F64.ge_zero_iff finite

end Arithmetic

/-- A build computes what is in range exactly; outside it panics or wraps. -/
def ExactInRange (i64 : Int → Option Int) : Prop := ∀ value, InI64 value → i64 value = some value

theorem exactInRange_checked : ExactInRange checkedI64 := fun _ inside => checkedI64_of_in inside

theorem exactInRange_wrapped : ExactInRange wrappedI64 :=
  fun _ inside => congrArg some (wrapI64_of_in inside)

namespace PeerCheck

/-- Neither kind of build accepts what does not match, and none panics. -/
structure IsExact (check : PeerCheck) : Prop where
  evaluates : check.debugResult ≠ none
  debug : check.debugResult = some true → check.Matches
  release : check.releaseResult = some true → check.Matches

/-- The difference of the start times is 2^63 ms, which `abs` wraps to a negative number. -/
structure WrapsToAccept (check : PeerCheck) : Prop extends check.Credible where
  earliest : InI64 (check.nowMs - 60000)
  latest : InI64 (check.nowMs + 60000)
  started : check.event.1.startedAtUnixMs = some (check.peer.startedAtUnixMs - 2 ^ 63)

variable {check : PeerCheck} {i64 : Int → Option Int}

theorem credible_iff : check.Credible ↔
    telemetryEventIsPlausible check.nowMs check.event.1 = true ∧
      check.event.1.pid = check.peer.pid ∧ isSupportedMoshServerExe check.peer.exeName = true := by
  simp only [telemetryEventIsPlausible, Bool.and_eq_true, decide_eq_true_eq,
    telemetryMetricIsPlausible_iff]
  constructor
  · intro credible
    have timely := abs_le.mp credible.timely
    exact ⟨⟨⟨⟨⟨by omega, by omega⟩, credible.srtt⟩, credible.rttvar⟩, credible.lastRtt⟩,
      credible.pid, credible.supported⟩
  · intro ⟨⟨⟨⟨⟨lower, upper⟩, srtt⟩, rttvar⟩, lastRtt⟩, pid, supported⟩
    exact ⟨abs_le.mpr ⟨by omega, by omega⟩, srtt, rttvar, lastRtt, pid, supported⟩

section Window

theorem isPlausibleBy_of_window (exact_ : ExactInRange i64)
    (earliest : InI64 (check.nowMs - 60000)) (latest : InI64 (check.nowMs + 60000)) :
    telemetryEventIsPlausibleBy i64 check.nowMs check.event.1 =
      some (telemetryEventIsPlausible check.nowMs check.event.1) := by
  rw [telemetryEventIsPlausibleBy, exact_ _ earliest, Option.bind_some]
  by_cases early : check.event.1.unixMs < check.nowMs - 60000
  · rw [if_pos early]
    have late := decide_eq_false (not_le.mpr early)
    simp only [telemetryEventIsPlausible, late, Bool.false_and]
  · rw [if_neg early, exact_ _ latest, Option.map_some]
    have late := decide_eq_true (not_lt.mp early)
    simp only [telemetryEventIsPlausible, late, Bool.true_and]

theorem earliest_in (bound : i64Min ≤ check.nowMs - 60000) : InI64 (check.nowMs - 60000) := by
  have upper := check.now_i64.2
  exact ⟨bound, by omega⟩

theorem latest_in (bound : check.nowMs + 60000 ≤ i64Max) : InI64 (check.nowMs + 60000) := by
  have lower := check.now_i64.1
  exact ⟨by omega, bound⟩

theorem isPlausibleBy_of_early (exact_ : ExactInRange i64)
    (earliest : InI64 (check.nowMs - 60000)) (early : check.event.1.unixMs < check.nowMs - 60000) :
    telemetryEventIsPlausibleBy i64 check.nowMs check.event.1 = some false := by
  rw [telemetryEventIsPlausibleBy, exact_ _ earliest, Option.bind_some, if_pos early]

end Window

section Start

theorem matchesPeerBy_of_not_isPlausible
    (refused : telemetryEventIsPlausibleBy i64 check.nowMs check.event.1 = some false) :
    telemetryEventMatchesPeerBy i64 check.nowMs check.event.1 check.peer = some false := by
  rw [telemetryEventMatchesPeerBy, refused]
  rfl

theorem matchesPeerBy_of_isPlausible
    (evaluated : telemetryEventIsPlausibleBy i64 check.nowMs check.event.1 =
      some (telemetryEventIsPlausible check.nowMs check.event.1)) :
    (¬check.Credible ∧
      telemetryEventMatchesPeerBy i64 check.nowMs check.event.1 check.peer = some false) ∨
    (check.Credible ∧
      ((check.event.1.startedAtUnixMs = none ∧
        telemetryEventMatchesPeerBy i64 check.nowMs check.event.1 check.peer = some true) ∨
      ∃ startedAt, check.event.1.startedAtUnixMs = some startedAt ∧
        telemetryEventMatchesPeerBy i64 check.nowMs check.event.1 check.peer =
          (i64 (check.peer.startedAtUnixMs - startedAt)).bind fun difference =>
            (i64 |difference|).map fun drift => decide (drift ≤ 10000))) := by
  rw [telemetryEventMatchesPeerBy, evaluated, Option.bind_some, credible_iff]
  by_cases credible : telemetryEventIsPlausible check.nowMs check.event.1 = true
  · by_cases pid : check.event.1.pid = check.peer.pid
    · by_cases supported : isSupportedMoshServerExe check.peer.exeName = true
      · refine .inr ⟨⟨credible, pid, supported⟩, ?_⟩
        simp only [credible, pid, supported, Bool.not_true, Bool.false_eq_true, ne_eq, not_true,
          if_false]
        cases started : check.event.1.startedAtUnixMs with
        | none => exact .inl ⟨rfl, rfl⟩
        | some startedAt => exact .inr ⟨startedAt, rfl, rfl⟩
      · refine .inl ⟨fun all => supported all.2.2, ?_⟩
        simp [credible, pid, supported]
    · refine .inl ⟨fun all => pid all.2.1, ?_⟩
      simp [credible, pid]
  · refine .inl ⟨fun all => credible all.1, ?_⟩
    simp [credible]

theorem start_difference {startedAt : Int}
    (started : check.event.1.startedAtUnixMs = some startedAt) :
    i64Min < check.peer.startedAtUnixMs - startedAt ∧
      check.peer.startedAtUnixMs - startedAt ≤ 2 ^ 63 + 2 ^ 53 := by
  have realistic := check.realistic
  obtain ⟨lower, upper⟩ := check.start_i64 startedAt started
  unfold i64Min at *
  unfold i64Max at upper
  omega

theorem drift_of_in (exact_ : ExactInRange i64) {startedAt : Int}
    (started : check.event.1.startedAtUnixMs = some startedAt)
    (inside : check.peer.startedAtUnixMs - startedAt ≤ i64Max) :
    ((i64 (check.peer.startedAtUnixMs - startedAt)).bind fun difference =>
      (i64 |difference|).map fun drift => decide (drift ≤ 10000)) =
        some (decide (|check.peer.startedAtUnixMs - startedAt| ≤ 10000)) := by
  have lower := (start_difference started).1
  have distance : InI64 |check.peer.startedAtUnixMs - startedAt| := by
    have nonneg := abs_nonneg (check.peer.startedAtUnixMs - startedAt)
    unfold i64Min at lower
    unfold i64Max at inside
    exact ⟨by unfold i64Min; omega, abs_le.mpr ⟨by unfold i64Max; omega, inside⟩⟩
  rw [exact_ _ ⟨lower.le, inside⟩, Option.bind_some, exact_ _ distance, Option.map_some]

/-- The wrapped drift is small beyond the range only where the difference is exactly 2^63. -/
theorem wrapped_drift_of_above {startedAt : Int}
    (started : check.event.1.startedAtUnixMs = some startedAt)
    (beyond : i64Max < check.peer.startedAtUnixMs - startedAt) :
    wrapI64 |wrapI64 (check.peer.startedAtUnixMs - startedAt)| ≤ 10000 ↔
      startedAt = check.peer.startedAtUnixMs - 2 ^ 63 := by
  have upper := (start_difference started).2
  unfold i64Max at beyond
  have turned : wrapI64 (check.peer.startedAtUnixMs - startedAt) =
      check.peer.startedAtUnixMs - startedAt + -1 * 2 ^ 64 :=
    wrapI64_of_shifted (-1) ⟨by unfold i64Min; omega, by unfold i64Max; omega⟩
  rw [turned, abs_of_nonpos (by omega)]
  by_cases least : startedAt = check.peer.startedAtUnixMs - 2 ^ 63
  · subst least
    have wrapped : wrapI64 (2 ^ 63) = -2 ^ 63 := by decide
    refine iff_of_true ?_ rfl
    rw [show -(check.peer.startedAtUnixMs - (check.peer.startedAtUnixMs - 2 ^ 63) + -1 * 2 ^ 64) =
      (2 : Int) ^ 63 by ring, wrapped]
    decide
  · rw [wrapI64_of_in ⟨by unfold i64Min; omega, by unfold i64Max; omega⟩]
    exact iff_of_false (by omega) least

end Start

section Results

theorem matches_iff : check.Matches ↔ check.Credible ∧
    ∀ startedAt, check.event.1.startedAtUnixMs = some startedAt →
      |check.peer.startedAtUnixMs - startedAt| ≤ 10000 :=
  ⟨fun whole => ⟨whole.toCredible, whole.started⟩, fun ⟨credible, started⟩ => ⟨credible, started⟩⟩

theorem not_matches_of_early (early : check.event.1.unixMs < check.nowMs - 60000) :
    ¬check.Matches := by
  intro whole
  have timely := abs_le.mp whole.timely
  omega

theorem matchesPeerBy_of_fits (exact_ : ExactInRange i64) (fits : ¬check.Overflows) :
    ∃ accepted, telemetryEventMatchesPeerBy i64 check.nowMs check.event.1 check.peer =
      some accepted ∧ (accepted = true ↔ check.Matches) := by
  simp only [Overflows, not_or, not_and, not_exists, not_lt, not_le] at fits
  obtain ⟨lower, upper, nearby⟩ := fits
  by_cases early : check.event.1.unixMs < check.nowMs - 60000
  · refine ⟨false, matchesPeerBy_of_not_isPlausible
      (isPlausibleBy_of_early exact_ (earliest_in lower) early), ?_⟩
    exact iff_of_false Bool.false_ne_true (not_matches_of_early early)
  have evaluated := isPlausibleBy_of_window exact_ (earliest_in lower)
    (latest_in (upper (not_lt.mp early)))
  rcases matchesPeerBy_of_isPlausible evaluated with
    ⟨refused, result⟩ | ⟨credible, ⟨unstated, result⟩ | ⟨startedAt, started, result⟩⟩
  · exact ⟨false, result, iff_of_false Bool.false_ne_true fun whole => refused whole.toCredible⟩
  · refine ⟨true, result, iff_of_true rfl (matches_iff.mpr ⟨credible, ?_⟩)⟩
    intro startedAt started
    rw [unstated] at started
    cases started
  · have late := nearby credible startedAt started
    have inside : check.peer.startedAtUnixMs - startedAt ≤ i64Max := by
      unfold i64Max
      omega
    refine ⟨_, result.trans (drift_of_in exact_ started inside), ?_⟩
    simp [matches_iff, credible, started]

theorem debugResult_of_overflows (overflows : check.Overflows) : check.debugResult = none := by
  unfold debugResult
  by_cases lower : check.nowMs - 60000 < i64Min
  · have outside : ¬InI64 (check.nowMs - 60000) := fun inside => absurd inside.1 (not_le.mpr lower)
    rw [telemetryEventMatchesPeerBy, telemetryEventIsPlausibleBy, checkedI64_of_not_in outside]
    rfl
  have earliest := earliest_in (not_lt.mp lower)
  by_cases upper : i64Max < check.nowMs + 60000
  · have outside : ¬InI64 (check.nowMs + 60000) := fun inside => absurd inside.2 (not_le.mpr upper)
    have reached : ¬check.event.1.unixMs < check.nowMs - 60000 := by
      rcases overflows with below | ⟨reached, -⟩ | ⟨credible, -⟩
      · exact absurd below lower
      · exact not_lt.mpr reached
      · have timely := abs_le.mp credible.timely
        omega
    rw [telemetryEventMatchesPeerBy, telemetryEventIsPlausibleBy, checkedI64_of_in earliest,
      Option.bind_some, if_neg reached, checkedI64_of_not_in outside]
    rfl
  obtain ⟨credible, startedAt, started, far⟩ :=
    (overflows.resolve_left lower).resolve_left fun clock => upper clock.2
  rcases matchesPeerBy_of_isPlausible (isPlausibleBy_of_window exactInRange_checked earliest
    (latest_in (not_lt.mp upper))) with
    ⟨refused, -⟩ | ⟨-, ⟨unstated, -⟩ | ⟨other, same, result⟩⟩
  · exact absurd credible refused
  · rw [unstated] at started
    cases started
  · rw [started, Option.some.injEq] at same
    subst same
    have outside : ¬InI64 (check.peer.startedAtUnixMs - startedAt) := by
      intro inside
      have upper := inside.2
      unfold i64Max at upper
      omega
    rw [result, checkedI64_of_not_in outside]
    rfl

/-- A window that wraps around is empty. -/
theorem isPlausibleBy_wrapped_of_clock
    (clock : ¬(InI64 (check.nowMs - 60000) ∧ InI64 (check.nowMs + 60000))) :
    telemetryEventIsPlausibleBy wrappedI64 check.nowMs check.event.1 = some false := by
  obtain ⟨nowLower, nowUpper⟩ := check.now_i64
  obtain ⟨stampLower, stampUpper⟩ := check.stamp_i64
  by_cases lower : i64Min ≤ check.nowMs - 60000
  · have earliest := earliest_in lower
    by_cases early : check.event.1.unixMs < check.nowMs - 60000
    · exact isPlausibleBy_of_early exactInRange_wrapped earliest early
    have upper : i64Max < check.nowMs + 60000 := by
      by_contra fits
      exact clock ⟨earliest, latest_in (not_lt.mp fits)⟩
    unfold i64Min i64Max at *
    have turned : wrapI64 (check.nowMs + 60000) = check.nowMs + 60000 + -1 * 2 ^ 64 :=
      wrapI64_of_shifted (-1) ⟨by unfold i64Min; omega, by unfold i64Max; omega⟩
    have late := decide_eq_false (p := check.event.1.unixMs ≤ check.nowMs + 60000 + -1 * 2 ^ 64)
      (by omega)
    rw [telemetryEventIsPlausibleBy, exactInRange_wrapped _ earliest, Option.bind_some,
      if_neg early, wrappedI64, turned, Option.map_some, late]
    rfl
  · have latest := @latest_in check (by unfold i64Min i64Max at *; omega)
    unfold i64Min i64Max at *
    have turned : wrapI64 (check.nowMs - 60000) = check.nowMs - 60000 + 1 * 2 ^ 64 :=
      wrapI64_of_shifted 1 ⟨by unfold i64Min; omega, by unfold i64Max; omega⟩
    rw [telemetryEventIsPlausibleBy, wrappedI64, turned, Option.bind_some]
    by_cases early : check.event.1.unixMs < check.nowMs - 60000 + 1 * 2 ^ 64
    · rw [if_pos early]
    · have late := decide_eq_false (p := check.event.1.unixMs ≤ check.nowMs + 60000) (by omega)
      rw [if_neg early, exactInRange_wrapped _ latest, Option.map_some, late]
      rfl

theorem releaseResult_eq_true : check.releaseResult = some true ↔
    (InI64 (check.nowMs - 60000) ∧ InI64 (check.nowMs + 60000)) ∧ check.Credible ∧
      ∀ startedAt, check.event.1.startedAtUnixMs = some startedAt →
        |check.peer.startedAtUnixMs - startedAt| ≤ 10000 ∨
          startedAt = check.peer.startedAtUnixMs - 2 ^ 63 := by
  unfold releaseResult
  by_cases clock : InI64 (check.nowMs - 60000) ∧ InI64 (check.nowMs + 60000)
  · rw [and_iff_right clock]
    have evaluated := isPlausibleBy_of_window exactInRange_wrapped clock.1 clock.2
    rcases matchesPeerBy_of_isPlausible evaluated with
      ⟨refused, result⟩ | ⟨credible, ⟨unstated, result⟩ | ⟨startedAt, started, result⟩⟩
    · rw [result]
      exact iff_of_false (by simp) fun whole => refused whole.1
    · rw [result]
      exact iff_of_true rfl ⟨credible, by simp [unstated]⟩
    · rw [result, and_iff_right credible]
      simp only [started, Option.some.injEq, forall_eq']
      by_cases inside : check.peer.startedAtUnixMs - startedAt ≤ i64Max
      · rw [drift_of_in exactInRange_wrapped started inside, Option.some.injEq, decide_eq_true_eq,
          or_iff_left]
        rintro rfl
        unfold i64Max at inside
        omega
      · have beyond := not_le.mp inside
        rw [or_iff_right, ← wrapped_drift_of_above started beyond]
        · simp [wrappedI64]
        · intro near
          have above := (abs_le.mp near).2
          unfold i64Max at beyond
          omega
  · rw [matchesPeerBy_of_not_isPlausible (isPlausibleBy_wrapped_of_clock clock)]
    exact iff_of_false (by simp) fun whole => clock whole.1

end Results

/-- The check is exact unless an overflow is reached, and a release build accepts what does not
    match only where the difference of the start times is the one that `abs` cannot represent. -/
theorem isExact_iff (check : PeerCheck) :
    (check.IsExact ↔ ¬check.Overflows) ∧
      ((check.releaseResult = some true → check.Matches) ↔ ¬check.WrapsToAccept) := by
  constructor
  · constructor
    · intro whole overflows
      exact whole.evaluates (debugResult_of_overflows overflows)
    · intro fits
      obtain ⟨debug, debugResult, debugIff⟩ := matchesPeerBy_of_fits exactInRange_checked fits
      obtain ⟨release, releaseResult, releaseIff⟩ := matchesPeerBy_of_fits exactInRange_wrapped fits
      refine ⟨?_, ?_, ?_⟩
      · rw [PeerCheck.debugResult, debugResult]
        exact Option.some_ne_none _
      · rw [PeerCheck.debugResult, debugResult, Option.some.injEq]
        exact debugIff.mp
      · rw [PeerCheck.releaseResult, releaseResult, Option.some.injEq]
        exact releaseIff.mp
  · rw [releaseResult_eq_true]
    constructor
    · intro sound wraps
      have whole := sound ⟨⟨wraps.earliest, wraps.latest⟩, wraps.toCredible, by simp [wraps.started]⟩
      have near := whole.started _ wraps.started
      rw [sub_sub_cancel] at near
      exact absurd near (by decide)
    · intro steady ⟨clock, credible, near⟩
      refine ⟨credible, ?_⟩
      intro startedAt started
      apply (near startedAt started).resolve_right
      rintro rfl
      exact steady ⟨credible, clock.1, clock.2, started⟩

def earliestStartEvent : TelemetryEvent where
  event := .sessionTick
  pid := 7
  unixMs := 1700000000000
  startedAtUnixMs := some (1690000000000 - 2 ^ 63)

/-- A timely event that states a start time 2^63 ms before the peer's. -/
def earliestStart : PeerCheck where
  nowMs := 1700000000000
  event := ⟨earliestStartEvent, rfl⟩
  peer :=
    { pid := 7
      startedAtUnixMs := 1690000000000
      cmdline := "mosh-server new"
      exeName := "mosh-server-real" }
  now_i64 := by decide
  stamp_i64 := by decide
  start_i64 := by
    intro startedAt started
    cases started
    decide
  realistic := by decide

/-- A debug build panics on the event, and a release build accepts it although the start times
    are 2^63 ms apart. -/
theorem earliestStart_accepted :
    ¬earliestStart.IsExact ∧ earliestStart.debugResult = none ∧
      earliestStart.releaseResult = some true ∧ ¬earliestStart.Matches := by
  have panics : earliestStart.debugResult = none := by decide +kernel
  refine ⟨fun whole => whole.evaluates panics, panics, by decide +kernel, ?_⟩
  intro whole
  have near := whole.started (1690000000000 - 2 ^ 63) rfl
  exact absurd near (by decide)

end PeerCheck

end Moshwatch
