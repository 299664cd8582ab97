import Moshwatch.State.Capacity

namespace Moshwatch

namespace ServiceState

def newcomer (event : TelemetryEvent) (startedAt receivedAt : Int) : SessionRecord :=
  newInstrumentedRecord (instrumentedSessionId event.pid startedAt) (event.verified startedAt)
    startedAt (min event.unixMs receivedAt)

/-- A close event that denies the shutdown opens a session under a saturated cap, and some
    tracked record ranks below it. -/
structure Churns (state : ServiceState) (event : TelemetryEvent) (startedAt receivedAt : Int) :
    Prop where
  closes : event.event = .sessionClose
  denies : event.shutdown = some false
  fresh : state.sessions.lookup (instrumentedSessionId event.pid startedAt) = none
  noLegacy : state.sessions.lookup (legacySessionId event.pid startedAt) = none
  saturated : state.Saturated
  outranked : ∃ key record, state.sessions.lookup key = some record ∧
    compareEvictionPriority record (newcomer event startedAt receivedAt) = .lt

theorem evictionRank_recordOf {state : ServiceState} {event : TelemetryEvent}
    {startedAt receivedAt : Int}
    (fresh : state.sessions.lookup (instrumentedSessionId event.pid startedAt) = none)
    (noLegacy : state.sessions.lookup (legacySessionId event.pid startedAt) = none)
    (active : event.finalShutdown = false) :
    evictionRank (state.recordOf event startedAt receivedAt) =
      evictionRank (newcomer event startedAt receivedAt) := by
  have opened : state.entryOf event startedAt receivedAt = newcomer event startedAt receivedAt := by
    rcases entryOf_cases state event startedAt receivedAt with
      tracked | ⟨-, ⟨record, placed, -⟩ | ⟨-, opened⟩⟩
    · rw [fresh] at tracked
      cases tracked
    · rw [noLegacy] at placed
      cases placed
    · exact opened
  obtain ⟨sessionId, -, kind, started, observed, -⟩ := applyEvent_identity state.config
    (instrumentedSessionId event.pid startedAt) (event.verified startedAt) startedAt receivedAt
    (state.entryOf event startedAt receivedAt)
  have ended : (state.recordOf event startedAt receivedAt).shutdown = false := active
  have class_eq : evictionClass (state.recordOf event startedAt receivedAt) = 2 := by
    rw [evictionClass, ended, recordOf, kind]
  have timed : normalizeEventUnixMs (newcomer event startedAt receivedAt).summary event.unixMs
      receivedAt = min event.unixMs receivedAt := by
    rw [normalizeEventUnixMs_eq]
    exact max_self _
  rw [evictionRank, class_eq, recordOf, sessionId, started, observed, opened]
  change toLex (2, toLex (normalizeEventUnixMs (newcomer event startedAt receivedAt).summary
    event.unixMs receivedAt, toLex (startedAt, instrumentedSessionId event.pid startedAt))) = _
  rw [timed]
  rfl

theorem evictionClass_recordOf (state : ServiceState) (event : TelemetryEvent)
    (startedAt receivedAt : Int) :
    evictionClass (state.recordOf event startedAt receivedAt) =
      if event.finalShutdown then 1 else 2 := by
  obtain ⟨-, -, kind, -⟩ := applyEvent_identity state.config
    (instrumentedSessionId event.pid startedAt) (event.verified startedAt) startedAt receivedAt
    (state.entryOf event startedAt receivedAt)
  have ended : (state.recordOf event startedAt receivedAt).shutdown = event.finalShutdown := rfl
  rw [evictionClass, ended, recordOf, kind]
  cases event.finalShutdown <;> rfl

/-- The two rules for `shutdown` differ on one kind of event only. -/
theorem closes_and_denies {event : TelemetryEvent} (admitted : event.sessionShutdown = true)
    (active : event.finalShutdown = false) :
    event.event = .sessionClose ∧ event.shutdown = some false := by
  unfold TelemetryEvent.finalShutdown at active
  cases shutdown : event.shutdown with
  | none =>
    simp only [shutdown] at active
    rw [admitted] at active
    cases active
  | some ended =>
    simp only [shutdown] at active
    subst active
    simp only [TelemetryEvent.sessionShutdown, shutdown, Option.getD_some, Bool.false_or,
      decide_eq_true_eq] at admitted
    exact ⟨admitted, rfl⟩

theorem kind_of_evictionClass_eq_two {record : SessionRecord} (active : evictionClass record = 2) :
    record.summary.kind = .instrumented := by
  cases kind : record.summary.kind with
  | instrumented => rfl
  | legacy => simp [evictionClass, kind] at active

section Telemetry

variable {state : ServiceState} {event : TelemetryEvent} {startedAt receivedAt : Int}

theorem lookup_uncapped_of_active (identities : state.Identities) {key : String}
    {record : SessionRecord} (found : state.sessions.lookup key = some record)
    (other : key ≠ instrumentedSessionId event.pid startedAt) (active : evictionClass record = 2) :
    (state.uncapped event startedAt receivedAt).sessions.lookup key = some record := by
  have notLegacy : key ≠ legacySessionId event.pid startedAt := by
    rcases (identities.identified key record found).2 with ⟨-, named⟩ | ⟨kind, -⟩
    · rw [named]
      exact instrumentedSessionId_ne_legacySessionId _ _ _ _
    · rw [kind_of_evictionClass_eq_two active] at kind
      cases kind
  rw [← found]
  exact lookup_admitted_other other notLegacy

theorem lookup_uncapped_of_fresh
    (fresh : state.sessions.lookup (instrumentedSessionId event.pid startedAt) = none)
    (noLegacy : state.sessions.lookup (legacySessionId event.pid startedAt) = none)
    {key : String} {record : SessionRecord} (found : state.sessions.lookup key = some record) :
    key ≠ instrumentedSessionId event.pid startedAt ∧
      (state.uncapped event startedAt receivedAt).sessions.lookup key = some record := by
  have other : key ≠ instrumentedSessionId event.pid startedAt := by
    rintro rfl
    rw [fresh] at found
    cases found
  have notLegacy : key ≠ legacySessionId event.pid startedAt := by
    rintro rfl
    rw [noLegacy] at found
    cases found
  rw [← found]
  exact ⟨other, lookup_admitted_other other notLegacy⟩

theorem size_uncapped_of_opens (within : state.WithinCap)
    (fresh : state.sessions.lookup (instrumentedSessionId event.pid startedAt) = none)
    (noLegacy : state.sessions.lookup (legacySessionId event.pid startedAt) = none)
    (reached : state.config.maxTrackedSessions ≤ state.sessions.size) :
    (state.uncapped event startedAt receivedAt).sessions.size =
      (state.uncapped event startedAt receivedAt).config.maxTrackedSessions + 1 := by
  have size := size_uncapped state event startedAt receivedAt
  rw [if_pos ⟨fresh, noLegacy⟩] at size
  have bounded := within.size
  change _ = state.config.maxTrackedSessions + 1
  omega

theorem opens_of_evicted (within : state.WithinCap) {key : String} {record : SessionRecord}
    (present : (state.uncapped event startedAt receivedAt).sessions.lookup key = some record)
    (gone : (state.uncapped event startedAt receivedAt).enforceSessionCap.sessions.lookup key =
      none) :
    state.sessions.lookup (instrumentedSessionId event.pid startedAt) = none ∧
      state.sessions.lookup (legacySessionId event.pid startedAt) = none ∧
      state.config.maxTrackedSessions ≤ state.sessions.size := by
  have excess : state.config.maxTrackedSessions <
      (state.uncapped event startedAt receivedAt).sessions.size := by
    by_contra room
    rw [enforceSessionCap_of_le (not_lt.mp room), present] at gone
    cases gone
  have bounded := within.size
  have size := size_uncapped state event startedAt receivedAt
  by_cases opens : state.sessions.lookup (instrumentedSessionId event.pid startedAt) = none ∧
      state.sessions.lookup (legacySessionId event.pid startedAt) = none
  · rw [if_pos opens] at size
    exact ⟨opens.1, opens.2, by omega⟩
  · rw [if_neg opens] at size
    omega

theorem finalShutdown_of_lowest {record : SessionRecord} (active : evictionClass record = 2)
    (lowest : evictionRank record ≤ evictionRank (state.recordOf event startedAt receivedAt)) :
    event.finalShutdown = false := by
  have least := evictionClass_le_of_rank_le lowest
  rw [evictionClass_recordOf, active] at least
  cases final : event.finalShutdown with
  | false => rfl
  | true => simp [final] at least

theorem churns_of_evicted (identities : state.Identities) (within : state.WithinCap)
    (fits : event.fits = true) {key : String} {record : SessionRecord}
    (found : state.sessions.lookup key = some record)
    (other : key ≠ instrumentedSessionId event.pid startedAt) (active : evictionClass record = 2)
    (gone : (state.step (.telemetry event startedAt receivedAt fits)).sessions.lookup key = none) :
    state.Churns event startedAt receivedAt := by
  rw [step_eq] at gone
  rcases prepare_telemetry_cases state event startedAt receivedAt fits with
    ⟨-, prepared⟩ | ⟨accepted, prepared⟩
  · rw [prepared] at gone
    change state.sessions.lookup key = none at gone
    rw [found] at gone
    cases gone
  rw [prepared] at gone
  change (state.uncapped event startedAt receivedAt).enforceSessionCap.sessions.lookup key = none at gone
  have present : (state.uncapped event startedAt receivedAt).sessions.lookup key = some record :=
    lookup_uncapped_of_active identities found other active
  have own := lookup_uncapped_self state event startedAt receivedAt
  obtain ⟨fresh, noLegacy, reached⟩ := opens_of_evicted within present gone
  have full := @size_uncapped_of_opens _ _ _ receivedAt within fresh noLegacy reached
  have aboveNew := lowest_of_evicted full present gone own
  have ended := finalShutdown_of_lowest active aboveNew
  have saturated : state.Saturated := by
    refine ⟨reached, List.length_pos_of_mem (KeyedStore.mem_entries_iff.mpr found), ?_⟩
    intro otherKey otherRecord tracked
    have least := evictionClass_le_of_rank_le (lowest_of_evicted full present gone
      (lookup_uncapped_of_fresh fresh noLegacy tracked).2)
    have := evictionClass_le_two otherRecord
    omega
  have shut : event.sessionShutdown = true := by
    by_contra unended
    exact accepted ⟨fresh, noLegacy, Bool.eq_false_iff.mpr unended, saturated⟩
  obtain ⟨closes, denies⟩ := closes_and_denies shut ended
  refine ⟨closes, denies, fresh, noLegacy, saturated, key, record, found, ?_⟩
  rw [compareEvictionPriority_eq, compare_lt_iff_lt,
    ← evictionRank_recordOf fresh noLegacy ended]
  refine lt_of_le_of_ne aboveNew ?_
  intro tie
  have same := (keyed_uncapped identities.keyed event startedAt receivedAt).rank_injective
    ⟨key, record⟩ (KeyedStore.mem_entries_iff.mpr present)
    ⟨_, _⟩ (KeyedStore.mem_entries_iff.mpr own) tie
  exact other (congrArg Sigma.fst same)

theorem evicted_of_churns (within : state.WithinCap) (fits : event.fits = true)
    (churns : state.Churns event startedAt receivedAt) :
    ∃ key record, state.sessions.lookup key = some record ∧
      key ≠ instrumentedSessionId event.pid startedAt ∧ evictionClass record = 2 ∧
      (state.step (.telemetry event startedAt receivedAt fits)).sessions.lookup key = none := by
  have shut : event.sessionShutdown = true := by
    simp [TelemetryEvent.sessionShutdown, churns.closes]
  have ended : event.finalShutdown = false := by
    simp [TelemetryEvent.finalShutdown, churns.denies]
  rcases prepare_telemetry_cases state event startedAt receivedAt fits with
    ⟨refused, -⟩ | ⟨-, prepared⟩
  · have active : event.sessionShutdown = false := refused.active
    rw [shut] at active
    cases active
  have full := @size_uncapped_of_opens _ _ _ receivedAt within churns.fresh churns.noLegacy
    churns.saturated.1
  obtain ⟨worst, worstFound, erased⟩ := enforceSessionCap_of_succ full
  obtain ⟨member, lowest⟩ := worstRecord_spec worstFound
  have stored : (state.uncapped event startedAt receivedAt).sessions.lookup worst.1 = some worst.2 :=
    KeyedStore.mem_entries_iff.mp member
  obtain ⟨lowKey, low, lowFound, below⟩ := churns.outranked
  rw [compareEvictionPriority_eq, compare_lt_iff_lt,
    ← evictionRank_recordOf churns.fresh churns.noLegacy ended] at below
  have lowPresent : (state.uncapped event startedAt receivedAt).sessions.lookup lowKey = some low :=
    (lookup_uncapped_of_fresh churns.fresh churns.noLegacy lowFound).2
  have worstBelow := lt_of_le_of_lt
    (lowest ⟨lowKey, low⟩ (KeyedStore.mem_entries_iff.mpr lowPresent)) below
  have other : worst.1 ≠ instrumentedSessionId event.pid startedAt := by
    intro same
    rw [same, lookup_uncapped_self, Option.some.injEq] at stored
    rw [stored] at worstBelow
    exact lt_irrefl _ worstBelow
  have tracked : state.sessions.lookup worst.1 = some worst.2 :=
    lookup_of_lookup_admitted other stored
  refine ⟨worst.1, worst.2, tracked, other, churns.saturated.2.2 _ _ tracked, ?_⟩
  rw [step_eq, prepared]
  change (state.uncapped event startedAt receivedAt).enforceSessionCap.sessions.lookup worst.1 = none
  rw [erased, AList.lookup_erase]

end Telemetry

theorem discovery_keeps_active {state : ServiceState} (identities : state.Identities)
    (within : state.WithinCap) (discovered : List DiscoveredSession) (nowMs : Int) {key : String}
    {record : SessionRecord}
    (found : (state.mergeDiscovery discovered nowMs).sessions.lookup key = some record)
    (active : evictionClass record = 2) :
    (state.refreshDiscovery discovered nowMs).sessions.lookup key = some record := by
  have keyed := keyed_mergeDiscovery identities.keyed discovered nowMs
  have enforced := enforceSessionCap_enforces keyed within.counted
  cases kept : (state.mergeDiscovery discovered nowMs).enforceSessionCap.sessions.lookup key with
  | some survivor =>
    have same := enforced.unmodified key survivor kept
    rw [found, Option.some.injEq] at same
    rw [same]
    exact kept
  | none =>
    have excess : state.config.maxTrackedSessions <
        (state.mergeDiscovery discovered nowMs).sessions.size := by
      by_contra room
      rw [enforceSessionCap_of_le (not_lt.mp room), found] at kept
      cases kept
    -- every survivor ranks above the evicted record and so was tracked before
    let survivors := (state.mergeDiscovery discovered nowMs).enforceSessionCap.sessions.keys
    have tracked : ∀ other ∈ key :: survivors,
        ∃ old, state.sessions.lookup other = some old := by
      intro other member
      rcases List.mem_cons.mp member with rfl | member
      · obtain ⟨old, before, -⟩ :=
          tracked_of_instrumented found (kind_of_evictionClass_eq_two active)
        exact ⟨old, before⟩
      · obtain ⟨high, remains⟩ := Option.isSome_iff_exists.mp (AList.lookup_isSome.mpr member)
        have above := evicted_lt_survivor keyed within.counted found kept remains
        have least := evictionClass_le_of_rank_le above.le
        have most := evictionClass_le_two high
        obtain ⟨old, before, -⟩ := tracked_of_instrumented (enforced.unmodified other high remains)
          (kind_of_evictionClass_eq_two (by omega))
        exact ⟨old, before⟩
    have nodup : (key :: survivors).Nodup :=
      List.nodup_cons.mpr ⟨AList.lookup_eq_none.mp kept, AList.keys_nodup _⟩
    have count := KeyedStore.length_le_size nodup tracked
    have bounded := within.size
    have size := enforced.size
    have length : survivors.length =
        (state.mergeDiscovery discovered nowMs).enforceSessionCap.sessions.size :=
      List.length_map _
    rw [List.length_cons, length, size, mergeDiscovery_config] at count
    omega

def KeepsOtherActive (state : ServiceState) (event : TelemetryEvent) (startedAt receivedAt : Int)
    (fits : event.fits = true) : Prop :=
  ∀ key record, state.sessions.lookup key = some record →
    key ≠ instrumentedSessionId event.pid startedAt → evictionClass record = 2 →
    (state.step (.telemetry event startedAt receivedAt fits)).sessions.contains key = true

/-- In every reachable state the cap of a telemetry event is paid for by legacy
    placeholders, ended sessions or the newcomer, unless the event churns; the cap of a
    discovery always is. -/
theorem no_churn_iff (config : AppConfig) (operations : List Operation) :
    (∀ (event : TelemetryEvent) (startedAt receivedAt : Int) (fits : event.fits = true),
      (run config operations).KeepsOtherActive event startedAt receivedAt fits ↔
        ¬(run config operations).Churns event startedAt receivedAt) ∧
    ∀ (discovered : List DiscoveredSession) (nowMs : Int) key record,
      ((run config operations).mergeDiscovery discovered nowMs).sessions.lookup key =
        some record →
      evictionClass record = 2 →
      ((run config operations).refreshDiscovery discovered nowMs).sessions.lookup key =
        some record := by
  have identities := identities_run config operations
  have within := withinCap_run config operations
  refine ⟨?_, ?_⟩
  · intro event startedAt receivedAt fits
    constructor
    · intro kept churns
      obtain ⟨key, record, found, other, active, gone⟩ := evicted_of_churns within fits churns
      have present := kept key record found other active
      rw [KeyedStore.contains, gone] at present
      cases present
    · intro steady key record found other active
      by_contra lost
      have gone := KeyedStore.contains_eq_false.mp (Bool.eq_false_iff.mpr lost)
      exact steady (churns_of_evicted identities within fits found other active gone)
  · intro discovered nowMs key record found active
    exact discovery_keeps_active identities within discovered nowMs found active

/-- With room for one session, a close event of a second one that denies the shutdown
    evicts the active first one. -/
theorem closeDenyingShutdown_evicts_active :
    ¬(run { maxTrackedSessions := 1 }
        [.telemetry { event := .sessionTick, pid := 1, unixMs := 1000 } 10 1000 rfl]).KeepsOtherActive
      { event := .sessionClose, pid := 2, unixMs := 1001, shutdown := some false } 20 1001 rfl := by
  intro kept
  cases found : (run { maxTrackedSessions := 1 }
      [.telemetry { event := .sessionTick, pid := 1, unixMs := 1000 } 10 1000
        rfl]).sessions.lookup "instrumented:10:1" with
  | none => exact absurd found (by decide +kernel)
  | some record =>
    have active : evictionClass record = 2 := by
      have classes : ((run { maxTrackedSessions := 1 }
          [.telemetry { event := .sessionTick, pid := 1, unixMs := 1000 } 10 1000
            rfl]).sessions.lookup "instrumented:10:1").map evictionClass = some 2 := by
        decide +kernel
      rw [found] at classes
      exact Option.some.inj classes
    have present := kept _ record found (by decide) active
    exact absurd present (by decide +kernel)

end ServiceState

end Moshwatch
