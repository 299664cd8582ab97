import Moshwatch.State.Cap
import Moshwatch.State.SessionId

namespace Moshwatch

namespace ServiceState

section Upgrade

variable {sessions : SessionMap} {sessionId legacyId : String}

theorem upgradeLegacy_of_present (present : sessions.contains sessionId = true) :
    upgradeLegacy sessions sessionId legacyId = sessions := by
  simp [upgradeLegacy, present]

theorem upgradeLegacy_of_absent (absent : sessions.lookup legacyId = none) :
    upgradeLegacy sessions sessionId legacyId = sessions := by
  simp [upgradeLegacy, absent]

theorem upgradeLegacy_of_found {record : SessionRecord} (different : sessionId ≠ legacyId)
    (fresh : sessions.lookup sessionId = none) (found : sessions.lookup legacyId = some record) :
    upgradeLegacy sessions sessionId legacyId =
      (sessions.erase legacyId).insert sessionId (upgradeRecord sessionId record) := by
  have free : sessions.contains sessionId = false := KeyedStore.contains_eq_false.mpr fresh
  simp [upgradeLegacy, different, free, found]

theorem lookup_upgradeLegacy_self (sessions : SessionMap) (different : sessionId ≠ legacyId) :
    (upgradeLegacy sessions sessionId legacyId).lookup sessionId =
      (sessions.lookup sessionId).or
        ((sessions.lookup legacyId).map (upgradeRecord sessionId)) := by
  cases tracked : sessions.lookup sessionId with
  | some record =>
    rw [upgradeLegacy_of_present (KeyedStore.contains_iff.mpr ⟨record, tracked⟩), tracked]
    rfl
  | none =>
    cases found : sessions.lookup legacyId with
    | none =>
      rw [upgradeLegacy_of_absent found, tracked]
      rfl
    | some record =>
      rw [upgradeLegacy_of_found different tracked found, AList.lookup_insert]
      rfl

theorem lookup_upgradeLegacy_other {key : String} (notSession : key ≠ sessionId)
    (notLegacy : key ≠ legacyId) :
    (upgradeLegacy sessions sessionId legacyId).lookup key = sessions.lookup key := by
  unfold upgradeLegacy
  split
  · cases found : sessions.lookup legacyId with
    | none => rfl
    | some record =>
      rw [AList.lookup_insert_ne notSession, AList.lookup_erase_ne notLegacy]
  · rfl

theorem lookup_of_lookup_upgradeLegacy {key : String} {record : SessionRecord}
    (notSession : key ≠ sessionId)
    (found : (upgradeLegacy sessions sessionId legacyId).lookup key = some record) :
    sessions.lookup key = some record := by
  unfold upgradeLegacy at found
  split at found
  · cases present : sessions.lookup legacyId with
    | none => simpa only [present] using found
    | some legacyRecord =>
      simp only [present] at found
      rw [AList.lookup_insert_ne notSession] at found
      by_cases same : key = legacyId
      · rw [same, AList.lookup_erase] at found
        cases found
      · rwa [AList.lookup_erase_ne same] at found
  · exact found

theorem size_upgradeLegacy :
    (upgradeLegacy sessions sessionId legacyId).size = sessions.size := by
  unfold upgradeLegacy
  split
  · rename_i moved
    cases found : sessions.lookup legacyId with
    | none => rfl
    | some record =>
      simp only [Bool.and_eq_true, decide_eq_true_eq, Bool.not_eq_eq_eq_not, Bool.not_true,
        KeyedStore.contains_eq_false] at moved
      have fresh : (sessions.erase legacyId).lookup sessionId = none := by
        rw [AList.lookup_erase_ne moved.1]
        exact moved.2
      rw [KeyedStore.size_insert_of_lookup_none fresh, KeyedStore.size_erase_of_lookup found]
  · rfl

end Upgrade

/-- The cap is reached and no tracked record ranks below an active instrumented one. -/
def Saturated (state : ServiceState) : Prop :=
  state.config.maxTrackedSessions ≤ state.sessions.size ∧ 0 < state.sessions.size ∧
    ∀ key record, state.sessions.lookup key = some record → evictionClass record = 2

theorem rejectNewActiveInstrumentedSession_cases (state : ServiceState) (shutdown : Bool) :
    (shutdown = false ∧ state.Saturated ∧
      state.rejectNewActiveInstrumentedSession shutdown =
        (true, { state with droppedSessionsTotal := satAdd state.droppedSessionsTotal 1 })) ∨
    (¬(shutdown = false ∧ state.Saturated) ∧
      state.rejectNewActiveInstrumentedSession shutdown = (false, state)) := by
  unfold rejectNewActiveInstrumentedSession
  split
  · rename_i room
    refine .inr ⟨?_, rfl⟩
    rintro ⟨closed, full, -⟩
    simp only [closed, Bool.false_or, decide_eq_true_eq] at room
    omega
  · rename_i full
    simp only [Bool.or_eq_true, decide_eq_true_eq, not_or, not_lt, Bool.not_eq_true] at full
    cases found : state.worstRecord with
    | none =>
      refine .inr ⟨?_, rfl⟩
      rintro ⟨-, -, positive, -⟩
      rw [worstRecord_eq_none] at found
      omega
    | some worst =>
      obtain ⟨member, lowest⟩ := worstRecord_spec found
      by_cases active : evictionClass worst.2 = 2
      · refine .inl ⟨full.1, ⟨full.2, List.length_pos_of_mem member, ?_⟩, by simp [active]⟩
        intro key record present
        have above := evictionClass_le_of_rank_le
          (lowest ⟨key, record⟩ (KeyedStore.mem_entries_iff.mpr present))
        have := evictionClass_le_two record
        simp only at above
        omega
      · refine .inr ⟨?_, by simp [active]⟩
        rintro ⟨-, -, -, all⟩
        exact active (all worst.1 worst.2 (KeyedStore.mem_entries_iff.mp member))

/-- When a telemetry event is turned away: it would open a session under a saturated cap. -/
structure Refuses (state : ServiceState) (sessionId legacyId : String) (event : TelemetryEvent) :
    Prop where
  fresh : state.sessions.lookup sessionId = none
  noLegacy : state.sessions.lookup legacyId = none
  active : event.sessionShutdown = false
  saturated : state.Saturated

/-- The record an admitted event is applied to. -/
def admittedEntry (state : ServiceState) (sessionId : String) (event : TelemetryEvent)
    (startedAt receivedAtUnixMs : Int) : SessionRecord :=
  telemetryEntry (upgradeLegacy state.sessions sessionId (legacySessionId event.pid startedAt))
    sessionId event startedAt (min event.unixMs receivedAtUnixMs)

def admitted (state : ServiceState) (sessionId : String) (event : TelemetryEvent)
    (startedAt receivedAtUnixMs : Int) : ServiceState :=
  let sessions := upgradeLegacy state.sessions sessionId (legacySessionId event.pid startedAt)
  { state with
    sessions := sessions.insert sessionId
      (applyEvent state.config sessionId event startedAt receivedAtUnixMs
        (state.admittedEntry sessionId event startedAt receivedAtUnixMs)) }

section Admit

variable {state : ServiceState} {sessionId : String} {event : TelemetryEvent}
  {startedAt receivedAtUnixMs : Int}

theorem admitTelemetry_cases (started : event.startedAtUnixMs = some startedAt)
    (different : sessionId ≠ legacySessionId event.pid startedAt) :
    (state.Refuses sessionId (legacySessionId event.pid startedAt) event ∧
      state.admitTelemetry sessionId event receivedAtUnixMs =
        (true, { state with droppedSessionsTotal := satAdd state.droppedSessionsTotal 1 })) ∨
    (¬state.Refuses sessionId (legacySessionId event.pid startedAt) event ∧
      state.admitTelemetry sessionId event receivedAtUnixMs =
        (false, state.admitted sessionId event startedAt receivedAtUnixMs)) := by
  have upgraded := lookup_upgradeLegacy_self state.sessions different
  simp only [admitTelemetry, started, Option.getD_some]
  cases tracked :
      (upgradeLegacy state.sessions sessionId (legacySessionId event.pid startedAt)).lookup
        sessionId with
  | some record =>
    have present : (upgradeLegacy state.sessions sessionId
        (legacySessionId event.pid startedAt)).contains sessionId = true :=
      KeyedStore.contains_iff.mpr ⟨record, tracked⟩
    refine .inr ⟨?_, by simp [present, admitted, admittedEntry]⟩
    intro refused
    rw [tracked, refused.fresh, refused.noLegacy] at upgraded
    cases upgraded
  | none =>
    rw [tracked] at upgraded
    obtain ⟨fresh, noLegacy⟩ := Option.or_eq_none_iff.mp upgraded.symm
    rw [Option.map_eq_none_iff] at noLegacy
    have unchanged : upgradeLegacy state.sessions sessionId
        (legacySessionId event.pid startedAt) = state.sessions := upgradeLegacy_of_absent noLegacy
    have absent : state.sessions.contains sessionId = false := KeyedStore.contains_eq_false.mpr fresh
    rw [unchanged]
    simp only [absent, Bool.false_eq_true, if_false]
    rcases rejectNewActiveInstrumentedSession_cases state event.sessionShutdown with
      ⟨active, saturated, rejected⟩ | ⟨room, accepted⟩
    · exact .inl ⟨⟨fresh, noLegacy, active, saturated⟩, by rw [rejected]; rfl⟩
    · refine .inr ⟨fun refused => room ⟨refused.active, refused.saturated⟩, ?_⟩
      rw [accepted]
      simp only [Bool.false_eq_true, if_false, admitted, admittedEntry, unchanged]

theorem lookup_admitted_self :
    (state.admitted sessionId event startedAt receivedAtUnixMs).sessions.lookup sessionId =
      some (applyEvent state.config sessionId event startedAt receivedAtUnixMs
        (state.admittedEntry sessionId event startedAt receivedAtUnixMs)) := AList.lookup_insert _

theorem admittedEntry_cases (different : sessionId ≠ legacySessionId event.pid startedAt) :
    let entry := state.admittedEntry sessionId event startedAt receivedAtUnixMs
    state.sessions.lookup sessionId = some entry ∨
      state.sessions.lookup sessionId = none ∧
        ((∃ record, state.sessions.lookup (legacySessionId event.pid startedAt) = some record ∧
            entry = upgradeRecord sessionId record) ∨
          state.sessions.lookup (legacySessionId event.pid startedAt) = none ∧
            entry = newInstrumentedRecord sessionId event startedAt
              (min event.unixMs receivedAtUnixMs)) := by
  simp only [admittedEntry, telemetryEntry, lookup_upgradeLegacy_self state.sessions different]
  cases state.sessions.lookup sessionId with
  | some record => exact .inl rfl
  | none =>
    refine .inr ⟨rfl, ?_⟩
    cases state.sessions.lookup (legacySessionId event.pid startedAt) with
    | some record => exact .inl ⟨record, rfl, rfl⟩
    | none => exact .inr ⟨rfl, rfl⟩

theorem lookup_of_lookup_admitted {key : String} {record : SessionRecord}
    (other : key ≠ sessionId)
    (found : (state.admitted sessionId event startedAt receivedAtUnixMs).sessions.lookup key =
      some record) : state.sessions.lookup key = some record := by
  rw [admitted, AList.lookup_insert_ne other] at found
  exact lookup_of_lookup_upgradeLegacy other found

theorem lookup_admitted_other {key : String} (notSession : key ≠ sessionId)
    (notLegacy : key ≠ legacySessionId event.pid startedAt) :
    (state.admitted sessionId event startedAt receivedAtUnixMs).sessions.lookup key =
      state.sessions.lookup key := by
  rw [admitted, AList.lookup_insert_ne notSession]
  exact lookup_upgradeLegacy_other notSession notLegacy

theorem lookup_admitted_legacy (different : sessionId ≠ legacySessionId event.pid startedAt)
    (fresh : state.sessions.lookup sessionId = none) :
    (state.admitted sessionId event startedAt receivedAtUnixMs).sessions.lookup
      (legacySessionId event.pid startedAt) = none := by
  rw [admitted, AList.lookup_insert_ne different.symm]
  cases found : state.sessions.lookup (legacySessionId event.pid startedAt) with
  | none => rw [upgradeLegacy_of_absent found, found]
  | some record =>
    rw [upgradeLegacy_of_found different fresh found, AList.lookup_insert_ne different.symm,
      AList.lookup_erase]

theorem size_admitted (different : sessionId ≠ legacySessionId event.pid startedAt) :
    (state.admitted sessionId event startedAt receivedAtUnixMs).sessions.size =
      if state.sessions.lookup sessionId = none ∧
          state.sessions.lookup (legacySessionId event.pid startedAt) = none then
        state.sessions.size + 1
      else state.sessions.size := by
  have upgraded := lookup_upgradeLegacy_self state.sessions different
  rw [admitted]
  cases tracked :
      (upgradeLegacy state.sessions sessionId (legacySessionId event.pid startedAt)).lookup
        sessionId with
  | some record =>
    rw [KeyedStore.size_insert_of_lookup tracked, size_upgradeLegacy, if_neg]
    rintro ⟨fresh, noLegacy⟩
    rw [tracked, fresh, noLegacy] at upgraded
    cases upgraded
  | none =>
    rw [tracked] at upgraded
    obtain ⟨fresh, noLegacy⟩ := Option.or_eq_none_iff.mp upgraded.symm
    rw [Option.map_eq_none_iff] at noLegacy
    rw [KeyedStore.size_insert_of_lookup_none tracked, size_upgradeLegacy, if_pos ⟨fresh, noLegacy⟩]

end Admit

end ServiceState

end Moshwatch
