import Moshwatch.State.Admission
import Moshwatch.State.Discovery

namespace Moshwatch

inductive Operation where
  | telemetry (event : TelemetryEvent) (startedAt receivedAt : Int) (fits : event.fits = true)
  | discovery (discovered : List DiscoveredSession) (nowMs : Int)

/-- `handle_telemetry_stream` rewrites the start time from the verified peer. -/
def TelemetryEvent.verified (event : TelemetryEvent) (startedAt : Int) : TelemetryEvent :=
  { event with startedAtUnixMs := some startedAt }

def Operation.clock : Operation → Int
  | .telemetry _ _ receivedAt _ => receivedAt
  | .discovery _ nowMs => nowMs

namespace ServiceState

/-- An operation up to its closing `enforce_session_cap`, and whether it was refused. -/
def prepare (state : ServiceState) : Operation → Bool × ServiceState
  | .telemetry event startedAt receivedAt _ =>
    state.admitTelemetry (instrumentedSessionId event.pid startedAt) (event.verified startedAt)
      receivedAt
  | .discovery discovered nowMs => (false, state.mergeDiscovery discovered nowMs)

def step (state : ServiceState) : Operation → ServiceState
  | .telemetry event startedAt receivedAt _ =>
    state.applyTelemetryAt (instrumentedSessionId event.pid startedAt) (event.verified startedAt)
      receivedAt
  | .discovery discovered nowMs => state.refreshDiscovery discovered nowMs

def run (config : AppConfig) (operations : List Operation) : ServiceState :=
  operations.foldl step (new config)

theorem step_eq (state : ServiceState) (operation : Operation) :
    state.step operation =
      if (state.prepare operation).1 then (state.prepare operation).2
      else (state.prepare operation).2.enforceSessionCap := by
  cases operation <;> rfl

@[simp]
theorem run_nil (config : AppConfig) : run config [] = new config := rfl

@[simp]
theorem run_concat (config : AppConfig) (operations : List Operation) (operation : Operation) :
    run config (operations ++ [operation]) = (run config operations).step operation := by
  simp [run, List.foldl_append]

theorem run_induction {config : AppConfig} (holds : ServiceState → Prop)
    (initial : holds (new config))
    (kept : ∀ state operation, holds state → holds (state.step operation))
    (operations : List Operation) : holds (run config operations) := by
  induction operations using List.reverseRecOn with
  | nil => exact initial
  | append_singleton operations operation ih =>
    rw [run_concat]
    exact kept _ operation ih

section Telemetry

variable (state : ServiceState) (event : TelemetryEvent) (startedAt receivedAt : Int)

/-- The tracked record an event of a process would be applied to, or the new one. -/
def entryOf : SessionRecord :=
  state.admittedEntry (instrumentedSessionId event.pid startedAt) (event.verified startedAt)
    startedAt receivedAt

def recordOf : SessionRecord :=
  applyEvent state.config (instrumentedSessionId event.pid startedAt) (event.verified startedAt)
    startedAt receivedAt (state.entryOf event startedAt receivedAt)

def RefusesEvent : Prop :=
  state.Refuses (instrumentedSessionId event.pid startedAt) (legacySessionId event.pid startedAt)
    (event.verified startedAt)

/-- The state an admitted event of a process leaves before the cap is enforced. -/
def uncapped : ServiceState :=
  state.admitted (instrumentedSessionId event.pid startedAt) (event.verified startedAt) startedAt
    receivedAt

theorem prepare_telemetry_cases (fits : event.fits = true) :
    (state.RefusesEvent event startedAt ∧
      state.prepare (.telemetry event startedAt receivedAt fits) =
        (true, { state with droppedSessionsTotal := satAdd state.droppedSessionsTotal 1 })) ∨
    (¬state.RefusesEvent event startedAt ∧
      state.prepare (.telemetry event startedAt receivedAt fits) =
        (false, state.uncapped event startedAt receivedAt)) := by
  have started : (event.verified startedAt).startedAtUnixMs = some startedAt := rfl
  exact admitTelemetry_cases started (instrumentedSessionId_ne_legacySessionId _ _ _ _)

theorem entryOf_cases :
    state.sessions.lookup (instrumentedSessionId event.pid startedAt) =
        some (state.entryOf event startedAt receivedAt) ∨
      state.sessions.lookup (instrumentedSessionId event.pid startedAt) = none ∧
        ((∃ record, state.sessions.lookup (legacySessionId event.pid startedAt) = some record ∧
            state.entryOf event startedAt receivedAt =
              upgradeRecord (instrumentedSessionId event.pid startedAt) record) ∨
          state.sessions.lookup (legacySessionId event.pid startedAt) = none ∧
            state.entryOf event startedAt receivedAt =
              newInstrumentedRecord (instrumentedSessionId event.pid startedAt)
                (event.verified startedAt) startedAt (min event.unixMs receivedAt)) :=
  admittedEntry_cases (instrumentedSessionId_ne_legacySessionId _ _ _ _)

theorem lookup_uncapped_self :
    (state.uncapped event startedAt receivedAt).sessions.lookup
      (instrumentedSessionId event.pid startedAt) =
        some (state.recordOf event startedAt receivedAt) := lookup_admitted_self

theorem size_uncapped :
    (state.uncapped event startedAt receivedAt).sessions.size =
      if state.sessions.lookup (instrumentedSessionId event.pid startedAt) = none ∧
          state.sessions.lookup (legacySessionId event.pid startedAt) = none then
        state.sessions.size + 1
      else state.sessions.size :=
  size_admitted (instrumentedSessionId_ne_legacySessionId _ _ _ _)

variable {state event startedAt receivedAt}

theorem lookup_step_telemetry (fits : event.fits = true) {key : String} {record : SessionRecord}
    (found : (state.step (.telemetry event startedAt receivedAt fits)).sessions.lookup key =
      some record) :
    (key = instrumentedSessionId event.pid startedAt ∧
        ¬state.RefusesEvent event startedAt ∧
        record = state.recordOf event startedAt receivedAt) ∨
      (key ≠ instrumentedSessionId event.pid startedAt ∧
        state.sessions.lookup key = some record) := by
  rw [step_eq] at found
  rcases prepare_telemetry_cases state event startedAt receivedAt fits with
    ⟨refused, prepared⟩ | ⟨accepted, prepared⟩
  · rw [prepared] at found
    change state.sessions.lookup key = some record at found
    refine .inr ⟨?_, found⟩
    rintro rfl
    rw [refused.fresh] at found
    cases found
  · rw [prepared] at found
    have before := lookup_of_lookup_enforceSessionCap found
    by_cases same : key = instrumentedSessionId event.pid startedAt
    · rw [same, lookup_uncapped_self, Option.some.injEq] at before
      exact .inl ⟨same, accepted, before.symm⟩
    · exact .inr ⟨same, lookup_of_lookup_admitted same before⟩

theorem lookup_step_telemetry_legacy (fits : event.fits = true) {record : SessionRecord}
    (found : (state.step (.telemetry event startedAt receivedAt fits)).sessions.lookup
      (legacySessionId event.pid startedAt) = some record) :
    state.sessions.lookup (instrumentedSessionId event.pid startedAt) ≠ none := by
  intro fresh
  rw [step_eq] at found
  rcases prepare_telemetry_cases state event startedAt receivedAt fits with
    ⟨refused, prepared⟩ | ⟨-, prepared⟩
  · rw [prepared] at found
    change state.sessions.lookup _ = some record at found
    rw [refused.noLegacy] at found
    cases found
  · rw [prepared] at found
    have before := lookup_of_lookup_enforceSessionCap found
    have gone : (state.uncapped event startedAt receivedAt).sessions.lookup
        (legacySessionId event.pid startedAt) = none :=
      lookup_admitted_legacy (instrumentedSessionId_ne_legacySessionId _ _ _ _) fresh
    rw [gone] at before
    cases before

end Telemetry

theorem lookup_step_discovery {state : ServiceState} {discovered : List DiscoveredSession}
    {nowMs : Int} {key : String} {record : SessionRecord}
    (found : (state.step (.discovery discovered nowMs)).sessions.lookup key = some record) :
    (state.mergeDiscovery discovered nowMs).sessions.lookup key = some record :=
  lookup_of_lookup_enforceSessionCap found

theorem step_config (state : ServiceState) (operation : Operation) :
    (state.step operation).config = state.config := by
  cases operation with
  | discovery discovered nowMs => exact enforceSessionCap_config _
  | telemetry event startedAt receivedAt fits =>
    rw [step_eq]
    rcases prepare_telemetry_cases state event startedAt receivedAt fits with
      ⟨-, prepared⟩ | ⟨-, prepared⟩
    · rw [prepared]
      rfl
    · rw [prepared]
      exact enforceSessionCap_config _

theorem run_config (config : AppConfig) (operations : List Operation) :
    (run config operations).config = config :=
  run_induction (fun state => state.config = config) rfl
    (fun state operation same => (step_config state operation).trans same) operations

end ServiceState

end Moshwatch
