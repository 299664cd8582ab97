import Moshwatch.State.Apply
import Moshwatch.State.Run

namespace Moshwatch

open ServiceState (newLegacyRecord upgradeRecord refreshRecord entryOf)

/-- One event that was applied, and the record it was applied to. -/
structure Applied where
  before : SessionRecord
  event : TelemetryEvent
  receivedAt : Int

def Applied.unixMs (applied : Applied) : Int :=
  normalizeEventUnixMs applied.before.summary applied.event.unixMs applied.receivedAt

def Applied.regressed (applied : Applied) : Bool :=
  metricsRegressed applied.before.summary.metrics applied.event

/-- How a record came about: `key` is the one it is stored under, `log` lists the events
    applied to it, and `clocks` holds the times that were read meanwhile. -/
inductive Traces (config : AppConfig) (clocks : Set Int) :
    String → SessionRecord → List Applied → Prop where
  | discovered (session : DiscoveredSession) {nowMs : Int} (read : nowMs ∈ clocks) :
      Traces config clocks (legacySessionId session.pid session.startedAtUnixMs)
        (newLegacyRecord (legacySessionId session.pid session.startedAtUnixMs) session nowMs) []
  | opened (event : TelemetryEvent) (startedAt : Int) {receivedAt : Int}
      (read : receivedAt ∈ clocks) :
      Traces config clocks (instrumentedSessionId event.pid startedAt)
        (newInstrumentedRecord (instrumentedSessionId event.pid startedAt) event startedAt
          (min event.unixMs receivedAt)) []
  | upgraded {pid startedAt : Int} {record : SessionRecord}
      (legacy : Traces config clocks (legacySessionId pid startedAt) record []) :
      Traces config clocks (instrumentedSessionId pid startedAt)
        (upgradeRecord (instrumentedSessionId pid startedAt) record) []
  | refreshed {key : String} {record : SessionRecord} {log : List Applied}
      (session : DiscoveredSession) {nowMs : Int} (read : nowMs ∈ clocks)
      (named : key = instrumentedSessionId session.pid session.startedAtUnixMs ∨
        key = legacySessionId session.pid session.startedAtUnixMs)
      (earlier : Traces config clocks key record log) :
      Traces config clocks key (refreshRecord config session nowMs record) log
  | applied {record : SessionRecord} {log : List Applied} (event : TelemetryEvent)
      (startedAt : Int) {receivedAt : Int} (read : receivedAt ∈ clocks)
      (fits : event.fits = true)
      (earlier : Traces config clocks (instrumentedSessionId event.pid startedAt) record log) :
      Traces config clocks (instrumentedSessionId event.pid startedAt)
        (applyEvent config (instrumentedSessionId event.pid startedAt) event startedAt receivedAt
          record)
        (log ++ [{ before := record, event, receivedAt }])

namespace Traces

variable {config : AppConfig} {clocks : Set Int} {key : String} {record : SessionRecord}
  {log : List Applied}

theorem mono {later : Set Int} (subset : clocks ⊆ later) (traces : Traces config clocks key record log) :
    Traces config later key record log := by
  induction traces with
  | discovered session read => exact discovered session (subset read)
  | opened event startedAt read => exact opened event startedAt (subset read)
  | upgraded _ ih => exact upgraded ih
  | refreshed session read named _ ih => exact refreshed session (subset read) named ih
  | applied event startedAt read fits _ ih => exact applied event startedAt (subset read) fits ih

/-- The key of a record is the id of its process under the format of its kind. -/
structure Identified (key : String) (record : SessionRecord) (log : List Applied) : Prop where
  sessionId : record.summary.sessionId = key
  named : (record.summary.kind = .instrumented ∧
      key = instrumentedSessionId record.summary.pid record.summary.startedAtUnixMs) ∨
    (record.summary.kind = .legacy ∧ log = [] ∧
      key = legacySessionId record.summary.pid record.summary.startedAtUnixMs)

theorem identified (traces : Traces config clocks key record log) : Identified key record log := by
  induction traces with
  | discovered session read => exact ⟨rfl, .inr ⟨rfl, rfl, rfl⟩⟩
  | opened event startedAt read => exact ⟨rfl, .inl ⟨rfl, rfl⟩⟩
  | @upgraded pid startedAt record legacy ih =>
    refine ⟨rfl, .inl ⟨rfl, ?_⟩⟩
    rcases ih.named with ⟨-, named⟩ | ⟨-, -, named⟩
    · exact absurd named.symm (instrumentedSessionId_ne_legacySessionId _ _ _ _)
    · obtain ⟨pid, startedAt⟩ := legacySessionId_inj.mp named
      rw [pid, startedAt]
      rfl
  | @refreshed key record log session nowMs read named earlier ih =>
    refine ⟨by rw [ServiceState.refreshRecord_sessionId, ih.sessionId], ?_⟩
    rcases ih.named with ⟨kind, own⟩ | ⟨kind, empty, own⟩
    · rw [ServiceState.refreshRecord_instrumented kind]
      refine .inl ⟨kind, ?_⟩
      rcases named with instrumented | legacy
      · obtain ⟨pid, startedAt⟩ := instrumentedSessionId_inj.mp (own.symm.trans instrumented)
        rw [own, pid]
      · exact absurd (own.symm.trans legacy) (instrumentedSessionId_ne_legacySessionId _ _ _ _)
    · rw [ServiceState.refreshRecord_legacy kind]
      refine .inr ⟨kind, empty, ?_⟩
      rcases named with instrumented | legacy
      · exact absurd (instrumented.symm.trans own) (instrumentedSessionId_ne_legacySessionId _ _ _ _)
      · exact legacy
  | @applied record log event startedAt receivedAt read fits earlier ih =>
    obtain ⟨sessionId, pid, kind, started, -⟩ := applyEvent_identity config
      (instrumentedSessionId event.pid startedAt) event startedAt receivedAt record
    exact ⟨sessionId, .inl ⟨kind, by rw [pid, started]⟩⟩

theorem legacy_log {pid startedAt : Int}
    (traces : Traces config clocks (legacySessionId pid startedAt) record log) :
    record.summary.kind = .legacy ∧ log = [] := by
  rcases traces.identified.named with ⟨-, named⟩ | ⟨kind, empty, -⟩
  · exact absurd named.symm (instrumentedSessionId_ne_legacySessionId _ _ _ _)
  · exact ⟨kind, empty⟩

theorem kind_eq_instrumented {pid startedAt : Int}
    (traces : Traces config clocks (instrumentedSessionId pid startedAt) record log) :
    record.summary.kind = .instrumented := by
  rcases traces.identified.named with ⟨kind, -⟩ | ⟨-, -, named⟩
  · exact kind
  · exact absurd named (instrumentedSessionId_ne_legacySessionId _ _ _ _)

theorem before {earlier : List Applied} {last : Applied}
    (traces : Traces config clocks key record (earlier ++ [last])) :
    Traces config clocks key last.before earlier := by
  generalize whole : earlier ++ [last] = log at traces
  induction traces with
  | discovered => exact absurd whole (by simp)
  | opened => exact absurd whole (by simp)
  | upgraded => exact absurd whole (by simp)
  | refreshed session read named _ ih => exact ih whole
  | applied event startedAt read fits previous _ =>
    obtain ⟨rfl, last⟩ := List.append_inj' whole rfl
    rw [List.singleton_inj.mp last]
    exact previous

theorem exists_of_prefix {earlier : List Applied} (traces : Traces config clocks key record log)
    (front : earlier <+: log) : ∃ old, Traces config clocks key old earlier := by
  induction log using List.reverseRecOn generalizing record with
  | nil =>
    rw [List.prefix_nil] at front
    subst front
    exact ⟨record, traces⟩
  | append_singleton log last ih =>
    rcases List.prefix_concat_iff.mp front with whole | inside
    · rw [← whole] at traces
      exact ⟨record, traces⟩
    · exact ih traces.before inside

/-- What a record without applied events has recorded of any: nothing. -/
structure Blank (record : SessionRecord) : Prop where
  history : record.history = []
  counters : record.counters = []
  metrics : record.summary.metrics = {}
  peer : record.summary.peer = {}
  counterReset : record.summary.counterResetUnixMs = none

theorem blank (traces : Traces config clocks key record []) : Blank record := by
  generalize whole : ([] : List Applied) = log at traces
  induction traces with
  | discovered => exact ⟨rfl, rfl, rfl, rfl, rfl⟩
  | opened => exact ⟨rfl, rfl, rfl, rfl, rfl⟩
  | upgraded _ ih =>
    have legacy := ih whole
    exact ⟨legacy.history, legacy.counters, legacy.metrics, legacy.peer, legacy.counterReset⟩
  | refreshed session read named _ ih =>
    have earlier := ih whole
    exact ⟨by rw [ServiceState.refreshRecord_history, earlier.history],
      by rw [ServiceState.refreshRecord_counters, earlier.counters],
      by rw [ServiceState.refreshRecord_metrics, earlier.metrics],
      by rw [ServiceState.refreshRecord_peer, earlier.peer],
      by rw [ServiceState.refreshRecord_counterReset, earlier.counterReset]⟩
  | applied => exact absurd whole (by simp)

end Traces

/-- The registry with the events applied to each tracked record since it was created. -/
structure Journal where
  state : ServiceState
  log : String → List Applied

namespace Journal

/-- What an operation, if it is admitted, applies to the record of a key. -/
def appliedBy (state : ServiceState) (key : String) : Operation → List Applied
  | .telemetry event startedAt receivedAt _ =>
    if key = instrumentedSessionId event.pid startedAt then
      [{ before := state.entryOf event startedAt receivedAt
         event := event.verified startedAt
         receivedAt }]
    else []
  | .discovery _ _ => []

def step (journal : Journal) (operation : Operation) : Journal :=
  let next := journal.state.step operation
  { state := next
    log := fun key =>
      if next.sessions.contains key then journal.log key ++ appliedBy journal.state key operation
      else [] }

def run (config : AppConfig) (operations : List Operation) : Journal :=
  operations.foldl step { state := ServiceState.new config, log := fun _ => [] }

@[simp]
theorem run_concat (config : AppConfig) (operations : List Operation) (operation : Operation) :
    run config (operations ++ [operation]) = (run config operations).step operation := by
  simp [run, List.foldl_append]

@[simp]
theorem run_state (config : AppConfig) (operations : List Operation) :
    (run config operations).state = ServiceState.run config operations := by
  induction operations using List.reverseRecOn with
  | nil => rfl
  | append_singleton operations operation ih =>
    rw [run_concat, ServiceState.run_concat, ← ih]
    rfl

def clocks (operations : List Operation) : Set Int :=
  { time | ∃ operation ∈ operations, operation.clock = time }

theorem clocks_concat_subset (operations : List Operation) (operation : Operation) :
    clocks operations ⊆ clocks (operations ++ [operation]) := by
  rintro time ⟨earlier, member, read⟩
  exact ⟨earlier, List.mem_append_left _ member, read⟩

theorem clock_mem_concat (operations : List Operation) (operation : Operation) :
    operation.clock ∈ clocks (operations ++ [operation]) :=
  ⟨operation, by simp, rfl⟩

theorem log_of_untracked {config : AppConfig} {operations : List Operation} {key : String}
    (untracked : (run config operations).state.sessions.lookup key = none) :
    (run config operations).log key = [] := by
  induction operations using List.reverseRecOn with
  | nil => rfl
  | append_singleton operations operation _ =>
    rw [run_concat] at untracked ⊢
    have absent := KeyedStore.contains_eq_false.mpr untracked
    simp only [step] at absent ⊢
    rw [absent]
    rfl

theorem log_step {journal : Journal} {operation : Operation} {key : String} {record : SessionRecord}
    (tracked : (journal.step operation).state.sessions.lookup key = some record) :
    (journal.step operation).log key =
      journal.log key ++ appliedBy journal.state key operation := by
  have present := KeyedStore.contains_iff.mpr ⟨record, tracked⟩
  simp only [step] at present ⊢
  rw [present]
  rfl

/-- Every tracked record traces back to the events in its log. -/
theorem traces {config : AppConfig} (operations : List Operation) :
    ∀ key record, (run config operations).state.sessions.lookup key = some record →
      Traces config (clocks operations) key record ((run config operations).log key) := by
  induction operations using List.reverseRecOn with
  | nil => intro key record found; cases found
  | append_singleton operations operation ih =>
    intro key record found
    have later := clocks_concat_subset operations operation
    rw [run_concat] at found ⊢
    rw [log_step found]
    have config_eq : (run config operations).state.config = config := by
      rw [run_state, ServiceState.run_config]
    cases operation with
    | discovery discovered nowMs =>
      have read := clock_mem_concat operations (.discovery discovered nowMs)
      simp only [appliedBy, List.append_nil]
      refine ServiceState.mergeDiscovery_induction
        (fun key record => Traces config (clocks (operations ++ [.discovery discovered nowMs])) key
          record ((run config operations).log key)) ?_ ?_ ?_
        (ServiceState.lookup_step_discovery found)
      · intro key record tracked
        exact (ih key record tracked).mono later
      · intro session _ key absent _
        rw [log_of_untracked absent]
        exact .discovered session read
      · intro session _ key record named earlier
        rw [config_eq]
        exact .refreshed session read named earlier
    | telemetry event startedAt receivedAt fits =>
      have read := clock_mem_concat operations (.telemetry event startedAt receivedAt fits)
      rcases ServiceState.lookup_step_telemetry fits found with ⟨rfl, -, rfl⟩ | ⟨other, tracked⟩
      · simp only [appliedBy, if_true]
        rw [ServiceState.recordOf, config_eq]
        refine Traces.applied (event.verified startedAt) startedAt read fits ?_
        rcases ServiceState.entryOf_cases (run config operations).state event startedAt receivedAt
          with tracked | ⟨fresh, ⟨legacy, tracked, upgraded⟩ | ⟨-, opened⟩⟩
        · exact (ih _ _ tracked).mono later
        · have empty := (ih _ _ tracked).legacy_log.2
          rw [log_of_untracked fresh, upgraded]
          exact .upgraded (empty ▸ (ih _ _ tracked).mono later)
        · rw [log_of_untracked fresh, opened]
          exact .opened (event.verified startedAt) startedAt read
      · simp only [appliedBy, if_neg other, List.append_nil]
        exact (ih key record tracked).mono later

theorem log_ne_nil {config : AppConfig} (operations : List Operation) :
    ∀ key record, (run config operations).state.sessions.lookup key = some record →
      record.summary.kind = .instrumented → (run config operations).log key ≠ [] := by
  induction operations using List.reverseRecOn with
  | nil => intro key record found; cases found
  | append_singleton operations operation ih =>
    intro key record found instrumented
    rw [run_concat] at found ⊢
    rw [log_step found]
    cases operation with
    | discovery discovered nowMs =>
      obtain ⟨old, tracked, sameClass⟩ := ServiceState.tracked_of_instrumented
        (ServiceState.lookup_step_discovery found) instrumented
      simp only [appliedBy, List.append_nil]
      refine ih key old tracked ?_
      cases kind : old.summary.kind with
      | instrumented => rfl
      | legacy => cases ended : record.shutdown <;> simp [evictionClass, kind, instrumented, ended] at sameClass
    | telemetry event startedAt receivedAt fits =>
      rcases ServiceState.lookup_step_telemetry fits found with ⟨rfl, -, -⟩ | ⟨other, tracked⟩
      · simp [appliedBy]
      · simp only [appliedBy, if_neg other, List.append_nil]
        exact ih key record tracked instrumented

end Journal

end Moshwatch
