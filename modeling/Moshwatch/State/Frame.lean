import Moshwatch.State.Identity

namespace Moshwatch

def SessionRecord.reclassified (config : AppConfig) (record : SessionRecord) : SessionRecord :=
  { record with
    summary := { record.summary with
      health := classifyHealth record.summary.kind record.summary.metrics config.thresholds } }

theorem Traces.classified {config : AppConfig} {clocks : Set Int} {key : String}
    {record : SessionRecord} {log : List Applied} (traces : Traces config clocks key record log)
    (heard : log ≠ []) : record.reclassified config = record := by
  induction traces with
  | discovered => exact absurd rfl heard
  | opened => exact absurd rfl heard
  | upgraded => exact absurd rfl heard
  | refreshed session read named earlier _ =>
    rcases earlier.identified.named with ⟨kind, -⟩ | ⟨-, empty, -⟩
    · rw [ServiceState.refreshRecord_instrumented kind]
      rfl
    · exact absurd empty heard
  | applied => rfl

namespace ServiceState

theorem refreshRecord_of_named {config : AppConfig} {session : DiscoveredSession} {nowMs : Int}
    {record : SessionRecord} (instrumented : record.summary.kind = .instrumented)
    (own : record.summary.pid = session.pid) :
    refreshRecord config session nowMs record = record.reclassified config := by
  rw [refreshRecord_instrumented instrumented, ← own]
  rfl

theorem pid_eq_of_named {state : ServiceState} (identities : state.Identities) {key : String}
    {record : SessionRecord} (tracked : state.sessions.lookup key = some record)
    {session : DiscoveredSession}
    (named : key = instrumentedSessionId session.pid session.startedAtUnixMs ∨
      key = legacySessionId session.pid session.startedAtUnixMs) :
    record.summary.pid = session.pid := by
  rcases (identities.identified key record tracked).2 with ⟨-, own⟩ | ⟨-, own⟩ <;>
    rcases named with instrumented | legacy
  · exact (instrumentedSessionId_inj.mp (own.symm.trans instrumented)).1
  · exact absurd (own.symm.trans legacy) (instrumentedSessionId_ne_legacySessionId _ _ _ _)
  · exact absurd (instrumented.symm.trans own) (instrumentedSessionId_ne_legacySessionId _ _ _ _)
  · exact (legacySessionId_inj.mp (own.symm.trans legacy)).1

theorem frame_mergeDiscovery {state : ServiceState} (identities : state.Identities)
    {discovered : List DiscoveredSession} {nowMs : Int} {key : String} {old record : SessionRecord}
    (tracked : state.sessions.lookup key = some old)
    (instrumented : old.summary.kind = .instrumented)
    (found : (state.mergeDiscovery discovered nowMs).sessions.lookup key = some record) :
    record = old ∨ record = old.reclassified state.config := by
  revert tracked
  refine mergeDiscovery_induction (fun key record => state.sessions.lookup key = some old →
    record = old ∨ record = old.reclassified state.config) ?_ ?_ ?_ found
  · intro key record present tracked
    rw [present, Option.some.injEq] at tracked
    exact .inl tracked
  · intro session _ key absent _ tracked
    rw [absent] at tracked
    cases tracked
  · intro session _ key record named earlier tracked
    have own := pid_eq_of_named identities tracked named
    rcases earlier tracked with rfl | rfl
    · exact .inr (refreshRecord_of_named instrumented own)
    · exact .inr (refreshRecord_of_named instrumented own)

/-- Discovery leaves every instrumented record it keeps as it is, up to the health that its metrics
    have, creates none, and adds no placeholder for a process that has one. -/
theorem discovery_frame (config : AppConfig) (operations : List Operation)
    (discovered : List DiscoveredSession) (nowMs : Int) :
    let before := run config operations
    let after := before.refreshDiscovery discovered nowMs
    (∀ key old record, before.sessions.lookup key = some old →
      old.summary.kind = .instrumented → after.sessions.lookup key = some record →
      record = { old with
        summary := { old.summary with
          health := classifyHealth old.summary.kind old.summary.metrics config.thresholds } }) ∧
    (∀ key record, after.sessions.lookup key = some record →
      record.summary.kind = .instrumented →
      ∃ old, before.sessions.lookup key = some old ∧ old.summary.kind = .instrumented) ∧
    ∀ key old, before.sessions.lookup key = some old → old.summary.kind = .instrumented →
      after.sessions.lookup (legacySessionId old.summary.pid old.summary.startedAtUnixMs) = none := by
  intro before after
  have config_eq : before.config = config := run_config config operations
  have identities : before.Identities := identities_run config operations
  refine ⟨?_, ?_, ?_⟩
  · intro key old record tracked instrumented found
    have merged := lookup_of_lookup_enforceSessionCap found
    rcases frame_mergeDiscovery identities tracked instrumented merged with rfl | rfl
    · have traces := @Journal.traces config operations key record
        (by rw [Journal.run_state]; exact tracked)
      have heard := @Journal.log_ne_nil config operations key record
        (by rw [Journal.run_state]; exact tracked) instrumented
      exact (traces.classified heard).symm
    · rw [config_eq]
      rfl
  · intro key record found instrumented
    rcases origin_of_mergeDiscovery (lookup_of_lookup_enforceSessionCap found) with
      ⟨old, tracked, sameKind, -⟩ | ⟨-, legacy⟩
    · exact ⟨old, tracked, sameKind.trans instrumented⟩
    · rw [legacy] at instrumented
      cases instrumented
  · intro key old tracked instrumented
    rw [Option.eq_none_iff_forall_ne_some]
    intro record found
    have own : key = instrumentedSessionId old.summary.pid old.summary.startedAtUnixMs := by
      rcases (identities.identified key old tracked).2 with ⟨-, own⟩ | ⟨legacy, -⟩
      · exact own
      · rw [legacy] at instrumented
        cases instrumented
    rw [own] at tracked
    rcases placed_of_mergeDiscovery (lookup_of_lookup_enforceSessionCap found) with
      ⟨earlier, placed⟩ | unopened
    · exact not_both identities.exclusive tracked placed
    · rw [unopened] at tracked
      cases tracked

end ServiceState

end Moshwatch
