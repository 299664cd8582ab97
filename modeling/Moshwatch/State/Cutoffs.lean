import Moshwatch.State.Frame
import Moshwatch.State.NoChurn
import Moshwatch.State.Retention

namespace Moshwatch

open ServiceState in
/-- `refresh_discovery` computes the cutoffs as integers, and keeps every active session that
    was observed at its own time. -/
structure AppConfig.RetentionSafe (config : AppConfig) : Prop where
  product : config.cleanupIntervalMs * 3 ≤ u64Max
  stale : staleCutoffMs config = max (3 * (config.cleanupIntervalMs : Int)) 30000
  shutdown : shutdownGraceMs config = max (config.discoveryIntervalMs : Int) 5000
  legacy : legacyGraceMs config = max (config.discoveryIntervalMs : Int) 5000
  positive : 0 < shutdownGraceMs config ∧ 0 < legacyGraceMs config
  ordered : shutdownGraceMs config ≤ staleCutoffMs config ∧
    legacyGraceMs config ≤ staleCutoffMs config
  keeps : ∀ (operations : List Operation) (discovered : List DiscoveredSession) (nowMs : Int) key
    record, (run config operations).sessions.lookup key = some record →
      record.summary.kind = .instrumented → record.shutdown = false →
      record.summary.lastObservedUnixMs = nowMs →
      ((run config operations).refreshDiscovery discovered nowMs).sessions.contains key = true

theorem asI64_lt (value : Nat) : asI64 value < 2 ^ 63 := by
  unfold asI64
  have below := Int.bmod_lt (x := value) (m := 2 ^ 64) (by decide)
  omega

theorem LoadedConfig.cleanup_le {http : HttpCrate} (config : LoadedConfig http) :
    (config.cleanupIntervalMs : Int) ≤ i64Max :=
  config.written _ (by simp [AppConfig.integers])

/-- The product with the cleanup interval is the only computation that can leave its type. -/
theorem LoadedConfig.cutoffsFit_iff {http : HttpCrate} (config : LoadedConfig http) :
    config.CutoffsFit ↔ 3 * (config.cleanupIntervalMs : Int) ≤ i64Max := by
  have ordered := config.bounds.cleanup.1
  have loaded := config.cleanup_le
  constructor
  · intro fit
    have cleanup := fit.cleanup
    unfold i64Max
    omega
  · intro bound
    unfold i64Max at bound loaded
    exact ⟨by omega, by omega⟩

namespace ServiceState

variable {config : AppConfig}

theorem product_of_staleCutoffMs
    (exact_ : staleCutoffMs config = max (3 * (config.cleanupIntervalMs : Int)) 30000) :
    3 * (config.cleanupIntervalMs : Int) ≤ i64Max := by
  have below := asI64_lt (max (wrapMul config.cleanupIntervalMs 3) 30000)
  rw [← staleCutoffMs, exact_] at below
  unfold i64Max
  omega

theorem evictionClass_active {record : SessionRecord}
    (instrumented : record.summary.kind = .instrumented) (active : record.shutdown = false) :
    evictionClass record = 2 := by
  rw [evictionClass, instrumented, active]

theorem refreshDiscovery_keeps {state : ServiceState} (identities : state.Identities)
    (within : state.WithinCap) (discovered : List DiscoveredSession) {nowMs : Int} {key : String}
    {record : SessionRecord} (tracked : state.sessions.lookup key = some record)
    (instrumented : record.summary.kind = .instrumented) (active : record.shutdown = false)
    (young : nowMs - record.summary.lastObservedUnixMs < staleCutoffMs state.config) :
    (state.refreshDiscovery discovered nowMs).sessions.contains key = true := by
  have kept : ∃ after, (state.mergeDiscovery discovered nowMs).sessions.lookup key = some after := by
    by_cases lists : state.Lists discovered key
    · exact lookup_mergeDiscovery_listed lists
    · refine ⟨record, ?_⟩
      rw [lookup_mergeDiscovery_unlisted lists, tracked, Option.filter_some, if_pos]
      simp [keepsRecord, instrumented, active, young]
  obtain ⟨after, merged⟩ := kept
  have ranked : evictionClass after = 2 := by
    have own := evictionClass_active instrumented active
    rcases frame_mergeDiscovery identities tracked instrumented merged with rfl | rfl
    · exact own
    · exact own
  have present := discovery_keeps_active identities within discovered nowMs merged ranked
  rw [KeyedStore.contains, present]
  rfl

end ServiceState

open ServiceState in
/-- The retention arithmetic of an accepted configuration is safe as long as three cleanup
    intervals are an `i64`; validation gives the interval no upper bound. -/
theorem retentionSafe_iff {http : HttpCrate} (config : LoadedConfig http) :
    config.RetentionSafe ↔ 3 * (config.cleanupIntervalMs : Int) ≤ i64Max := by
  constructor
  · intro safe
    exact product_of_staleCutoffMs safe.stale
  · intro bound
    have fit := config.cutoffsFit_iff.mpr bound
    have stale := staleCutoffMs_eq fit
    have grace := shutdownGraceMs_eq fit
    have interval := config.bounds.cleanup.1
    have same : legacyGraceMs config.toAppConfig = shutdownGraceMs config.toAppConfig := rfl
    have ordered : shutdownGraceMs config.toAppConfig ≤ staleCutoffMs config.toAppConfig := by
      omega
    refine ⟨?_, stale, grace, same.trans grace, ?_, ⟨ordered, ordered⟩, ?_⟩
    · unfold i64Max at bound
      unfold u64Max
      omega
    · rw [same]
      exact ⟨by omega, by omega⟩
    · intro operations discovered nowMs key record tracked instrumented active observed
      refine refreshDiscovery_keeps (identities_run _ operations) (withinCap_run _ operations)
        discovered tracked instrumented active ?_
      rw [run_config, stale, observed]
      omega

/-- A cleanup interval of more than a hundred million years. -/
def endlessCleanup : AppConfig := { cleanupIntervalMs := 2 ^ 62 }

def loadEndlessCleanup (http : HttpCrate) : LoadedConfig http where
  toAppConfig := endlessCleanup
  valid := rfl
  written := by decide

open ServiceState in
/-- The interval is accepted, its stale cutoff is negative, and discovery drops the session of a
    tick at the time of that tick. -/
theorem endlessCleanup_drops :
    (∀ http, ¬(loadEndlessCleanup http).RetentionSafe) ∧
      staleCutoffMs endlessCleanup = -2 ^ 62 ∧
      let ticked := run endlessCleanup
        [.telemetry { event := .sessionTick, pid := 1, unixMs := 61000 } 10 61000 rfl]
      ticked.sessions.contains "instrumented:10:1" = true ∧
      (ticked.refreshDiscovery [] 61000).sessions.contains "instrumented:10:1" = false := by
  refine ⟨?_, by decide +kernel, by decide +kernel, by decide +kernel⟩
  intro http safe
  have stale : staleCutoffMs endlessCleanup =
      max (3 * (endlessCleanup.cleanupIntervalMs : Int)) 30000 := safe.stale
  exact absurd stale (by decide +kernel)

end Moshwatch
