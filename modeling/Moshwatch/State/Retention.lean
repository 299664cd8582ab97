import Moshwatch.State.Identity

namespace Moshwatch

/-- The grace periods of the configuration are in the range of the types the source computes
    them in. -/
structure AppConfig.CutoffsFit (config : AppConfig) : Prop where
  cleanup : config.cleanupIntervalMs * 3 < 2 ^ 63
  discovery : config.discoveryIntervalMs < 2 ^ 63

/-- How long a record may stay unobserved before discovery drops it. -/
def SessionRecord.graceMs (config : AppConfig) (record : SessionRecord) : Int :=
  if record.summary.kind = .instrumented ∧ record.shutdown = false then
    max (3 * config.cleanupIntervalMs : Int) 30000
  else max (config.discoveryIntervalMs : Int) 5000

namespace ServiceState

def Lists (state : ServiceState) (discovered : List DiscoveredSession) (key : String) : Prop :=
  ∃ session ∈ discovered, key = discoveredSessionId state.sessions session

section Loop

variable {config : AppConfig} {nowMs : Int} {sessions : SessionMap} {seenIds : List String}

theorem contains_instrumented_discoverSession (session : DiscoveredSession) (pid startedAt : Int) :
    (discoverSession config nowMs (sessions, seenIds) session).1.contains
        (instrumentedSessionId pid startedAt) =
      sessions.contains (instrumentedSessionId pid startedAt) := by
  simp only [discoverSession, KeyedStore.contains]
  by_cases same : instrumentedSessionId pid startedAt = discoveredSessionId sessions session
  · rcases discoveredSessionId_cases sessions session with ⟨-, tracked⟩ | ⟨legacy, -⟩
    · rw [same, AList.lookup_insert]
      exact tracked.symm
    · rw [legacy] at same
      exact absurd same (instrumentedSessionId_ne_legacySessionId _ _ _ _)
  · rw [AList.lookup_insert_ne same]

theorem discoveredSessionId_discoverSession (session other : DiscoveredSession) :
    discoveredSessionId (discoverSession config nowMs (sessions, seenIds) session).1 other =
      discoveredSessionId sessions other := by
  simp only [discoveredSessionId, contains_instrumented_discoverSession]

structure LoopSpec (sessions : SessionMap) (seenIds : List String)
    (discovered : List DiscoveredSession) (loop : SessionMap × List String) : Prop where
  seen : ∀ key, key ∈ loop.2 ↔ key ∈ seenIds ∨
    ∃ session ∈ discovered, key = discoveredSessionId sessions session
  listed : ∀ session ∈ discovered, ∃ record,
    loop.1.lookup (discoveredSessionId sessions session) = some record
  unlisted : ∀ key, (∀ session ∈ discovered, key ≠ discoveredSessionId sessions session) →
    loop.1.lookup key = sessions.lookup key

theorem loopSpec (config : AppConfig) (nowMs : Int) (discovered : List DiscoveredSession) :
    ∀ (sessions : SessionMap) (seenIds : List String), LoopSpec sessions seenIds discovered
      (discovered.foldl (discoverSession config nowMs) (sessions, seenIds)) := by
  induction discovered with
  | nil =>
    intro sessions seenIds
    exact ⟨by simp, by simp, fun _ _ => rfl⟩
  | cons session rest ih =>
    intro sessions seenIds
    have later := ih (discoverSession config nowMs (sessions, seenIds) session).1
      (discoverSession config nowMs (sessions, seenIds) session).2
    have same := fun other => @discoveredSessionId_discoverSession config nowMs sessions seenIds
      session other
    rw [List.foldl_cons]
    refine ⟨?_, ?_, ?_⟩
    · intro key
      rw [later.seen]
      simp only [same, List.mem_cons, exists_eq_or_imp]
      have head : key ∈ (discoverSession config nowMs (sessions, seenIds) session).2 ↔
          key = discoveredSessionId sessions session ∨ key ∈ seenIds := List.mem_cons
      rw [head]
      tauto
    · intro other member
      by_cases repeated : ∃ later ∈ rest,
          discoveredSessionId sessions other = discoveredSessionId sessions later
      · obtain ⟨twin, twinMember, key⟩ := repeated
        rw [key, ← same twin]
        exact later.listed twin twinMember
      · push Not at repeated
        have first : other = session := by
          rcases List.mem_cons.mp member with first | inside
          · exact first
          · exact absurd rfl (repeated other inside)
        subst first
        refine ⟨refreshRecord config other nowMs ((sessions.lookup (discoveredSessionId sessions
          other)).getD (newLegacyRecord (discoveredSessionId sessions other) other nowMs)), ?_⟩
        rw [later.unlisted _ fun twin inside => by rw [same]; exact repeated twin inside]
        exact AList.lookup_insert _
    · intro key missed
      rw [later.unlisted key fun twin inside => by
        rw [same]; exact missed twin (List.mem_cons_of_mem _ inside)]
      exact AList.lookup_insert_ne (missed session List.mem_cons_self)

end Loop

section Merge

variable {state : ServiceState} {discovered : List DiscoveredSession} {nowMs : Int} {key : String}

theorem mergeDiscovery_spec (state : ServiceState) (discovered : List DiscoveredSession)
    (nowMs : Int) : LoopSpec state.sessions [] discovered
      (discovered.foldl (discoverSession state.config nowMs) (state.sessions, [])) :=
  loopSpec state.config nowMs discovered state.sessions []

theorem lookup_mergeDiscovery_listed (lists : state.Lists discovered key) :
    ∃ record, (state.mergeDiscovery discovered nowMs).sessions.lookup key = some record := by
  have spec := mergeDiscovery_spec state discovered nowMs
  obtain ⟨session, member, rfl⟩ := lists
  obtain ⟨record, found⟩ := spec.listed session member
  refine ⟨record, ?_⟩
  rw [mergeDiscovery, KeyedStore.lookup_retain, found, Option.filter_some, if_pos]
  rw [keepsRecord, if_pos]
  simpa using (spec.seen _).mpr (.inr ⟨session, member, rfl⟩)

theorem lookup_mergeDiscovery_unlisted (unlisted : ¬ state.Lists discovered key) :
    (state.mergeDiscovery discovered nowMs).sessions.lookup key =
      (state.sessions.lookup key).filter (keepsRecord state.config [] nowMs key) := by
  have spec := mergeDiscovery_spec state discovered nowMs
  have missed : ∀ session ∈ discovered, key ≠ discoveredSessionId state.sessions session :=
    fun session member same => unlisted ⟨session, member, same⟩
  have unseen : key ∉ (discovered.foldl (discoverSession state.config nowMs)
      (state.sessions, [])).2 := by
    intro seen
    rcases (spec.seen key).mp seen with impossible | ⟨session, member, same⟩
    · cases impossible
    · exact missed session member same
  rw [mergeDiscovery, KeyedStore.lookup_retain, spec.unlisted key missed]
  refine congrArg (Option.filter · _) (funext fun record => ?_)
  simp [keepsRecord, unseen]

theorem asI64_of_lt {value : Nat} (bound : value < 2 ^ 63) : asI64 value = value := by
  unfold asI64
  rw [Int.bmod_eq_of_le] <;> omega

theorem staleCutoffMs_eq {config : AppConfig} (fit : config.CutoffsFit) :
    staleCutoffMs config = max (3 * (config.cleanupIntervalMs : Int)) 30000 := by
  have cleanup := fit.cleanup
  have small : wrapMul config.cleanupIntervalMs 3 = config.cleanupIntervalMs * 3 :=
    Nat.mod_eq_of_lt (by omega)
  rw [staleCutoffMs, small, asI64_of_lt (by omega)]
  omega

theorem shutdownGraceMs_eq {config : AppConfig} (fit : config.CutoffsFit) :
    shutdownGraceMs config = max (config.discoveryIntervalMs : Int) 5000 := by
  have discovery := fit.discovery
  rw [shutdownGraceMs, asI64_of_lt (by omega)]
  omega

theorem keepsRecord_unseen {config : AppConfig} (fit : config.CutoffsFit) (record : SessionRecord) :
    keepsRecord config [] nowMs key record =
      decide (nowMs - record.summary.lastObservedUnixMs < record.graceMs config) := by
  have stale := staleCutoffMs_eq fit
  have grace := shutdownGraceMs_eq fit
  have same : legacyGraceMs config = shutdownGraceMs config := rfl
  cases kind : record.summary.kind <;> cases ended : record.shutdown <;>
    simp [keepsRecord, SessionRecord.graceMs, kind, ended, stale, same, grace]

end Merge

/-- Discovery tracks the listed processes and the records that are within their grace, and leaves
    those it does not list as they are. -/
theorem retention_exact (config : AppConfig) (operations : List Operation)
    (discovered : List DiscoveredSession) (nowMs : Int) (fit : config.CutoffsFit) :
    let state := run config operations
    let after := state.mergeDiscovery discovered nowMs
    (∀ key, (∃ record, after.sessions.lookup key = some record) ↔
      (∃ session ∈ discovered, key =
        if state.sessions.contains (instrumentedSessionId session.pid session.startedAtUnixMs) then
          instrumentedSessionId session.pid session.startedAtUnixMs
        else legacySessionId session.pid session.startedAtUnixMs) ∨
      ∃ record, state.sessions.lookup key = some record ∧
        nowMs - record.summary.lastObservedUnixMs < record.graceMs config) ∧
    ∀ key record, after.sessions.lookup key = some record → ¬ state.Lists discovered key →
      state.sessions.lookup key = some record := by
  intro state after
  have config_eq : state.config = config := run_config config operations
  refine ⟨fun key => ?_, ?_⟩
  · change _ ↔ state.Lists discovered key ∨ _
    by_cases lists : state.Lists discovered key
    · exact iff_of_true (lookup_mergeDiscovery_listed lists) (.inl lists)
    · rw [lookup_mergeDiscovery_unlisted lists, or_iff_right lists]
      simp only [Option.filter_eq_some_iff, config_eq, keepsRecord_unseen fit, decide_eq_true_eq]
  · intro key record found unlisted
    rw [lookup_mergeDiscovery_unlisted unlisted, Option.filter_eq_some_iff] at found
    exact found.1

/-- Under the default settings an active session outlives one millisecond less than 30 s. -/
theorem retention_exact_oneTick :
    ∃ record, ((run {} [.telemetry { event := .sessionTick, pid := 1, unixMs := 1000 } 10 1000
      rfl]).mergeDiscovery [] 30999).sessions.lookup "instrumented:10:1" = some record := by
  have exact_ := retention_exact {} [.telemetry { event := .sessionTick, pid := 1, unixMs := 1000 } 10
    1000 rfl] [] 30999 ⟨by decide, by decide⟩
  refine (exact_.1 "instrumented:10:1").mpr (.inr ?_)
  have young : ((run {} [.telemetry { event := .sessionTick, pid := 1, unixMs := 1000 } 10 1000
      rfl]).sessions.lookup "instrumented:10:1").any
      (fun record => decide (30999 - record.summary.lastObservedUnixMs < record.graceMs {})) =
        true := by decide +kernel
  rw [Option.any_eq_true_iff_get] at young
  obtain ⟨present, young⟩ := young
  exact ⟨_, (Option.some_get present).symm, by simpa using young⟩

end ServiceState

end Moshwatch
