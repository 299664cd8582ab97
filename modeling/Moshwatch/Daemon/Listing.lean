import Moshwatch.Daemon.Telemetry
import Moshwatch.General.Ranking
import Moshwatch.State.Export
import Moshwatch.State.Identity

namespace Moshwatch

/-- The events of telemetry have passed `telemetry_event_is_plausible`. -/
def Operation.Plausible : Operation → Prop
  | .telemetry event _ _ _ => telemetryMetricIsPlausible event.srttMs = true
  | .discovery _ _ => True

def Ranked (summary : SessionSummary) : Prop := summary.metrics.srttMs ≠ some .nan

theorem ne_nan_of_plausible {value : Option F64} (vetted : telemetryMetricIsPlausible value = true) :
    value ≠ some .nan := by
  rintro rfl
  cases vetted

/-- The place of a round-trip time in the order of `partial_cmp`, up to finite values. -/
def srttClass : Option F64 → Nat
  | none => 0
  | some .nan => 0
  | some (.infinite true) => 1
  | some .negativeZero | some (.finite ..) => 2
  | some (.infinite false) => 3

def srttValue : Option F64 → ℚ
  | some value => value.number
  | none => 0

theorem partialCmpOption_eq {left right : Option F64} (leftKnown : left ≠ some .nan)
    (rightKnown : right ≠ some .nan) :
    partialCmpOption left right =
      some ((compare (srttClass left) (srttClass right)).then
        (compare (srttValue left) (srttValue right))) := by
  have zero : compare (0 : ℚ) 0 = .eq := compare_eq_iff_eq.mpr rfl
  rcases left with _ | _ | (_ | _) | _ | _ <;> rcases right with _ | _ | (_ | _) | _ | _
  all_goals first
    | exact absurd rfl leftKnown
    | exact absurd rfl rightKnown
    | simp only [partialCmpOption, F64.partialCmp, F64.number, srttClass, srttValue, zero]
      rfl

/-- `compare_summaries` on summaries without a NaN. -/
def compareRanks : SessionSummary → SessionSummary → Ordering :=
  compareLex (fun left right => compareOn (fun summary => severity summary.health) right left) <|
    compareLex (fun left right =>
        compareLex (compareOn fun summary : SessionSummary => srttClass summary.metrics.srttMs)
          (compareOn fun summary => srttValue summary.metrics.srttMs) right left) <|
      compareOn SessionSummary.sessionId

instance : Std.TransCmp compareRanks :=
  inferInstanceAs (Std.TransCmp (compareLex _ (compareLex _ _)))

theorem compareSummaries_eq {left right : SessionSummary} (leftRanked : Ranked left)
    (rightRanked : Ranked right) : compareSummaries left right = compareRanks left right := by
  rw [compareSummaries, partialCmpOption_eq rightRanked leftRanked]
  rfl

theorem sessionId_eq_of_compareRanks {left right : SessionSummary}
    (same : compareRanks left right = .eq) : left.sessionId = right.sessionId := by
  simp only [compareRanks, compareLex, Ordering.then_eq_eq, compareOn] at same
  exact Std.LawfulEqOrd.eq_of_compare same.2.2

theorem sortSummaries_eq {sessions : List SessionSummary} (ranked : ∀ summary ∈ sessions, Ranked summary) :
    sortSummaries sessions = Ranking.sort compareRanks sessions := by
  have sorted := List.map_mergeSort (f := id) (l := sessions)
    (r := fun left right => decide (compareSummaries left right ≠ .gt))
    (s := fun left right => decide (compareRanks left right ≠ .gt)) fun left leftIn right rightIn => by
      rw [compareSummaries_eq (ranked left leftIn) (ranked right rightIn)]
      rfl
  rwa [List.map_id, List.map_id] at sorted

theorem foldl_collectBounded {limit : Nat} {items : List SessionSummary} :
    ∀ {sessions : List SessionSummary}, (∀ summary ∈ sessions ++ items, Ranked summary) →
      items.foldl (collectBounded limit) sessions =
        items.foldl (Ranking.keep compareRanks limit) sessions := by
  induction items with
  | nil => exact fun _ => rfl
  | cons item items ih =>
    intro sessions ranked
    have step : collectBounded limit sessions item = Ranking.keep compareRanks limit sessions item := by
      rw [collectBounded, Ranking.keep, sortSummaries_eq]
      intro summary member
      refine ranked summary ?_
      rcases List.mem_append.mp member with old | new
      · exact List.mem_append_left _ old
      · rw [List.mem_singleton.mp new]
        simp
    rw [List.foldl_cons, List.foldl_cons, ← step]
    refine ih fun summary member => ?_
    rcases List.mem_append.mp member with kept | later
    · rcases mem_collectBounded kept with old | new
      · exact ranked summary (List.mem_append_left _ old)
      · rw [new]
        exact ranked item (by simp)
    · exact ranked summary (by simp [later])

theorem foldl_countHealth (items : List SessionSummary) :
    ∀ healthCounts : List SessionHealthCount,
      items.foldl countHealth healthCounts =
        healthCounts.map fun count =>
          { count with sessions := count.sessions + items.countP fun summary =>
              count.kind = summary.kind ∧ count.health = summary.health } := by
  induction items with
  | nil => intro healthCounts; simp
  | cons item items ih =>
    intro healthCounts
    rw [List.foldl_cons, ih, countHealth, List.map_map]
    apply List.map_congr_left
    intro count _
    simp only [Function.comp_apply, List.countP_cons]
    by_cases here : count.kind = item.kind ∧ count.health = item.health
    · simp only [here, and_self, if_true, decide_true]
      congr 1
      omega
    · simp only [here, if_false, decide_false, Bool.false_eq_true, Nat.add_zero]

theorem sum_countP (items : List SessionSummary) :
    ((initialHealthCounts.map fun count =>
        items.countP fun summary => count.kind = summary.kind ∧ count.health = summary.health)).sum =
      items.length := by
  induction items with
  | nil => rfl
  | cons item items ih =>
    rw [List.length_cons, ← ih]
    simp only [List.countP_cons]
    rw [List.sum_map_add]
    congr 1
    cases item.kind <;> cases item.health <;> decide

namespace ServiceState

/-- Plausible telemetry never puts a NaN into a record. -/
theorem ranked_run {config : AppConfig} {operations : List Operation}
    (vetted : ∀ operation ∈ operations, operation.Plausible) {key : String}
    {record : SessionRecord} (found : (run config operations).sessions.lookup key = some record) :
    Ranked record.summary := by
  induction operations using List.reverseRecOn generalizing key record with
  | nil => cases found
  | append_singleton operations operation ih =>
    have earlier : ∀ key record, (run config operations).sessions.lookup key = some record →
        Ranked record.summary :=
      fun key record => ih fun other member => vetted other (List.mem_append_left _ member)
    rw [run_concat] at found
    cases operation with
    | telemetry event startedAt receivedAt fits =>
      rcases lookup_step_telemetry fits found with ⟨-, -, rfl⟩ | ⟨-, same⟩
      · have own := vetted _ (List.mem_append_right _ List.mem_cons_self)
        rw [Ranked, recordOf, applyEvent_metrics]
        exact ne_nan_of_plausible own
      · exact earlier key record same
    | discovery discovered nowMs =>
      refine mergeDiscovery_induction (fun _ record => Ranked record.summary) earlier ?_ ?_
        (lookup_step_discovery found)
      · intro session _ key _ _ reported
        cases reported
      · intro session _ key record _ ranked
        rw [Ranked, refreshRecord_metrics]
        exact ranked

theorem srttMs_materializeSummary (config : AppConfig) (record : SessionRecord) (nowMs : Int) :
    (materializeSummary config record nowMs).metrics.srttMs = record.summary.metrics.srttMs := by
  simp only [materializeSummary, agedMetrics]
  split <;> rfl

/-- The summaries in the order that the map iterates its entries. -/
def materialized (state : ServiceState) (nowMs : Int) : List SessionSummary :=
  state.sessions.entries.map fun entry => materializeSummary state.config entry.2 nowMs

theorem ranked_materialized {config : AppConfig} {operations : List Operation}
    (vetted : ∀ operation ∈ operations, operation.Plausible) (nowMs : Int) :
    ∀ summary ∈ (run config operations).materialized nowMs, Ranked summary := by
  intro summary member
  obtain ⟨entry, tracked, rfl⟩ := List.mem_map.mp member
  rw [Ranked, srttMs_materializeSummary]
  exact ranked_run vetted (KeyedStore.mem_entries_iff.mp tracked)

theorem distinct_materialized {state : ServiceState} (keyed : Keyed state.sessions) (nowMs : Int) :
    Ranking.Distinct compareRanks (state.materialized nowMs) := by
  refine List.pairwise_map.mpr ((List.pairwise_map.mp state.sessions.nodupKeys).imp_of_mem ?_)
  intro left right leftIn rightIn differ same
  have leftKey := keyed left.1 left.2 (KeyedStore.mem_entries_iff.mp leftIn)
  have rightKey := keyed right.1 right.2 (KeyedStore.mem_entries_iff.mp rightIn)
  have ids := sessionId_eq_of_compareRanks same
  exact differ (leftKey.symm.trans (ids.trans rightKey))

end ServiceState

structure BoundedListing (summaries : List SessionSummary) (limit : Nat)
    (exported : ExportedSummaries) : Prop where
  sessions : exported.sessions = summaries.take limit
  total : exported.totalSessions = summaries.length
  truncated : exported.truncatedSessionCount = summaries.length - exported.sessions.length
  kinds : exported.instrumentedSessions + exported.legacySessions = summaries.length
  healthCounts : exported.healthCounts = initialHealthCounts.map fun count =>
    { count with sessions := summaries.countP fun summary =>
        count.kind = summary.kind ∧ count.health = summary.health }
  healthTotal : (exported.healthCounts.map SessionHealthCount.sessions).sum = summaries.length

theorem countP_kinds (items : List SessionSummary) :
    (items.countP fun summary => summary.kind = .instrumented) +
      (items.countP fun summary => summary.kind = .legacy) = items.length := by
  induction items with
  | nil => rfl
  | cons item items ih =>
    rw [List.countP_cons, List.countP_cons, List.length_cons, ← ih]
    cases item.kind <;> simp <;> omega

namespace ServiceState

theorem boundedListing_of_perm {state other : ServiceState} {nowMs : Int} (limit : Nat)
    (ranked : ∀ summary ∈ state.materialized nowMs, Ranked summary)
    (distinct : Ranking.Distinct compareRanks (state.materialized nowMs))
    (perm : (other.materialized nowMs).Perm (state.materialized nowMs)) :
    BoundedListing (state.summaries nowMs) limit (other.exportSummaries nowMs limit) := by
  have listing : state.summaries nowMs = Ranking.sort compareRanks (state.materialized nowMs) :=
    sortSummaries_eq ranked
  have sorted : (state.summaries nowMs).Perm (other.materialized nowMs) := by
    rw [listing]
    exact (Ranking.sort_perm _).trans perm.symm
  have counts : (other.exportSummaries nowMs limit).healthCounts =
      initialHealthCounts.map fun count =>
        { count with sessions := (state.summaries nowMs).countP fun summary =>
            count.kind = summary.kind ∧ count.health = summary.health } := by
    change (other.materialized nowMs).foldl countHealth initialHealthCounts = _
    rw [foldl_countHealth]
    apply List.map_congr_left
    intro count member
    have zero : count.sessions = 0 := by
      revert count
      decide
    rw [zero, Nat.zero_add, sorted.countP_eq]
  have kinds := countP_kinds (other.materialized nowMs)
  rw [← sorted.length_eq] at kinds
  refine ⟨?_, kinds, ?_, kinds, counts, ?_⟩
  · rw [listing, Ranking.sort_congr distinct perm.symm,
      ← Ranking.foldl_keep (distinct.perm perm.symm)]
    refine foldl_collectBounded fun summary member => ranked summary (perm.subset ?_)
    rwa [List.nil_append] at member
  · exact congrArg (fun total => total - (other.exportSummaries nowMs limit).sessions.length) kinds
  · rw [counts, List.map_map]
    exact sum_countP _

/-- In every reachable state and for every order of the session map, the bounded export is the
    beginning of the full listing, and its counts are those of the full listing. -/
theorem export_refines_summaries (config : AppConfig) (operations : List Operation)
    (vetted : ∀ operation ∈ operations, operation.Plausible) (nowMs : Int) (limit : Nat)
    (order : SessionMap)
    (perm : order.entries.Perm (run config operations).sessions.entries) :
    BoundedListing ((run config operations).summaries nowMs) limit
      ({ run config operations with sessions := order }.exportSummaries nowMs limit) :=
  boundedListing_of_perm limit (ranked_materialized vetted nowMs)
    (distinct_materialized (identities_run config operations).keyed nowMs) (perm.map _)

def twoProcesses : List Operation :=
  [.telemetry { event := .sessionTick, pid := 1, unixMs := 1000, srttMs := some (.ofNat 40) } 10
      1000 rfl,
    .telemetry { event := .sessionTick, pid := 2, unixMs := 1000, srttMs := some (.ofNat 90) } 10
      1000 rfl]

theorem export_refines_summaries_twoProcesses :
    ∃ order : SessionMap, order.entries = (run {} twoProcesses).sessions.entries.reverse ∧
      BoundedListing ((run {} twoProcesses).summaries 2000) 1
        ({ run {} twoProcesses with sessions := order }.exportSummaries 2000 1) := by
  have perm := (run {} twoProcesses).sessions.entries.reverse_perm
  refine ⟨⟨_, (List.perm_nodupKeys perm).mpr (run {} twoProcesses).sessions.nodupKeys⟩, rfl, ?_⟩
  refine export_refines_summaries {} twoProcesses ?_ 2000 1 _ perm
  intro operation member
  simp only [twoProcesses, List.mem_cons, List.not_mem_nil, or_false] at member
  rcases member with rfl | rfl
  · change telemetryMetricIsPlausible (some (.ofNat 40)) = true
    decide +kernel
  · change telemetryMetricIsPlausible (some (.ofNat 90)) = true
    decide +kernel

end ServiceState

end Moshwatch
