import Moshwatch.Metrics.Series
import Moshwatch.State.Journal

namespace Moshwatch

def labelNames : List String :=
  ["version", "node_name", "system_id", "kind", "health", "loop", "severity", "detail_tier", "result",
    "session_id", "display_session_id", "pid", "started_at_unix_ms", "window"]

theorem labelNames_plain {name : String} (known : name ∈ labelNames) :
    ∀ ch ∈ name.toList, isNameChar ch = true := by
  have checked : (labelNames.all fun name => name.toList.all isNameChar) = true := by decide +kernel
  exact List.all_eq_true.mp (List.all_eq_true.mp checked name known)

/-- The two lists name the same set of labels. -/
def SameLabelSet (first second : List (String × String)) : Prop := first ⊆ second ∧ second ⊆ first

instance (first second : List (String × String)) : Decidable (SameLabelSet first second) :=
  inferInstanceAs (Decidable (_ ∧ _))

def MetricSamples.labelSets (samples : MetricSamples) (id : MetricId) :
    List (List (String × String)) :=
  (samples.series id).map MetricSample.labels

/-- No two of the lists name the same set of labels. -/
def Apart (labelSets : List (List (String × String))) : Prop :=
  labelSets.Pairwise fun first second => ¬ SameLabelSet first second

section LabelSets

variable {id other : MetricId} {labels : List (String × String)}

@[simp]
theorem labelSets_nil : MetricSamples.labelSets [] id = [] := rfl

@[simp]
theorem labelSets_append (left right : MetricSamples) :
    MetricSamples.labelSets (left ++ right) id = left.labelSets id ++ right.labelSets id := by
  simp [MetricSamples.labelSets, MetricSamples.series]

@[simp]
theorem labelSets_flatMap {α : Type} (items : List α) (samples : α → MetricSamples) :
    MetricSamples.labelSets (items.flatMap samples) id =
      items.flatMap fun item => (samples item).labelSets id := by
  induction items with
  | nil => rfl
  | cons item items ih => rw [List.flatMap_cons, labelSets_append, ih, List.flatMap_cons]

@[simp]
theorem labelSets_addSample (value : F64) :
    (addSample other labels value).labelSets id = if other = id then [labels] else [] := by
  by_cases same : other = id <;> simp [addSample, MetricSamples.labelSets, MetricSamples.series, same]

@[simp]
theorem labelSets_addOptionalSample (value : Option F64) :
    (addOptionalSample other labels value).labelSets id =
      if value.isSome ∧ other = id then [labels] else [] := by
  cases value with
  | none => rfl
  | some value =>
    by_cases same : other = id <;>
      simp [addOptionalSample, addSample, MetricSamples.labelSets, MetricSamples.series, same]

@[simp]
theorem labelSets_addOptionalCounterSample (startUnixMs : Int) (value : Option F64) :
    (addOptionalCounterSample other labels startUnixMs value).labelSets id =
      if value.isSome ∧ other = id then [labels] else [] := by
  cases value with
  | none => rfl
  | some value =>
    by_cases same : other = id <;>
      simp [addOptionalCounterSample, MetricSamples.labelSets, MetricSamples.series, same]

@[simp]
theorem labelSets_ite {condition : Prop} [Decidable condition] (left right : MetricSamples) :
    MetricSamples.labelSets (if condition then left else right) id =
      if condition then left.labelSets id else right.labelSets id := by
  split <;> rfl

end LabelSets

def MetricSamples.Each (holds : List (String × String) → Prop) (samples : MetricSamples) : Prop :=
  ∀ entry ∈ samples, holds entry.2.labels

section Each

variable {holds : List (String × String) → Prop} {id : MetricId} {labels : List (String × String)}

@[simp]
theorem each_nil : MetricSamples.Each holds [] := List.forall_mem_nil _

@[simp]
theorem each_append {left right : MetricSamples} :
    MetricSamples.Each holds (left ++ right) ↔ left.Each holds ∧ right.Each holds :=
  List.forall_mem_append

@[simp]
theorem each_flatMap {α : Type} {items : List α} {samples : α → MetricSamples} :
    MetricSamples.Each holds (items.flatMap samples) ↔ ∀ item ∈ items, (samples item).Each holds :=
  List.forall_mem_flatMap

@[simp]
theorem each_ite {condition : Prop} [Decidable condition] {left right : MetricSamples} :
    MetricSamples.Each holds (if condition then left else right) ↔
      (condition → left.Each holds) ∧ (¬condition → right.Each holds) := by
  split <;> simp_all

@[simp]
theorem each_addSample {value : F64} :
    (addSample id labels value).Each holds ↔ holds labels := List.forall_mem_singleton

@[simp]
theorem each_addOptionalSample {value : Option F64} :
    (addOptionalSample id labels value).Each holds ↔ (value.isSome = true → holds labels) := by
  cases value <;> simp [addOptionalSample]

@[simp]
theorem each_addOptionalCounterSample {startUnixMs : Int} {value : Option F64} :
    (addOptionalCounterSample id labels startUnixMs value).Each holds ↔
      (value.isSome = true → holds labels) := by
  cases value <;> simp [addOptionalCounterSample, MetricSamples.Each]

end Each

theorem apart_nil : Apart [] := List.Pairwise.nil

theorem apart_singleton (labels : List (String × String)) : Apart [labels] :=
  List.pairwise_singleton _ _

theorem Apart.sublist {left right : List (List (String × String))} (apart : Apart right)
    (part : left.Sublist right) : Apart left :=
  List.Pairwise.sublist part apart

def HealthKeysDistinct (healthCounts : List SessionHealthCount) : Prop :=
  (healthCounts.map fun count => (count.kind, count.health)).Nodup

theorem apart_healthLabels {healthCounts : List SessionHealthCount}
    (distinct : HealthKeysDistinct healthCounts) :
    Apart (healthCounts.map fun count =>
      [("kind", kindLabel count.kind), ("health", healthLabel count.health)]) := by
  rw [Apart, List.pairwise_map]
  refine (List.pairwise_map.mp distinct).imp ?_
  intro first second differ same
  apply differ
  have kinds : ∀ kind other : SessionKind, kindLabel kind = kindLabel other → kind = other := by
    intro kind other
    cases kind <;> cases other <;> decide
  have healths : ∀ health other : HealthState,
      healthLabel health = healthLabel other → health = other := by
    intro health other
    cases health <;> cases other <;> decide
  have kind := same.1 (List.mem_cons_self)
  have health := same.1 (List.mem_cons_of_mem _ List.mem_cons_self)
  simp only [List.mem_cons, Prod.mk.injEq, true_and, List.not_mem_nil, or_false] at kind health
  have sameKind : kindLabel first.kind = kindLabel second.kind := by
    rcases kind with same | ⟨name, -⟩
    · exact same
    · exact absurd name (by decide)
  have sameHealth : healthLabel first.health = healthLabel second.health := by
    rcases health with ⟨name, -⟩ | same
    · exact absurd name (by decide)
    · exact same
  rw [kinds _ _ sameKind, healths _ _ sameHealth]

theorem apart_ite (condition : Prop) [Decidable condition] (labels : List (String × String)) :
    Apart (if condition then [labels] else []) := by
  split
  · exact apart_singleton labels
  · exact apart_nil

theorem sublist_ite (condition : Prop) [Decidable condition] (labels : List (String × String)) :
    (if condition then [labels] else []).Sublist [labels] := by
  split
  · exact List.Sublist.refl _
  · exact List.nil_sublist _

theorem apart_loops (discovery history snapshot : Prop) [Decidable discovery] [Decidable history]
    [Decidable snapshot] :
    Apart ((if discovery then [] else [[("loop", "discovery")]]) ++
      (if history then [] else [[("loop", "history")]]) ++
        if snapshot then [] else [[("loop", "snapshot")]]) := by
  have all : Apart [[("loop", "discovery")], [("loop", "history")], [("loop", "snapshot")]] := by
    unfold Apart
    decide
  have part : ∀ (hidden : Prop) [Decidable hidden] (labels : List (String × String)),
      (if hidden then [] else [labels]).Sublist [labels] := by
    intro hidden _ labels
    rw [← ite_not]
    exact sublist_ite _ labels
  exact all.sublist (((part discovery _).append (part history _)).append (part snapshot _))

section Collected

variable {config : AppConfig} {observer : ObserverInfo} {summaries : ExportedSummaries}
  {history : Option HistoryStatsSnapshot} {runtime : RuntimeStatsSnapshot}
  {otlpStats : OtlpExporterStatsSnapshot} {options : MetricCollectionOptions}

theorem apart_global (distinct : HealthKeysDistinct summaries.healthCounts) (id : MetricId) :
    Apart ((collectGlobalSamples config observer summaries history runtime otlpStats
      options).labelSets id) := by
  have health := apart_healthLabels distinct
  have unhealthy : (summaries.healthCounts.flatMap fun _ =>
      ([] : List (List (String × String)))) = [] := by simp
  have pairs : Apart [[("kind", "instrumented")], [("kind", "legacy")]] ∧
      Apart [[("severity", "warn")], [("severity", "critical")]] ∧
      Apart [[("result", "success")], [("result", "failure")]] := by
    unfold Apart
    decide
  obtain ⟨kinds, severities, results⟩ := pairs
  unfold collectGlobalSamples addRuntimeLoopSamples
  cases id <;>
    simp only [labelSets_append, labelSets_addSample, labelSets_addOptionalSample,
      labelSets_flatMap, labelSets_ite, labelSets_nil, reduceCtorEq, if_false, if_true, and_false,
      and_true, List.nil_append, List.append_nil, unhealthy, ite_self]
  case sessionsByHealth =>
    rw [List.map_eq_flatMap] at health
    exact health
  all_goals
    first
    | exact apart_nil
    | exact apart_singleton _
    | exact apart_ite _ _
    | exact apart_loops _ _ _
    | exact kinds
    | exact severities
    | exact results

/-- The labels name the session, and no other one. -/
structure Names (session : SessionSummary) (labels : List (String × String)) : Prop where
  named : ("session_id", session.sessionId) ∈ labels
  only : ∀ sessionId, ("session_id", sessionId) ∈ labels → sessionId = session.sessionId

theorem names_infoLabels (session : SessionSummary) : Names session (sessionInfoLabels session) := by
  constructor
  · simp [sessionInfoLabels]
  · intro sessionId member
    simpa [sessionInfoLabels] using member

theorem names_valueLabels (session : SessionSummary) :
    Names session (sessionValueLabels session) := by
  constructor
  · simp [sessionValueLabels]
  · intro sessionId member
    simpa [sessionValueLabels] using member

theorem names_windowLabels (session : SessionSummary) (window : String) :
    Names session (windowLabels (sessionValueLabels session) window) := by
  constructor
  · simp [windowLabels, sessionValueLabels]
  · intro sessionId member
    simpa [windowLabels, sessionValueLabels] using member

def collectSession (session : SessionSummary) : MetricSamples :=
  collectSessionGauges session ++ collectSessionCounters session

theorem names_collectSession (session : SessionSummary) :
    (collectSession session).Each (Names session) := by
  unfold collectSession collectSessionGauges collectSessionCounters addBreakdownSamples
  simp only [each_append, each_addSample, each_addOptionalSample, each_addOptionalCounterSample,
    names_infoLabels, names_valueLabels, names_windowLabels, implies_true, and_self]

theorem apart_bothWindows (session : SessionSummary) :
    Apart ([windowLabels (sessionValueLabels session) "10s"] ++
      [windowLabels (sessionValueLabels session) "60s"]) := by
  refine List.pairwise_pair.mpr fun same => ?_
  have shown : ("window", "10s") ∈ windowLabels (sessionValueLabels session) "10s" := by
    simp [windowLabels]
  have other := same.1 shown
  simp [windowLabels, sessionValueLabels] at other

theorem apart_windows (session : SessionSummary) (first second : Prop) [Decidable first]
    [Decidable second] :
    Apart ((if first then [windowLabels (sessionValueLabels session) "10s"] else []) ++
      if second then [windowLabels (sessionValueLabels session) "60s"] else []) := by
  refine (apart_bothWindows session).sublist (List.Sublist.append ?_ ?_)
  · exact sublist_ite first _
  · exact sublist_ite second _

theorem apart_session (session : SessionSummary) (id : MetricId) :
    Apart ((collectSession session).labelSets id) := by
  unfold collectSession collectSessionGauges collectSessionCounters addBreakdownSamples
  cases id <;>
    simp only [labelSets_append, labelSets_addSample, labelSets_addOptionalSample,
      labelSets_addOptionalCounterSample, reduceCtorEq, if_false, if_true, and_false, and_true,
      List.nil_append, List.append_nil]
  all_goals
    first
    | exact apart_nil
    | exact apart_singleton _
    | exact apart_ite _ _
    | exact apart_bothWindows session
    | exact apart_windows session _ _

theorem labelSets_eq_nil {keep : MetricId → Bool} {samples : MetricSamples}
    (only : MetricSamples.Only keep samples) {id : MetricId} (dropped : keep id = false) :
    samples.labelSets id = [] := by
  rw [MetricSamples.labelSets, List.map_eq_nil_iff, List.eq_nil_iff_forall_not_mem]
  intro sample member
  have kept := only _ (MetricSamples.mem_series.mp member)
  rw [dropped] at kept
  cases kept

theorem only_addOptionalCounterSample {keep : MetricId → Bool} {id : MetricId}
    {labels : List (String × String)} {startUnixMs : Int} {value : Option F64} :
    MetricSamples.Only keep (addOptionalCounterSample id labels startUnixMs value) ↔
      (value.isSome = true → keep id = true) := by
  cases value <;> simp [addOptionalCounterSample, MetricSamples.Only]

theorem collectSession_only (session : SessionSummary) :
    MetricSamples.Only MetricId.isSession (collectSession session) := by
  unfold collectSession collectSessionGauges collectSessionCounters addBreakdownSamples
  simp only [only_append, only_addSample, only_addOptionalSample, only_addOptionalCounterSample,
    MetricId.isSession, implies_true, and_self]

theorem apart_sessions {sessions : List SessionSummary}
    (distinct : (sessions.map SessionSummary.sessionId).Nodup) (id : MetricId) :
    Apart (MetricSamples.labelSets (sessions.flatMap collectSession) id) := by
  rw [labelSets_flatMap, Apart, List.pairwise_flatMap]
  refine ⟨fun session _ => apart_session session id, ?_⟩
  refine (List.pairwise_map.mp distinct).imp ?_
  intro session other differ labels member otherLabels otherMember same
  obtain ⟨sample, stored, rfl⟩ := List.mem_map.mp member
  obtain ⟨otherSample, otherStored, rfl⟩ := List.mem_map.mp otherMember
  have names := names_collectSession session _ (MetricSamples.mem_series.mp stored)
  have others := names_collectSession other _ (MetricSamples.mem_series.mp otherStored)
  exact differ (others.only _ (same.1 names.named))

theorem collectMetricSamples_eq :
    collectMetricSamples config observer summaries history runtime otlpStats options =
      collectGlobalSamples config observer summaries history runtime otlpStats options ++
        if options.detailTier.includesSessions then summaries.sessions.flatMap collectSession
        else [] := rfl

theorem apart_collectMetricSamples (health : HealthKeysDistinct summaries.healthCounts)
    (distinct : (summaries.sessions.map SessionSummary.sessionId).Nodup) (id : MetricId) :
    Apart ((collectMetricSamples config observer summaries history runtime otlpStats
      options).labelSets id) := by
  rw [collectMetricSamples_eq, labelSets_append, labelSets_ite, labelSets_nil]
  cases own : id.isSession with
  | true =>
    have global := collectGlobalSamples_only config observer summaries history runtime otlpStats
      options
    rw [labelSets_eq_nil global (by simp [MetricId.isGlobal, own]), List.nil_append]
    split
    · exact apart_sessions distinct id
    · exact apart_nil
  | false =>
    have none : MetricSamples.labelSets (summaries.sessions.flatMap collectSession) id = [] :=
      labelSets_eq_nil (only_flatMap.mpr fun session _ => collectSession_only session) own
    rw [none, ite_self, List.append_nil]
    exact apart_global health id

def KnownLabels (labels : List (String × String)) : Prop := ∀ label ∈ labels, label.1 ∈ labelNames

theorem known_collectSession (session : SessionSummary) :
    (collectSession session).Each KnownLabels := by
  have info : KnownLabels (sessionInfoLabels session) := by
    simp [KnownLabels, sessionInfoLabels, labelNames]
  have value : KnownLabels (sessionValueLabels session) := by
    simp [KnownLabels, sessionValueLabels, labelNames]
  have window : ∀ window, KnownLabels (windowLabels (sessionValueLabels session) window) := by
    simp [KnownLabels, windowLabels, sessionValueLabels, labelNames]
  unfold collectSession collectSessionGauges collectSessionCounters addBreakdownSamples
  simp only [each_append, each_addSample, each_addOptionalSample, each_addOptionalCounterSample,
    info, value, window, implies_true, and_self]

theorem known_collectMetricSamples :
    (collectMetricSamples config observer summaries history runtime otlpStats options).Each
      KnownLabels := by
  rw [collectMetricSamples_eq, each_append, each_ite, each_flatMap]
  refine ⟨?_, fun _ session _ => known_collectSession session, fun _ => each_nil⟩
  unfold collectGlobalSamples addRuntimeLoopSamples
  simp only [each_append, each_addSample, each_addOptionalSample, each_ite, each_flatMap, each_nil]
  simp [KnownLabels, labelNames]

end Collected

namespace ServiceState

theorem healthKeys_countHealth (healthCounts : List SessionHealthCount) (summary : SessionSummary) :
    ((countHealth healthCounts summary).map fun count => (count.kind, count.health)) =
      healthCounts.map fun count => (count.kind, count.health) := by
  rw [countHealth, List.map_map]
  refine List.map_congr_left fun count _ => ?_
  rw [Function.comp_apply]
  split <;> rfl

theorem healthKeysDistinct_export (state : ServiceState) (nowMs : Int) (limit : Nat) :
    HealthKeysDistinct (state.exportSummaries nowMs limit).healthCounts := by
  have kept : ∀ (summaries : List SessionSummary) (healthCounts : List SessionHealthCount),
      HealthKeysDistinct healthCounts →
        HealthKeysDistinct (summaries.foldl countHealth healthCounts) := by
    intro summaries
    induction summaries with
    | nil => exact fun _ distinct => distinct
    | cons summary summaries ih =>
      intro healthCounts distinct
      refine ih _ ?_
      rw [HealthKeysDistinct, healthKeys_countHealth]
      exact distinct
  exact kept _ _ (by unfold HealthKeysDistinct; decide)

theorem sessionIds_nodup_export (config : AppConfig) (operations : List Operation) (nowMs : Int)
    (limit : Nat) :
    ((((run config operations).exportSummaries nowMs limit).sessions).map
      SessionSummary.sessionId).Nodup := by
  have ids : ∀ entry ∈ (run config operations).sessions.entries,
      (materializeSummary (run config operations).config entry.2 nowMs).sessionId = entry.1 := by
    intro entry member
    have traces := Journal.traces operations entry.1 entry.2
      (by rw [Journal.run_state]; exact AList.mem_lookup_iff.mpr member)
    exact traces.identified.sessionId
  have keys : ((run config operations).sessions.entries.map fun entry =>
      materializeSummary (run config operations).config entry.2 nowMs).map
        SessionSummary.sessionId = (run config operations).sessions.entries.map Sigma.fst := by
    rw [List.map_map]
    exact List.map_congr_left ids
  have part := subperm_foldl_collectBounded limit
    ((run config operations).sessions.entries.map fun entry =>
      materializeSummary (run config operations).config entry.2 nowMs) []
  rw [List.append_nil] at part
  obtain ⟨selected, perm, sublist⟩ := part
  have distinct : ((run config operations).sessions.entries.map Sigma.fst).Nodup :=
    (run config operations).sessions.nodupKeys
  rw [← keys] at distinct
  exact (perm.map SessionSummary.sessionId).nodup_iff.mp (distinct.sublist (sublist.map _))

end ServiceState

/-- The samples that the listener and the Unix socket show. -/
def prometheusSamples (config : AppConfig) (observer : ObserverInfo) (summaries : ExportedSummaries)
    (history : Option HistoryStatsSnapshot) (runtime : RuntimeStatsSnapshot)
    (otlpStats : OtlpExporterStatsSnapshot) : MetricSamples :=
  collectMetricSamples config observer summaries history runtime otlpStats
    { detailTier := config.metrics.prometheus.detailTier
      includeObserverInfo := config.metrics.prometheus.detailTier.includesSessions }

/-- Where values are shown exactly, a reader of either format finds a line for each collected
    sample, and from the lines the samples and nothing else. -/
theorem exposition_unambiguous (display : F64 → String) (parse : String → Option F64)
    (config : AppConfig) (operations : List Operation) (nowMs : Int) (limit : Nat)
    (observer : ObserverInfo) (history : Option HistoryStatsSnapshot)
    (runtime : RuntimeStatsSnapshot) (otlpStats : OtlpExporterStatsSnapshot)
    (format : MetricsTextFormat) :
    let summaries := (ServiceState.run config operations).exportSummaries nowMs limit
    let samples := prometheusSamples config observer summaries history runtime otlpStats
    let text := renderMetrics display config observer summaries history runtime otlpStats format
    (∀ entry ∈ samples, ShownExactly display parse entry.2.value) →
      (sampleLines text.toList).Perm (samples.map fun entry =>
        sampleLineChars display entry.1.seriesName entry.2) ∧
      (∃ read, readExposition parse text = some read ∧ read.Perm (samples.map readSampleOf)) ∧
      Function.Injective MetricId.seriesName ∧
      ∀ id, (samples.series id).Pairwise fun first second =>
        ¬ SameLabelSet first.labels second.labels := by
  intro summaries samples text shown
  have readable : Readable display parse samples := by
    refine ⟨?_, shown⟩
    intro entry member label among
    exact labelNames_plain (known_collectMetricSamples entry member label among)
  have perm := inCatalogOrder_perm samples
  refine ⟨?_, ⟨_, readExposition_render readable format, perm.map _⟩, seriesName_injective, ?_⟩
  · change (sampleLines (renderMetricSamples display samples format).toList).Perm _
    rw [sampleLines_eq readable format]
    exact perm.map _
  · intro id
    have apart : Apart (samples.labelSets id) := apart_collectMetricSamples
      (ServiceState.healthKeysDistinct_export _ nowMs limit)
      (ServiceState.sessionIds_nodup_export config operations nowMs limit) id
    exact List.pairwise_map.mp apart

/-- A display of whole numbers, and its reader. -/
def displayWhole : F64 → String
  | .finite value _ => toString value.num
  | _ => "NaN"

def parseWhole (text : String) : Option F64 :=
  (parseI64 text.toList).map .ofInt

def forgingObserver : ObserverInfo := ⟨"a\"\x7d 1\nmoshwatch_sessions 7\n# EOF\n", "\\\",kind=\"legacy"⟩

def plainTick : List Operation :=
  [.telemetry { event := .sessionTick, pid := 1, unixMs := 1000, packetsTxTotal := some 3 } 10 1000
    rfl]

/-- The reader gets back the names that imitate other lines. -/
theorem exposition_unambiguous_forging :
    ∃ read, readExposition parseWhole (renderMetrics displayWhole {} forgingObserver
        ((ServiceState.run {} plainTick).exportSummaries 2000 10) none {} {} .openMetricsText) =
          some read ∧
      read.Perm ((prometheusSamples {} forgingObserver
        ((ServiceState.run {} plainTick).exportSummaries 2000 10) none {} {}).map readSampleOf) ∧
      ⟨"moshwatch_observer_info",
        [("node_name", forgingObserver.nodeName), ("system_id", forgingObserver.systemId)],
        .ofNat 1⟩ ∈ read := by
  have checked : ((prometheusSamples {} forgingObserver
      ((ServiceState.run {} plainTick).exportSummaries 2000 10) none {} {}).all fun entry =>
        (displayWhole entry.2.value).toList.all (· ≠ '\n') &&
          parseWhole (displayWhole entry.2.value) == some entry.2.value) = true := by
    decide +kernel
  have shown : ∀ entry ∈ prometheusSamples {} forgingObserver
      ((ServiceState.run {} plainTick).exportSummaries 2000 10) none {} {},
      ShownExactly displayWhole parseWhole entry.2.value := by
    intro entry member
    have both := List.all_eq_true.mp checked entry member
    rw [Bool.and_eq_true, beq_iff_eq, List.all_eq_true] at both
    refine ⟨fun newline => ?_, both.2⟩
    exact absurd (both.1 _ newline) (by decide)
  obtain ⟨-, ⟨read, parsed, perm⟩, -⟩ := exposition_unambiguous displayWhole parseWhole {} plainTick
    2000 10 forgingObserver none {} {} .openMetricsText shown
  refine ⟨read, parsed, perm, perm.symm.subset ?_⟩
  decide +kernel

end Moshwatch
