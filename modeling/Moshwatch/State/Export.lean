import Moshwatch.State.View

namespace Moshwatch

structure SessionHealthCount where
  kind : SessionKind
  health : HealthState
  sessions : Nat
  deriving DecidableEq

structure ExportedSummaries where
  sessions : List SessionSummary
  totalSessions : Nat
  truncatedSessionCount : Nat
  instrumentedSessions : Nat
  legacySessions : Nat
  healthCounts : List SessionHealthCount
  droppedSessionsTotal : Nat
  deriving DecidableEq

def severity : HealthState → Nat
  | .critical => 3
  | .degraded => 2
  | .legacy => 1
  | .ok => 0

/-- `Option<f64>::partial_cmp`: `None` comes first. -/
def partialCmpOption : Option F64 → Option F64 → Option Ordering
  | none, none => some .eq
  | none, some _ => some .lt
  | some _, none => some .gt
  | some left, some right => left.partialCmp right

def compareSummaries (left right : SessionSummary) : Ordering :=
  (compare (severity right.health) (severity left.health)).then <|
    ((partialCmpOption right.metrics.srttMs left.metrics.srttMs).getD .eq).then <|
      compare left.sessionId right.sessionId

/-- `sort_by(compare_summaries)`, which is stable. -/
def sortSummaries (sessions : List SessionSummary) : List SessionSummary :=
  sessions.mergeSort fun left right => compareSummaries left right ≠ .gt

def initialHealthCounts : List SessionHealthCount :=
  [SessionKind.instrumented, .legacy].flatMap fun kind =>
    [HealthState.ok, .degraded, .critical, .legacy].map fun health =>
      { kind, health, sessions := 0 }

def countHealth (healthCounts : List SessionHealthCount) (summary : SessionSummary) :
    List SessionHealthCount :=
  healthCounts.map fun count =>
    if count.kind = summary.kind ∧ count.health = summary.health then
      { count with sessions := count.sessions + 1 }
    else count

/-- The sessions collected so far: at most `limit`, the first in the order of the listing. -/
def collectBounded (limit : Nat) (sessions : List SessionSummary) (summary : SessionSummary) :
    List SessionSummary :=
  if limit = 0 then sessions
  else
    let sorted := sortSummaries (sessions ++ [summary])
    if limit < sorted.length then sorted.dropLast else sorted

namespace ServiceState

def summaries (state : ServiceState) (nowMs : Int) : List SessionSummary :=
  sortSummaries (state.sessions.entries.map fun entry =>
    materializeSummary state.config entry.2 nowMs)

/-- The loop over `sessions.values()` updates one accumulator for each of the results. -/
def exportSummaries (state : ServiceState) (nowMs : Int) (limit : Nat) : ExportedSummaries :=
  let materialized := state.sessions.entries.map fun entry =>
    materializeSummary state.config entry.2 nowMs
  let sessions := materialized.foldl (collectBounded limit) []
  let instrumentedSessions := materialized.countP fun summary => summary.kind = .instrumented
  let legacySessions := materialized.countP fun summary => summary.kind = .legacy
  let totalSessions := instrumentedSessions + legacySessions
  { sessions
    totalSessions
    truncatedSessionCount := totalSessions - sessions.length
    instrumentedSessions
    legacySessions
    healthCounts := materialized.foldl countHealth initialHealthCounts
    droppedSessionsTotal := state.droppedSessionsTotal }

end ServiceState

theorem subperm_collectBounded (limit : Nat) (sessions : List SessionSummary)
    (summary : SessionSummary) :
    (collectBounded limit sessions summary).Subperm (summary :: sessions) := by
  have sorted : (sortSummaries (sessions ++ [summary])).Perm (summary :: sessions) :=
    (List.mergeSort_perm _ _).trans List.perm_append_comm
  unfold collectBounded
  split
  · exact (List.sublist_cons_self _ _).subperm
  · simp only
    split
    · exact (List.dropLast_sublist _).subperm.trans sorted.subperm
    · exact sorted.subperm

theorem subperm_foldl_collectBounded (limit : Nat) (summaries : List SessionSummary) :
    ∀ sessions, (summaries.foldl (collectBounded limit) sessions).Subperm (summaries ++ sessions) := by
  induction summaries with
  | nil => exact fun sessions => List.Subperm.refl sessions
  | cons summary summaries ih =>
    intro sessions
    refine (ih _).trans ?_
    refine ((List.subperm_append_left summaries).mpr
      (subperm_collectBounded limit sessions summary)).trans ?_
    exact List.perm_middle.subperm

theorem mem_collectBounded {limit : Nat} {sessions : List SessionSummary}
    {collected summary : SessionSummary} (member : summary ∈ collectBounded limit sessions collected) :
    summary ∈ sessions ∨ summary = collected :=
  (List.mem_cons.mp ((subperm_collectBounded limit sessions collected).subset member)).symm

theorem ServiceState.mem_exportSummaries {state : ServiceState} {nowMs : Int} {limit : Nat}
    {summary : SessionSummary} (member : summary ∈ (state.exportSummaries nowMs limit).sessions) :
    ∃ key record, state.sessions.lookup key = some record ∧
      summary = materializeSummary state.config record nowMs := by
  have collected := (subperm_foldl_collectBounded limit _ []).subset member
  rw [List.append_nil] at collected
  obtain ⟨entry, tracked, same⟩ := List.mem_map.mp collected
  exact ⟨entry.1, entry.2, AList.mem_lookup_iff.mpr tracked, same.symm⟩

end Moshwatch
