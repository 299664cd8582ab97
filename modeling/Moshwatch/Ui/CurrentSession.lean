import Moshwatch.Core.Protocol
import Moshwatch.General.Chain

namespace Moshwatch

structure ProcessIdentity where
  pid : Int32
  parentPid : Int32
  startedAtUnixMs : Int
  deriving DecidableEq, Repr

/-- One round of the loop in `match_session_by_ancestry`, after the check of `visited`. -/
def visitProcess (summaries : List SessionSummary) (lookup : Int32 → Option ProcessIdentity)
    (currentPid : Int32) : Visit Int32 String :=
  match lookup currentPid with
  | none => .stop
  | some identity =>
    let sessionId := summaries.findSome? fun summary =>
      if summary.pid = identity.pid.toInt ∧ summary.startedAtUnixMs = identity.startedAtUnixMs then
        some summary.sessionId
      else none
    match sessionId with
    | some sessionId => .found sessionId
    | none =>
      if identity.parentPid ≤ 0 ∨ identity.parentPid = identity.pid then .stop
      else .next identity.parentPid

/-- The outer `none` says that the loop has not ended within its fuel. -/
def matchSessionByAncestry (fuel : Nat) (summaries : List SessionSummary) (startPid : Int32)
    (lookup : Int32 → Option ProcessIdentity) : Option (Option String) :=
  Visit.walk (visitProcess summaries lookup) fuel startPid []

def displayedSessionId (summaries : List SessionSummary) (displaySessionId : Option String) :
    Option String :=
  displaySessionId.bind fun displaySessionId =>
    summaries.findSome? fun summary =>
      if summary.displaySessionId = some displaySessionId then some summary.sessionId else none

def resolveCurrentSessionIdWithLookup (fuel : Nat) (summaries : List SessionSummary)
    (explicitDisplaySessionId : Option String) (tmuxClientPid : Option Int32) (currentPid : Int32)
    (lookup : Int32 → Option ProcessIdentity) : Option (Option String) := do
  let client ← match tmuxClientPid with
    | some tmuxClientPid => matchSessionByAncestry fuel summaries tmuxClientPid lookup
    | none => some none
  match client, displayedSessionId summaries explicitDisplaySessionId with
  | some sessionId, _ => some (some sessionId)
  | none, some sessionId => some (some sessionId)
  | none, none => matchSessionByAncestry fuel summaries currentPid lookup

namespace CurrentSession

/-- The first summary with a property, by its session id. -/
def FirstSummary (summaries : List SessionSummary) (holds : SessionSummary → Prop)
    (sessionId : String) : Prop :=
  ∃ before summary after, summaries = before ++ summary :: after ∧ holds summary ∧
    (∀ earlier ∈ before, ¬ holds earlier) ∧ summary.sessionId = sessionId

theorem findSome_eq_some_iff {summaries : List SessionSummary} {holds : SessionSummary → Prop}
    [DecidablePred holds] {sessionId : String} :
    (summaries.findSome? fun summary => if holds summary then some summary.sessionId else none) =
      some sessionId ↔ FirstSummary summaries holds sessionId := by
  rw [List.findSome?_eq_some_iff]
  apply exists_congr
  intro before
  apply exists_congr
  intro summary
  apply exists_congr
  intro after
  apply and_congr_right
  intro _
  by_cases held : holds summary
  · simp [held, and_comm]
  · simp [held]

theorem findSome_eq_none_iff {summaries : List SessionSummary} {holds : SessionSummary → Prop}
    [DecidablePred holds] :
    (summaries.findSome? fun summary => if holds summary then some summary.sessionId else none) =
      none ↔ ∀ summary ∈ summaries, ¬ holds summary := by
  simp

variable (summaries : List SessionSummary) (lookup : Int32 → Option ProcessIdentity)

def parentOf (pid : Int32) : Option Int32 :=
  (lookup pid).bind fun identity =>
    if 0 < identity.parentPid ∧ identity.parentPid ≠ pid then some identity.parentPid else none

def ancestor (startPid : Int32) : Nat → Option Int32
  | 0 => some startPid
  | distance + 1 => (ancestor startPid distance).bind (parentOf lookup)

def Matches (pid : Int32) (startedAtUnixMs : Int) (summary : SessionSummary) : Prop :=
  summary.pid = pid.toInt ∧ summary.startedAtUnixMs = startedAtUnixMs

instance (pid : Int32) (startedAtUnixMs : Int) :
    DecidablePred (Matches pid startedAtUnixMs) := fun summary =>
  inferInstanceAs (Decidable (summary.pid = pid.toInt ∧ summary.startedAtUnixMs = startedAtUnixMs))

def Unmatched (pid : Int32) : Prop :=
  ∀ identity, lookup pid = some identity →
    ∀ summary ∈ summaries, ¬ Matches pid identity.startedAtUnixMs summary

/-- The session of the nearest ancestor-or-self that any summary matches. -/
def NearestMatch (startPid : Int32) (sessionId : String) : Prop :=
  ∃ distance pid identity, ancestor lookup startPid distance = some pid ∧
    lookup pid = some identity ∧
    FirstSummary summaries (Matches pid identity.startedAtUnixMs) sessionId ∧
    ∀ nearer < distance, ∀ descendant, ancestor lookup startPid nearer = some descendant →
      Unmatched summaries lookup descendant

/-- The chain ends before any match: the process is missing, it has no parent of its own, or it came
    up before. -/
def EndsUnmatched (startPid : Int32) : Prop :=
  ∃ distance pid, ancestor lookup startPid distance = some pid ∧
    (∀ nearer ≤ distance, ∀ descendant, ancestor lookup startPid nearer = some descendant →
      Unmatched summaries lookup descendant) ∧
    (lookup pid = none ∨
      (∃ identity, lookup pid = some identity ∧
        (identity.parentPid ≤ 0 ∨ identity.parentPid = pid)) ∨
      ∃ earlier < distance, ancestor lookup startPid earlier = some pid)

section Visits

variable {summaries lookup}
variable (honest : ∀ pid identity, lookup pid = some identity → identity.pid = pid)

include honest

theorem visitProcess_of_some {pid : Int32} {identity : ProcessIdentity}
    (present : lookup pid = some identity) :
    visitProcess summaries lookup pid =
      match summaries.findSome? fun summary =>
        if Matches pid identity.startedAtUnixMs summary then some summary.sessionId else none with
      | some sessionId => .found sessionId
      | none =>
        if identity.parentPid ≤ 0 ∨ identity.parentPid = pid then .stop
        else .next identity.parentPid := by
  simp only [visitProcess, present, honest pid identity present]
  rfl

theorem visitProcess_eq_found_iff {pid : Int32} {sessionId : String} :
    visitProcess summaries lookup pid = .found sessionId ↔
      ∃ identity, lookup pid = some identity ∧
        FirstSummary summaries (Matches pid identity.startedAtUnixMs) sessionId := by
  cases present : lookup pid with
  | none => simp [visitProcess, present]
  | some identity =>
    rw [visitProcess_of_some honest present]
    simp only [Option.some.injEq, exists_eq_left', ← findSome_eq_some_iff]
    split
    · rename_i first eq
      rw [eq]
      simp
    · rename_i eq
      rw [eq]
      split <;> simp

omit honest in
theorem unmatched_iff_of_some {pid : Int32} {identity : ProcessIdentity}
    (present : lookup pid = some identity) :
    Unmatched summaries lookup pid ↔
      ∀ summary ∈ summaries, ¬ Matches pid identity.startedAtUnixMs summary := by
  simp [Unmatched, present]

theorem visitProcess_eq_next_iff {pid parent : Int32} :
    visitProcess summaries lookup pid = .next parent ↔
      Unmatched summaries lookup pid ∧ parentOf lookup pid = some parent := by
  cases present : lookup pid with
  | none => simp [visitProcess, parentOf, present]
  | some identity =>
    rw [visitProcess_of_some honest present, unmatched_iff_of_some present,
      ← findSome_eq_none_iff]
    simp only [parentOf, present, Option.bind_some]
    split
    · rename_i first eq
      simp [eq]
    · rename_i eq
      rw [eq]
      by_cases ends : identity.parentPid ≤ 0 ∨ identity.parentPid = pid
      · have orphan : ¬ (0 < identity.parentPid ∧ identity.parentPid ≠ pid) := by
          rw [← Int32.not_le, ← not_or, not_not]
          exact ends
        rw [if_pos ends, if_neg orphan]
        simp
      · have child : 0 < identity.parentPid ∧ identity.parentPid ≠ pid := by
          rw [← Int32.not_le, ← not_or]
          exact ends
        rw [if_neg ends, if_pos child]
        simp

theorem visitProcess_eq_stop_iff {pid : Int32} :
    visitProcess summaries lookup pid = .stop ↔
      Unmatched summaries lookup pid ∧
        (lookup pid = none ∨ ∃ identity, lookup pid = some identity ∧
          (identity.parentPid ≤ 0 ∨ identity.parentPid = pid)) := by
  cases present : lookup pid with
  | none => simp [visitProcess, Unmatched, present]
  | some identity =>
    rw [visitProcess_of_some honest present, unmatched_iff_of_some present,
      ← findSome_eq_none_iff]
    split
    · rename_i first eq
      simp [eq]
    · rename_i eq
      by_cases ends : identity.parentPid ≤ 0 ∨ identity.parentPid = pid
      · rw [if_pos ends]
        simpa [eq] using ends
      · rw [if_neg ends]
        simpa [eq] using ends

theorem trail_eq_some_iff {startPid : Int32} {distance : Nat} {pid : Int32} :
    Visit.trail (visitProcess summaries lookup) distance startPid = some pid ↔
      ancestor lookup startPid distance = some pid ∧
        ∀ nearer < distance, ∀ descendant, ancestor lookup startPid nearer = some descendant →
          Unmatched summaries lookup descendant := by
  induction distance generalizing pid with
  | zero => simp [Visit.trail, ancestor]
  | succ distance ih =>
    have last : ∀ child, Visit.trail (visitProcess summaries lookup) 1 child = some pid ↔
        Unmatched summaries lookup child ∧ parentOf lookup child = some pid := by
      intro child
      rw [← visitProcess_eq_next_iff honest]
      simp only [Visit.trail]
      split <;> simp_all
    rw [Visit.trail_add, Option.bind_eq_some_iff]
    simp only [ih, last, ancestor, Option.bind_eq_some_iff]
    constructor
    · rintro ⟨child, ⟨reached, unmatched⟩, unmatchedChild, parent⟩
      refine ⟨⟨child, reached, parent⟩, ?_⟩
      intro nearer lt descendant between
      rcases Nat.lt_succ_iff_lt_or_eq.mp lt with lt | rfl
      · exact unmatched nearer lt descendant between
      · rw [reached] at between
        cases between
        exact unmatchedChild
    · rintro ⟨⟨child, reached, parent⟩, unmatched⟩
      refine ⟨child, ⟨reached, ?_⟩, unmatched distance (Nat.lt_succ_self _) child reached, parent⟩
      intro nearer lt
      exact unmatched nearer (Nat.lt_succ_of_lt lt)

theorem finds_iff_nearestMatch {startPid : Int32} {sessionId : String} :
    Visit.Finds (visitProcess summaries lookup) startPid sessionId ↔
      NearestMatch summaries lookup startPid sessionId := by
  simp only [Visit.Finds, NearestMatch, trail_eq_some_iff honest,
    visitProcess_eq_found_iff honest]
  constructor
  · rintro ⟨distance, pid, ⟨reached, unmatched⟩, identity, present, first⟩
    exact ⟨distance, pid, identity, reached, present, first, unmatched⟩
  · rintro ⟨distance, pid, identity, reached, present, first, unmatched⟩
    exact ⟨distance, pid, ⟨reached, unmatched⟩, identity, present, first⟩

theorem ends_iff_endsUnmatched {startPid : Int32} :
    Visit.Ends (visitProcess summaries lookup) startPid ↔
      EndsUnmatched summaries lookup startPid := by
  simp only [Visit.Ends, EndsUnmatched, trail_eq_some_iff honest, visitProcess_eq_stop_iff honest]
  constructor
  · rintro ⟨distance, pid, ⟨reached, unmatched⟩, ending⟩
    refine ⟨distance, pid, reached, ?_, ?_⟩
    · intro nearer le descendant between
      rcases Nat.lt_or_eq_of_le le with lt | rfl
      · exact unmatched nearer lt descendant between
      · rw [reached] at between
        cases between
        rcases ending with ⟨unmatchedPid, -⟩ | ⟨earlier, lt, before, -⟩
        · exact unmatchedPid
        · exact unmatched earlier lt pid before
    · rcases ending with ⟨-, last⟩ | ⟨earlier, lt, before, -⟩
      · rcases last with missing | orphan
        · exact .inl missing
        · exact .inr (.inl orphan)
      · exact .inr (.inr ⟨earlier, lt, before⟩)
  · rintro ⟨distance, pid, reached, unmatched, ending⟩
    have before : ∀ nearer < distance, ∀ descendant,
        ancestor lookup startPid nearer = some descendant →
          Unmatched summaries lookup descendant := by
      intro nearer lt
      exact unmatched nearer lt.le
    refine ⟨distance, pid, ⟨reached, before⟩, ?_⟩
    rcases ending with missing | orphan | ⟨earlier, lt, seen⟩
    · exact .inl ⟨unmatched distance le_rfl pid reached, .inl missing⟩
    · exact .inl ⟨unmatched distance le_rfl pid reached, .inr orphan⟩
    · refine .inr ⟨earlier, lt, seen, ?_⟩
      intro nearer closer
      exact before nearer (closer.trans lt)

end Visits

theorem length_le_of_nodup (pids : List Int32) (nodup : pids.Nodup) : pids.length ≤ 2 ^ 32 := by
  have distinct : (pids.map Int32.toInt).Nodup := nodup.map fun _ _ eq => Int32.toInt_inj.mp eq
  have within : (pids.map Int32.toInt).toFinset ⊆ Finset.Ico (-2 ^ 31) (2 ^ 31) := by
    intro value member
    obtain ⟨pid, -, rfl⟩ := List.mem_map.mp (List.mem_toFinset.mp member)
    exact Finset.mem_Ico.mpr ⟨pid.le_toInt, pid.toInt_lt⟩
  have few := Finset.card_le_card within
  rw [List.toFinset_card_of_nodup distinct, List.length_map, Int.card_Ico] at few
  simpa using few

/-- The search ends for every lookup, and decides between the nearest match and a chain without
    one. -/
theorem matchSessionByAncestry_spec (summaries : List SessionSummary)
    {lookup : Int32 → Option ProcessIdentity}
    (honest : ∀ pid identity, lookup pid = some identity → identity.pid = pid)
    {fuel : Nat} (enough : 2 ^ 32 < fuel) (startPid : Int32) :
    ∃ outcome, matchSessionByAncestry fuel summaries startPid lookup = some outcome ∧
      (∀ sessionId, outcome = some sessionId ↔
        NearestMatch summaries lookup startPid sessionId) ∧
      (outcome = none ↔ EndsUnmatched summaries lookup startPid) := by
  obtain ⟨outcome, finished, found, ended⟩ :=
    Visit.walk_spec (visitProcess summaries lookup) length_le_of_nodup enough startPid
  refine ⟨outcome, finished, ?_, ?_⟩
  · intro sessionId
    rw [found, finds_iff_nearestMatch honest]
  · rw [ended, ends_iff_endsUnmatched honest]

def FirstDisplayed (summaries : List SessionSummary) (displaySessionId : String) :
    String → Prop :=
  FirstSummary summaries fun summary => summary.displaySessionId = some displaySessionId

def Undisplayed (summaries : List SessionSummary) (displaySessionId : String) : Prop :=
  ∀ summary ∈ summaries, summary.displaySessionId ≠ some displaySessionId

/-- The tmux client's session if it has one, else the first with the explicit display id, else that
    of the process itself. -/
def Resolved (summaries : List SessionSummary) (lookup : Int32 → Option ProcessIdentity)
    (explicitDisplaySessionId : Option String) (tmuxClientPid : Option Int32) (currentPid : Int32)
    (sessionId : String) : Prop :=
  (∃ client, tmuxClientPid = some client ∧ NearestMatch summaries lookup client sessionId) ∨
    (∀ client, tmuxClientPid = some client → EndsUnmatched summaries lookup client) ∧
      ((∃ display, explicitDisplaySessionId = some display ∧
          FirstDisplayed summaries display sessionId) ∨
        (∀ display, explicitDisplaySessionId = some display → Undisplayed summaries display) ∧
          NearestMatch summaries lookup currentPid sessionId)

theorem resolve_of_client {fuel : Nat} {summaries : List SessionSummary}
    {explicitDisplaySessionId : Option String} {client currentPid : Int32} {sessionId : String}
    {lookup : Int32 → Option ProcessIdentity}
    (found : matchSessionByAncestry fuel summaries client lookup = some (some sessionId)) :
    resolveCurrentSessionIdWithLookup fuel summaries explicitDisplaySessionId (some client)
      currentPid lookup = some (some sessionId) := by
  simp [resolveCurrentSessionIdWithLookup, found]

theorem resolve_of_no_client {fuel : Nat} {summaries : List SessionSummary}
    {explicitDisplaySessionId : Option String} {tmuxClientPid : Option Int32} {currentPid : Int32}
    {lookup : Int32 → Option ProcessIdentity}
    (unmatched : ∀ client, tmuxClientPid = some client →
      matchSessionByAncestry fuel summaries client lookup = some none) :
    resolveCurrentSessionIdWithLookup fuel summaries explicitDisplaySessionId tmuxClientPid
        currentPid lookup =
      match displayedSessionId summaries explicitDisplaySessionId with
      | some sessionId => some (some sessionId)
      | none => matchSessionByAncestry fuel summaries currentPid lookup := by
  cases tmuxClientPid with
  | none =>
    simp only [resolveCurrentSessionIdWithLookup, Option.bind_eq_bind, Option.bind_some]
    cases displayedSessionId summaries explicitDisplaySessionId <;> rfl
  | some client =>
    simp only [resolveCurrentSessionIdWithLookup, unmatched client rfl, Option.bind_eq_bind,
      Option.bind_some]
    cases displayedSessionId summaries explicitDisplaySessionId <;> rfl

theorem displayedSessionId_eq_some_iff {summaries : List SessionSummary}
    {explicitDisplaySessionId : Option String} {sessionId : String} :
    displayedSessionId summaries explicitDisplaySessionId = some sessionId ↔
      ∃ display, explicitDisplaySessionId = some display ∧
        FirstDisplayed summaries display sessionId := by
  simp only [displayedSessionId, Option.bind_eq_some_iff, findSome_eq_some_iff, FirstDisplayed]

theorem displayedSessionId_eq_none_iff {summaries : List SessionSummary}
    {explicitDisplaySessionId : Option String} :
    displayedSessionId summaries explicitDisplaySessionId = none ↔
      ∀ display, explicitDisplaySessionId = some display → Undisplayed summaries display := by
  simp only [displayedSessionId, Option.bind_eq_none_iff, findSome_eq_none_iff, Undisplayed, ne_eq]

/-- The resolution without a match for the tmux client: the display id goes before the process. -/
theorem resolve_unmatched {summaries : List SessionSummary}
    {lookup : Int32 → Option ProcessIdentity}
    (honest : ∀ pid identity, lookup pid = some identity → identity.pid = pid)
    {fuel : Nat} (enough : 2 ^ 32 < fuel) (explicitDisplaySessionId : Option String)
    {tmuxClientPid : Option Int32} (currentPid : Int32)
    (unmatched : ∀ client, tmuxClientPid = some client →
      matchSessionByAncestry fuel summaries client lookup = some none) :
    ∃ outcome, resolveCurrentSessionIdWithLookup fuel summaries explicitDisplaySessionId
        tmuxClientPid currentPid lookup = some outcome ∧
      ∀ sessionId, outcome = some sessionId ↔
        (∃ display, explicitDisplaySessionId = some display ∧
            FirstDisplayed summaries display sessionId) ∨
          (∀ display, explicitDisplaySessionId = some display → Undisplayed summaries display) ∧
            NearestMatch summaries lookup currentPid sessionId := by
  rw [resolve_of_no_client unmatched]
  cases named : displayedSessionId summaries explicitDisplaySessionId with
  | some first =>
    refine ⟨some first, rfl, ?_⟩
    intro sessionId
    rw [← displayedSessionId_eq_some_iff, ← displayedSessionId_eq_none_iff, named]
    simp
  | none =>
    obtain ⟨outcome, finished, found, -⟩ :=
      matchSessionByAncestry_spec summaries honest enough currentPid
    refine ⟨outcome, finished, ?_⟩
    intro sessionId
    rw [found, ← displayedSessionId_eq_some_iff, ← displayedSessionId_eq_none_iff, named]
    simp

theorem resolve_spec (summaries : List SessionSummary) {lookup : Int32 → Option ProcessIdentity}
    (honest : ∀ pid identity, lookup pid = some identity → identity.pid = pid)
    {fuel : Nat} (enough : 2 ^ 32 < fuel) (explicitDisplaySessionId : Option String)
    (tmuxClientPid : Option Int32) (currentPid : Int32) :
    ∃ outcome, resolveCurrentSessionIdWithLookup fuel summaries explicitDisplaySessionId
        tmuxClientPid currentPid lookup = some outcome ∧
      ∀ sessionId, outcome = some sessionId ↔
        Resolved summaries lookup explicitDisplaySessionId tmuxClientPid currentPid sessionId := by
  cases tmuxClientPid with
  | none =>
    obtain ⟨outcome, finished, meaning⟩ :=
      resolve_unmatched honest enough explicitDisplaySessionId currentPid
        (fun client (none : Option.none = some client) => by contradiction)
    refine ⟨outcome, finished, ?_⟩
    intro sessionId
    rw [meaning]
    simp [Resolved]
  | some client =>
    obtain ⟨first, search, nearest, ended⟩ :=
      matchSessionByAncestry_spec summaries honest enough client
    cases first with
    | some first =>
      refine ⟨some first, resolve_of_client search, ?_⟩
      intro sessionId
      have continues : ¬ EndsUnmatched summaries lookup client := by
        rw [← ended]
        simp
      simp only [Resolved, Option.some.injEq, exists_eq_left', forall_eq', continues, false_and,
        or_false]
      rw [← nearest sessionId, Option.some.injEq]
    | none =>
      have unmatched : ∀ other, some client = some other →
          matchSessionByAncestry fuel summaries other lookup = some none := by
        rintro _ ⟨⟩
        exact search
      obtain ⟨outcome, finished, meaning⟩ :=
        resolve_unmatched honest enough explicitDisplaySessionId currentPid unmatched
      refine ⟨outcome, finished, ?_⟩
      intro sessionId
      have ends : EndsUnmatched summaries lookup client := ended.mp rfl
      have unfound : ¬ NearestMatch summaries lookup client sessionId := by
        rw [← nearest]
        simp
      rw [meaning]
      simp [Resolved, ends, unfound]

/-- For every lookup that answers for the pid it is asked, whatever cycles its parents form. -/
theorem current_session_is_nearest (summaries : List SessionSummary)
    (lookup : Int32 → Option ProcessIdentity)
    (honest : ∀ pid identity, lookup pid = some identity → identity.pid = pid)
    (fuel : Nat) (enough : 2 ^ 32 < fuel) :
    (∀ startPid, ∃ outcome,
      matchSessionByAncestry fuel summaries startPid lookup = some outcome ∧
        (∀ sessionId, outcome = some sessionId ↔
          NearestMatch summaries lookup startPid sessionId) ∧
        (outcome = none ↔ EndsUnmatched summaries lookup startPid)) ∧
      ∀ explicitDisplaySessionId tmuxClientPid currentPid, ∃ outcome,
        resolveCurrentSessionIdWithLookup fuel summaries explicitDisplaySessionId tmuxClientPid
            currentPid lookup = some outcome ∧
          ∀ sessionId, outcome = some sessionId ↔
            Resolved summaries lookup explicitDisplaySessionId tmuxClientPid currentPid
              sessionId := by
  constructor
  · intro startPid
    exact matchSessionByAncestry_spec summaries honest enough startPid
  · intro explicitDisplaySessionId tmuxClientPid currentPid
    exact resolve_spec summaries honest enough explicitDisplaySessionId tmuxClientPid currentPid

/-- A shell under a session's server, and two processes that are each other's parent. -/
def shellLookup (pid : Int32) : Option ProcessIdentity :=
  if pid = 41 then some ⟨41, 40, 9⟩
  else if pid = 40 then some ⟨40, 1, 5⟩
  else if pid = 50 then some ⟨50, 51, 6⟩
  else if pid = 51 then some ⟨51, 50, 7⟩
  else none

def shellSummary : SessionSummary :=
  { sessionId := "instrumented:40:5"
    displaySessionId := none
    pid := 40
    kind := .instrumented
    health := .ok
    startedAtUnixMs := 5
    lastObservedUnixMs := 5
    counterResetUnixMs := none
    bindAddr := none
    udpPort := none
    clientAddr := none
    peer := {}
    cmdline := "mosh-server"
    metrics := {} }

theorem shellLookup_honest (pid : Int32) (identity : ProcessIdentity)
    (present : shellLookup pid = some identity) : identity.pid = pid := by
  unfold shellLookup at present
  split at present
  · rename_i eq
    cases present
    exact eq.symm
  · split at present
    · rename_i eq
      cases present
      exact eq.symm
    · split at present
      · rename_i eq
        cases present
        exact eq.symm
      · split at present
        · rename_i eq
          cases present
          exact eq.symm
        · contradiction

theorem shell_session_is_current :
    matchSessionByAncestry (2 ^ 32 + 1) [shellSummary] 41 shellLookup =
        some (some "instrumented:40:5") ∧
      matchSessionByAncestry (2 ^ 32 + 1) [shellSummary] 50 shellLookup = some none := by
  obtain ⟨search, -⟩ := current_session_is_nearest [shellSummary] shellLookup shellLookup_honest
    (2 ^ 32 + 1) (Nat.lt_succ_self _)
  have unmatched : ∀ pid, pid ≠ 40 → Unmatched [shellSummary] shellLookup pid := by
    intro pid other identity _ summary member matched
    cases List.mem_singleton.mp member
    have eq : (40 : Int32).toInt = pid.toInt := matched.1
    exact other (Int32.toInt_inj.mp eq).symm
  constructor
  · obtain ⟨outcome, finished, found, -⟩ := search 41
    have nearest : NearestMatch [shellSummary] shellLookup 41 "instrumented:40:5" := by
      refine ⟨1, 40, ⟨40, 1, 5⟩, rfl, rfl, ⟨[], shellSummary, [], rfl, ⟨rfl, rfl⟩, by simp, rfl⟩, ?_⟩
      intro nearer lt descendant between
      obtain rfl : nearer = 0 := by omega
      cases between
      exact unmatched 41 (by decide)
    rw [finished, (found _).mpr nearest]
  · obtain ⟨outcome, finished, -, ended⟩ := search 50
    have ends : EndsUnmatched [shellSummary] shellLookup 50 := by
      refine ⟨2, 50, rfl, ?_, .inr (.inr ⟨0, by decide, rfl⟩)⟩
      intro nearer le descendant between
      apply unmatched
      rintro rfl
      match nearer, le with
      | 0, _ => contradiction
      | 1, _ => contradiction
      | 2, _ => contradiction
    rw [finished, ended.mpr ends]

end CurrentSession

end Moshwatch
