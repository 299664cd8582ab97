import Moshwatch.State.Registry

namespace Moshwatch

open Eviction

def evictionRank (record : SessionRecord) : Nat ×ₗ Int ×ₗ Int ×ₗ String :=
  toLex (evictionClass record, toLex (record.summary.lastObservedUnixMs,
    toLex (record.summary.startedAtUnixMs, record.summary.sessionId)))

theorem compareEvictionPriority_eq (left right : SessionRecord) :
    compareEvictionPriority left right = compare (evictionRank left) (evictionRank right) := by
  simp only [Prod.Lex.compare_def, compareLex, compareOn, evictionRank, compareEvictionPriority]
  rfl

theorem evictionClass_le_of_rank_le {left right : SessionRecord}
    (ranked : evictionRank left ≤ evictionRank right) : evictionClass left ≤ evictionClass right := by
  rcases Prod.Lex.le_iff.mp ranked with lower | same
  · exact le_of_lt lower
  · exact le_of_eq same.1

theorem sessionId_eq_of_rank_eq {left right : SessionRecord}
    (ranked : evictionRank left = evictionRank right) :
    left.summary.sessionId = right.summary.sessionId :=
  congrArg (fun rank => (ofLex (ofLex (ofLex rank).2).2).2) ranked

theorem evictionClass_le_two (record : SessionRecord) : evictionClass record ≤ 2 := by
  unfold evictionClass
  split <;> omega

def Keyed (sessions : SessionMap) : Prop :=
  ∀ id record, sessions.lookup id = some record → record.summary.sessionId = id

theorem Keyed.rank_injective {sessions : SessionMap} (keyed : Keyed sessions) :
    ∀ left ∈ sessions.entries, ∀ right ∈ sessions.entries,
      evictionRank left.2 = evictionRank right.2 → left = right := by
  intro left memberLeft right memberRight ranked
  have leftKey := keyed left.1 left.2 (KeyedStore.mem_entries_iff.mp memberLeft)
  have rightKey := keyed right.1 right.2 (KeyedStore.mem_entries_iff.mp memberRight)
  have same : left.1 = right.1 := by
    rw [← leftKey, ← rightKey]
    exact sessionId_eq_of_rank_eq ranked
  exact sessions.nodupKeys.eq_of_fst_eq memberLeft memberRight same

theorem Keyed.of_sublist {all kept : SessionMap} (keyed : Keyed all)
    (sublist : kept.entries.Sublist all.entries) : Keyed kept := by
  intro id record found
  apply keyed id record
  rw [← KeyedStore.mem_entries_iff] at found ⊢
  exact sublist.subset found

namespace ServiceState

theorem worstRecord_spec {state : ServiceState} {worst : Sigma fun _ : String => SessionRecord}
    (found : state.worstRecord = some worst) :
    worst ∈ state.sessions.entries ∧
      ∀ entry ∈ state.sessions.entries, evictionRank worst.2 ≤ evictionRank entry.2 :=
  minBy?_spec (fun entry => evictionRank entry.2)
    (fun left right => compareEvictionPriority_eq left.2 right.2) found

theorem worstRecord_eq_none {state : ServiceState} :
    state.worstRecord = none ↔ state.sessions.size = 0 := by
  rw [worstRecord, minBy?_eq_none, KeyedStore.size, List.length_eq_zero_iff]

/-- What one round of the cap does: it drops the worst record and counts it. -/
theorem enforceSessionCapRound_eq_some {state next : ServiceState}
    (round : state.enforceSessionCapRound = some next) :
    ∃ worst, state.config.maxTrackedSessions < state.sessions.size ∧
      state.worstRecord = some worst ∧
      next = { state with
        sessions := state.sessions.erase worst.1
        droppedSessionsTotal := satAdd state.droppedSessionsTotal 1 } := by
  unfold enforceSessionCapRound at round
  split at round
  · rename_i excess
    cases found : state.worstRecord with
    | none => simp [found] at round
    | some worst =>
      have present : state.sessions.contains worst.1 = true :=
        KeyedStore.contains_iff.mpr
          ⟨worst.2, KeyedStore.mem_entries_iff.mp (worstRecord_spec found).1⟩
      simp only [found, present, if_true, Option.some.injEq] at round
      exact ⟨worst, excess, rfl, round.symm⟩
  · cases round

theorem enforceSessionCapRound_eq_none {state : ServiceState} :
    state.enforceSessionCapRound = none ↔
      state.sessions.size ≤ state.config.maxTrackedSessions := by
  constructor
  · intro exited
    by_contra excess
    rw [not_le] at excess
    cases found : state.worstRecord with
    | none =>
      rw [worstRecord_eq_none] at found
      omega
    | some worst =>
      have present : state.sessions.contains worst.1 = true :=
        KeyedStore.contains_iff.mpr
          ⟨worst.2, KeyedStore.mem_entries_iff.mp (worstRecord_spec found).1⟩
      simp [enforceSessionCapRound, excess, found, present] at exited
  · intro within
    simp only [enforceSessionCapRound, not_lt.mpr within, if_false]

theorem size_of_round {state next : ServiceState}
    (round : state.enforceSessionCapRound = some next) :
    next.sessions.size + 1 = state.sessions.size := by
  obtain ⟨worst, -, found, rfl⟩ := enforceSessionCapRound_eq_some round
  exact KeyedStore.size_erase_of_lookup
    (KeyedStore.mem_entries_iff.mp (worstRecord_spec found).1)

theorem enforceSessionCap_exits (state : ServiceState) :
    state.enforceSessionCap.enforceSessionCapRound = none := by
  apply Loop.iterate_exits (fun state : ServiceState => state.sessions.size)
  · intro state next round
    have := size_of_round round
    omega
  · exact le_refl _

theorem enforceSessionCap_of_le {state : ServiceState}
    (within : state.sessions.size ≤ state.config.maxTrackedSessions) :
    state.enforceSessionCap = state :=
  Loop.iterate_of_exit (enforceSessionCapRound_eq_none.mpr within) _

structure CapProgress (start state : ServiceState) : Prop where
  config : state.config = start.config
  upper : UpperPart (fun entry => evictionRank entry.2) start.sessions.entries
    state.sessions.entries
  enough : min start.config.maxTrackedSessions start.sessions.size ≤ state.sessions.size
  dropped : state.droppedSessionsTotal =
    satAdd start.droppedSessionsTotal (start.sessions.size - state.sessions.size)

theorem CapProgress.refl {state : ServiceState} (counted : state.droppedSessionsTotal ≤ u64Max) :
    CapProgress state state where
  config := rfl
  upper := UpperPart.refl _ _
  enough := Nat.min_le_right _ _
  dropped := by
    rw [Nat.sub_self, satAdd_of_le (by simpa using counted)]
    rfl

theorem CapProgress.round {start state next : ServiceState} (keyed : Keyed start.sessions)
    (progress : CapProgress start state) (round : state.enforceSessionCapRound = some next) :
    CapProgress start next := by
  have size := size_of_round round
  have bounded := progress.upper.sublist.length_le
  obtain ⟨worst, excess, found, rfl⟩ := enforceSessionCapRound_eq_some round
  obtain ⟨member, lowest⟩ := worstRecord_spec found
  have injective := (keyed.of_sublist progress.upper.sublist).rank_injective
  refine ⟨progress.config, progress.upper.trans (upperPart_erase injective member lowest), ?_, ?_⟩
  · have := progress.config ▸ excess
    change _ ≤ KeyedStore.size (state.sessions.erase worst.1)
    change KeyedStore.size (state.sessions.erase worst.1) + 1 = _ at size
    omega
  · change satAdd state.droppedSessionsTotal 1 =
      satAdd start.droppedSessionsTotal
        (start.sessions.size - KeyedStore.size (state.sessions.erase worst.1))
    change KeyedStore.size (state.sessions.erase worst.1) + 1 = _ at size
    change state.sessions.size ≤ start.sessions.size at bounded
    rw [progress.dropped, satAdd_satAdd]
    congr 1
    omega

theorem enforceSessionCap_progress {state : ServiceState} (keyed : Keyed state.sessions)
    (counted : state.droppedSessionsTotal ≤ u64Max) :
    CapProgress state state.enforceSessionCap :=
  Loop.iterate_invariant (CapProgress state)
    (fun _ _ progress round => CapProgress.round keyed progress round) _ _
    (CapProgress.refl counted)

theorem enforceSessionCap_config (state : ServiceState) :
    state.enforceSessionCap.config = state.config := by
  refine Loop.iterate_invariant (fun next : ServiceState => next.config = state.config) ?_ _ _ rfl
  intro current next same round
  obtain ⟨worst, -, -, rfl⟩ := enforceSessionCapRound_eq_some round
  exact same

theorem size_enforceSessionCap_le (state : ServiceState) :
    state.enforceSessionCap.sessions.size ≤ state.config.maxTrackedSessions := by
  have exited := enforceSessionCapRound_eq_none.mp (enforceSessionCap_exits state)
  rwa [enforceSessionCap_config] at exited

theorem size_enforceSessionCap {state : ServiceState} (keyed : Keyed state.sessions)
    (counted : state.droppedSessionsTotal ≤ u64Max) :
    state.enforceSessionCap.sessions.size =
      min state.config.maxTrackedSessions state.sessions.size := by
  have progress := enforceSessionCap_progress keyed counted
  have := size_enforceSessionCap_le state
  have := progress.enough
  have smaller : state.enforceSessionCap.sessions.size ≤ state.sessions.size :=
    progress.upper.sublist.length_le
  omega

theorem enforceSessionCap_sublist (state : ServiceState) :
    state.enforceSessionCap.sessions.entries.Sublist state.sessions.entries := by
  refine Loop.iterate_invariant
    (fun next : ServiceState => next.sessions.entries.Sublist state.sessions.entries) ?_ _ _
    (List.Sublist.refl _)
  intro current next sublist round
  obtain ⟨worst, -, -, rfl⟩ := enforceSessionCapRound_eq_some round
  exact (List.kerase_sublist _ _).trans sublist

theorem lookup_of_lookup_enforceSessionCap {state : ServiceState} {id : String}
    {record : SessionRecord} (found : state.enforceSessionCap.sessions.lookup id = some record) :
    state.sessions.lookup id = some record := by
  rw [← KeyedStore.mem_entries_iff] at found ⊢
  exact (enforceSessionCap_sublist state).subset found

theorem enforceSessionCap_of_succ {state : ServiceState}
    (excess : state.sessions.size = state.config.maxTrackedSessions + 1) :
    ∃ worst, state.worstRecord = some worst ∧
      state.enforceSessionCap.sessions = state.sessions.erase worst.1 := by
  cases round : state.enforceSessionCapRound with
  | none =>
    have := enforceSessionCapRound_eq_none.mp round
    omega
  | some next =>
    have smaller := size_of_round round
    have config : next.config = state.config := by
      obtain ⟨worst, -, -, rfl⟩ := enforceSessionCapRound_eq_some round
      rfl
    have exit : next.enforceSessionCapRound = none :=
      enforceSessionCapRound_eq_none.mpr (by rw [config]; omega)
    have result : state.enforceSessionCap = next := by
      unfold enforceSessionCap
      rw [excess]
      simp only [Loop.iterate, round]
      exact Loop.iterate_of_exit exit _
    obtain ⟨worst, -, found, rfl⟩ := enforceSessionCapRound_eq_some round
    exact ⟨worst, found, by rw [result]⟩

theorem lowest_of_evicted {state : ServiceState}
    (excess : state.sessions.size = state.config.maxTrackedSessions + 1) {evicted : String}
    {low : SessionRecord} (present : state.sessions.lookup evicted = some low)
    (gone : state.enforceSessionCap.sessions.lookup evicted = none) {key : String}
    {record : SessionRecord} (found : state.sessions.lookup key = some record) :
    evictionRank low ≤ evictionRank record := by
  obtain ⟨worst, worstFound, erased⟩ := enforceSessionCap_of_succ excess
  obtain ⟨member, lowest⟩ := worstRecord_spec worstFound
  have own : evicted = worst.1 := by
    by_contra different
    rw [erased, AList.lookup_erase_ne different, present] at gone
    cases gone
  have stored : state.sessions.lookup worst.1 = some worst.2 := KeyedStore.mem_entries_iff.mp member
  rw [← own, present, Option.some.injEq] at stored
  rw [stored]
  exact lowest ⟨key, record⟩ (KeyedStore.mem_entries_iff.mpr found)

theorem evicted_lt_survivor {state : ServiceState} (keyed : Keyed state.sessions)
    (counted : state.droppedSessionsTotal ≤ u64Max) {evicted survivor : String}
    {low high : SessionRecord} (present : state.sessions.lookup evicted = some low)
    (gone : state.enforceSessionCap.sessions.lookup evicted = none)
    (remains : state.enforceSessionCap.sessions.lookup survivor = some high) :
    evictionRank low < evictionRank high := by
  have progress := enforceSessionCap_progress keyed counted
  rw [← KeyedStore.mem_entries_iff] at present remains
  refine progress.upper.above _ present ?_ _ remains
  intro member
  rw [KeyedStore.mem_entries_iff, gone] at member
  cases member

/-- The survivors do not depend on the order in which the map is iterated. -/
theorem enforceSessionCap_perm {left right : ServiceState} (keyed : Keyed left.sessions)
    (counted : left.droppedSessionsTotal ≤ u64Max)
    (config : right.config = left.config)
    (dropped : right.droppedSessionsTotal = left.droppedSessionsTotal)
    (perm : left.sessions.entries.Perm right.sessions.entries) :
    left.enforceSessionCap.sessions.entries.Perm right.enforceSessionCap.sessions.entries := by
  have keyedRight : Keyed right.sessions := by
    intro id record found
    apply keyed id record
    rw [← KeyedStore.mem_entries_iff] at found ⊢
    exact perm.mem_iff.mpr found
  have countedRight : right.droppedSessionsTotal ≤ u64Max := dropped ▸ counted
  have sizeLeft := size_enforceSessionCap keyed counted
  have sizeRight := size_enforceSessionCap keyedRight countedRight
  have length : left.sessions.size = right.sessions.size := perm.length_eq
  refine UpperPart.unique perm (KeyedStore.entries_nodup _)
    (enforceSessionCap_progress keyed counted).upper
    (enforceSessionCap_progress keyedRight countedRight).upper ?_
  change KeyedStore.size _ = KeyedStore.size _
  rw [sizeLeft, sizeRight, config, length]

end ServiceState

end Moshwatch
