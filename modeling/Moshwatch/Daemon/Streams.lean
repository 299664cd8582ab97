import Moshwatch.Daemon.EventStream
import Moshwatch.General.Watch

namespace Moshwatch

namespace EventStream

variable {hub : SnapshotHub} {frames : Nat → EventStreamFrame} {stream next : EventStream}
  {freeSlots left : Nat} {action : StreamStep}

/-- The snapshots of a stream are the frames that a reader of the hub took. -/
structure Recounts (stream : EventStream) (version : Nat) (frames : Nat → EventStreamFrame)
    (reader : Watch.Reader) : Prop where
  follows : reader.Follows version
  published : ∀ taken ∈ reader.taken, 1 ≤ taken
  written : stream.snapshots = reader.taken.reverse.map frames
  accepted : stream.stage = .accepted → reader.taken = []
  due : stream.stage = .due → reader.marked = true ∧ reader.seen = stream.seen
  waiting : stream.stage = .waiting → reader.marked = false ∧ reader.seen = stream.seen

theorem recounts_idle (version : Nat) (frames : Nat → EventStreamFrame) :
    idle.Recounts version frames (.subscribe version) where
  follows := Watch.Reader.follows_subscribe version
  published := fun _ member => by cases member
  written := rfl
  accepted := fun stage => by cases stage
  due := fun stage => by cases stage
  waiting := fun stage => by cases stage

theorem Recounts.published_more {version : Nat} {reader : Watch.Reader}
    (recounts : stream.Recounts version frames reader) {more : Nat → EventStreamFrame}
    (same : ∀ older ≤ version, more older = frames older) :
    stream.Recounts (version + 1) more reader :=
  { recounts with
    follows := recounts.follows.mono (Nat.le_succ version)
    written := by
      rw [recounts.written]
      apply List.map_congr_left
      intro older member
      exact (same older (recounts.follows.bounded older (List.mem_reverse.mp member))).symm }

theorem snapshots_append (written : List EventStreamFrame) (stage : StreamStage) (seen : Nat)
    (frame : EventStreamFrame) :
    (EventStream.mk stage seen (written ++ [frame])).snapshots =
      (EventStream.mk stage seen written).snapshots ++
        if frame.event = .snapshot then [frame] else [] := by
  simp only [snapshots, List.filter_append, List.filter_cons, List.filter_nil, decide_eq_true_eq]

theorem recounts_step {reader : Watch.Reader} (recounts : stream.Recounts hub.version frames reader)
    (current : frames hub.version = hub.frame) (started : 1 ≤ hub.version)
    (shown : hub.frame.event = .snapshot)
    (stepped : stream.step hub freeSlots action = some (next, left)) :
    ∃ later, next.Recounts hub.version frames later := by
  obtain ⟨stage, seen, written⟩ := stream
  cases action with
  | connect =>
    simp only [step] at stepped
    split at stepped
    · cases stepped
    · split at stepped
      · cases stepped
        exact ⟨reader, { recounts with
          accepted := fun impossible => by cases impossible
          due := fun impossible => by cases impossible
          waiting := fun impossible => by cases impossible }⟩
      · cases stepped
        refine ⟨.subscribe hub.version, { recounts_idle hub.version frames with
          accepted := fun _ => rfl
          due := fun impossible => by cases impossible
          waiting := fun impossible => by cases impossible }⟩
  | subscribe =>
    simp only [step, Option.ite_none_right_eq_some, Option.some.injEq, Prod.mk.injEq] at stepped
    obtain ⟨accepted, rfl, -⟩ := stepped
    have empty := recounts.written
    rw [recounts.accepted accepted] at empty
    exact ⟨.subscribe hub.version,
      { follows := Watch.Reader.follows_subscribe hub.version
        published := fun _ member => by cases member
        written := empty
        accepted := fun impossible => by cases impossible
        due := fun _ => ⟨rfl, rfl⟩
        waiting := fun impossible => by cases impossible }⟩
  | writeFrame =>
    simp only [step, Option.ite_none_right_eq_some, Option.some.injEq, Prod.mk.injEq] at stepped
    obtain ⟨due, rfl, -⟩ := stepped
    obtain ⟨marked, seenSame⟩ := recounts.due due
    refine ⟨reader.take hub.version,
      { follows := recounts.follows.take marked
        published := ?_
        written := ?_
        accepted := fun impossible => by cases impossible
        due := fun impossible => by cases impossible
        waiting := fun _ => ⟨rfl, seenSame⟩ }⟩
    · intro taken member
      rcases List.mem_cons.mp member with rfl | older
      · exact started
      · exact recounts.published taken older
    · have before : (EventStream.mk .waiting seen written).snapshots =
          reader.taken.reverse.map frames := recounts.written
      rw [snapshots_append, if_pos shown, before, Watch.Reader.take, List.reverse_cons,
        List.map_append, List.map_singleton, current]
  | changed =>
    simp only [step, Option.ite_none_right_eq_some, Option.some.injEq, Prod.mk.injEq] at stepped
    obtain ⟨⟨waiting, unseen⟩, rfl, -⟩ := stepped
    obtain ⟨unmarked, seenSame⟩ := recounts.waiting waiting
    exact ⟨reader.mark hub.version,
      { follows := recounts.follows.mark unmarked (by rw [seenSame]; exact unseen)
        published := recounts.published
        written := recounts.written
        accepted := fun impossible => by cases impossible
        due := fun _ => ⟨rfl, rfl⟩
        waiting := fun impossible => by cases impossible }⟩
  | heartbeat nowMs =>
    simp only [step, Option.ite_none_right_eq_some, Option.some.injEq, Prod.mk.injEq] at stepped
    obtain ⟨waiting, rfl, -⟩ := stepped
    have quiet : (hub.heartbeatFrame nowMs).event ≠ .snapshot := by
      intro same
      cases same
    refine ⟨reader, { recounts with written := ?_ }⟩
    rw [snapshots_append, if_neg quiet, List.append_nil]
    exact recounts.written
  | close =>
    simp only [step, Option.ite_none_right_eq_some, Option.some.injEq, Prod.mk.injEq] at stepped
    obtain ⟨-, rfl, -⟩ := stepped
    exact ⟨reader, { recounts with
      accepted := fun impossible => by cases impossible
      due := fun impossible => by cases impossible
      waiting := fun impossible => by cases impossible }⟩

theorem slots_step (stepped : stream.step hub freeSlots action = some (next, left)) :
    left + (if next.holdsSlot then 1 else 0) =
      freeSlots + (if stream.holdsSlot then 1 else 0) := by
  obtain ⟨stage, seen, written⟩ := stream
  cases action with
  | connect =>
    simp only [step] at stepped
    split at stepped
    · cases stepped
    · rename_i unheld
      split at stepped
      · cases stepped
        rw [if_neg unheld]
        rfl
      · cases stepped
        rw [if_neg unheld]
        change freeSlots - 1 + 1 = freeSlots + 0
        omega
  | subscribe | writeFrame | changed | heartbeat =>
    cases stage <;> simp [step, holdsSlot] at stepped ⊢
    all_goals grind
  | close =>
    simp only [step, Option.ite_none_right_eq_some, Option.some.injEq, Prod.mk.injEq] at stepped
    obtain ⟨held, rfl, rfl⟩ := stepped
    rw [if_pos held]
    rfl

end EventStream

section Trigger

variable {ι : Type} [DecidableEq ι] {trigger next : SnapshotTrigger ι}

/-- The steps that neither write the registry nor read it nor publish. -/
def TriggerStep.isQuiet : TriggerStep ι → Bool
  | .write _ | .readState | .publishSnapshot => false
  | _ => true

theorem SnapshotTrigger.quiet_step {action : TriggerStep ι} (quiet : action.isQuiet = true)
    (stepped : trigger.step action = some next) :
    next.version = trigger.version ∧ next.lastRead = trigger.lastRead ∧
      next.published = trigger.published ∧
      (next.publisher = .publishing → trigger.publisher = .publishing) := by
  cases action with
  | write requester => cases quiet
  | readState => cases quiet
  | publishSnapshot => cases quiet
  | storeDirty requester | notifyOne requester =>
    cases stage : trigger.requesters requester with
    | idle => simp_all [step]
    | written version => simp_all [step] <;> grind [setRequester]
    | flagged version => simp_all [step] <;> grind [setRequester]
  | swapDirty | notified | drain | deadline =>
    simp only [step, Option.ite_none_right_eq_some, Option.some.injEq] at stepped
    obtain ⟨-, rfl⟩ := stepped
    refine ⟨rfl, rfl, rfl, ?_⟩
    grind

theorem SnapshotTrigger.version_write {requester : ι}
    (stepped : trigger.step (.write requester) = some next) :
    next.version = trigger.version + 1 ∧ next.lastRead = trigger.lastRead ∧
      next.published = trigger.published ∧ next.publisher = trigger.publisher := by
  cases stage : trigger.requesters requester with
  | written version => simp [step, stage] at stepped
  | flagged version => simp [step, stage] at stepped
  | idle =>
    simp only [step, stage, Option.some.injEq] at stepped
    subst stepped
    exact ⟨rfl, rfl, rfl, rfl⟩

end Trigger

def frameShowing (sha256Hex : String → String) (config : AppConfig) (observer : ObserverInfo)
    (operations : List Operation) (sequence : Nat) (nowMs : Int) : EventStreamFrame :=
  SnapshotHub.snapshotFrame sha256Hex observer sequence
    ((ServiceState.run config operations).exportSummaries nowMs maxExportedSessions) nowMs

/-- What the hub has published: the frame of each version, how many writes it shows and when the
    registry was read. -/
structure Publications where
  frames : Nat → EventStreamFrame
  shown : Nat → Nat
  clock : Nat → Int

namespace Feed

variable {ι κ : Type} (sha256Hex : String → String) (config : AppConfig)
  (observer : ObserverInfo)

structure Explained (operations : List Operation) (published : Publications)
    (feed : Feed ι κ) : Prop where
  covered : feed.trigger.Covered
  registry : feed.registry = ServiceState.run config operations
  version : feed.trigger.version = operations.length
  observed : feed.hub.observer = observer
  started : 1 ≤ feed.hub.version
  sequence : feed.hub.sequence = feed.hub.version % 2 ^ 64
  current : published.frames feed.hub.version = feed.hub.frame
  lastShown : published.shown feed.hub.version = feed.trigger.published
  published_le : feed.trigger.published ≤ feed.trigger.lastRead
  lastRead_le : feed.trigger.lastRead ≤ operations.length
  exported : feed.trigger.publisher = .publishing →
    feed.exported = (ServiceState.run config (operations.take feed.trigger.lastRead)).exportSummaries
      feed.exportedAt maxExportedSessions
  monotone : ∀ earlier later, earlier ≤ later → later ≤ feed.hub.version →
    published.shown earlier ≤ published.shown later
  frames : ∀ version, 1 ≤ version → version ≤ feed.hub.version →
    published.frames version = frameShowing sha256Hex config observer
      (operations.take (published.shown version)) (version % 2 ^ 64) (published.clock version)
  streams : ∀ stream, ∃ reader,
    (feed.streams stream).Recounts feed.hub.version published.frames reader
  slots : ∃ holders : Finset κ, (∀ stream, stream ∈ holders ↔ (feed.streams stream).holdsSlot) ∧
    feed.freeSlots + holders.card = streamConnectionSlots

variable {sha256Hex config observer}

theorem explained_start (createdAt publishedAt : Int) :
    ∃ published, Explained sha256Hex config observer [] published
      (start sha256Hex config observer createdAt publishedAt : Feed ι κ) := by
  refine ⟨{ frames := fun _ => frameShowing sha256Hex config observer [] 1 publishedAt
            shown := fun _ => 0
            clock := fun _ => publishedAt }, ?_⟩
  exact
    { covered := SnapshotTrigger.covered_new
      registry := rfl
      version := rfl
      observed := rfl
      started := le_refl _
      sequence := rfl
      current := rfl
      lastShown := rfl
      published_le := le_refl _
      lastRead_le := le_refl _
      exported := fun publishing => by cases publishing
      monotone := fun _ _ _ _ => le_refl _
      frames := by
        intro version first last
        have one : version = 1 := le_antisymm last first
        subst one
        rfl
      streams := fun _ => ⟨_, EventStream.recounts_idle _ _⟩
      slots := ⟨∅, fun _ => by simp [start, EventStream.idle, EventStream.holdsSlot], rfl⟩ }

variable {operations : List Operation} {published : Publications} {feed : Feed ι κ}

theorem Explained.shown_le (explained : Explained sha256Hex config observer operations published feed)
    {version : Nat} (last : version ≤ feed.hub.version) :
    published.shown version ≤ operations.length := by
  have grown := explained.monotone version feed.hub.version last (le_refl _)
  have lastShown := explained.lastShown
  have published := explained.published_le
  have read := explained.lastRead_le
  omega

theorem Explained.shows_snapshot
    (explained : Explained sha256Hex config observer operations published feed) :
    feed.hub.frame.event = .snapshot := by
  rw [← explained.current, explained.frames _ explained.started (le_refl _)]
  rfl

section Streams

variable [DecidableEq κ]

theorem Explained.streamed
    (explained : Explained sha256Hex config observer operations published feed) {stream : κ}
    {action : StreamStep} {moved : EventStream} {left : Nat}
    (stepped : (feed.streams stream).step feed.hub feed.freeSlots action = some (moved, left)) :
    Explained sha256Hex config observer operations published
      { feed with streams := Function.update feed.streams stream moved, freeSlots := left } :=
  { explained with
    streams := by
      intro other
      change ∃ reader, (Function.update feed.streams stream moved other).Recounts _ _ reader
      by_cases same : other = stream
      · subst same
        rw [Function.update_self]
        obtain ⟨reader, recounts⟩ := explained.streams other
        exact EventStream.recounts_step recounts explained.current explained.started
          explained.shows_snapshot stepped
      · rw [Function.update_of_ne same]
        exact explained.streams other
    slots := by
      obtain ⟨holders, member, count⟩ := explained.slots
      have slots := EventStream.slots_step stepped
      have here := member stream
      refine ⟨if moved.holdsSlot then insert stream holders else holders.erase stream, ?_, ?_⟩
      · intro other
        change other ∈ _ ↔ (Function.update feed.streams stream moved other).holdsSlot
        by_cases same : other = stream
        · subst same
          rw [Function.update_self]
          split <;> simp_all
        · rw [Function.update_of_ne same, ← member other]
          split <;> simp [same]
      · change left + _ = _
        split
        · rename_i held
          rw [if_pos held] at slots
          by_cases before : stream ∈ holders
          · rw [if_pos (here.mp before)] at slots
            rw [Finset.insert_eq_of_mem before]
            omega
          · rw [if_neg fun holds => before (here.mpr holds)] at slots
            rw [Finset.card_insert_of_notMem before]
            omega
        · rename_i unheld
          rw [if_neg unheld] at slots
          by_cases before : stream ∈ holders
          · rw [if_pos (here.mp before)] at slots
            have positive := Finset.card_pos.mpr ⟨stream, before⟩
            rw [Finset.card_erase_of_mem before]
            omega
          · rw [if_neg fun holds => before (here.mpr holds)] at slots
            rw [Finset.erase_eq_of_notMem before]
            omega }

end Streams

variable [DecidableEq ι]

theorem Explained.moved (explained : Explained sha256Hex config observer operations published feed)
    {action : TriggerStep ι} (quiet : action.isQuiet = true) {trigger : SnapshotTrigger ι}
    (stepped : feed.trigger.step action = some trigger) :
    Explained sha256Hex config observer operations published { feed with trigger } := by
  obtain ⟨version, lastRead, shown, publishing⟩ := SnapshotTrigger.quiet_step quiet stepped
  exact
    { explained with
      covered := SnapshotTrigger.covered_step explained.covered stepped
      version := version.trans explained.version
      lastShown := explained.lastShown.trans shown.symm
      published_le := by rw [shown, lastRead]; exact explained.published_le
      lastRead_le := by rw [lastRead]; exact explained.lastRead_le
      exported := by
        intro still
        rw [lastRead]
        exact explained.exported (publishing still) }

theorem Explained.write (explained : Explained sha256Hex config observer operations published feed)
    {requester : ι} (operation : Operation) {trigger : SnapshotTrigger ι}
    (stepped : feed.trigger.step (.write requester) = some trigger) :
    Explained sha256Hex config observer (operations ++ [operation]) published
      { feed with trigger, registry := feed.registry.step operation } := by
  obtain ⟨version, lastRead, shown, stage⟩ := SnapshotTrigger.version_write stepped
  have read := explained.lastRead_le
  exact
    { explained with
      covered := SnapshotTrigger.covered_step explained.covered stepped
      registry := by rw [ServiceState.run_concat, ← explained.registry]
      version := by rw [version, explained.version, List.length_append, List.length_singleton]
      lastShown := explained.lastShown.trans shown.symm
      published_le := by rw [shown, lastRead]; exact explained.published_le
      lastRead_le := by
        rw [lastRead, List.length_append]
        omega
      exported := by
        intro publishing
        rw [lastRead, List.take_append_of_le_length read]
        exact explained.exported (stage ▸ publishing)
      frames := by
        intro version first last
        rw [List.take_append_of_le_length (explained.shown_le last)]
        exact explained.frames version first last }

theorem Explained.read (explained : Explained sha256Hex config observer operations published feed)
    (nowMs : Int) {trigger : SnapshotTrigger ι}
    (stepped : feed.trigger.step .readState = some trigger) :
    Explained sha256Hex config observer operations published
      { feed with
        trigger
        exported := feed.registry.exportSummaries nowMs maxExportedSessions
        exportedAt := nowMs } := by
  have covered := SnapshotTrigger.covered_step explained.covered stepped
  simp only [SnapshotTrigger.step, Option.ite_none_right_eq_some, Option.some.injEq] at stepped
  obtain ⟨-, rfl⟩ := stepped
  have version := explained.version
  have shown := explained.published_le
  have read := explained.lastRead_le
  exact
    { explained with
      covered
      published_le := by
        change feed.trigger.published ≤ feed.trigger.version
        omega
      lastRead_le := version.le
      exported := by
        intro _
        change feed.registry.exportSummaries nowMs maxExportedSessions = _
        rw [explained.registry, version, List.take_length] }

theorem Explained.publish
    (explained : Explained sha256Hex config observer operations published feed)
    {trigger : SnapshotTrigger ι} (stepped : feed.trigger.step .publishSnapshot = some trigger) :
    ∃ more, Explained sha256Hex config observer operations more
      { feed with
        trigger
        hub := feed.hub.publishSnapshot sha256Hex feed.exported feed.exportedAt } := by
  have covered := SnapshotTrigger.covered_step explained.covered stepped
  simp only [SnapshotTrigger.step, Option.ite_none_right_eq_some, Option.some.injEq] at stepped
  obtain ⟨publishing, rfl⟩ := stepped
  let next := feed.hub.publishSnapshot sha256Hex feed.exported feed.exportedAt
  have sequence : next.sequence = (feed.hub.version + 1) % 2 ^ 64 := by
    change (feed.hub.sequence + 1) % 2 ^ 64 = _
    rw [explained.sequence, Nat.mod_add_mod]
  have frame : next.frame = frameShowing sha256Hex config observer
      (operations.take feed.trigger.lastRead) ((feed.hub.version + 1) % 2 ^ 64) feed.exportedAt := by
    change SnapshotHub.snapshotFrame sha256Hex feed.hub.observer next.sequence feed.exported
      feed.exportedAt = _
    rw [sequence, explained.exported publishing, explained.observed]
    rfl
  refine ⟨{ frames := Function.update published.frames (feed.hub.version + 1) next.frame
            shown := Function.update published.shown (feed.hub.version + 1) feed.trigger.lastRead
            clock := Function.update published.clock (feed.hub.version + 1) feed.exportedAt }, ?_⟩
  have older : ∀ version ≤ feed.hub.version, version ≠ feed.hub.version + 1 := by
    intro version last
    omega
  exact
    { covered
      registry := explained.registry
      version := explained.version
      observed := explained.observed
      started := Nat.le_add_left 1 _
      sequence
      current := Function.update_self ..
      lastShown := Function.update_self ..
      published_le := le_refl _
      lastRead_le := explained.lastRead_le
      exported := fun draining => by cases draining
      monotone := by
        intro earlier later order last
        change Function.update published.shown _ _ earlier ≤ Function.update published.shown _ _ later
        rcases Nat.lt_or_ge feed.hub.version later with new | old
        · have newest : later = feed.hub.version + 1 := le_antisymm last new
          rw [newest, Function.update_self]
          rcases Nat.lt_or_ge feed.hub.version earlier with alsoNew | before
          · have same : earlier = feed.hub.version + 1 := by omega
            rw [same, Function.update_self]
          · rw [Function.update_of_ne (older earlier before)]
            have grown := explained.monotone earlier feed.hub.version before (le_refl _)
            have lastShown := explained.lastShown
            have read := explained.published_le
            omega
        · rw [Function.update_of_ne (older later old),
            Function.update_of_ne (older earlier (order.trans old))]
          exact explained.monotone earlier later order old
      frames := by
        intro version first last
        change Function.update published.frames _ _ version = frameShowing sha256Hex config observer
          (operations.take (Function.update published.shown _ _ version)) _
          (Function.update published.clock _ _ version)
        rcases Nat.lt_or_ge feed.hub.version version with new | old
        · have newest : version = feed.hub.version + 1 := le_antisymm last new
          rw [newest, Function.update_self, Function.update_self, Function.update_self]
          exact frame
        · rw [Function.update_of_ne (older version old), Function.update_of_ne (older version old),
            Function.update_of_ne (older version old)]
          exact explained.frames version first old
      streams := by
        intro stream
        obtain ⟨reader, recounts⟩ := explained.streams stream
        exact ⟨reader, recounts.published_more fun version last =>
          Function.update_of_ne (older version last) ..⟩
      slots := explained.slots }

variable [DecidableEq κ]

theorem explained_step (explained : Explained sha256Hex config observer operations published feed)
    {action : FeedStep ι κ} {next : Feed ι κ} (stepped : feed.step sha256Hex action = some next) :
    ∃ more, Explained sha256Hex config observer (operations ++ operationsOf [action]) more next := by
  cases action with
  | write requester operation =>
    obtain ⟨trigger, moved, rfl⟩ := Option.map_eq_some_iff.mp stepped
    exact ⟨published, explained.write operation moved⟩
  | readState nowMs =>
    obtain ⟨trigger, moved, rfl⟩ := Option.map_eq_some_iff.mp stepped
    rw [operationsOf, List.filterMap_cons, List.filterMap_nil, List.append_nil]
    exact ⟨published, explained.read nowMs moved⟩
  | publishSnapshot =>
    obtain ⟨trigger, moved, rfl⟩ := Option.map_eq_some_iff.mp stepped
    rw [operationsOf, List.filterMap_cons, List.filterMap_nil, List.append_nil]
    exact explained.publish moved
  | stream stream action =>
    obtain ⟨⟨moved, left⟩, after, rfl⟩ := Option.map_eq_some_iff.mp stepped
    rw [operationsOf, List.filterMap_cons, List.filterMap_nil, List.append_nil]
    exact ⟨published, explained.streamed after⟩
  | storeDirty | notifyOne | swapDirty | notified | drain | deadline =>
    obtain ⟨trigger, moved, rfl⟩ := Option.map_eq_some_iff.mp stepped
    rw [operationsOf, List.filterMap_cons, List.filterMap_nil, List.append_nil]
    exact ⟨published, explained.moved rfl moved⟩

theorem explained_run {steps : List (FeedStep ι κ)} {next : Feed ι κ}
    (explained : Explained sha256Hex config observer operations published feed)
    (ran : run sha256Hex steps feed = some next) :
    ∃ more, Explained sha256Hex config observer (operations ++ operationsOf steps) more next := by
  induction steps generalizing feed operations published with
  | nil =>
    cases ran
    exact ⟨published, by rw [operationsOf, List.filterMap_nil, List.append_nil]; exact explained⟩
  | cons action rest ih =>
    rw [run, List.foldlM_cons, Option.bind_eq_bind, Option.bind_eq_some_iff] at ran
    obtain ⟨middle, stepped, later⟩ := ran
    obtain ⟨more, kept⟩ := explained_step explained stepped
    obtain ⟨all, final⟩ := ih kept later
    refine ⟨all, ?_⟩
    have split : operationsOf (action :: rest) = operationsOf [action] ++ operationsOf rest := by
      rw [operationsOf, operationsOf, operationsOf, ← List.filterMap_append]
      rfl
    rw [split, ← List.append_assoc]
    exact final

variable {createdAt publishedAt : Int} {steps : List (FeedStep ι κ)}

theorem explained_of_run
    (ran : run sha256Hex steps (start sha256Hex config observer createdAt publishedAt) = some feed) :
    ∃ published, Explained sha256Hex config observer (operationsOf steps) published feed := by
  obtain ⟨initial, explained⟩ : ∃ published, Explained sha256Hex config observer [] published
      (start sha256Hex config observer createdAt publishedAt : Feed ι κ) :=
    explained_start createdAt publishedAt
  exact explained_run explained ran

/-- All streams are cut from one sequence of publications: each shows an initial part of the
    writes, never less than the one before. A stream may skip versions and write one twice, but
    never goes back, and once it has nothing left to see it has written the newest. -/
theorem streams_follow_publications
    (ran : run sha256Hex steps (start sha256Hex config observer createdAt publishedAt) = some feed) :
    ∃ published : Publications,
      (∀ earlier later, earlier ≤ later → later ≤ feed.hub.version →
        published.shown earlier ≤ published.shown later) ∧
      (∀ version, 1 ≤ version → version ≤ feed.hub.version →
        published.shown version ≤ (operationsOf steps).length ∧
        published.frames version = frameShowing sha256Hex config observer
          ((operationsOf steps).take (published.shown version)) (version % 2 ^ 64)
          (published.clock version)) ∧
      ∀ stream, ∃ versions : List Nat,
        (feed.streams stream).snapshots = versions.map published.frames ∧
        versions.Pairwise (fun older newer => older ≤ newer) ∧
        (∀ version, versions.count version ≤ 2) ∧
        (∀ version ∈ versions, 1 ≤ version ∧ version ≤ feed.hub.version) ∧
        (feed.hub.version < 2 ^ 64 →
          (feed.streams stream).snapshots.filterMap EventStreamFrame.sequence = versions) ∧
        ((feed.streams stream).stage = .waiting → (feed.streams stream).seen = feed.hub.version →
          versions.getLast? = some feed.hub.version) := by
  obtain ⟨published, explained⟩ := explained_of_run ran
  refine ⟨published, explained.monotone, ?_, ?_⟩
  · intro version first last
    exact ⟨explained.shown_le last, explained.frames version first last⟩
  · intro stream
    obtain ⟨reader, recounts⟩ := explained.streams stream
    have within : ∀ version ∈ reader.taken.reverse, 1 ≤ version ∧ version ≤ feed.hub.version := by
      intro version member
      have taken := List.mem_reverse.mp member
      exact ⟨recounts.published version taken, recounts.follows.bounded version taken⟩
    refine ⟨reader.taken.reverse, recounts.written, List.pairwise_reverse.mpr recounts.follows.sorted,
      ?_, within, ?_, ?_⟩
    · intro version
      rw [List.count_reverse]
      exact recounts.follows.twice version
    · intro small
      rw [recounts.written, List.filterMap_map]
      have numbered : ∀ version ∈ reader.taken.reverse,
          (EventStreamFrame.sequence ∘ published.frames) version = some version := by
        intro version member
        obtain ⟨first, last⟩ := within version member
        change (published.frames version).sequence = some version
        rw [explained.frames version first last]
        exact congrArg some (Nat.mod_eq_of_lt (last.trans_lt small))
      rw [List.filterMap_congr numbered, List.filterMap_some]
    · intro waiting seen
      obtain ⟨unmarked, seenSame⟩ := recounts.waiting waiting
      rw [List.getLast?_reverse]
      exact recounts.follows.latest unmarked (seenSame.trans seen)

/-- A stream opens, a scan is published behind it and the stream takes the new snapshot. -/
def scannedSteps : List (FeedStep Unit Unit) :=
  [.stream () .connect, .stream () .subscribe, .stream () .writeFrame, .write () (.discovery [] 5),
    .storeDirty (), .notifyOne (), .swapDirty, .readState 7, .publishSnapshot, .drain, .deadline,
    .swapDirty, .stream () (.heartbeat 8), .stream () .changed, .stream () .writeFrame]

def scannedFeed : Option (Feed Unit Unit) :=
  run id scannedSteps (start id {} { nodeName := "node-1", systemId := "system-1" } 1 2)

theorem scannedFeed_some : ∃ feed, scannedFeed = some feed := by
  rw [← Option.isSome_iff_exists]
  decide +kernel

theorem scannedFeed_holds {α : Type} {read : Feed Unit Unit → α} {value : α}
    (computed : scannedFeed.map read = some value) {feed : Feed Unit Unit}
    (ran : scannedFeed = some feed) : read feed = value := by
  rw [ran] at computed
  exact Option.some.inj computed

theorem streams_follow_publications_scanned :
    ∃ feed, scannedFeed = some feed ∧ feed.hub.version = 2 ∧
      ∃ published : Publications, ∃ versions : List Nat,
        (feed.streams ()).snapshots = versions.map published.frames ∧
        versions.Pairwise (fun older newer => older ≤ newer) ∧ versions.getLast? = some 2 := by
  obtain ⟨feed, ran⟩ := scannedFeed_some
  have version : feed.hub.version = 2 := @scannedFeed_holds _ (fun feed => feed.hub.version) _ (by decide +kernel) feed ran
  have stage : (feed.streams ()).stage = .waiting :=
    @scannedFeed_holds _ (fun feed => (feed.streams ()).stage) _ (by decide +kernel) feed ran
  have seen : (feed.streams ()).seen = 2 :=
    @scannedFeed_holds _ (fun feed => (feed.streams ()).seen) _ (by decide +kernel) feed ran
  have unfolded := ran
  unfold scannedFeed at unfolded
  obtain ⟨published, -, -, streams⟩ := streams_follow_publications unfolded
  obtain ⟨versions, shown, sorted, -, -, -, last⟩ := streams ()
  have newest := last stage (seen.trans version.symm)
  rw [version] at newest
  exact ⟨feed, ran, version, published, versions, shown, sorted, newest⟩

/-- Once the publisher sleeps, a waiting stream has shown every write whose handler has completed
    its request, or it has a newer version to take. With no handler in between these are all writes
    so far. -/
theorem streams_show_every_write
    (ran : run sha256Hex steps (start sha256Hex config observer createdAt publishedAt) = some feed)
    (asleep : feed.trigger.publisher = .waiting) (drained : feed.trigger.permit = false) :
    ∃ shown nowMs, shown ≤ (operationsOf steps).length ∧
      (∀ version, shown < version → version ≤ (operationsOf steps).length →
        feed.trigger.Pending version) ∧
      ((∀ requester, feed.trigger.requesters requester = .idle) →
        shown = (operationsOf steps).length) ∧
      ∀ stream, (feed.streams stream).stage = .waiting →
        (feed.streams stream).snapshots.getLast? =
            some (frameShowing sha256Hex config observer ((operationsOf steps).take shown)
              (feed.hub.version % 2 ^ 64) nowMs) ∨
          ∃ next, feed.step sha256Hex (.stream stream .changed) = some next := by
  obtain ⟨published, explained⟩ := explained_of_run ran
  have notPublishing : feed.trigger.publisher ≠ .publishing := by
    rw [asleep]
    decide
  have last := explained.frames _ explained.started (le_refl _)
  rw [explained.lastShown, explained.covered.published.resolve_left notPublishing] at last
  have pending : ∀ version, feed.trigger.lastRead < version →
      version ≤ (operationsOf steps).length → feed.trigger.Pending version := by
    intro version later written
    have each := explained.covered.each version (by omega) (by rw [explained.version]; exact written)
    refine each.resolve_left fun member => ?_
    rcases explained.covered.awake asleep version member with read | permit
    · omega
    · rw [drained] at permit
      cases permit
  refine ⟨feed.trigger.lastRead, published.clock feed.hub.version, explained.lastRead_le, pending,
    ?_, ?_⟩
  · intro idle
    refine explained.lastRead_le.eq_or_lt.resolve_right fun unread => ?_
    obtain ⟨requester, written | flagged⟩ := pending _ unread (le_refl _)
    · rw [idle] at written
      cases written
    · rw [idle] at flagged
      cases flagged
  · intro stream waiting
    by_cases seen : (feed.streams stream).seen = feed.hub.version
    · obtain ⟨reader, recounts⟩ := explained.streams stream
      obtain ⟨unmarked, seenSame⟩ := recounts.waiting waiting
      have newest := recounts.follows.latest unmarked (seenSame.trans seen)
      left
      rw [recounts.written, List.getLast?_map, List.getLast?_reverse, newest, Option.map_some, last]
    · right
      simp [step, EventStream.step, waiting, seen]

theorem streams_show_every_write_scanned :
    ∃ feed, scannedFeed = some feed ∧ ∃ nowMs, (feed.streams ()).snapshots.getLast? =
        some (frameShowing id {} { nodeName := "node-1", systemId := "system-1" }
          [Operation.discovery [] 5] 2 nowMs) := by
  obtain ⟨feed, ran⟩ := scannedFeed_some
  have version : feed.hub.version = 2 := @scannedFeed_holds _ (fun feed => feed.hub.version) _ (by decide +kernel) feed ran
  have stage : (feed.streams ()).stage = .waiting :=
    @scannedFeed_holds _ (fun feed => (feed.streams ()).stage) _ (by decide +kernel) feed ran
  have seen : (feed.streams ()).seen = 2 :=
    @scannedFeed_holds _ (fun feed => (feed.streams ()).seen) _ (by decide +kernel) feed ran
  have asleep : feed.trigger.publisher = .waiting :=
    @scannedFeed_holds _ (fun feed => feed.trigger.publisher) _ (by decide +kernel) feed ran
  have drained : feed.trigger.permit = false :=
    @scannedFeed_holds _ (fun feed => feed.trigger.permit) _ (by decide +kernel) feed ran
  have idle : ∀ requester, feed.trigger.requesters requester = .idle :=
    fun requester => @scannedFeed_holds _ (fun feed => feed.trigger.requesters ()) _
      (by decide +kernel) feed ran
  have unfolded := ran
  unfold scannedFeed at unfolded
  obtain ⟨shown, nowMs, -, -, all, streams⟩ := streams_show_every_write unfolded asleep drained
  refine ⟨feed, ran, nowMs, ?_⟩
  rcases streams () stage with written | ⟨next, stepped⟩
  · rw [version, all idle, List.take_length] at written
    exact written
  · simp [step, EventStream.step, seen, version] at stepped

/-- Slots are neither lost nor made: those that are free and those that streams hold are eight, and
    a connection is refused only if eight streams are open. -/
theorem stream_slots
    (ran : run sha256Hex steps (start sha256Hex config observer createdAt publishedAt) = some feed) :
    ∃ holders : Finset κ, (∀ stream, stream ∈ holders ↔ (feed.streams stream).holdsSlot) ∧
      feed.freeSlots + holders.card = streamConnectionSlots ∧
      ∀ stream next, feed.step sha256Hex (.stream stream .connect) = some next →
        ((next.streams stream).stage = .refused ↔ holders.card = streamConnectionSlots) := by
  obtain ⟨published, explained⟩ := explained_of_run ran
  obtain ⟨holders, member, count⟩ := explained.slots
  refine ⟨holders, member, count, ?_⟩
  intro stream next stepped
  obtain ⟨⟨moved, left⟩, after, rfl⟩ := Option.map_eq_some_iff.mp stepped
  change (Function.update feed.streams stream moved stream).stage = .refused ↔ _
  rw [Function.update_self]
  simp only [EventStream.step] at after
  split at after
  · cases after
  · split at after
    · cases after
      refine iff_of_true rfl ?_
      omega
    · cases after
      refine iff_of_false (fun refused => by cases refused) ?_
      omega

theorem stream_slots_scanned :
    ∃ feed, scannedFeed = some feed ∧ feed.freeSlots = 7 ∧
      ∃ holders : Finset Unit, (∀ stream, stream ∈ holders ↔ (feed.streams stream).holdsSlot) ∧
        holders.card = 1 := by
  obtain ⟨feed, ran⟩ := scannedFeed_some
  have free : feed.freeSlots = 7 :=
    @scannedFeed_holds _ (fun feed => feed.freeSlots) _ (by decide +kernel) feed ran
  have unfolded := ran
  unfold scannedFeed at unfolded
  obtain ⟨holders, member, count, -⟩ := stream_slots unfolded
  rw [free, streamConnectionSlots] at count
  exact ⟨feed, ran, free, holders, member, by omega⟩

end Feed

end Moshwatch
