import Moshwatch.Metrics.Otlp
import Moshwatch.State.Windows

namespace Moshwatch

open ServiceState (run)

def SessionCounter.reported (counter : SessionCounter) (event : TelemetryEvent) : Option Nat :=
  match counter with
  | packetsTx => event.packetsTxTotal
  | packetsRx => event.packetsRxTotal
  | retransmits => event.retransmitsTotal

def Applied.counterStart (applied : Applied) : Nat :=
  if applied.regressed then unixNanos applied.unixMs else applied.before.summary.counterStart

/-- A detected regression moves the start forward, and any other event reports no counter below
    what the events since the last detected regression reported. -/
structure Applied.Advances (applied : Applied) (earlier : List Applied) : Prop where
  restarted : applied.regressed = true →
    applied.before.summary.counterStart < unixNanos applied.unixMs
  continued : applied.regressed = false → ∀ counter : SessionCounter,
    ∀ reported ∈ counter.reported applied.event,
      ∀ other ∈ sinceClear earlier, ∀ known ∈ counter.reported other.event, known ≤ reported

def EachAdvances : List Applied → List Applied → Prop
  | _, [] => True
  | earlier, applied :: rest =>
    applied.Advances earlier ∧ EachAdvances (earlier ++ [applied]) rest

theorem eachAdvances_concat (applied : Applied) (log : List Applied) :
    ∀ earlier, EachAdvances earlier (log ++ [applied]) ↔
      EachAdvances earlier log ∧ applied.Advances (earlier ++ log) := by
  induction log with
  | nil => intro earlier; simp [EachAdvances]
  | cons first rest ih =>
    intro earlier
    simp only [List.cons_append, EachAdvances, ih, List.append_assoc, List.nil_append, and_assoc]

/-- Where the later event reports less, its counters start later. -/
def Applied.RestartedBy (applied later : Applied) : Prop :=
  ∀ counter : SessionCounter, ∀ known ∈ counter.reported applied.event,
    ∀ reported ∈ counter.reported later.event,
      reported < known → applied.counterStart < later.counterStart

namespace Traces

variable {config : AppConfig} {clocks : Set Int} {key : String} {record : SessionRecord}
  {log : List Applied}

theorem startedAt_eq {pid startedAt : Int}
    (traces : Traces config clocks (instrumentedSessionId pid startedAt) record log) :
    record.summary.startedAtUnixMs = startedAt := by
  rcases traces.identified.named with ⟨-, named⟩ | ⟨-, -, named⟩
  · exact (instrumentedSessionId_inj.mp named).2.symm
  · exact absurd named (instrumentedSessionId_ne_legacySessionId _ _ _ _)

theorem counterStart_applyEvent {event : TelemetryEvent} {startedAt receivedAt : Int}
    (started : record.summary.startedAtUnixMs = startedAt) (sessionId : String) :
    (applyEvent config sessionId event startedAt receivedAt record).summary.counterStart =
      Applied.counterStart { before := record, event, receivedAt } := by
  obtain ⟨-, -, -, sameStart, -, -, reset⟩ :=
    applyEvent_identity config sessionId event startedAt receivedAt record
  simp only [SessionSummary.counterStart, reset, sameStart, Applied.counterStart,
    Applied.regressed, Applied.unixMs, started]
  split <;> rfl

theorem total_applyEvent (counter : SessionCounter) (sessionId : String) (event : TelemetryEvent)
    (startedAt receivedAt : Int) :
    counter.total (applyEvent config sessionId event startedAt receivedAt record).summary.metrics =
      counter.reported event := by
  rw [applyEvent_metrics]
  cases counter <;> rfl

/-- What a record exports is what the last event left. -/
structure ShowsLast (record : SessionRecord) (last : Applied) : Prop where
  start : record.summary.counterStart = last.counterStart
  total : ∀ counter : SessionCounter,
    counter.total record.summary.metrics = counter.reported last.event

theorem counterStart_refreshRecord (kind : record.summary.kind = .instrumented)
    (session : DiscoveredSession) (nowMs : Int) :
    (ServiceState.refreshRecord config session nowMs record).summary.counterStart =
      record.summary.counterStart := by
  rw [ServiceState.refreshRecord_instrumented kind]
  rfl

theorem kind_of_applied (traces : Traces config clocks key record log) (nonempty : log ≠ []) :
    record.summary.kind = .instrumented := by
  rcases traces.identified.named with ⟨kind, -⟩ | ⟨-, empty, -⟩
  · exact kind
  · exact absurd empty nonempty

theorem showsLast (traces : Traces config clocks key record log) {last : Applied}
    (newest : log.getLast? = some last) : ShowsLast record last := by
  induction traces with
  | discovered => cases newest
  | opened => cases newest
  | upgraded => cases newest
  | @refreshed key record log session nowMs read named earlier ih =>
    have nonempty : log ≠ [] := by
      rintro rfl
      cases newest
    have shown := ih newest
    constructor
    · rw [counterStart_refreshRecord (earlier.kind_of_applied nonempty)]
      exact shown.start
    · intro counter
      rw [ServiceState.refreshRecord_metrics]
      exact shown.total counter
  | @applied record log event startedAt receivedAt read fits earlier ih =>
    rw [List.getLast?_concat, Option.some.injEq] at newest
    rw [← newest]
    exact ⟨counterStart_applyEvent earlier.startedAt_eq _,
      fun counter => total_applyEvent counter _ _ _ _⟩

/-- The start of a record lies past the events before the last detected regression. -/
structure Restarts (record : SessionRecord) (log : List Applied) : Prop where
  since : ∀ applied ∈ log, applied ∈ sinceClear log ∨
    applied.counterStart < record.summary.counterStart
  bounded : ∀ applied ∈ log, applied.counterStart ≤ record.summary.counterStart
  pairs : log.Pairwise Applied.RestartedBy

theorem Restarts.nil (record : SessionRecord) : Restarts record [] :=
  ⟨by simp, by simp, List.Pairwise.nil⟩

/-- A detected regression moves the start past all earlier ones. -/
theorem Restarts.concat_regressed {applied : Applied} {after : SessionRecord}
    (restarts : Restarts record log) (regressed : applied.regressed = true)
    (moved : record.summary.counterStart < applied.counterStart)
    (start : after.summary.counterStart = applied.counterStart) :
    Restarts after (log ++ [applied]) := by
  have later : ∀ other ∈ log, other.counterStart < applied.counterStart :=
    fun other member => (restarts.bounded other member).trans_lt moved
  refine ⟨?_, ?_, List.pairwise_append.mpr ⟨restarts.pairs, List.pairwise_singleton _ _, ?_⟩⟩
  · intro other member
    rw [sinceClear_concat, regressed, if_pos rfl, start]
    rcases List.mem_append.mp member with old | new
    · exact .inr (later other old)
    · exact .inl new
  · intro other member
    rw [start]
    rcases List.mem_append.mp member with old | new
    · exact (later other old).le
    · rw [List.mem_singleton.mp new]
  · intro other old new isNew
    rw [List.mem_singleton.mp isNew]
    exact fun _ _ _ _ _ _ => later other old

theorem Restarts.concat_continued {applied : Applied} {after : SessionRecord}
    (restarts : Restarts record log) (advances : applied.Advances log)
    (regressed : applied.regressed = false)
    (kept : applied.counterStart = record.summary.counterStart)
    (start : after.summary.counterStart = applied.counterStart) :
    Restarts after (log ++ [applied]) := by
  refine ⟨?_, ?_, List.pairwise_append.mpr ⟨restarts.pairs, List.pairwise_singleton _ _, ?_⟩⟩
  · intro other member
    rw [sinceClear_concat, regressed, if_neg Bool.false_ne_true, start, kept]
    rcases List.mem_append.mp member with old | new
    · rcases restarts.since other old with since | before
      · exact .inl (List.mem_append_left _ since)
      · exact .inr before
    · exact .inl (List.mem_append_right _ new)
  · intro other member
    rw [start, kept]
    rcases List.mem_append.mp member with old | new
    · exact restarts.bounded other old
    · rw [List.mem_singleton.mp new, kept]
  · intro other old new isNew
    rw [List.mem_singleton.mp isNew]
    intro counter known isKnown reported isReported less
    rcases restarts.since other old with since | before
    · have ordered := advances.continued regressed counter reported isReported other since known
        isKnown
      omega
    · rw [kept]
      exact before

theorem Restarts.concat {receivedAt : Int} {event : TelemetryEvent} (restarts : Restarts record log)
    (advances : Applied.Advances { before := record, event, receivedAt } log) {after : SessionRecord}
    (start : after.summary.counterStart =
      Applied.counterStart { before := record, event, receivedAt }) :
    Restarts after (log ++ [{ before := record, event, receivedAt }]) := by
  set applied : Applied := { before := record, event, receivedAt }
  cases regressed : applied.regressed with
  | true =>
    have moved : record.summary.counterStart < applied.counterStart := by
      rw [Applied.counterStart, regressed, if_pos rfl]
      exact advances.restarted regressed
    exact restarts.concat_regressed regressed moved start
  | false =>
    have kept : applied.counterStart = record.summary.counterStart := by
      rw [Applied.counterStart, regressed, if_neg Bool.false_ne_true]
    exact restarts.concat_continued advances regressed kept start

theorem restarts (traces : Traces config clocks key record log)
    (advances : EachAdvances [] log) : Restarts record log := by
  induction traces with
  | discovered => exact Restarts.nil _
  | opened => exact Restarts.nil _
  | upgraded => exact Restarts.nil _
  | @refreshed key record log session nowMs read named earlier ih =>
    cases log with
    | nil => exact Restarts.nil _
    | cons first rest =>
      obtain ⟨since, bounded, pairs⟩ := ih advances
      have same := @counterStart_refreshRecord config _
        (earlier.kind_of_applied (List.cons_ne_nil first rest)) session nowMs
      rw [← same] at since bounded
      exact ⟨since, bounded, pairs⟩
  | applied event startedAt read fits earlier ih =>
    obtain ⟨before, last⟩ := (eachAdvances_concat _ _ _).mp advances
    exact (ih before).concat last (counterStart_applyEvent earlier.startedAt_eq _)

end Traces

theorem Journal.log_grows (config : AppConfig) (earlier : List Operation) (key : String)
    (between : List Operation)
    (tracked : ∀ front, front <+: between →
      (ServiceState.run config (earlier ++ front)).sessions.contains key = true) :
    (Journal.run config earlier).log key <+: (Journal.run config (earlier ++ between)).log key := by
  induction between using List.reverseRecOn with
  | nil => rw [List.append_nil]
  | append_singleton between operation ih =>
    have before := ih fun front inside => tracked front (inside.trans (List.prefix_append _ _))
    obtain ⟨record, found⟩ :=
      KeyedStore.contains_iff.mp (tracked (between ++ [operation]) (List.prefix_refl _))
    rw [← List.append_assoc, ← Journal.run_state, Journal.run_concat] at found
    rw [← List.append_assoc, Journal.run_concat, Journal.log_step found]
    exact before.trans (List.prefix_append _ _)

/-- Where the later payload shows less of a session's counter, it shows a later start. -/
def RestartsBetween (before after : Except String ExportMetricsServiceRequest)
    (sessionId : String) : Prop :=
  ∀ counter : SessionCounter, ∀ point ∈ sessionPoints before counter.name sessionId,
    ∀ later ∈ sessionPoints after counter.name sessionId,
      later.value.partialCmp point.value = some .lt →
        point.startTimeUnixNano < later.startTimeUnixNano

theorem exists_applied_of_point {config : AppConfig} {operations : List Operation}
    {cycle : ExportCycle} {counter : SessionCounter} {sessionId : String} {point : NumberDataPoint}
    (member : point ∈ sessionPoints (cycle.payload (run config operations)) counter.name sessionId) :
    ∃ front last total, (Journal.run config operations).log sessionId = front ++ [last] ∧
      counter.reported last.event = some total ∧ point.value = .ofNat total ∧
      point.startTimeUnixNano = last.counterStart := by
  obtain ⟨key, record, total, found, named, counted, value, start⟩ := mem_sessionPoints member
  have traces : Traces config (Journal.clocks operations) key record
      ((Journal.run config operations).log key) :=
    Journal.traces operations key record (by rw [Journal.run_state]; exact found)
  rw [traces.identified.sessionId] at named
  subst named
  rcases List.eq_nil_or_concat' ((Journal.run config operations).log key) with
    empty | ⟨front, last, whole⟩
  · rw [empty] at traces
    rw [traces.blank.metrics] at counted
    cases counter <;> cases counted
  · have shown := traces.showsLast (by rw [whole, List.getLast?_concat])
    rw [shown.total] at counted
    exact ⟨front, last, total, whole, counted, value, start.trans shown.start⟩

/-- In every run, any two exports of a session that stays tracked between them show a later start
    wherever a counter went down, if each event applied to the session advances. -/
theorem exports_restart (config : AppConfig) (earlier between : List Operation) (sessionId : String)
    (before after : ExportCycle)
    (tracked : ∀ front, front <+: between →
      (run config (earlier ++ front)).sessions.contains sessionId = true)
    (advances : EachAdvances [] ((Journal.run config (earlier ++ between)).log sessionId)) :
    RestartsBetween (before.payload (run config earlier))
      (after.payload (run config (earlier ++ between))) sessionId := by
  intro counter point shown later shownLater less
  obtain ⟨front, last, total, whole, reported, value, start⟩ := exists_applied_of_point shown
  obtain ⟨laterFront, newest, laterTotal, laterWhole, laterReported, laterValue, laterStart⟩ :=
    exists_applied_of_point shownLater
  rw [value, laterValue] at less
  replace less := F64.lt_of_partialCmp_ofNat less
  obtain ⟨record, found⟩ := KeyedStore.contains_iff.mp (tracked between (List.prefix_refl _))
  rw [← Journal.run_state] at found
  have pairs := ((Journal.traces _ sessionId record found).restarts advances).pairs
  have grows := Journal.log_grows config earlier sessionId between tracked
  rw [laterWhole] at pairs grows
  rw [whole] at grows
  rw [start, laterStart]
  rcases List.prefix_concat_iff.mp grows with same | inside
  · have equal := (List.append_inj' same rfl).2
    rw [List.singleton_inj.mp equal, laterReported, Option.some.injEq] at reported
    omega
  · have member : last ∈ laterFront := inside.subset (by simp)
    exact (List.pairwise_append.mp pairs).2.2 last member newest (by simp) counter total reported
      laterTotal laterReported less

instance (applied : Applied) (earlier : List Applied) : Decidable (applied.Advances earlier) :=
  decidable_of_iff
    ((applied.regressed = true → applied.before.summary.counterStart < unixNanos applied.unixMs) ∧
      (applied.regressed = false → ∀ counter : SessionCounter,
        ∀ reported ∈ counter.reported applied.event,
          ∀ other ∈ sinceClear earlier, ∀ known ∈ counter.reported other.event, known ≤ reported))
    ⟨fun held => ⟨held.1, held.2⟩, fun held => ⟨held.restarted, held.continued⟩⟩

instance decidableEachAdvances : ∀ earlier log, Decidable (EachAdvances earlier log)
  | _, [] => isTrue True.intro
  | earlier, applied :: rest =>
    have := decidableEachAdvances (earlier ++ [applied]) rest
    inferInstanceAs (Decidable (_ ∧ _))

def packetTick (unixMs : Int) (packetsTxTotal : Option Nat)
    (fits : ({ event := .sessionTick, pid := 1, unixMs, packetsTxTotal } : TelemetryEvent).fits =
      true) : Operation :=
  .telemetry { event := .sessionTick, pid := 1, unixMs, packetsTxTotal } 10 unixMs fits

def exportCycle (nowMs : Int) : ExportCycle :=
  { observer := { nodeName := "node", systemId := "system" }
    config := { metrics := { otlp := { detailTier := .perSession } } }
    nowMs
    exportStartedUnixNano := 0 }

/-- A restarted counter, seen by two exports. -/
theorem exports_restart_packetTicks :
    RestartsBetween ((exportCycle 1000).payload (run {} [packetTick 1000 (some 10) rfl]))
      ((exportCycle 2000).payload
        (run {} ([packetTick 1000 (some 10) rfl] ++ [packetTick 2000 (some 5) rfl])))
      "instrumented:10:1" := by
  apply exports_restart
  · intro front inside
    rcases List.prefix_concat_iff.mp (show front <+: [] ++ [packetTick 2000 (some 5) rfl] from inside)
      with whole | empty
    · rw [whole]
      decide +kernel
    · rw [List.prefix_nil.mp empty]
      decide +kernel
  · decide +kernel

/-- The event without the counter hides the restart, and the exported sum goes backwards. -/
theorem packetTicks_go_backwards :
    (∀ front, front <+: [packetTick 2000 none rfl, packetTick 3000 (some 5) rfl] →
      (run {} ([packetTick 1000 (some 10) rfl] ++ front)).sessions.contains "instrumented:10:1" =
        true) ∧
    ¬RestartsBetween ((exportCycle 1000).payload (run {} [packetTick 1000 (some 10) rfl]))
      ((exportCycle 3000).payload
        (run {} ([packetTick 1000 (some 10) rfl] ++
          [packetTick 2000 none rfl, packetTick 3000 (some 5) rfl])))
      "instrumented:10:1" := by
  constructor
  · intro front inside
    have listed := (List.mem_inits _ _).mpr inside
    simp only [List.inits, List.map_cons, List.map_nil, List.mem_cons, List.not_mem_nil,
      or_false] at listed
    rcases listed with rfl | rfl | rfl <;> decide +kernel
  · intro restarts
    have shown : (sessionPoints ((exportCycle 1000).payload (run {} [packetTick 1000 (some 10) rfl]))
        SessionCounter.packetsTx.name "instrumented:10:1").map
          (fun point => (point.value, point.startTimeUnixNano)) =
        [(.ofNat 10, 10000000)] := by decide +kernel
    have shownLater : (sessionPoints ((exportCycle 3000).payload
        (run {} ([packetTick 1000 (some 10) rfl] ++
          [packetTick 2000 none rfl, packetTick 3000 (some 5) rfl])))
        SessionCounter.packetsTx.name "instrumented:10:1").map
          (fun point => (point.value, point.startTimeUnixNano)) =
        [(.ofNat 5, 10000000)] := by decide +kernel
    obtain ⟨point, member, pair⟩ := List.mem_map.mp (shown ▸ List.mem_singleton_self _)
    obtain ⟨later, laterMember, laterPair⟩ := List.mem_map.mp (shownLater ▸ List.mem_singleton_self _)
    obtain ⟨value, start⟩ := Prod.mk.inj pair
    obtain ⟨laterValue, laterStart⟩ := Prod.mk.inj laterPair
    have moved := restarts .packetsTx point member later laterMember
      (by rw [value, laterValue]; decide +kernel)
    omega

end Moshwatch
