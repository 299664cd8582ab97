import Moshwatch.Coherence.Report

namespace Moshwatch

/-- An epoch that stands for a run of points. -/
structure EncodesRun (index : Nat) (run : List CoherencePoint) (epoch : CoherenceRouteEpoch) :
    Prop where
  index : epoch.epochIndex = index
  starts : run.head?.map CoherencePoint.unixMs = some epoch.startUnixMs
  ends : run.getLast?.map CoherencePoint.unixMs = some epoch.endUnixMs
  count : epoch.sampleCount = run.length
  label : ∀ point ∈ run, point.label = epoch.endpointLabel

/-- The epochs stand for the runs one by one, counted from an index on. -/
inductive EncodesRuns : Nat → List (List CoherencePoint) → List CoherenceRouteEpoch → Prop where
  | nil (index : Nat) : EncodesRuns index [] []
  | cons {index : Nat} {run : List CoherencePoint} {epoch : CoherenceRouteEpoch}
      {runs : List (List CoherencePoint)} {epochs : List CoherenceRouteEpoch}
      (head : EncodesRun index run epoch) (tail : EncodesRuns (index + 1) runs epochs) :
      EncodesRuns index (run :: runs) (epoch :: epochs)

/-- The epochs are the run-length encoding of the labels of the points. -/
structure IsRunLengthEncoding (points : List CoherencePoint) (epochs : List CoherenceRouteEpoch) :
    Prop where
  runs : ∃ runs, runs.flatten = points ∧ EncodesRuns 0 runs epochs
  adjacent : epochs.IsChain fun epoch next => epoch.endpointLabel ≠ next.endpointLabel
  positive : ∀ epoch ∈ epochs, 0 < epoch.sampleCount
  total : (epochs.map CoherenceRouteEpoch.sampleCount).sum = points.length
  indices : epochs.map CoherenceRouteEpoch.epochIndex = List.range epochs.length
  ordered : epochs.IsChain fun epoch next => epoch.endUnixMs ≤ next.startUnixMs
  expanded : (epochs.flatMap fun epoch => List.replicate epoch.sampleCount epoch.endpointLabel) =
    points.map CoherencePoint.label

/-- Sorted by time, points of one time in their order. -/
structure IsStableSort (points sorted : List CoherencePoint) : Prop where
  perm : sorted.Perm points
  ordered : sorted.Pairwise fun point next => point.unixMs ≤ next.unixMs
  stable : ∀ unixMs, (sorted.filter fun point => point.unixMs = unixMs) =
    points.filter fun point => point.unixMs = unixMs

section Sorting

theorem isStableSort_mergeSort (points : List CoherencePoint) :
    IsStableSort points (points.mergeSort fun point next => point.unixMs ≤ next.unixMs) := by
  have trans : ∀ first second third : CoherencePoint, decide (first.unixMs ≤ second.unixMs) = true →
      decide (second.unixMs ≤ third.unixMs) = true → decide (first.unixMs ≤ third.unixMs) = true := by
    intro first second third
    simp only [decide_eq_true_eq]
    exact le_trans
  have total : ∀ first second : CoherencePoint, (decide (first.unixMs ≤ second.unixMs) ||
      decide (second.unixMs ≤ first.unixMs)) = true := by
    intro first second
    simpa using le_total first.unixMs second.unixMs
  have perm := List.mergeSort_perm points fun point next => decide (point.unixMs ≤ next.unixMs)
  refine ⟨perm, ?_, ?_⟩
  · exact (List.pairwise_mergeSort trans total points).imp of_decide_eq_true
  · intro unixMs
    have level : (points.filter fun point => point.unixMs = unixMs).Pairwise
        fun point next => decide (point.unixMs ≤ next.unixMs) = true := by
      refine List.pairwise_of_forall_mem_list fun point member next nextMember => ?_
      have own := of_decide_eq_true (List.mem_filter.mp member).2
      have other := of_decide_eq_true (List.mem_filter.mp nextMember).2
      rw [own, other]
      exact decide_eq_true le_rfl
    have kept := (List.sublist_mergeSort trans total level List.filter_sublist).filter
      fun point => decide (point.unixMs = unixMs)
    rw [List.filter_filter] at kept
    simp only [Bool.and_self] at kept
    exact (kept.eq_of_length (perm.filter _).length_eq.symm).symm

end Sorting

section Encoding

theorem foldl_extendEpoch (later : List CoherencePoint) (epoch : CoherenceRouteEpoch) :
    later.foldl extendEpoch epoch =
      { epoch with
        endUnixMs := (later.getLast?.map CoherencePoint.unixMs).getD epoch.endUnixMs
        sampleCount := epoch.sampleCount + later.length } := by
  induction later using List.reverseRecOn with
  | nil => rfl
  | append_singleton later point ih =>
    rw [List.foldl_append, ih, List.getLast?_concat, List.length_append]
    rfl

theorem encodesRun_fold (index : Nat) {first : CoherencePoint} {later : List CoherencePoint}
    (uniform : ∀ point ∈ later, point.label = first.label) :
    EncodesRun index (first :: later) (later.foldl extendEpoch (openEpoch index first)) := by
  rw [foldl_extendEpoch]
  refine ⟨rfl, rfl, ?_, ?_, ?_⟩
  · rw [List.getLast?_cons]
    cases later.getLast? with
    | none => rfl
    | some point => rfl
  · exact Nat.add_comm _ _
  · intro point member
    rcases List.mem_cons.mp member with rfl | inside
    · rfl
    · exact uniform point inside

theorem encodesRuns_summaries {groups : List (List CoherencePoint)}
    (uniform : ∀ group ∈ groups, ∀ first ∈ group.head?, ∀ point ∈ group,
      point.label = first.label)
    (nonempty : [] ∉ groups) (index : Nat) :
    EncodesRuns index groups (RunLength.summaries extendEpoch openEpoch index groups) := by
  induction groups generalizing index with
  | nil => exact .nil index
  | cons group rest ih =>
    cases group with
    | nil => exact absurd List.mem_cons_self nonempty
    | cons first later =>
      refine .cons (encodesRun_fold index ?_) (ih ?_ ?_ (index + 1))
      · intro point member
        exact uniform _ List.mem_cons_self first rfl point (List.mem_cons_of_mem _ member)
      · exact fun group member => uniform group (List.mem_cons_of_mem _ member)
      · exact fun member => nonempty (List.mem_cons_of_mem _ member)

namespace EncodesRuns

variable {index : Nat} {runs : List (List CoherencePoint)} {epochs : List CoherenceRouteEpoch}

theorem indices (encodes : EncodesRuns index runs epochs) :
    epochs.map CoherenceRouteEpoch.epochIndex = List.range' index epochs.length := by
  induction encodes with
  | nil => rfl
  | cons head _ ih => rw [List.map_cons, List.length_cons, List.range'_succ, head.index, ih]

theorem total (encodes : EncodesRuns index runs epochs) :
    (epochs.map CoherenceRouteEpoch.sampleCount).sum = runs.flatten.length := by
  induction encodes with
  | nil => rfl
  | cons head _ ih =>
    rw [List.map_cons, List.sum_cons, List.flatten_cons, List.length_append, head.count, ih]

theorem positive (encodes : EncodesRuns index runs epochs) :
    ∀ epoch ∈ epochs, 0 < epoch.sampleCount := by
  induction encodes with
  | nil => simp
  | @cons index run epoch runs epochs head _ ih =>
    intro other member
    rcases List.mem_cons.mp member with rfl | later
    · rw [head.count, List.length_pos_iff]
      rintro rfl
      cases head.starts
    · exact ih other later

theorem expanded (encodes : EncodesRuns index runs epochs) :
    (epochs.flatMap fun epoch => List.replicate epoch.sampleCount epoch.endpointLabel) =
      runs.flatten.map CoherencePoint.label := by
  induction encodes with
  | nil => rfl
  | cons head _ ih =>
    rw [List.flatMap_cons, List.flatten_cons, List.map_append, ih, head.count]
    refine congrArg (· ++ _) (List.eq_replicate_iff.mpr ⟨List.length_map _, ?_⟩).symm
    intro label member
    obtain ⟨point, inside, rfl⟩ := List.mem_map.mp member
    exact head.label point inside

theorem ordered (encodes : EncodesRuns index runs epochs)
    (sorted : runs.flatten.Pairwise fun point next => point.unixMs ≤ next.unixMs) :
    epochs.IsChain fun epoch next => epoch.endUnixMs ≤ next.startUnixMs := by
  induction encodes with
  | nil => exact List.isChain_nil
  | @cons index run epoch runs epochs head tail ih =>
    rw [List.flatten_cons, List.pairwise_append] at sorted
    obtain ⟨-, later, across⟩ := sorted
    refine List.isChain_cons.mpr ⟨?_, ih later⟩
    intro next isNext
    cases tail with
    | nil => cases isNext
    | cons nextHead _ =>
      cases isNext
      obtain ⟨last, isLast, ends⟩ := Option.map_eq_some_iff.mp head.ends
      obtain ⟨first, isFirst, starts⟩ := Option.map_eq_some_iff.mp nextHead.starts
      rw [← ends, ← starts]
      apply across last (List.mem_of_getLast? isLast) first
      rw [List.flatten_cons]
      exact List.mem_append_left _ (List.mem_of_head? isFirst)

end EncodesRuns

theorem isRunLengthEncoding_routeEpochs {points : List CoherencePoint}
    (sorted : points.Pairwise fun point next => point.unixMs ≤ next.unixMs) :
    IsRunLengthEncoding points (routeEpochs points) := by
  have encodes : EncodesRuns 0 (points.splitBy fun left right => left.label = right.label)
      (routeEpochs points) := by
    rw [routeEpochs, routeEpochs_labelled.collect_eq_summaries]
    refine encodesRuns_summaries ?_ (List.nil_notMem_splitBy _ points) 0
    intro group member first isFirst
    have chain : group.IsChain fun left right => left.label = right.label := by
      simpa using List.isChain_of_mem_splitBy member
    exact RunLength.label_eq_head chain isFirst
  have whole := List.flatten_splitBy
    (fun left right => decide (CoherencePoint.label left = CoherencePoint.label right)) points
  refine ⟨⟨_, whole, encodes⟩, ?_, encodes.positive, ?_, ?_, ?_, ?_⟩
  · have chain := routeEpochs_labelled.isChain_tags points
    exact (List.isChain_map CoherenceRouteEpoch.endpointLabel).mp chain
  · rw [encodes.total, whole]
  · rw [encodes.indices, List.range_eq_range']
  · exact encodes.ordered (whole.symm ▸ sorted)
  · rw [encodes.expanded, whole]

end Encoding

section Gaps

def sampleGaps (points : List CoherencePoint) : List Int :=
  List.zipWith (fun point next => next.unixMs - point.unixMs) points points.tail

theorem max?_map_of_monotone {cap : Int → Int} (monotone : Monotone cap) (values : List Int) :
    (values.map cap).max? = values.max?.map cap := by
  cases greatest : values.max? with
  | none =>
    rw [List.max?_eq_none_iff.mp greatest]
    rfl
  | some most =>
    obtain ⟨member, bound⟩ := List.max?_eq_some_iff.mp greatest
    refine List.max?_eq_some_iff.mpr ⟨List.mem_map_of_mem member, ?_⟩
    intro capped inside
    obtain ⟨value, valueMember, rfl⟩ := List.mem_map.mp inside
    exact monotone (bound value valueMember)

theorem satSubI64_of_le {left right : Int} (ordered : right ≤ left) :
    satSubI64 left right = min (left - right) i64Max := by
  unfold satSubI64 i64Max
  omega

theorem zipWith_satSubI64 {points : List CoherencePoint}
    (sorted : points.Pairwise fun point next => point.unixMs ≤ next.unixMs) :
    List.zipWith (fun point next => satSubI64 next.unixMs point.unixMs) points points.tail =
      (sampleGaps points).map (min · i64Max) := by
  induction points with
  | nil => rfl
  | cons point rest ih =>
    obtain ⟨first, later⟩ := List.pairwise_cons.mp sorted
    have tail := ih later
    cases rest with
    | nil => rfl
    | cons next rest =>
      have ordered := first next List.mem_cons_self
      rw [List.tail_cons] at tail ⊢
      rw [List.zipWith_cons_cons, tail, satSubI64_of_le ordered]
      rfl

theorem maxSampleGapMs_eq {points : List CoherencePoint}
    (sorted : points.Pairwise fun point next => point.unixMs ≤ next.unixMs) :
    maxSampleGapMs points = (sampleGaps points).max?.map (min · i64Max) := by
  have monotone : Monotone fun gap : Int => min gap i64Max := fun _ _ le => min_le_min_right _ le
  rw [maxSampleGapMs, zipWith_satSubI64 sorted, max?_map_of_monotone monotone]

end Gaps

section Report

variable (sha256Hex : String → String)

def reportedPoints (snapshot : SessionSnapshot) : List CoherencePoint :=
  if snapshot.history = [] then [summaryPoint sha256Hex snapshot.summary]
  else snapshot.history.map (historyPoint sha256Hex)

theorem coherencePoints_eq (snapshot : SessionSnapshot) :
    coherencePoints sha256Hex snapshot =
      (reportedPoints sha256Hex snapshot).mergeSort fun point next => point.unixMs ≤ next.unixMs := by
  unfold coherencePoints reportedPoints
  simp only [List.map_eq_nil_iff]

theorem reportedPoints_ne_nil (snapshot : SessionSnapshot) :
    reportedPoints sha256Hex snapshot ≠ [] := by
  unfold reportedPoints
  by_cases empty : snapshot.history = []
  · rw [if_pos empty]
    exact List.cons_ne_nil _ _
  · rw [if_neg empty]
    simpa using empty

/-- The route epochs of every report are the run-length encoding of the labels of its points in
    the order of time, and the greatest gap is reported up to the range of its type. -/
theorem route_epochs_runLength (observer : ObserverInfo) (snapshot : SessionSnapshot) :
    let report := buildCoherenceSessionReport sha256Hex observer snapshot
    ∃ points, IsStableSort (reportedPoints sha256Hex snapshot) points ∧
      IsRunLengthEncoding points report.routeEpochs ∧
      report.continuity.routeShiftCount + 1 = report.routeEpochs.length ∧
      report.continuity.maxSampleGapMs = (sampleGaps points).max?.map (min · i64Max) := by
  have sorts := isStableSort_mergeSort (reportedPoints sha256Hex snapshot)
  rw [← coherencePoints_eq] at sorts
  have encoding := isRunLengthEncoding_routeEpochs sorts.ordered
  refine ⟨_, sorts, encoding, ?_, maxSampleGapMs_eq sorts.ordered⟩
  have several : routeEpochs (coherencePoints sha256Hex snapshot) ≠ [] := by
    intro none
    have total := encoding.total
    rw [none, List.map_nil, List.sum_nil, sorts.perm.length_eq] at total
    exact reportedPoints_ne_nil sha256Hex snapshot (List.length_eq_zero_iff.mp total.symm)
  exact Nat.sub_add_cancel (List.length_pos_iff.mpr several)

end Report

def silentPoint (unixMs : Int) : MetricPoint :=
  { unixMs, srttMs := none, retransmitPct10s := none, remoteStateAgeMs := none
    currentClientAddr := none }

/-- A session with a point at either end of the range of times. -/
def wholeRange : SessionSnapshot where
  summary :=
    { sessionId := "instrumented:0:1"
      displaySessionId := none
      pid := 1
      kind := .instrumented
      health := .ok
      startedAtUnixMs := 0
      lastObservedUnixMs := 0
      counterResetUnixMs := none
      bindAddr := none
      udpPort := none
      clientAddr := none
      peer := {}
      cmdline := "mosh-server"
      metrics := {} }
  totalHistoryPoints := 2
  truncatedHistoryPoints := 0
  history := [silentPoint i64Min, silentPoint i64Max]

/-- Times that lie further apart than an `i64` can say. -/
theorem wholeRange_gap :
    (buildCoherenceSessionReport id ⟨"node", "system"⟩ wholeRange).continuity.maxSampleGapMs =
        some i64Max ∧
      (sampleGaps (coherencePoints id wholeRange)).max? = some (2 ^ 64 - 1) := by
  have sorted : coherencePoints id wholeRange = reportedPoints id wholeRange := by
    rw [coherencePoints_eq]
    exact List.mergeSort_of_pairwise (by decide +kernel)
  refine ⟨?_, ?_⟩
  · change maxSampleGapMs (coherencePoints id wholeRange) = _
    rw [sorted]
    decide +kernel
  · rw [sorted]
    decide +kernel

end Moshwatch
