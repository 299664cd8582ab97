import Moshwatch.Coherence.Report

namespace Moshwatch

def coherenceExportVersion : String := "moshwatch-coherence-export-v1"

structure CoherenceRedactionProfile where
  profileId : String
  endpointValuesRetained : Bool
  sessionIdValuesRetained : Bool
  observerValuesRetained : Bool
  packetOrTerminalContentRetained : Bool
  deriving DecidableEq

structure CoherenceExportGuarantees where
  packetPayloadRetained : Bool
  terminalContentRetained : Bool
  sessionKeysRetained : Bool
  endpointValuesRetained : Bool
  applicationSemanticsInferred : Bool
  deriving DecidableEq

structure CoherenceExportEnvelope where
  schemaVersion : Nat
  exportVersion : String
  generatedAtUnixMs : Int
  observerLabel : String
  sessionIdLabel : String
  report : CoherenceSessionReport
  redaction : CoherenceRedactionProfile
  exportGuarantees : CoherenceExportGuarantees
  exportDigest : String
  deriving DecidableEq

/-- The envelope of a report; `reportJson` is `serde_json::to_vec`. -/
def sealReport (sha256Hex : String → String) (reportJson : CoherenceSessionReport → String)
    (generatedAtUnixMs : Int) (report : CoherenceSessionReport) : CoherenceExportEnvelope :=
  { schemaVersion := apiSchemaVersion
    exportVersion := coherenceExportVersion
    generatedAtUnixMs
    observerLabel := report.observerLabel
    sessionIdLabel := report.sessionIdLabel
    report
    redaction :=
      { profileId := "metadata-only-redaction-v1"
        endpointValuesRetained := false
        sessionIdValuesRetained := false
        observerValuesRetained := false
        packetOrTerminalContentRetained := false }
    exportGuarantees :=
      { packetPayloadRetained := false
        terminalContentRetained := false
        sessionKeysRetained := false
        endpointValuesRetained := false
        applicationSemanticsInferred := false }
    exportDigest := sha256Hex (reportJson report) }

def buildCoherenceExport (sha256Hex : String → String)
    (reportJson : CoherenceSessionReport → String) (observer : ObserverInfo)
    (generatedAtUnixMs : Int) (snapshot : SessionSnapshot) : CoherenceExportEnvelope :=
  sealReport sha256Hex reportJson generatedAtUnixMs
    (buildCoherenceSessionReport sha256Hex observer snapshot)

section Relabel

variable (rename : String → String)

def CoherencePoint.relabel (point : CoherencePoint) : CoherencePoint :=
  { point with label := point.label.map rename }

def CoherenceRouteEpoch.relabel (epoch : CoherenceRouteEpoch) : CoherenceRouteEpoch :=
  { epoch with endpointLabel := epoch.endpointLabel.map rename }

def CoherenceSessionReport.relabel (report : CoherenceSessionReport) : CoherenceSessionReport :=
  { report with routeEpochs := report.routeEpochs.map (CoherenceRouteEpoch.relabel rename) }

/-- The labels never meet: the renaming is injective on those of the points. -/
def KeepsApart (points : List CoherencePoint) : Prop :=
  ∀ first ∈ points, ∀ second ∈ points,
    first.label.map rename = second.label.map rename → first.label = second.label

theorem routeEpochs_relabel {points : List CoherencePoint} (apart : KeepsApart rename points) :
    routeEpochs (points.map (CoherencePoint.relabel rename)) =
      (routeEpochs points).map (CoherenceRouteEpoch.relabel rename) :=
  routeEpochs_labelled.collect_map (fun _ => rfl) (fun _ => rfl) (fun _ _ => rfl) (fun _ _ => rfl)
    apart

theorem maxSampleGapMs_relabel (points : List CoherencePoint) :
    maxSampleGapMs (points.map (CoherencePoint.relabel rename)) = maxSampleGapMs points := by
  simp only [maxSampleGapMs, ← List.map_tail, List.zipWith_map]
  rfl

end Relabel

/-- What the report reads of two inputs is the same, up to a renaming of the endpoint labels. -/
structure SeenAlike (sha256Hex rename : String → String) (observer otherObserver : ObserverInfo)
    (snapshot other : SessionSnapshot) : Prop where
  observer : observerLabel sha256Hex otherObserver = observerLabel sha256Hex observer
  session : stableDigestLabel sha256Hex other.summary.sessionId "session" =
    stableDigestLabel sha256Hex snapshot.summary.sessionId "session"
  identified : isBlank other.summary.sessionId = isBlank snapshot.summary.sessionId
  displayed : other.summary.displaySessionId.isSome = snapshot.summary.displaySessionId.isSome
  kind : other.summary.kind = snapshot.summary.kind
  health : other.summary.health = snapshot.summary.health
  udpPort : other.summary.udpPort.isSome = snapshot.summary.udpPort.isSome
  metrics : other.summary.metrics = snapshot.summary.metrics
  summaryPoint : summaryPoint sha256Hex other.summary =
    (summaryPoint sha256Hex snapshot.summary).relabel rename
  history : other.history.map (historyPoint sha256Hex) =
    (snapshot.history.map (historyPoint sha256Hex)).map (CoherencePoint.relabel rename)
  measured : other.history.map (fun point => point.retransmitPct10s.isSome) =
    snapshot.history.map fun point => point.retransmitPct10s.isSome

namespace SeenAlike

variable {sha256Hex rename : String → String} {observer otherObserver : ObserverInfo}
  {snapshot other : SessionSnapshot}
  (alike : SeenAlike sha256Hex rename observer otherObserver snapshot other)

include alike

theorem points : coherencePoints sha256Hex other =
    (coherencePoints sha256Hex snapshot).map (CoherencePoint.relabel rename) := by
  have base : (if other.history.map (historyPoint sha256Hex) = []
        then [Moshwatch.summaryPoint sha256Hex other.summary]
        else other.history.map (historyPoint sha256Hex)) =
      (if snapshot.history.map (historyPoint sha256Hex) = []
        then [Moshwatch.summaryPoint sha256Hex snapshot.summary]
        else snapshot.history.map (historyPoint sha256Hex)).map
          (CoherencePoint.relabel rename) := by
    rw [alike.history, alike.summaryPoint]
    by_cases empty : snapshot.history.map (historyPoint sha256Hex) = []
    · rw [empty]
      rfl
    · rw [if_neg empty, if_neg (by simpa using empty)]
  have sorted (points : List CoherencePoint) :=
    @List.map_mergeSort _ _ (fun point next => point.unixMs ≤ next.unixMs)
      (fun point next => point.unixMs ≤ next.unixMs) (CoherencePoint.relabel rename) points
      fun _ _ _ _ => rfl
  rw [coherencePoints, coherencePoints, sorted]
  exact congrArg (List.mergeSort · _) base

theorem continuity (apart : KeepsApart rename (coherencePoints sha256Hex snapshot)) :
    coherenceContinuity other (coherencePoints sha256Hex other)
        (routeEpochs (coherencePoints sha256Hex other)) =
      coherenceContinuity snapshot (coherencePoints sha256Hex snapshot)
        (routeEpochs (coherencePoints sha256Hex snapshot)) := by
  have length : other.history.length = snapshot.history.length := by
    have lengths := congrArg List.length alike.measured
    rwa [List.length_map, List.length_map] at lengths
  have retransmits : (other.history.any fun point => point.retransmitPct10s.isSome) =
      snapshot.history.any fun point => point.retransmitPct10s.isSome := by
    have flags := congrArg (List.any · id) alike.measured
    simp only [List.any_map] at flags
    exact flags
  rw [alike.points, routeEpochs_relabel rename apart]
  simp only [coherenceContinuity, maxSampleGapMs_relabel, List.length_map, List.any_map,
    alike.metrics, alike.identified, alike.kind, length, retransmits]
  rfl

theorem report (apart : KeepsApart rename (coherencePoints sha256Hex snapshot)) :
    buildCoherenceSessionReport sha256Hex otherObserver other =
      (buildCoherenceSessionReport sha256Hex observer snapshot).relabel rename := by
  simp only [buildCoherenceSessionReport, alike.continuity apart, alike.observer, alike.session,
    alike.displayed, alike.kind, alike.health, alike.udpPort]
  rw [alike.points, routeEpochs_relabel rename apart]
  rfl

end SeenAlike

namespace SessionSnapshot

def renameEndpoints (rename : String → String) (snapshot : SessionSnapshot) : SessionSnapshot :=
  { snapshot with
    summary :=
      { snapshot.summary with
        clientAddr := snapshot.summary.clientAddr.map rename
        peer :=
          { snapshot.summary.peer with
            currentClientAddr := snapshot.summary.peer.currentClientAddr.map rename
            lastClientAddr := snapshot.summary.peer.lastClientAddr.map rename
            previousClientAddr := snapshot.summary.peer.previousClientAddr.map rename } }
    history := snapshot.history.map fun point =>
      { point with currentClientAddr := point.currentClientAddr.map rename } }

/-- The fields that an export may not depend on, set to fixed values where they are present. -/
def hide (snapshot : SessionSnapshot) : SessionSnapshot :=
  { snapshot with
    summary :=
      { snapshot.summary with
        cmdline := ""
        pid := 0
        bindAddr := none
        startedAtUnixMs := 0
        displaySessionId := snapshot.summary.displaySessionId.map fun _ => ""
        udpPort := snapshot.summary.udpPort.map fun _ => 0 } }

def erase (snapshot : SessionSnapshot) : SessionSnapshot :=
  let hidden := (snapshot.renameEndpoints fun _ => "").hide
  { hidden with summary := { hidden.summary with sessionId := "" } }

def endpoints (snapshot : SessionSnapshot) : List String :=
  snapshot.summary.clientAddr.toList ++ snapshot.summary.peer.currentClientAddr.toList ++
    snapshot.summary.peer.lastClientAddr.toList ++
    snapshot.summary.peer.previousClientAddr.toList ++
    snapshot.history.flatMap fun point => point.currentClientAddr.toList

end SessionSnapshot

/-- The two inputs give the same labels, and differ otherwise only in what the labels stand for. -/
structure SameLabels (sha256Hex rename : String → String) (observer otherObserver : ObserverInfo)
    (snapshot other : SessionSnapshot) : Prop where
  erased : other.erase = snapshot.erase
  observer : observerLabel sha256Hex otherObserver = observerLabel sha256Hex observer
  session : stableDigestLabel sha256Hex other.summary.sessionId "session" =
    stableDigestLabel sha256Hex snapshot.summary.sessionId "session"
  identified : isBlank other.summary.sessionId = isBlank snapshot.summary.sessionId
  client : endpointLabel sha256Hex other.summary.clientAddr =
    (endpointLabel sha256Hex snapshot.summary.clientAddr).map rename
  current : endpointLabel sha256Hex other.summary.peer.currentClientAddr =
    (endpointLabel sha256Hex snapshot.summary.peer.currentClientAddr).map rename
  last : endpointLabel sha256Hex other.summary.peer.lastClientAddr =
    (endpointLabel sha256Hex snapshot.summary.peer.lastClientAddr).map rename
  history : (other.history.map fun point => endpointLabel sha256Hex point.currentClientAddr) =
    snapshot.history.map fun point => (endpointLabel sha256Hex point.currentClientAddr).map rename

namespace SameLabels

variable {sha256Hex rename : String → String} {observer otherObserver : ObserverInfo}
  {snapshot other : SessionSnapshot}

theorem isSome_of_map {left right : Option α} {value : β}
    (same : left.map (fun _ => value) = right.map fun _ => value) : left.isSome = right.isSome := by
  have presence := congrArg Option.isSome same
  rwa [Option.isSome_map, Option.isSome_map] at presence

theorem historyPoint_relabel {point otherPoint : MetricPoint}
    (erased : ({ otherPoint with
      currentClientAddr := otherPoint.currentClientAddr.map fun _ => "" } : MetricPoint) =
      { point with currentClientAddr := point.currentClientAddr.map fun _ => "" })
    (label : endpointLabel sha256Hex otherPoint.currentClientAddr =
      (endpointLabel sha256Hex point.currentClientAddr).map rename) :
    historyPoint sha256Hex otherPoint = (historyPoint sha256Hex point).relabel rename ∧
      otherPoint.retransmitPct10s.isSome = point.retransmitPct10s.isSome := by
  obtain ⟨unixMs, srttMs, retransmitPct10s, remoteStateAgeMs, currentClientAddr⟩ := point
  obtain ⟨unixMs', srttMs', retransmitPct10s', remoteStateAgeMs', currentClientAddr'⟩ := otherPoint
  simp only [MetricPoint.mk.injEq] at erased
  obtain ⟨rfl, rfl, rfl, rfl, -⟩ := erased
  refine ⟨?_, rfl⟩
  simp only [historyPoint, CoherencePoint.relabel, label]

theorem history_relabel {points others : List MetricPoint}
    (erased : (others.map fun point => ({ point with
        currentClientAddr := point.currentClientAddr.map fun _ => "" } : MetricPoint)) =
      points.map fun point =>
        { point with currentClientAddr := point.currentClientAddr.map fun _ => "" })
    (labels : (others.map fun point => endpointLabel sha256Hex point.currentClientAddr) =
      points.map fun point => (endpointLabel sha256Hex point.currentClientAddr).map rename) :
    others.map (historyPoint sha256Hex) =
      (points.map (historyPoint sha256Hex)).map (CoherencePoint.relabel rename) ∧
    (others.map fun point => point.retransmitPct10s.isSome) =
      points.map fun point => point.retransmitPct10s.isSome := by
  induction points generalizing others with
  | nil =>
    rw [List.map_nil, List.map_eq_nil_iff] at erased
    subst erased
    exact ⟨rfl, rfl⟩
  | cons point points ih =>
    cases others with
    | nil => cases erased
    | cons otherPoint others =>
      simp only [List.map_cons, List.cons.injEq] at erased labels ⊢
      obtain ⟨seen, measured⟩ := historyPoint_relabel erased.1 labels.1
      obtain ⟨laterSeen, laterMeasured⟩ := ih erased.2 labels.2
      exact ⟨⟨seen, laterSeen⟩, measured, laterMeasured⟩

theorem label_or {first second otherFirst otherSecond : Option String}
    (present : otherFirst.isSome = first.isSome)
    (firstLabel : endpointLabel sha256Hex otherFirst = (endpointLabel sha256Hex first).map rename)
    (secondLabel :
      endpointLabel sha256Hex otherSecond = (endpointLabel sha256Hex second).map rename) :
    endpointLabel sha256Hex (otherFirst.or otherSecond) =
      (endpointLabel sha256Hex (first.or second)).map rename := by
  cases first with
  | none =>
    rw [Option.isSome_none, Option.isSome_eq_false_iff, Option.isNone_iff_eq_none] at present
    subst present
    exact secondLabel
  | some endpoint =>
    rw [Option.isSome_some] at present
    obtain ⟨otherEndpoint, rfl⟩ := Option.isSome_iff_exists.mp present
    exact firstLabel

theorem seenAlike
    (same : SameLabels sha256Hex rename observer otherObserver snapshot other) :
    SeenAlike sha256Hex rename observer otherObserver snapshot other := by
  have read {β : Type} (field : SessionSnapshot → β) : field other.erase = field snapshot.erase :=
    congrArg field same.erased
  have kind : other.summary.kind = snapshot.summary.kind := read fun erased => erased.summary.kind
  have metrics : other.summary.metrics = snapshot.summary.metrics :=
    read fun erased => erased.summary.metrics
  have observed : other.summary.lastObservedUnixMs = snapshot.summary.lastObservedUnixMs :=
    read fun erased => erased.summary.lastObservedUnixMs
  have current := isSome_of_map (read fun erased => erased.summary.peer.currentClientAddr)
  have last := isSome_of_map (read fun erased => erased.summary.peer.lastClientAddr)
  obtain ⟨history, measured⟩ := history_relabel (read SessionSnapshot.history) same.history
  refine ⟨same.observer, same.session, same.identified,
    isSome_of_map (read fun erased => erased.summary.displaySessionId), kind,
    read fun erased => erased.summary.health,
    isSome_of_map (read fun erased => erased.summary.udpPort), metrics, ?_, history, measured⟩
  have fallback : endpointLabel sha256Hex
        ((other.summary.peer.currentClientAddr.or other.summary.peer.lastClientAddr).or
          other.summary.clientAddr) =
      (endpointLabel sha256Hex
        ((snapshot.summary.peer.currentClientAddr.or snapshot.summary.peer.lastClientAddr).or
          snapshot.summary.clientAddr)).map rename := by
    have present : (other.summary.peer.currentClientAddr.or
        other.summary.peer.lastClientAddr).isSome =
        (snapshot.summary.peer.currentClientAddr.or snapshot.summary.peer.lastClientAddr).isSome := by
      rw [Option.isSome_or, Option.isSome_or, current, last]
    exact label_or present (label_or current same.current same.last) same.client
  simp only [summaryPoint, CoherencePoint.relabel, fallback, metrics, observed]

end SameLabels

/-- An envelope whose epochs carry renamed labels, with the digest of that report. -/
def CoherenceExportEnvelope.relabel (sha256Hex : String → String)
    (reportJson : CoherenceSessionReport → String) (rename : String → String)
    (envelope : CoherenceExportEnvelope) : CoherenceExportEnvelope :=
  { envelope with
    report := envelope.report.relabel rename
    exportDigest := sha256Hex (reportJson (envelope.report.relabel rename)) }

theorem SameLabels.export {sha256Hex rename : String → String}
    {observer otherObserver : ObserverInfo} {snapshot other : SessionSnapshot}
    (same : SameLabels sha256Hex rename observer otherObserver snapshot other)
    (apart : KeepsApart rename (coherencePoints sha256Hex snapshot))
    (reportJson : CoherenceSessionReport → String) (generatedAtUnixMs : Int) :
    buildCoherenceExport sha256Hex reportJson otherObserver generatedAtUnixMs other =
      (buildCoherenceExport sha256Hex reportJson observer generatedAtUnixMs snapshot).relabel
        sha256Hex reportJson rename := by
  rw [buildCoherenceExport, same.seenAlike.report apart]
  rfl

theorem CoherenceExportEnvelope.relabel_id {sha256Hex : String → String}
    {reportJson : CoherenceSessionReport → String} {observer : ObserverInfo}
    {generatedAtUnixMs : Int} {snapshot : SessionSnapshot} :
    (buildCoherenceExport sha256Hex reportJson observer generatedAtUnixMs snapshot).relabel
        sha256Hex reportJson id =
      buildCoherenceExport sha256Hex reportJson observer generatedAtUnixMs snapshot := by
  have epochs (report : CoherenceSessionReport) : report.relabel id = report := by
    have single (epoch : CoherenceRouteEpoch) : epoch.relabel id = epoch := by
      rw [CoherenceRouteEpoch.relabel, Option.map_id]
      rfl
    rw [CoherenceSessionReport.relabel, List.map_congr_left fun epoch _ => single epoch,
      List.map_id']
  rw [relabel, epochs]
  rfl

section Renamed

theorem erase_hide (snapshot : SessionSnapshot) : snapshot.hide.erase = snapshot.erase := by
  simp [SessionSnapshot.erase, SessionSnapshot.hide, SessionSnapshot.renameEndpoints,
    Option.map_map, Function.comp_def]

theorem erase_renameEndpoints (rename : String → String) (snapshot : SessionSnapshot) :
    (snapshot.renameEndpoints rename).erase = snapshot.erase := by
  simp [SessionSnapshot.erase, SessionSnapshot.hide, SessionSnapshot.renameEndpoints,
    Option.map_map, Function.comp_def]

theorem endpoints_hide (snapshot : SessionSnapshot) :
    snapshot.hide.endpoints = snapshot.endpoints := rfl

variable {sha256Hex rename relabel : String → String} {snapshot other : SessionSnapshot}

theorem mem_endpoints {endpoint : String} :
    endpoint ∈ snapshot.endpoints ↔
      snapshot.summary.clientAddr = some endpoint ∨
      snapshot.summary.peer.currentClientAddr = some endpoint ∨
      snapshot.summary.peer.lastClientAddr = some endpoint ∨
      snapshot.summary.peer.previousClientAddr = some endpoint ∨
      ∃ point ∈ snapshot.history, point.currentClientAddr = some endpoint := by
  simp [SessionSnapshot.endpoints]

theorem rename_mem_endpoints {endpoint : String} (member : endpoint ∈ snapshot.endpoints) :
    rename endpoint ∈ (snapshot.renameEndpoints rename).endpoints := by
  rw [mem_endpoints] at member ⊢
  simp only [SessionSnapshot.renameEndpoints, List.mem_map]
  rcases member with held | held | held | held | ⟨point, inside, held⟩
  · exact .inl (by rw [held, Option.map_some])
  · exact .inr (.inl (by rw [held, Option.map_some]))
  · exact .inr (.inr (.inl (by rw [held, Option.map_some])))
  · exact .inr (.inr (.inr (.inl (by rw [held, Option.map_some]))))
  · exact .inr (.inr (.inr (.inr ⟨_, ⟨point, inside, rfl⟩, by rw [held, Option.map_some]⟩)))

/-- The label of each endpoint is renamed along with the endpoint. -/
def RenamesLabels (sha256Hex rename relabel : String → String) (snapshot : SessionSnapshot) : Prop :=
  ∀ endpoint ∈ snapshot.endpoints,
    endpointLabel sha256Hex (some (rename endpoint)) =
      (endpointLabel sha256Hex (some endpoint)).map relabel

theorem RenamesLabels.value (renames : RenamesLabels sha256Hex rename relabel snapshot)
    {value : Option String}
    (inside : ∀ endpoint, value = some endpoint → endpoint ∈ snapshot.endpoints) :
    endpointLabel sha256Hex (value.map rename) = (endpointLabel sha256Hex value).map relabel := by
  cases value with
  | none => rfl
  | some endpoint => exact renames endpoint (inside endpoint rfl)

theorem RenamesLabels.sameLabels (renames : RenamesLabels sha256Hex rename relabel snapshot)
    (renamed : other.hide = (snapshot.renameEndpoints rename).hide) (observer : ObserverInfo) :
    SameLabels sha256Hex relabel observer observer snapshot other := by
  have read {β : Type} (field : SessionSnapshot → β) :
      field other.hide = field (snapshot.renameEndpoints rename).hide := congrArg field renamed
  have sessionId : other.summary.sessionId = snapshot.summary.sessionId :=
    read fun hidden => hidden.summary.sessionId
  have erased : other.erase = snapshot.erase := by
    rw [← erase_hide other, renamed, erase_hide, erase_renameEndpoints]
  have client : other.summary.clientAddr = snapshot.summary.clientAddr.map rename :=
    read fun hidden => hidden.summary.clientAddr
  have current : other.summary.peer.currentClientAddr =
      snapshot.summary.peer.currentClientAddr.map rename :=
    read fun hidden => hidden.summary.peer.currentClientAddr
  have last : other.summary.peer.lastClientAddr =
      snapshot.summary.peer.lastClientAddr.map rename :=
    read fun hidden => hidden.summary.peer.lastClientAddr
  have history : other.history = (snapshot.renameEndpoints rename).history :=
    read SessionSnapshot.history
  refine ⟨erased, rfl, by rw [sessionId], by rw [sessionId], ?_, ?_, ?_, ?_⟩
  · rw [client]
    exact renames.value fun endpoint held => mem_endpoints.mpr (.inl held)
  · rw [current]
    exact renames.value fun endpoint held => mem_endpoints.mpr (.inr (.inl held))
  · rw [last]
    exact renames.value fun endpoint held => mem_endpoints.mpr (.inr (.inr (.inl held)))
  · rw [history, SessionSnapshot.renameEndpoints, List.map_map]
    refine List.map_congr_left fun point member => renames.value fun endpoint held => ?_
    exact mem_endpoints.mpr (.inr (.inr (.inr (.inr ⟨point, member, held⟩))))

theorem endpointLabel_some (endpoint : String) :
    endpointLabel sha256Hex (some endpoint) =
      if isBlank endpoint then none else some (stableDigestLabel sha256Hex endpoint "endpoint") := by
  cases blank : isBlank endpoint <;> simp [endpointLabel, Option.filter, blank]

theorem exists_renamesLabels (snapshot : SessionSnapshot)
    (blank : ∀ endpoint ∈ snapshot.endpoints, isBlank (rename endpoint) = isBlank endpoint)
    (distinct : Set.InjOn (fun endpoint => stableDigestLabel sha256Hex endpoint "endpoint")
      {endpoint | endpoint ∈ snapshot.endpoints}) :
    ∃ relabel, RenamesLabels sha256Hex rename relabel snapshot := by
  let label := fun endpoint => stableDigestLabel sha256Hex endpoint "endpoint"
  refine ⟨fun found => label (rename (Function.invFunOn label
    {endpoint | endpoint ∈ snapshot.endpoints} found)), fun endpoint member => ?_⟩
  rw [endpointLabel_some, endpointLabel_some, blank endpoint member]
  cases isBlank endpoint with
  | true => rfl
  | false =>
    have back : Function.invFunOn label {endpoint | endpoint ∈ snapshot.endpoints}
        (label endpoint) = endpoint := distinct.leftInvOn_invFunOn member
    simp only [Bool.false_eq_true, if_false, Option.map_some]
    change _ = some (label (rename (Function.invFunOn label _ (label endpoint))))
    rw [back]

theorem label_of_mem_coherencePoints {point : CoherencePoint}
    (member : point ∈ coherencePoints sha256Hex snapshot) {label : String}
    (labelled : point.label = some label) :
    ∃ endpoint ∈ snapshot.endpoints, endpointLabel sha256Hex (some endpoint) = some label := by
  have shown {value : Option String} (found : endpointLabel sha256Hex value = some label) :
      ∃ endpoint, value = some endpoint ∧ endpointLabel sha256Hex (some endpoint) = some label := by
    cases value with
    | none => cases found
    | some endpoint => exact ⟨endpoint, rfl, found⟩
  by_cases empty : snapshot.history = []
  · simp only [coherencePoints, empty, List.map_nil, if_true, List.mem_mergeSort,
      List.mem_singleton] at member
    subst member
    obtain ⟨endpoint, held, found⟩ := shown labelled
    rw [Option.or_eq_some_iff, Option.or_eq_some_iff] at held
    refine ⟨endpoint, mem_endpoints.mpr ?_, found⟩
    rcases held with (current | ⟨-, last⟩) | ⟨-, client⟩
    · exact .inr (.inl current)
    · exact .inr (.inr (.inl last))
    · exact .inl client
  · obtain ⟨recorded, inside, rfl⟩ := (mem_coherencePoints sha256Hex empty point).mp member
    obtain ⟨endpoint, held, found⟩ := shown labelled
    exact ⟨endpoint, mem_endpoints.mpr (.inr (.inr (.inr (.inr ⟨recorded, inside, held⟩)))), found⟩

theorem RenamesLabels.injective (renames : RenamesLabels sha256Hex rename relabel snapshot)
    (injective : Set.InjOn rename {endpoint | endpoint ∈ snapshot.endpoints})
    (blank : ∀ endpoint ∈ snapshot.endpoints, isBlank (rename endpoint) = isBlank endpoint)
    (distinct : Set.InjOn (fun endpoint => stableDigestLabel sha256Hex endpoint "endpoint")
      {endpoint | endpoint ∈ (snapshot.renameEndpoints rename).endpoints})
    {first second : String} (firstMember : first ∈ snapshot.endpoints)
    (secondMember : second ∈ snapshot.endpoints)
    (same : (endpointLabel sha256Hex (some first)).map relabel =
      (endpointLabel sha256Hex (some second)).map relabel) :
    endpointLabel sha256Hex (some first) = endpointLabel sha256Hex (some second) := by
  rw [← renames first firstMember, ← renames second secondMember, endpointLabel_some,
    endpointLabel_some, blank first firstMember, blank second secondMember] at same
  rw [endpointLabel_some, endpointLabel_some]
  cases firstBlank : isBlank first with
  | true =>
    cases secondBlank : isBlank second with
    | true => rfl
    | false => simp [firstBlank, secondBlank] at same
  | false =>
    cases secondBlank : isBlank second with
    | true => simp [firstBlank, secondBlank] at same
    | false =>
      simp only [firstBlank, secondBlank, Bool.false_eq_true, if_false, Option.some.injEq] at same
      have renamed : rename first = rename second :=
        distinct (rename_mem_endpoints firstMember) (rename_mem_endpoints secondMember) same
      rw [injective firstMember secondMember renamed]

theorem RenamesLabels.keepsApart (renames : RenamesLabels sha256Hex rename relabel snapshot)
    (injective : Set.InjOn rename {endpoint | endpoint ∈ snapshot.endpoints})
    (blank : ∀ endpoint ∈ snapshot.endpoints, isBlank (rename endpoint) = isBlank endpoint)
    (distinct : Set.InjOn (fun endpoint => stableDigestLabel sha256Hex endpoint "endpoint")
      {endpoint | endpoint ∈ (snapshot.renameEndpoints rename).endpoints}) :
    KeepsApart relabel (coherencePoints sha256Hex snapshot) := by
  intro first firstMember second secondMember same
  cases firstLabel : first.label with
  | none =>
    rw [firstLabel, Option.map_none, eq_comm, Option.map_eq_none_iff] at same
    exact same.symm
  | some label =>
    cases secondLabel : second.label with
    | none =>
      rw [firstLabel, secondLabel] at same
      cases same
    | some otherLabel =>
      obtain ⟨one, oneMember, found⟩ := label_of_mem_coherencePoints firstMember firstLabel
      obtain ⟨two, twoMember, otherFound⟩ := label_of_mem_coherencePoints secondMember secondLabel
      rw [firstLabel, secondLabel, ← found, ← otherFound] at same
      rw [← found, ← otherFound]
      exact renames.injective injective blank distinct oneMember twoMember same

end Renamed

/-- An export depends on endpoints only through labels that follow any renaming of them, and on
    session id and observer only through their labels and a presence flag. -/
theorem coherence_export_redacts (sha256Hex : String → String)
    (reportJson : CoherenceSessionReport → String) (observer : ObserverInfo)
    (generatedAtUnixMs : Int) (snapshot : SessionSnapshot) :
    (∀ rename other, other.hide = (snapshot.renameEndpoints rename).hide →
      Set.InjOn rename {endpoint | endpoint ∈ snapshot.endpoints} →
      (∀ endpoint ∈ snapshot.endpoints, isBlank (rename endpoint) = isBlank endpoint) →
      Set.InjOn (fun endpoint => stableDigestLabel sha256Hex endpoint "endpoint")
        {endpoint | endpoint ∈ snapshot.endpoints ∨ endpoint ∈ other.endpoints} →
      ∃ relabel,
        (∀ endpoint ∈ snapshot.endpoints,
          endpointLabel sha256Hex (some (rename endpoint)) =
            (endpointLabel sha256Hex (some endpoint)).map relabel) ∧
        (∀ first ∈ snapshot.endpoints, ∀ second ∈ snapshot.endpoints,
          (endpointLabel sha256Hex (some first)).map relabel =
              (endpointLabel sha256Hex (some second)).map relabel →
            endpointLabel sha256Hex (some first) = endpointLabel sha256Hex (some second)) ∧
        buildCoherenceExport sha256Hex reportJson observer generatedAtUnixMs other =
          (buildCoherenceExport sha256Hex reportJson observer generatedAtUnixMs snapshot).relabel
            sha256Hex reportJson relabel) ∧
    ∀ otherObserver other, SameLabels sha256Hex id observer otherObserver snapshot other →
      buildCoherenceExport sha256Hex reportJson otherObserver generatedAtUnixMs other =
        buildCoherenceExport sha256Hex reportJson observer generatedAtUnixMs snapshot := by
  constructor
  · intro rename other renamed injective blank distinct
    have sameEndpoints : other.endpoints = (snapshot.renameEndpoints rename).endpoints := by
      rw [← endpoints_hide other, renamed, endpoints_hide]
    have distinctBefore := distinct.mono fun endpoint member => Or.inl member
    have distinctAfter := distinct.mono fun endpoint member =>
      Or.inr (sameEndpoints ▸ member : endpoint ∈ other.endpoints)
    obtain ⟨relabel, renames⟩ := exists_renamesLabels snapshot blank distinctBefore
    have apart := renames.keepsApart injective blank distinctAfter
    exact ⟨relabel, renames,
      fun first firstMember second secondMember =>
        renames.injective injective blank distinctAfter firstMember secondMember,
      (renames.sameLabels renamed observer).export apart reportJson generatedAtUnixMs⟩
  · intro otherObserver other same
    have apart : KeepsApart id (coherencePoints sha256Hex snapshot) := by
      intro first firstMember second secondMember equal
      rwa [Option.map_id] at equal
    rw [same.export apart, CoherenceExportEnvelope.relabel_id]

def roamingSnapshot : SessionSnapshot :=
  { summary :=
      { sessionId := "instrumented:10:1"
        displaySessionId := some "display"
        pid := 1
        kind := .instrumented
        health := .ok
        startedAtUnixMs := 10
        lastObservedUnixMs := 2000
        counterResetUnixMs := none
        bindAddr := none
        udpPort := some 60001
        clientAddr := none
        peer := {}
        cmdline := "mosh-server"
        metrics := {} }
    totalHistoryPoints := 2
    truncatedHistoryPoints := 0
    history :=
      [{ unixMs := 1000, srttMs := none, retransmitPct10s := none, remoteStateAgeMs := none,
          currentClientAddr := some "198.51.100.7" },
        { unixMs := 2000, srttMs := none, retransmitPct10s := none, remoteStateAgeMs := none,
          currentClientAddr := some "203.0.113.9" }] }

def swapEndpoints (endpoint : String) : String :=
  if endpoint = "198.51.100.7" then "203.0.113.9" else "198.51.100.7"

/-- The report on that snapshot in JSON, with the labels of its endpoints. -/
def roamingJson (first second : String) : String :=
  let epoch (index unixMs label : String) := "\x7b\"epoch_index\":" ++ index ++
    ",\"start_unix_ms\":" ++ unixMs ++ ",\"end_unix_ms\":" ++ unixMs ++ ",\"sample_count\":1," ++
    "\"endpoint_label\":\"" ++ label ++ "\",\"endpoint_value_retained\":false\x7d"
  "\x7b\"report_version\":\"moshwatch-coherence-session-report-v1\"," ++
    "\"observer_label\":\"observer-52247b540322\",\"session_id_label\":\"session-5e0682ca829f\"," ++
    "\"display_session_id_present\":true,\"kind\":\"instrumented\",\"health\":\"ok\"," ++
    "\"udp_port_observed\":true,\"route_epochs\":[" ++ epoch "0" "1000" first ++ "," ++
    epoch "1" "2000" second ++ "],\"continuity\":\x7b\"stable_session_identity\":true," ++
    "\"route_epoch_count\":2,\"route_shift_count\":1,\"history_sample_count\":2," ++
    "\"max_sample_gap_ms\":1000,\"recovery_after_drift\":false," ++
    "\"liveness_signal_present\":false,\"packet_counter_signal_present\":false," ++
    "\"retransmit_signal_present\":false\x7d,\"adjudication\":\x7b" ++
    "\"decision\":\"insufficient_coherence_signal\",\"confidence_score\":60.0," ++
    "\"false_stitch_rejected\":true,\"caveats\":[\"metadata-only defensive observability\"," ++
    "\"does not retain Mosh session keys, packet contents, terminal content, or packet captures\"" ++
    "]\x7d,\"safety_boundary\":\x7b\"defensive_observability_only\":true," ++
    "\"packet_payload_retained\":false,\"raw_packet_capture_retained\":false," ++
    "\"session_keys_retained\":false,\"terminal_content_retained\":false," ++
    "\"endpoint_values_redacted\":true,\"application_semantics_inferred\":false\x7d\x7d"

def roamingReportJson (report : CoherenceSessionReport) : String :=
  match report.routeEpochs.map CoherenceRouteEpoch.endpointLabel with
  | [some first, some second] => roamingJson first second
  | _ => ""

def roamingSha256Hex (text : String) : String :=
  if text = roamingJson "endpoint-e183220b699c" "endpoint-d861b7e91033" then
    "175c59d31956436c6433e670fa6ab9ac19326f7919ecc5cd8e2045c7f9177726"
  else if text = roamingJson "endpoint-d861b7e91033" "endpoint-e183220b699c" then
    "37a3f8ac7cd499583d409a13b0f4c741feaf41825cb4e2dc13b199564a6b42bf"
  else sampleSha256Hex text

theorem coherence_export_redacts_roaming :
    ∃ relabel,
      buildCoherenceExport roamingSha256Hex roamingReportJson ⟨"node", "system"⟩ 3000
          (roamingSnapshot.renameEndpoints swapEndpoints) =
        (buildCoherenceExport roamingSha256Hex roamingReportJson ⟨"node", "system"⟩ 3000
          roamingSnapshot).relabel roamingSha256Hex roamingReportJson relabel := by
  have endpoints : roamingSnapshot.endpoints = ["198.51.100.7", "203.0.113.9"] := rfl
  have others : (roamingSnapshot.renameEndpoints swapEndpoints).endpoints =
      ["203.0.113.9", "198.51.100.7"] := by
    decide +kernel
  have apart : (["198.51.100.7", "203.0.113.9"].map fun endpoint =>
      stableDigestLabel roamingSha256Hex endpoint "endpoint").Nodup := by
    decide +kernel
  obtain ⟨relabel, -, -, renamed⟩ :=
    (coherence_export_redacts roamingSha256Hex roamingReportJson ⟨"node", "system"⟩ 3000
      roamingSnapshot).1 swapEndpoints (roamingSnapshot.renameEndpoints swapEndpoints) rfl
      (by
        rw [endpoints]
        intro first firstMember second secondMember
        exact List.inj_on_of_nodup_map (by decide +kernel) firstMember secondMember)
      (by
        rw [endpoints]
        decide +kernel)
      (by
        have both : ∀ endpoint, endpoint ∈ roamingSnapshot.endpoints ∨
            endpoint ∈ (roamingSnapshot.renameEndpoints swapEndpoints).endpoints →
            endpoint ∈ ["198.51.100.7", "203.0.113.9"] := by
          rw [endpoints, others]
          simp only [List.mem_cons, List.not_mem_nil, or_false]
          tauto
        intro first firstMember second secondMember
        exact List.inj_on_of_nodup_map apart (both first firstMember) (both second secondMember))
  exact ⟨relabel, renamed⟩

end Moshwatch
