import Moshwatch.Daemon.MetricsToken
import Moshwatch.Metrics.Authorization

namespace Moshwatch

section Tokens

theorem map_toLower_eq_self {chars : List Char} :
    chars.map Char.toLower = chars ↔ ∀ ch ∈ chars, ch.toLower = ch := by
  have pointwise := @List.map_eq_map_iff _ _ Char.toLower chars id
  rwa [List.map_id] at pointwise

theorem validateMetricsAuthToken_eq_ok {text token : String} :
    validateMetricsAuthToken text = .ok token ↔
      text.toList.length = 64 ∧ text.toList.all isHexChar = true ∧
        token = toAsciiLowercase text := by
  have sameLength := @length_asBytes_hex text
  have sameHex := @asBytes_all_hex text
  unfold validateMetricsAuthToken
  split
  case isTrue wrong =>
    constructor
    · intro impossible
      cases impossible
    · rintro ⟨long, hex, -⟩
      exact absurd ((sameLength hex).trans long) wrong
  case isFalse long =>
    split
    case isTrue wrong =>
      constructor
      · intro impossible
        cases impossible
      · rintro ⟨-, hex, -⟩
        rw [sameHex.mpr hex] at wrong
        cases wrong
    case isFalse hex =>
      rw [Bool.not_eq_false] at hex
      have digits := sameHex.mp hex
      rw [not_not, sameLength digits] at long
      constructor
      · intro same
        cases same
        exact ⟨long, digits, rfl⟩
      · rintro ⟨-, -, rfl⟩
        rfl

theorem toList_toAsciiLowercase (text : String) :
    (toAsciiLowercase text).toList = text.toList.map Char.toLower := String.toList_ofList

theorem validateMetricsAuthToken_idem {text token : String}
    (valid : validateMetricsAuthToken text = .ok token) :
    validateMetricsAuthToken token = .ok token := by
  obtain ⟨long, hex, rfl⟩ := validateMetricsAuthToken_eq_ok.mp valid
  rw [List.all_eq_true] at hex
  rw [validateMetricsAuthToken_eq_ok, toList_toAsciiLowercase, List.length_map, List.all_map,
    ← String.toList_inj, toList_toAsciiLowercase (toAsciiLowercase text), toList_toAsciiLowercase,
    List.map_map]
  refine ⟨long, ?_, ?_⟩
  · exact List.all_eq_true.mpr fun ch member => isHexChar_toLower (hex ch member)
  · exact List.map_congr_left fun ch member => (toLower_toLower_hex (hex ch member)).symm

theorem visible_of_valid {text token : String} (valid : validateMetricsAuthToken text = .ok token) :
    text.toList ≠ [] ∧ ∀ ch ∈ text.toList, isWhitespace ch = false := by
  obtain ⟨long, hex, -⟩ := validateMetricsAuthToken_eq_ok.mp valid
  refine ⟨?_, fun ch member => isWhitespace_hex (List.all_eq_true.mp hex ch member)⟩
  intro empty
  rw [empty] at long
  cases long

/-- Validation changes nothing exactly where there is no capital letter. -/
theorem eq_token_iff {text token : String} (valid : validateMetricsAuthToken text = .ok token) :
    text = token ↔ ∀ ch ∈ text.toList, ch.isUpper = false := by
  obtain ⟨-, hex, rfl⟩ := validateMetricsAuthToken_eq_ok.mp valid
  rw [List.all_eq_true] at hex
  rw [← String.toList_inj, toList_toAsciiLowercase, eq_comm]
  calc text.toList.map Char.toLower = text.toList
      ↔ ∀ ch ∈ text.toList, ch.toLower = ch := map_toLower_eq_self
    _ ↔ ∀ ch ∈ text.toList, ch.isUpper = false :=
        forall₂_congr fun ch member => toLower_eq_self_hex (hex ch member)

theorem lowerHex_digits {byte : UInt8} {ch : Char} (member : ch ∈ lowerHex byte) :
    isHexChar ch = true ∧ ch.toLower = ch := by
  have digits : ∀ digit < 16,
      isHexChar (Nat.digitChar digit) = true ∧ (Nat.digitChar digit).toLower = Nat.digitChar digit := by
    decide
  have bound : byte.toNat < 256 := byte.toNat_lt
  rcases List.mem_cons.mp member with rfl | member
  · exact digits _ (by omega)
  · rw [List.mem_singleton.mp member]
    exact digits _ (Nat.mod_lt _ (by decide))

theorem generateMetricsAuthToken_valid {system : TokenSystem} {token : String}
    (generated : generateMetricsAuthToken system = .ok token) :
    validateMetricsAuthToken token = .ok token := by
  unfold generateMetricsAuthToken at generated
  split at generated
  · cases generated
  · rename_i bytes random
    cases generated
    rw [validateMetricsAuthToken_eq_ok, ← String.toList_inj, toList_toAsciiLowercase,
      String.toList_ofList]
    refine ⟨?_, ?_, ?_⟩
    · have pairs : (bytes.toList.map fun byte => (lowerHex byte).length) =
          List.replicate 32 2 := by
        rw [List.eq_replicate_iff, List.length_map, Vector.length_toList]
        refine ⟨rfl, fun length member => ?_⟩
        obtain ⟨byte, -, rfl⟩ := List.mem_map.mp member
        rfl
      rw [List.length_flatMap, pairs]
      rfl
    · rw [List.all_eq_true]
      intro ch member
      obtain ⟨byte, -, digit⟩ := List.mem_flatMap.mp member
      exact (lowerHex_digits digit).1
    · rw [eq_comm, map_toLower_eq_self]
      intro ch member
      obtain ⟨byte, -, digit⟩ := List.mem_flatMap.mp member
      exact (lowerHex_digits digit).2

end Tokens

/-- The call reads `content` from a file that stands at the path. -/
structure TokenEntry.Reads (entry : TokenEntry) (system : TokenSystem) (content : String) : Prop where
  stateDir : system.ensureStateDir = .ok ()
  stat : system.symlinkMetadata = .ok ()
  normalized : system.setPermissions = .ok ()
  read : system.readToEnd = .ok ()
  decoded : ∃ bytes, entry = .file bytes ∧ bytes.length ≤ 256 ∧ fromUtf8 bytes = some content

/-- A scraper that reads the file is authorised with what it presents. -/
def TokenEntry.Agrees (entry : TokenEntry) (token : String) : Prop :=
  ∃ bytes content, entry = .file bytes ∧ fromUtf8 bytes = some content ∧
    ∀ request : BearerRequest, metricsRequestIsAuthorized (request.present (trim content)) token = true

def TokenEntry.Lowercase (entry : TokenEntry) (system : TokenSystem) (token : String) : Prop :=
  ∀ content, entry.Reads system content → validateMetricsAuthToken (trim content) = .ok token →
    ∀ ch ∈ (trim content).toList, ch.isUpper = false

def TokenEntry.Settled (entry : TokenEntry) (system : TokenSystem) (token : String)
    (after : TokenEntry) : Prop :=
  (∃ content, entry.Reads system content ∧ validateMetricsAuthToken (trim content) = .ok token ∧
    after = entry) ∨
  (after = .file (asBytes token) ∧ ∀ content, entry.Reads system content →
    validateMetricsAuthToken (trim content) ≠ .ok token)

section Calls

variable {paths : RuntimePaths} {system : TokenSystem} {entry after : TokenEntry} {token : String}

theorem withContext_eq_ok {message : String} {result : Except ErrorChain α} {value : α} :
    withContext message result = .ok value ↔ result = .ok value := by
  cases result with
  | error chain => simp [withContext]
  | ok found => simp [withContext]

theorem reads_iff {content : String} :
    entry.Reads system content ↔
      (system.ensureStateDir.bind fun _ => paths.pathExists system entry) = .ok true ∧
        paths.readExisting system entry = .ok content := by
  constructor
  · rintro ⟨stateDir, stat, normalized, read, bytes, rfl, bound, decoded⟩
    have text := (@RuntimePaths.readTextFileSecurely_eq_ok paths system _ 256 content).mpr
      ⟨read, bytes, rfl, bound, decoded⟩
    constructor
    · simp [stateDir, stat, RuntimePaths.pathExists, Except.bind, Except.map, withContext]
    · simp [RuntimePaths.readExisting, RuntimePaths.normalizeOwnerOnlyRegularFile, normalized, text,
        withContext, Except.bind]
  · rintro ⟨here, content⟩
    have stateDir : system.ensureStateDir = .ok () := by
      cases failed : system.ensureStateDir with
      | error chain => simp [failed, Except.bind] at here
      | ok done => rfl
    have stat : system.symlinkMetadata = .ok () := by
      cases failed : system.symlinkMetadata with
      | error chain =>
        simp [failed, stateDir, Except.bind, Except.map, RuntimePaths.pathExists,
          withContext] at here
      | ok done => rfl
    obtain ⟨bytes, rfl⟩ : ∃ bytes, entry = .file bytes := by
      cases entry with
      | file bytes => exact ⟨bytes, rfl⟩
      | _ =>
        simp [RuntimePaths.readExisting, RuntimePaths.normalizeOwnerOnlyRegularFile, withContext,
          Except.bind] at content
    simp only [RuntimePaths.readExisting, RuntimePaths.normalizeOwnerOnlyRegularFile] at content
    cases normalized : system.setPermissions with
    | error chain => simp [normalized, withContext, Except.bind] at content
    | ok done =>
      rw [normalized] at content
      obtain ⟨read, found⟩ :=
        RuntimePaths.readTextFileSecurely_eq_ok.mp (withContext_eq_ok.mp content)
      exact ⟨stateDir, stat, normalized, read, found⟩

theorem trim_of_valid {text : String} (valid : validateMetricsAuthToken text = .ok token) :
    trim text = text := by
  obtain ⟨nonempty, visible⟩ := visible_of_valid valid
  rw [trim, trimChars_of_ends (fun _ => visible _ (List.head_mem _))
    (fun _ => visible _ (List.getLast_mem _)), String.ofList_toList]

theorem agrees_file {bytes : List UInt8} {content : String} (decoded : fromUtf8 bytes = some content)
    {found : String} (valid : validateMetricsAuthToken (trim content) = .ok found) :
    (TokenEntry.file bytes).Agrees token ↔ trim content = token := by
  obtain ⟨nonempty, visible⟩ := visible_of_valid valid
  constructor
  · rintro ⟨bytes', content', same, decoded', authorized⟩
    cases same
    rw [decoded] at decoded'
    cases decoded'
    exact (metricsRequestIsAuthorized_present default visible nonempty token).mp
      (authorized default)
  · intro same
    refine ⟨bytes, content, rfl, decoded, fun request => ?_⟩
    exact (metricsRequestIsAuthorized_present request visible nonempty token).mpr same

theorem agrees_iff_of_settled (valid : validateMetricsAuthToken token = .ok token)
    (settled : entry.Settled system token after) :
    after.Agrees token ↔ entry.Lowercase system token := by
  rcases settled with ⟨content, reads, accepted, rfl⟩ | ⟨rfl, rejected⟩
  · obtain ⟨bytes, rfl, bound, decoded⟩ := reads.decoded
    rw [agrees_file decoded accepted, eq_token_iff accepted]
    constructor
    · intro lower other otherReads otherAccepted
      obtain ⟨otherBytes, same, -, otherDecoded⟩ := otherReads.decoded
      cases same
      rw [decoded] at otherDecoded
      cases otherDecoded
      exact lower
    · exact fun lower => lower content reads accepted
  · have decoded := fromUtf8_asBytes token
    have trimmed := trim_of_valid valid
    rw [agrees_file decoded (by rw [trimmed]; exact valid)]
    exact iff_of_true trimmed fun content reads accepted => absurd accepted (rejected content reads)

theorem createMetricsAuthTokenFile_ok
    (created : paths.createMetricsAuthTokenFile system entry = (.ok token, after)) :
    validateMetricsAuthToken token = .ok token ∧ after = .file (asBytes token) := by
  unfold RuntimePaths.createMetricsAuthTokenFile RuntimePaths.writeNewTextFileSecurely at created
  cases generated : generateMetricsAuthToken system with
  | error chain => simp [generated] at created
  | ok fresh =>
    have valid := generateMetricsAuthToken_valid generated
    cases written : system.writeNew with
    | error failed => simp [generated, written] at created
    | ok done =>
      simp only [generated, written, valid, Prod.mk.injEq, Except.ok.injEq] at created
      obtain ⟨rfl, rfl⟩ := created
      exact ⟨valid, rfl⟩

theorem replaceTextFileSecurely_ok
    (replaced : RuntimePaths.replaceTextFileSecurely system entry = (.ok token, after)) :
    validateMetricsAuthToken token = .ok token ∧ after = .file (asBytes token) := by
  unfold RuntimePaths.replaceTextFileSecurely RuntimePaths.writeTextFileSecurelyReplace at replaced
  cases generated : generateMetricsAuthToken system with
  | error chain => simp [generated] at replaced
  | ok fresh =>
    have valid := generateMetricsAuthToken_valid generated
    cases written : system.writeReplace with
    | error failed => simp [generated, valid, written] at replaced
    | ok done =>
      simp only [generated, written, valid, Prod.mk.injEq, Except.ok.injEq] at replaced
      obtain ⟨rfl, rfl⟩ := replaced
      exact ⟨valid, rfl⟩

theorem load_settled
    (loaded : paths.loadOrCreateMetricsAuthToken system entry = (.ok token, after)) :
    validateMetricsAuthToken token = .ok token ∧ entry.Settled system token after := by
  unfold RuntimePaths.loadOrCreateMetricsAuthToken at loaded
  cases found : system.ensureStateDir.bind fun _ => paths.pathExists system entry with
  | error chain => simp [found] at loaded
  | ok exists_ =>
    have reads {content : String} := @reads_iff paths system entry content
    rw [found] at reads
    cases exists_ with
    | false =>
      simp only [found] at loaded
      obtain ⟨valid, rfl⟩ := createMetricsAuthTokenFile_ok loaded
      exact ⟨valid, .inr ⟨rfl, fun content here => by cases (reads.mp here).1⟩⟩
    | true =>
      cases reading : paths.readExisting system entry with
      | error chain => simp [found, reading] at loaded
      | ok content =>
        have here : entry.Reads system content := reads.mpr ⟨rfl, reading⟩
        simp only [found, reading] at loaded
        cases accepted : validateMetricsAuthToken (trim content) with
        | ok current =>
          simp only [accepted, Prod.mk.injEq, Except.ok.injEq] at loaded
          obtain ⟨rfl, rfl⟩ := loaded
          exact ⟨validateMetricsAuthToken_idem accepted, .inl ⟨content, here, accepted, rfl⟩⟩
        | error chain =>
          simp only [accepted, Prod.mk.injEq, withContext_eq_ok] at loaded
          obtain ⟨valid, written⟩ := replaceTextFileSecurely_ok (Prod.ext loaded.1 loaded.2)
          refine ⟨valid, .inr ⟨written, fun other otherReads => ?_⟩⟩
          have same : other = content :=
            Except.ok.inj ((reads.mp otherReads).2.symm.trans reading)
          rw [same, accepted]
          intro impossible
          cases impossible

theorem ensure_settled (valid : validateMetricsAuthToken token = .ok token) {repaired : Bool}
    (ensured : paths.ensureMetricsAuthTokenFileMatches system entry token = (.ok repaired, after)) :
    entry.Settled system token after := by
  unfold RuntimePaths.ensureMetricsAuthTokenFileMatches at ensured
  cases stateDir : system.ensureStateDir with
  | error chain => simp [stateDir, Except.bind] at ensured
  | ok done =>
    have reads {content : String} := @reads_iff paths system entry content
    simp only [stateDir, Except.bind, valid] at ensured reads
    cases found : paths.pathExists system entry with
    | error chain => simp [found] at ensured
    | ok exists_ =>
      rw [found] at reads
      cases exists_ with
      | false =>
        cases written : system.writeNew with
        | error failed =>
          simp [found, written, RuntimePaths.writeNewTextFileSecurely] at ensured
        | ok done =>
          simp only [found, written, RuntimePaths.writeNewTextFileSecurely, Prod.mk.injEq] at ensured
          exact .inr ⟨ensured.2.symm, fun content here => by cases (reads.mp here).1⟩
      | true =>
        cases reading : paths.readExisting system entry with
        | error chain => simp [found, reading] at ensured
        | ok content =>
          have here : entry.Reads system content := reads.mpr ⟨rfl, reading⟩
          simp only [found, reading] at ensured
          split at ensured
          case isTrue accepted =>
            obtain ⟨-, rfl⟩ := Prod.mk.inj ensured
            exact .inl ⟨content, here, accepted, rfl⟩
          case isFalse rejected =>
            cases written : system.writeReplace with
            | error failed =>
              simp [written, RuntimePaths.writeTextFileSecurelyReplace] at ensured
            | ok done =>
              simp only [written, RuntimePaths.writeTextFileSecurelyReplace, Prod.mk.injEq]
                at ensured
              refine .inr ⟨ensured.2.symm, fun other otherReads => ?_⟩
              have same : other = content :=
                Except.ok.inj ((reads.mp otherReads).2.symm.trans reading)
              rw [same]
              exact rejected

theorem load_of_reads {content : String} (here : entry.Reads system content)
    (accepted : validateMetricsAuthToken (trim content) = .ok token) :
    paths.loadOrCreateMetricsAuthToken system entry = (.ok token, entry) := by
  obtain ⟨found, reading⟩ := (@reads_iff paths system entry content).mp here
  rw [RuntimePaths.loadOrCreateMetricsAuthToken, found]
  simp only [reading, accepted]

theorem ensure_of_reads (valid : validateMetricsAuthToken token = .ok token) {content : String}
    (here : entry.Reads system content)
    (accepted : validateMetricsAuthToken (trim content) = .ok token) :
    paths.ensureMetricsAuthTokenFileMatches system entry token = (.ok false, entry) := by
  obtain ⟨found, reading⟩ := (@reads_iff paths system entry content).mp here
  rw [here.stateDir, Except.bind] at found
  rw [RuntimePaths.ensureMetricsAuthTokenFileMatches, here.stateDir]
  simp only [Except.bind, valid, found, reading, accepted, ite_true]

theorem load_agrees_iff :
    (∀ token after, paths.loadOrCreateMetricsAuthToken system entry = (.ok token, after) →
      after.Agrees token) ↔
    ∀ token, entry.Lowercase system token := by
  constructor
  · intro agrees token content here accepted
    have loaded := @load_of_reads paths system entry token content here accepted
    have settled := load_settled loaded
    exact (agrees_iff_of_settled settled.1 settled.2).mp (agrees _ _ loaded) content here accepted
  · intro lower token after loaded
    have settled := load_settled loaded
    exact (agrees_iff_of_settled settled.1 settled.2).mpr (lower token)

theorem ensure_agrees_iff (valid : validateMetricsAuthToken token = .ok token) :
    (∀ repaired after,
      paths.ensureMetricsAuthTokenFileMatches system entry token = (.ok repaired, after) →
        after.Agrees token) ↔
    entry.Lowercase system token := by
  constructor
  · intro agrees content here accepted
    have ensured := @ensure_of_reads paths system entry token valid content here accepted
    exact (agrees_iff_of_settled valid (ensure_settled valid ensured)).mp (agrees _ _ ensured)
      content here accepted
  · intro lower repaired after ensured
    exact (agrees_iff_of_settled valid (ensure_settled valid ensured)).mpr lower

end Calls

/-- What happens to the file after startup: others write it, the daemon reconciles it. -/
inductive TokenEvent where
  | written (entry : TokenEntry)
  | reconciled (system : TokenSystem)

namespace RuntimePaths

variable (paths : RuntimePaths) (token : String)

def tokenStep (entry : TokenEntry) : TokenEvent → TokenEntry
  | .written entry => entry
  | .reconciled system => (paths.ensureMetricsAuthTokenFileMatches system entry token).2

/-- Whenever a reconciliation of the run returns `Ok`, a scraper agrees with the daemon. -/
def AgreesThrough : TokenEntry → List TokenEvent → Prop
  | _, [] => True
  | entry, .written found :: rest => AgreesThrough (paths.tokenStep token entry (.written found)) rest
  | entry, .reconciled system :: rest =>
    (∀ repaired after,
      paths.ensureMetricsAuthTokenFileMatches system entry token = (.ok repaired, after) →
        after.Agrees token) ∧
    AgreesThrough (paths.tokenStep token entry (.reconciled system)) rest

/-- No reconciliation of the run accepts a file with capital letters. -/
def LowercaseThrough : TokenEntry → List TokenEvent → Prop
  | _, [] => True
  | entry, .written found :: rest =>
    LowercaseThrough (paths.tokenStep token entry (.written found)) rest
  | entry, .reconciled system :: rest =>
    entry.Lowercase system token ∧
    LowercaseThrough (paths.tokenStep token entry (.reconciled system)) rest

variable {paths token}

theorem agreesThrough_iff (valid : validateMetricsAuthToken token = .ok token)
    {events : List TokenEvent} {entry : TokenEntry} :
    paths.AgreesThrough token entry events ↔ paths.LowercaseThrough token entry events := by
  induction events generalizing entry with
  | nil => rfl
  | cons event rest ih =>
    cases event with
    | written found => exact ih
    | reconciled system => exact and_congr (ensure_agrees_iff valid) ih

/-- The daemon and a scraper agree after the load and after every reconciliation exactly if
    neither accepts a file with capital letters. -/
theorem scraper_agrees_iff (paths : RuntimePaths) (system : TokenSystem) (entry : TokenEntry)
    (events : List TokenEvent) :
    (∀ token after, paths.loadOrCreateMetricsAuthToken system entry = (.ok token, after) →
      after.Agrees token ∧ paths.AgreesThrough token after events) ↔
    (∀ token, entry.Lowercase system token) ∧
    ∀ token after, paths.loadOrCreateMetricsAuthToken system entry = (.ok token, after) →
      paths.LowercaseThrough token after events := by
  rw [← @load_agrees_iff paths system entry]
  constructor
  · intro agrees
    refine ⟨fun token after loaded => (agrees token after loaded).1, ?_⟩
    intro token after loaded
    exact (agreesThrough_iff (load_settled loaded).1).mp (agrees token after loaded).2
  · rintro ⟨first, later⟩ token after loaded
    exact ⟨first token after loaded,
      (agreesThrough_iff (load_settled loaded).1).mpr (later token after loaded)⟩

def soundSystem : TokenSystem :=
  { ensureStateDir := .ok ()
    symlinkMetadata := .ok ()
    setPermissions := .ok ()
    readToEnd := .ok ()
    random := some (Vector.replicate 32 0)
    writeNew := .ok ()
    writeReplace := .ok () }

def capitalToken : String := String.ofList (List.replicate 64 'A')

theorem capitals_disagree :
    ¬ ∀ token after,
      loadOrCreateMetricsAuthToken ⟨"metrics.token"⟩ soundSystem (.file (asBytes capitalToken)) =
        (.ok token, after) →
      after.Agrees token ∧ AgreesThrough ⟨"metrics.token"⟩ token after [] := by
  intro agrees
  have spelled : capitalToken.toList = List.replicate 64 'A' := String.toList_ofList
  generalize capitalToken = text at agrees spelled
  have digits : text.toList.all isHexChar = true := by
    rw [spelled, List.all_eq_true]
    intro ch member
    rw [List.eq_of_mem_replicate member]
    decide
  have length : text.toList.length = 64 := by
    rw [spelled, List.length_replicate]
  have accepted : validateMetricsAuthToken text = .ok (toAsciiLowercase text) :=
    validateMetricsAuthToken_eq_ok.mpr ⟨length, digits, rfl⟩
  have trimmed : trim text = text := trim_of_valid accepted
  have here : (TokenEntry.file (asBytes text)).Reads soundSystem text := by
    refine ⟨rfl, rfl, rfl, rfl, asBytes text, rfl, ?_, fromUtf8_asBytes text⟩
    rw [length_asBytes_hex digits, length]
    decide
  have lower := (@load_agrees_iff ⟨"metrics.token"⟩ soundSystem (.file (asBytes text))).mp
    (fun token after loaded => (agrees token after loaded).1) _ text here
    (by rw [trimmed]; exact accepted)
  rw [trimmed, spelled] at lower
  exact absurd (lower 'A' (List.mem_replicate.mpr ⟨by decide, rfl⟩)) (by decide)

end RuntimePaths

end Moshwatch
