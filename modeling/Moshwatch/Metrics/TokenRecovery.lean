import Moshwatch.Metrics.TokenAgreement

namespace Moshwatch

def TokenSystem.succeeding (random : Vector UInt8 32) : TokenSystem :=
  { ensureStateDir := .ok ()
    symlinkMetadata := .ok ()
    setPermissions := .ok ()
    readToEnd := .ok ()
    random := some random
    writeNew := .ok ()
    writeReplace := .ok () }

def IsMetricsToken (token : String) : Prop :=
  token.toList.length = 64 ∧ token.toList.all isHexChar = true

/-- The file holds the token up to ASCII case; white space around it is not part of it. -/
def TokenEntry.Holds (entry : TokenEntry) (token : String) : Prop :=
  ∃ bytes content, entry = .file bytes ∧ fromUtf8 bytes = some content ∧
    IsMetricsToken (trim content) ∧ charsEqIgnoreAsciiCase (trim content).toList token.toList = true

def TokenReadable (bytes : List UInt8) : Prop :=
  bytes.length ≤ 256 ∧ (fromUtf8 bytes).isSome = true

namespace RuntimePaths

variable {paths : RuntimePaths} {random : Vector UInt8 32} {bytes : List UInt8} {token : String}

theorem reads_succeeding {content : String} :
    (TokenEntry.file bytes).Reads (.succeeding random) content ↔
      bytes.length ≤ 256 ∧ fromUtf8 bytes = some content := by
  constructor
  · intro reads
    obtain ⟨read, same, bound, decoded⟩ := reads.decoded
    cases same
    exact ⟨bound, decoded⟩
  · rintro ⟨bound, decoded⟩
    exact ⟨rfl, rfl, rfl, rfl, bytes, rfl, bound, decoded⟩

theorem readExisting_succeeding (paths : RuntimePaths) (random : Vector UInt8 32)
    (bytes : List UInt8) :
    (∃ content, (TokenEntry.file bytes).Reads (.succeeding random) content ∧
        paths.readExisting (.succeeding random) (.file bytes) = .ok content) ∨
      ¬ TokenReadable bytes ∧
        ∃ chain, paths.readExisting (.succeeding random) (.file bytes) = .error chain := by
  cases reading : paths.readExisting (.succeeding random) (.file bytes) with
  | ok content => exact .inl ⟨content, reads_iff.mpr ⟨rfl, reading⟩, rfl⟩
  | error chain =>
    refine .inr ⟨?_, chain, rfl⟩
    rintro ⟨bound, decoded⟩
    obtain ⟨content, text⟩ := Option.isSome_iff_exists.mp decoded
    have here := (@reads_iff paths _ _ _).mp
      ((@reads_succeeding random _ _).mpr ⟨bound, text⟩)
    rw [reading] at here
    cases here.2

theorem readable_of_reads {content : String}
    (reads : (TokenEntry.file bytes).Reads (.succeeding random) content) : TokenReadable bytes := by
  obtain ⟨bound, decoded⟩ := reads_succeeding.mp reads
  exact ⟨bound, by rw [decoded]; rfl⟩

theorem isMetricsToken_of_valid {text : String}
    (valid : validateMetricsAuthToken text = .ok token) :
    IsMetricsToken text ∧ charsEqIgnoreAsciiCase text.toList token.toList = true := by
  obtain ⟨long, hex, rfl⟩ := validateMetricsAuthToken_eq_ok.mp valid
  refine ⟨⟨long, hex⟩, ?_⟩
  rw [charsEqIgnoreAsciiCase, decide_eq_true_eq, toList_toAsciiLowercase, List.map_map]
  exact List.map_congr_left fun ch member =>
    (toLower_toLower_hex (List.all_eq_true.mp hex ch member)).symm

theorem holds_of_valid {content : String} (decoded : fromUtf8 bytes = some content)
    (valid : validateMetricsAuthToken (trim content) = .ok token) :
    (TokenEntry.file bytes).Holds token :=
  ⟨bytes, content, rfl, decoded, isMetricsToken_of_valid valid⟩

theorem holds_written (valid : validateMetricsAuthToken token = .ok token) :
    (TokenEntry.file (asBytes token)).Holds token := by
  refine holds_of_valid (fromUtf8_asBytes token) ?_
  rw [trim_of_valid valid]
  exact valid

theorem holds_of_settled {system : TokenSystem} {entry after : TokenEntry}
    (valid : validateMetricsAuthToken token = .ok token)
    (settled : entry.Settled system token after) : after.Holds token := by
  rcases settled with ⟨content, reads, accepted, rfl⟩ | ⟨rfl, -⟩
  · obtain ⟨read, rfl, -, decoded⟩ := reads.decoded
    exact holds_of_valid decoded accepted
  · exact holds_written valid

theorem replace_succeeding (random : Vector UInt8 32) (entry : TokenEntry) :
    ∃ token after, replaceTextFileSecurely (.succeeding random) entry = (.ok token, after) := by
  let fresh := String.ofList (random.toList.flatMap lowerHex)
  have generated : generateMetricsAuthToken (.succeeding random) = .ok fresh := rfl
  refine ⟨fresh, .file (asBytes fresh), ?_⟩
  unfold replaceTextFileSecurely
  simp only [generated, generateMetricsAuthToken_valid generated]
  rfl

theorem load_recovers_iff :
    (∃ token after, paths.loadOrCreateMetricsAuthToken (.succeeding random) (.file bytes) =
        (.ok token, after) ∧ after.Holds token) ↔ TokenReadable bytes := by
  have here : ((TokenSystem.succeeding random).ensureStateDir.bind fun _ =>
      paths.pathExists (.succeeding random) (.file bytes)) = .ok true := rfl
  rcases readExisting_succeeding paths random bytes with
    ⟨content, reads, reading⟩ | ⟨unreadable, chain, reading⟩
  · refine iff_of_true ?_ (readable_of_reads reads)
    have loaded : ∃ token after,
        paths.loadOrCreateMetricsAuthToken (.succeeding random) (.file bytes) = (.ok token, after) := by
      cases accepted : validateMetricsAuthToken (trim content) with
      | ok token => exact ⟨token, _, load_of_reads reads accepted⟩
      | error chain =>
        obtain ⟨token, after, replaced⟩ := replace_succeeding random (.file bytes)
        refine ⟨token, after, ?_⟩
        simp only [loadOrCreateMetricsAuthToken, here, reading, accepted, replaced, withContext]
    obtain ⟨token, after, loaded⟩ := loaded
    have settled := load_settled loaded
    exact ⟨token, after, loaded, holds_of_settled settled.1 settled.2⟩
  · refine iff_of_false ?_ unreadable
    rintro ⟨token, after, loaded, -⟩
    simp [loadOrCreateMetricsAuthToken, here, reading] at loaded

theorem Holds.of_normalized {entry : TokenEntry} (valid : IsMetricsToken token)
    (holds : entry.Holds (toAsciiLowercase token)) : entry.Holds token := by
  obtain ⟨bytes, content, same, decoded, shape, agree⟩ := holds
  refine ⟨bytes, content, same, decoded, shape, ?_⟩
  have lower := isMetricsToken_of_valid
    (validateMetricsAuthToken_eq_ok.mpr ⟨valid.1, valid.2, rfl⟩)
  rw [charsEqIgnoreAsciiCase, decide_eq_true_eq] at agree ⊢
  have same := lower.2
  rw [charsEqIgnoreAsciiCase, decide_eq_true_eq] at same
  exact agree.trans same.symm

/-- A repair depends on the expected token only through its normal form. -/
theorem ensure_normalized (system : TokenSystem) (entry : TokenEntry) {expected : String}
    (valid : validateMetricsAuthToken expected = .ok token) :
    paths.ensureMetricsAuthTokenFileMatches system entry expected =
      paths.ensureMetricsAuthTokenFileMatches system entry token := by
  unfold ensureMetricsAuthTokenFileMatches
  rw [valid, validateMetricsAuthToken_idem valid]

theorem ensure_succeeds {content : String}
    (reads : (TokenEntry.file bytes).Reads (.succeeding random) content)
    (valid : validateMetricsAuthToken token = .ok token) :
    ∃ repaired after, paths.ensureMetricsAuthTokenFileMatches (.succeeding random) (.file bytes)
      token = (.ok repaired, after) := by
  have stateDir : (TokenSystem.succeeding random).ensureStateDir = .ok () := rfl
  have here : paths.pathExists (.succeeding random) (.file bytes) = .ok true := rfl
  have reading := ((@reads_iff paths _ _ _).mp reads).2
  by_cases accepted : validateMetricsAuthToken (trim content) = .ok token
  · exact ⟨false, _, ensure_of_reads valid reads accepted⟩
  · refine ⟨true, .file (asBytes token), ?_⟩
    simp only [ensureMetricsAuthTokenFileMatches, stateDir, Except.bind, valid, here, reading,
      accepted, if_false]
    rfl

theorem ensure_recovers_iff (expected : IsMetricsToken token) :
    (∃ repaired after, paths.ensureMetricsAuthTokenFileMatches (.succeeding random) (.file bytes)
        token = (.ok repaired, after) ∧ after.Holds token) ↔ TokenReadable bytes := by
  have valid : validateMetricsAuthToken token = .ok (toAsciiLowercase token) :=
    validateMetricsAuthToken_eq_ok.mpr ⟨expected.1, expected.2, rfl⟩
  have normal := validateMetricsAuthToken_idem valid
  have stateDir : (TokenSystem.succeeding random).ensureStateDir = .ok () := rfl
  have here : paths.pathExists (.succeeding random) (.file bytes) = .ok true := rfl
  rw [ensure_normalized _ _ valid]
  rcases readExisting_succeeding paths random bytes with
    ⟨content, reads, reading⟩ | ⟨unreadable, chain, reading⟩
  · refine iff_of_true ?_ (readable_of_reads reads)
    obtain ⟨repaired, after, ensured⟩ := @ensure_succeeds paths random bytes _ content reads normal
    have holds := holds_of_settled normal (ensure_settled normal ensured)
    exact ⟨repaired, after, ensured, Holds.of_normalized expected holds⟩
  · refine iff_of_false ?_ unreadable
    rintro ⟨repaired, after, ensured, -⟩
    simp [ensureMetricsAuthTokenFileMatches, stateDir, Except.bind, normal, here, reading] at ensured

/-- While every system call succeeds, loading and reconciling recover from the contents of the token
    file exactly if they fit the bounded read and are UTF-8. -/
theorem token_recovers_iff (paths : RuntimePaths) (random : Vector UInt8 32) (bytes : List UInt8) :
    ((∃ token after, paths.loadOrCreateMetricsAuthToken (.succeeding random) (.file bytes) =
        (.ok token, after) ∧ after.Holds token) ↔ TokenReadable bytes) ∧
    ∀ expected, IsMetricsToken expected →
      ((∃ repaired after, paths.ensureMetricsAuthTokenFileMatches (.succeeding random) (.file bytes)
          expected = (.ok repaired, after) ∧ after.Holds expected) ↔ TokenReadable bytes) :=
  ⟨load_recovers_iff, fun _ expected => ensure_recovers_iff expected⟩

/-- A file of one byte that is not UTF-8 makes both calls fail. -/
theorem invalid_byte_wedges :
    (¬ ∃ token after, loadOrCreateMetricsAuthToken ⟨"metrics.token"⟩
        (.succeeding (Vector.replicate 32 0)) (.file [255]) = (.ok token, after) ∧
      after.Holds token) ∧
    IsMetricsToken (String.ofList (List.replicate 64 'a')) ∧
    ¬ ∃ repaired after, ensureMetricsAuthTokenFileMatches ⟨"metrics.token"⟩
        (.succeeding (Vector.replicate 32 0)) (.file [255])
        (String.ofList (List.replicate 64 'a')) = (.ok repaired, after) ∧
      after.Holds (String.ofList (List.replicate 64 'a')) := by
  have undecodable : ¬ TokenReadable [255] := by
    rintro ⟨-, decoded⟩
    exact absurd decoded (by decide)
  have token : IsMetricsToken (String.ofList (List.replicate 64 'a')) := by
    refine ⟨?_, ?_⟩ <;> rw [String.toList_ofList]
    · rfl
    · decide
  refine ⟨?_, token, ?_⟩
  · rw [load_recovers_iff]
    exact undecodable
  · rw [ensure_recovers_iff token]
    exact undecodable

end RuntimePaths

end Moshwatch
