import Moshwatch.Core.Str

namespace Moshwatch

/-- The messages of an error, its latest context first. -/
abbrev ErrorChain := List String

def withContext (message : String) (result : Except ErrorChain α) : Except ErrorChain α :=
  match result with
  | .ok value => .ok value
  | .error chain => .error (message :: chain)

/-- What stands at `metrics_token_path`. -/
inductive TokenEntry where
  | absent
  | symlink
  | other
  | file (bytes : List UInt8)
  deriving DecidableEq, Repr

/-- What the file system and the random source answer during one call; a write of a new file that
    fails leaves some entry. -/
structure TokenSystem where
  ensureStateDir : Except ErrorChain Unit
  symlinkMetadata : Except ErrorChain Unit
  setPermissions : Except ErrorChain Unit
  readToEnd : Except ErrorChain Unit
  random : Option (Vector UInt8 32)
  writeNew : Except (ErrorChain × TokenEntry) Unit
  writeReplace : Except ErrorChain Unit

structure RuntimePaths where
  metricsTokenPath : String

def validateMetricsAuthToken (token : String) : Except ErrorChain String :=
  if (asBytes token).length ≠ 64 then
    .error ["metrics auth token must be exactly 64 hex characters"]
  else if (asBytes token).all isAsciiHexdigit = false then
    .error ["metrics auth token must contain only hex characters"]
  else .ok (toAsciiLowercase token)

/-- The format `{byte:02x}`. -/
def lowerHex (byte : UInt8) : List Char :=
  [Nat.digitChar (byte.toNat / 16), Nat.digitChar (byte.toNat % 16)]

def generateMetricsAuthToken (system : TokenSystem) : Except ErrorChain String :=
  match system.random with
  | none => .error ["read random bytes"]
  | some bytes => .ok (String.ofList (bytes.toList.flatMap lowerHex))

namespace RuntimePaths

variable (paths : RuntimePaths) (system : TokenSystem) (entry : TokenEntry)

def pathExists : Except ErrorChain Bool :=
  withContext s!"stat path {paths.metricsTokenPath}"
    (system.symlinkMetadata.map fun _ => decide (entry ≠ .absent))

def normalizeOwnerOnlyRegularFile : Except ErrorChain Unit :=
  match entry with
  | .absent => .error [s!"stat {paths.metricsTokenPath}"]
  | .symlink => .error [s!"refusing to use symlinked file {paths.metricsTokenPath}"]
  | .other => .error [s!"refusing to use non-file path {paths.metricsTokenPath}"]
  | .file _ => withContext s!"chmod 600 {paths.metricsTokenPath}" system.setPermissions

def readTextFileSecurely (maxBytes : Nat) : Except ErrorChain String :=
  match system.readToEnd, entry with
  | .error chain, _ => .error chain
  | .ok _, .file bytes =>
    let buffer := bytes.take (maxBytes + 1)
    if maxBytes < buffer.length then
      .error [s!"refusing to read oversized file {paths.metricsTokenPath}"]
    else
      match fromUtf8 buffer with
      | none => .error [s!"decode {paths.metricsTokenPath}"]
      | some text => .ok text
  | .ok _, _ => .error [s!"open {paths.metricsTokenPath}"]

/-- The first steps that loading and reconciling an existing file share. -/
def readExisting : Except ErrorChain String :=
  (withContext s!"normalize metrics token {paths.metricsTokenPath}"
    (paths.normalizeOwnerOnlyRegularFile system entry)).bind fun _ =>
  withContext s!"read metrics token {paths.metricsTokenPath}"
    (paths.readTextFileSecurely system entry 256)

def writeNewTextFileSecurely (contents : String) : Except ErrorChain Unit × TokenEntry :=
  match system.writeNew with
  | .ok _ => (.ok (), .file (asBytes contents))
  | .error (chain, left) => (.error chain, left)

def writeTextFileSecurelyReplace (contents : String) : Except ErrorChain Unit × TokenEntry :=
  match system.writeReplace with
  | .ok _ => (.ok (), .file (asBytes contents))
  | .error chain => (.error chain, entry)

def createMetricsAuthTokenFile : Except ErrorChain String × TokenEntry :=
  match generateMetricsAuthToken system with
  | .error chain => (.error chain, entry)
  | .ok token =>
    match writeNewTextFileSecurely system token with
    | (.error chain, left) =>
      (.error (s!"write metrics token {paths.metricsTokenPath}" :: chain), left)
    | (.ok _, written) => (validateMetricsAuthToken token, written)

def replaceTextFileSecurely : Except ErrorChain String × TokenEntry :=
  match generateMetricsAuthToken system with
  | .error chain => (.error chain, entry)
  | .ok contents =>
    match validateMetricsAuthToken contents with
    | .error chain => (.error chain, entry)
    | .ok validated =>
      match writeTextFileSecurelyReplace system entry contents with
      | (.error chain, left) => (.error chain, left)
      | (.ok _, written) => (.ok validated, written)

def loadOrCreateMetricsAuthToken : Except ErrorChain String × TokenEntry :=
  match system.ensureStateDir.bind fun _ => paths.pathExists system entry with
  | .error chain => (.error chain, entry)
  | .ok false => paths.createMetricsAuthTokenFile system entry
  | .ok true =>
    match paths.readExisting system entry with
    | .error chain => (.error chain, entry)
    | .ok content =>
      match validateMetricsAuthToken (trim content) with
      | .ok token => (.ok token, entry)
      | .error _ =>
        let (replaced, written) := replaceTextFileSecurely system entry
        (withContext s!"replace metrics token {paths.metricsTokenPath}" replaced, written)

def ensureMetricsAuthTokenFileMatches (expectedToken : String) :
    Except ErrorChain Bool × TokenEntry :=
  match system.ensureStateDir.bind fun _ => validateMetricsAuthToken expectedToken with
  | .error chain => (.error chain, entry)
  | .ok expectedToken =>
    match paths.pathExists system entry with
    | .error chain => (.error chain, entry)
    | .ok false =>
      match writeNewTextFileSecurely system expectedToken with
      | (.error chain, left) =>
        (.error (s!"write metrics token {paths.metricsTokenPath}" :: chain), left)
      | (.ok _, written) => (.ok true, written)
    | .ok true =>
      match paths.readExisting system entry with
      | .error chain => (.error chain, entry)
      | .ok onDisk =>
        if validateMetricsAuthToken (trim onDisk) = .ok expectedToken then (.ok false, entry)
        else
          match writeTextFileSecurelyReplace system entry expectedToken with
          | (.error chain, left) => (.error chain, left)
          | (.ok _, written) => (.ok true, written)

variable {paths} {system} {entry}

theorem readTextFileSecurely_eq_ok {maxBytes : Nat} {text : String} :
    paths.readTextFileSecurely system entry maxBytes = .ok text ↔
      system.readToEnd = .ok () ∧
        ∃ bytes, entry = .file bytes ∧ bytes.length ≤ maxBytes ∧ fromUtf8 bytes = some text := by
  unfold readTextFileSecurely
  cases system.readToEnd with
  | error chain => simp
  | ok read =>
    cases entry with
    | absent => simp
    | symlink => simp
    | other => simp
    | file bytes =>
      by_cases short : bytes.length ≤ maxBytes
      · have whole : bytes.take (maxBytes + 1) = bytes := List.take_of_length_le (by omega)
        simp only [whole, if_neg (Nat.not_lt.mpr short)]
        cases decoded : fromUtf8 bytes with
        | none => simp [decoded]
        | some found => simp [decoded, short]
      · have long : maxBytes < (bytes.take (maxBytes + 1)).length := by
          rw [List.length_take]
          omega
        simp only [if_pos long]
        simp [short]

end RuntimePaths

end Moshwatch
