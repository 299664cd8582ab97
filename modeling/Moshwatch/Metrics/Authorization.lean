import Moshwatch.Core.Str

namespace Moshwatch

def authorizationName : List Char :=
  ['a', 'u', 't', 'h', 'o', 'r', 'i', 'z', 'a', 't', 'i', 'o', 'n']

def bearerScheme : List Char := ['b', 'e', 'a', 'r', 'e', 'r']

/-- What `extract_bearer_token` finds in one header line. -/
def bearerTokenOfLine (line : List Char) : Option (List Char) :=
  let line := line.rdropWhile fun ch => ch = '\r'
  if line = [] then none
  else do
    let (name, value) ← splitOnce line ':'
    if charsEqIgnoreAsciiCase name authorizationName = false then none
    else do
      let (scheme, token) ← splitOnce (trimChars value) ' '
      if charsEqIgnoreAsciiCase scheme bearerScheme = false then none
      else some (trimChars token)

def extractBearerToken (request : String) : Option String :=
  (((strLines request.toList).drop 1).findSome? bearerTokenOfLine).map String.ofList

def constantTimeEq (left right : List UInt8) : Bool :=
  let maxLen := max left.length right.length
  let diff := (List.range maxLen).foldl (fun diff idx =>
    diff ||| ((left[idx]?.getD 0) ^^^ (right[idx]?.getD 0)).toNat) (left.length ^^^ right.length)
  diff = 0

def metricsRequestIsAuthorized (request expectedToken : String) : Bool :=
  match extractBearerToken request with
  | none => false
  | some token => constantTimeEq (asBytes token) (asBytes expectedToken)

theorem foldl_or_eq_zero {indices : List Nat} {initial : Nat} {value : Nat → Nat} :
    indices.foldl (fun diff idx => diff ||| value idx) initial = 0 ↔
      initial = 0 ∧ ∀ idx ∈ indices, value idx = 0 := by
  induction indices generalizing initial with
  | nil => simp
  | cons idx rest ih =>
    rw [List.foldl_cons, ih, Nat.or_eq_zero_iff, List.forall_mem_cons, and_assoc]

theorem constantTimeEq_iff {left right : List UInt8} :
    constantTimeEq left right = true ↔ left = right := by
  simp only [constantTimeEq, decide_eq_true_eq, foldl_or_eq_zero, List.mem_range,
    Nat.xor_eq_zero_iff]
  constructor
  · rintro ⟨sameLength, sameBytes⟩
    refine List.ext_getElem sameLength fun idx inLeft inRight => ?_
    have same := sameBytes idx (lt_max_of_lt_left inLeft)
    rw [List.getElem?_eq_getElem inLeft, List.getElem?_eq_getElem inRight, Option.getD_some,
      Option.getD_some, ← UInt8.toNat_zero, UInt8.toNat_inj, UInt8.xor_eq_zero_iff] at same
    exact same
  · rintro rfl
    simp

/-- A request whose first `Authorization: Bearer` line is left open for the token. -/
structure BearerRequest where
  requestLine : List Char
  headers : List (List Char)
  name : List Char
  scheme : List Char
  rest : List Char
  requestLine_ends : '\n' ∉ requestLine
  headers_end : ∀ header ∈ headers, '\n' ∉ header ∧ bearerTokenOfLine header = none
  name_matches : charsEqIgnoreAsciiCase name authorizationName = true
  scheme_matches : charsEqIgnoreAsciiCase scheme bearerScheme = true

namespace BearerRequest

def authorizationLine (request : BearerRequest) (token : String) : List Char :=
  request.name ++ ':' :: ' ' :: (request.scheme ++ ' ' :: token.toList)

def present (request : BearerRequest) (token : String) : String :=
  String.ofList (request.requestLine ++ '\r' :: '\n' ::
    ((request.headers.flatMap fun header => header ++ ['\r', '\n']) ++
      (request.authorizationLine token ++ '\r' :: '\n' :: request.rest)))

/-- The request of `extracts_bearer_token_case_insensitively`. -/
instance : Inhabited BearerRequest where
  default :=
    { requestLine := "GET /metrics HTTP/1.1".toList
      headers := ["Host: localhost".toList]
      name := "Authorization".toList
      scheme := "Bearer".toList
      rest := ['\r', '\n']
      requestLine_ends := by decide
      headers_end := by decide
      name_matches := by decide
      scheme_matches := by decide }

end BearerRequest

theorem isWhitespace_of_toLower {ch : Char} (visible : isWhitespace ch.toLower = false) :
    isWhitespace ch = false := by
  unfold Char.toLower at visible
  split at visible
  case isFalse => exact visible
  case isTrue upper =>
    have low : 65 ≤ ch.toNat := UInt32.le_iff_toNat_le.mp upper.1
    have high : ch.toNat ≤ 90 := UInt32.le_iff_toNat_le.mp upper.2
    simp [isWhitespace]
    omega

theorem toLower_of_charsEqIgnoreAsciiCase {text pattern : List Char}
    (same : charsEqIgnoreAsciiCase text pattern = true) {ch : Char} (member : ch ∈ text) :
    ch.toLower ∈ pattern.map Char.toLower := by
  rw [charsEqIgnoreAsciiCase, decide_eq_true_eq] at same
  rw [← same]
  exact List.mem_map_of_mem member

theorem trimChars_of_ends {chars : List Char}
    (first : ∀ nonempty : chars ≠ [], isWhitespace (chars.head nonempty) = false)
    (last : ∀ nonempty : chars ≠ [], isWhitespace (chars.getLast nonempty) = false) :
    trimChars chars = chars := by
  have front : chars.dropWhile isWhitespace = chars := by
    cases chars with
    | nil => rfl
    | cons ch rest => rw [List.dropWhile_cons_of_neg (by simpa using first (List.cons_ne_nil _ _))]
  rw [trimChars, front, List.rdropWhile_eq_self_iff]
  intro nonempty
  rw [last nonempty]
  exact Bool.false_ne_true

namespace BearerRequest

variable (request : BearerRequest) {token : String}

theorem name_visible {ch : Char} (member : ch ∈ request.name) :
    isWhitespace ch = false ∧ ch ≠ ':' := by
  have lower := toLower_of_charsEqIgnoreAsciiCase request.name_matches member
  have visible : ∀ letter ∈ authorizationName.map Char.toLower,
      isWhitespace letter = false ∧ letter ≠ ':' := by
    simp [authorizationName, isWhitespace]
  refine ⟨isWhitespace_of_toLower (visible _ lower).1, ?_⟩
  rintro rfl
  exact (visible _ lower).2 rfl

theorem scheme_visible {ch : Char} (member : ch ∈ request.scheme) : isWhitespace ch = false := by
  have lower := toLower_of_charsEqIgnoreAsciiCase request.scheme_matches member
  have visible : ∀ letter ∈ bearerScheme.map Char.toLower, isWhitespace letter = false := by
    simp [bearerScheme, isWhitespace]
  exact isWhitespace_of_toLower (visible _ lower)

theorem scheme_ne_nil : request.scheme ≠ [] := by
  intro empty
  have same := request.scheme_matches
  rw [empty] at same
  exact absurd same (by decide)

variable {token : String} (visible : ∀ ch ∈ token.toList, isWhitespace ch = false)
  (nonempty : token.toList ≠ [])

include visible nonempty

theorem trim_value :
    trimChars (' ' :: (request.scheme ++ ' ' :: token.toList)) =
      request.scheme ++ ' ' :: token.toList := by
  have skipped : trimChars (' ' :: (request.scheme ++ ' ' :: token.toList)) =
      trimChars (request.scheme ++ ' ' :: token.toList) := by
    rw [trimChars, List.dropWhile_cons_of_pos (by decide)]
    rfl
  rw [skipped]
  apply trimChars_of_ends
  · intro whole
    rw [List.head_append_of_ne_nil request.scheme_ne_nil]
    exact request.scheme_visible (List.head_mem _)
  · intro whole
    rw [List.getLast_append_of_ne_nil _ (List.cons_ne_nil _ _), List.getLast_cons nonempty]
    exact visible _ (List.getLast_mem _)

theorem bearerTokenOfLine_authorizationLine :
    bearerTokenOfLine (request.authorizationLine token) = some token.toList := by
  have named : ':' ∉ request.name := fun member => (request.name_visible member).2 rfl
  have schemed : ' ' ∉ request.scheme := fun member => by
    have blank := request.scheme_visible member
    revert blank
    decide
  have ended : (request.authorizationLine token).rdropWhile (fun ch => ch = '\r') =
      request.authorizationLine token := by
    rw [List.rdropWhile_eq_self_iff]
    intro whole
    have same : (request.authorizationLine token).getLast whole = token.toList.getLast nonempty := by
      simp [authorizationLine, List.getLast_append_of_ne_nil, List.getLast_cons, nonempty]
    have blank := visible _ (List.getLast_mem nonempty)
    rw [same, decide_eq_true_eq]
    intro carriage
    rw [carriage] at blank
    revert blank
    decide
  have trimmed : trimChars token.toList = token.toList :=
    trimChars_of_ends (fun _ => visible _ (List.head_mem _)) (fun _ => visible _ (List.getLast_mem _))
  unfold bearerTokenOfLine
  simp only [ended]
  rw [authorizationLine, if_neg (by simp), splitOnce_of_not_mem named]
  simp only [Option.bind_eq_bind, Option.bind_some, request.name_matches,
    request.trim_value visible nonempty, splitOnce_of_not_mem schemed, request.scheme_matches,
    trimmed]
  simp

end BearerRequest

theorem strLines_headers {headers : List (List Char)}
    (ended : ∀ header ∈ headers, '\n' ∉ header) (back : List Char) :
    strLines ((headers.flatMap fun header => header ++ ['\r', '\n']) ++ back) =
      headers ++ strLines back := by
  induction headers with
  | nil => rfl
  | cons header rest ih =>
    obtain ⟨first, later⟩ := List.forall_mem_cons.mp ended
    rw [List.flatMap_cons, List.append_assoc, List.append_assoc]
    exact (strLines_crlf first _).trans (congrArg (header :: ·) (ih later))

theorem extractBearerToken_present (request : BearerRequest) {token : String}
    (visible : ∀ ch ∈ token.toList, isWhitespace ch = false) (nonempty : token.toList ≠ []) :
    extractBearerToken (request.present token) = some token := by
  have ended : '\n' ∉ request.authorizationLine token := by
    intro member
    simp only [BearerRequest.authorizationLine, List.mem_append, List.mem_cons] at member
    rcases member with inName | ended | ended | inScheme | ended | inToken
    · exact absurd (request.name_visible inName).1 (by decide)
    · exact absurd ended (by decide)
    · exact absurd ended (by decide)
    · exact absurd (request.scheme_visible inScheme) (by decide)
    · exact absurd ended (by decide)
    · exact absurd (visible _ inToken) (by decide)
  have found := request.bearerTokenOfLine_authorizationLine visible nonempty
  have passed : request.headers.findSome? bearerTokenOfLine = none :=
    List.findSome?_eq_none_iff.mpr fun header member => (request.headers_end header member).2
  rw [extractBearerToken, BearerRequest.present, String.toList_ofList,
    strLines_crlf request.requestLine_ends, List.drop_one, List.tail_cons,
    strLines_headers fun header member => (request.headers_end header member).1,
    strLines_crlf ended, List.findSome?_append, passed, Option.none_or,
    List.findSome?_cons, found]
  simp only [Option.map_some, String.ofList_toList]

theorem metricsRequestIsAuthorized_present (request : BearerRequest) {token : String}
    (visible : ∀ ch ∈ token.toList, isWhitespace ch = false) (nonempty : token.toList ≠ [])
    (expectedToken : String) :
    metricsRequestIsAuthorized (request.present token) expectedToken = true ↔
      token = expectedToken := by
  rw [metricsRequestIsAuthorized, extractBearerToken_present request visible nonempty]
  exact constantTimeEq_iff.trans asBytes_inj

end Moshwatch
