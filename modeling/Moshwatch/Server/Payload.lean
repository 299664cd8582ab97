import Moshwatch.Server.Emitter

namespace Moshwatch

section Escape

theorem escaped_control {ch : UInt8} (control : ch < 0x20) :
    Json.hexCode 48 48 (hexDigitByte (ch / 16)) (hexDigitByte (ch % 16)) = some ch.toNat ∧
      String.utf8EncodeChar (Char.ofNat ch.toNat) = [ch] ∧ ch.toNat < 0xd800 ∧
      32 ≤ hexDigitByte (ch / 16) ∧ 32 ≤ hexDigitByte (ch % 16) := by
  have table : ∀ code < 32,
      Json.hexCode 48 48 (hexDigitByte (UInt8.ofNat code / 16)) (hexDigitByte (UInt8.ofNat code % 16)) =
          some code ∧
        String.utf8EncodeChar (Char.ofNat code) = [UInt8.ofNat code] ∧ code < 0xd800 ∧
        32 ≤ hexDigitByte (UInt8.ofNat code / 16) ∧ 32 ≤ hexDigitByte (UInt8.ofNat code % 16) := by
    decide +kernel
  have low : ch.toNat < 32 := UInt8.lt_iff_toNat_lt.mp control
  have own := table ch.toNat low
  rwa [UInt8.ofNat_toNat] at own

theorem escapeByte_written (ch : UInt8) {content text : List UInt8}
    (rest : Json.StringText content text) :
    Json.StringText (ch :: content) (escapeByte ch ++ text) := by
  unfold escapeByte
  split
  · rename_i backslash
    subst backslash
    exact .escape 92 92 content text rfl rest
  · split
    · rename_i quote
      subst quote
      exact .escape 34 34 content text rfl rest
    · split
      · rename_i newline
        subst newline
        exact .escape 110 10 content text rfl rest
      · split
        · rename_i carriageReturn
          subst carriageReturn
          exact .escape 114 13 content text rfl rest
        · split
          · rename_i tab
            subst tab
            exact .escape 116 9 content text rfl rest
          · split
            · rename_i control
              obtain ⟨hex, encoded, single, -⟩ := escaped_control control
              have whole := Json.StringText.unicode _ _ _ _ _ content text hex (.inl single) rest
              rwa [encoded] at whole
            · rename_i backslash quote _ _ _ visible
              exact .plain ch content text ⟨UInt8.not_lt.mp visible, quote, backslash⟩ rest

theorem jsonEscape_written (input : List UInt8) : Json.StringText input (jsonEscape input) := by
  induction input with
  | nil => exact .nil
  | cons ch input ih => exact escapeByte_written ch ih

theorem escapeByte_visible (ch : UInt8) : ∀ byte ∈ escapeByte ch, 32 ≤ byte := by
  intro byte member
  unfold escapeByte at member
  split at member
  · simp only [List.mem_cons, List.not_mem_nil, or_false, or_self] at member
    rw [member]
    decide
  · split at member
    · simp only [List.mem_cons, List.not_mem_nil, or_false] at member
      rcases member with rfl | rfl <;> decide
    · split at member
      · simp only [List.mem_cons, List.not_mem_nil, or_false] at member
        rcases member with rfl | rfl <;> decide
      · split at member
        · simp only [List.mem_cons, List.not_mem_nil, or_false] at member
          rcases member with rfl | rfl <;> decide
        · split at member
          · simp only [List.mem_cons, List.not_mem_nil, or_false] at member
            rcases member with rfl | rfl <;> decide
          · split at member
            · rename_i control
              obtain ⟨-, -, -, high, low⟩ := escaped_control control
              simp only [List.mem_cons, List.not_mem_nil, or_false] at member
              rcases member with rfl | rfl | rfl | rfl | rfl | rfl
              · decide
              · decide
              · decide
              · decide
              · exact high
              · exact low
            · rename_i visible
              rw [List.mem_singleton.mp member]
              exact UInt8.not_lt.mp visible

theorem jsonEscape_visible {input : List UInt8} : ∀ byte ∈ jsonEscape input, 32 ≤ byte := by
  intro byte member
  obtain ⟨ch, -, inside⟩ := List.mem_flatMap.mp member
  exact escapeByte_visible ch byte inside

end Escape

section Values

def PrintsNumbers (printDouble : F64 → List UInt8) : Prop :=
  ∀ value : F64, value.isFinite = true → Json.Number (printDouble value)

def Written.IsFinite : Written → Prop
  | .double value => value.isFinite = true
  | _ => True

theorem asBytes_toDigits (value : Nat) : asBytes (Nat.repr value) = Json.digits value := by
  have ascii : ∀ {digits : List Char}, (∀ digit ∈ digits, digit.toNat < 128) →
      digits.flatMap String.utf8EncodeChar = digits.map fun digit => UInt8.ofNat digit.toNat := by
    intro digits small
    induction digits with
    | nil => rfl
    | cons digit digits ih =>
      rw [List.forall_mem_cons] at small
      rw [List.flatMap_cons, List.map_cons, utf8EncodeChar_ascii small.1, ih small.2]
      rfl
  rw [asBytes_eq_flatMap, Nat.toList_repr, Json.digits]
  apply ascii
  intro digit member
  have decimal := Json.toNat_digit member
  omega

theorem number_int (value : Int) : Json.Number (asBytes (toString value)) := by
  cases value with
  | ofNat magnitude =>
    have text : asBytes (toString (Int.ofNat magnitude)) = Json.digits magnitude :=
      asBytes_toDigits magnitude
    rw [text]
    exact Json.number_digits magnitude
  | negSucc magnitude =>
    have text : asBytes (toString (Int.negSucc magnitude)) = 45 :: Json.digits (magnitude + 1) := by
      change asBytes ("-" ++ Nat.repr (magnitude + 1)) = _
      rw [asBytes_eq_flatMap, String.toList_append, List.flatMap_append, ← asBytes_eq_flatMap,
        ← asBytes_eq_flatMap, asBytes_toDigits]
      rfl
    rw [text]
    have whole := Json.Number.mk [45] (Json.digits (magnitude + 1)) [] [] (.inr rfl)
      (Json.whole_digits _) .none .none
    simpa using whole

variable {printDouble : F64 → List UInt8} (numbers : PrintsNumbers printDouble)

include numbers

theorem Written.denotes {value : Written} (finite : value.IsFinite) :
    Json.Denotes (value.scalar printDouble) (value.bytes printDouble) := by
  cases value with
  | null => exact .null
  | bool value =>
    cases value with
    | true => exact .true
    | false => exact .false
  | int value => exact .number _ (number_int value)
  | text content => exact .string _ _ (jsonEscape_written content)
  | double value => exact .number _ (numbers value finite)

/-- No value holds a control character, so that a frame is one line. -/
theorem Written.visible {value : Written} (finite : value.IsFinite) :
    ∀ byte ∈ value.bytes printDouble, 32 ≤ byte := by
  have checked : (["null", "true", "false"].all fun word =>
      (asBytes word).all fun byte => 32 ≤ byte) = true := by decide +kernel
  have words : ∀ word ∈ ["null", "true", "false"], ∀ byte ∈ asBytes word, 32 ≤ byte := by
    intro word member byte inside
    exact of_decide_eq_true
      (List.all_eq_true.mp (List.all_eq_true.mp checked word member) byte inside)
  cases value with
  | null => exact words "null" (by simp)
  | bool value =>
    cases value with
    | true => exact words "true" (by simp)
    | false => exact words "false" (by simp)
  | int value => exact fun byte member => ((number_int value).bytes byte member).visible
  | text content =>
    intro byte member
    simp only [bytes, List.mem_cons, List.mem_append, List.not_mem_nil, or_false] at member
    rcases member with rfl | inside | rfl
    · decide
    · exact jsonEscape_visible byte inside
    · decide
  | double value => exact fun byte member => ((numbers value finite).bytes byte member).visible

end Values

section Object

/-- The names of the members, in the order in which `emit` writes them. -/
def telemetryKeys : List String :=
  [ "event", "display_session_id", "pid", "unix_ms", "started_at_unix_ms", "bind_addr", "udp_port",
    "client_addr", "last_heard_age_ms", "remote_state_age_ms", "srtt_ms", "rttvar_ms",
    "last_rtt_ms", "packets_tx_total", "packets_rx_total", "retransmits_total",
    "empty_acks_tx_total", "state_updates_tx_total", "state_updates_rx_total",
    "duplicate_states_rx_total", "out_of_order_states_rx_total", "shutdown" ]

theorem plain_telemetryKeys : ∀ key ∈ telemetryKeys, Json.PlainText (asBytes key) := by
  have checked : (telemetryKeys.all fun key =>
      (asBytes key).all fun byte => Json.IsPlain byte) = true := by decide +kernel
  intro key member byte inside
  exact of_decide_eq_true (List.all_eq_true.mp (List.all_eq_true.mp checked key member) byte inside)

variable (sample : TelemetrySample) (sessionId : List UInt8) (startedAtUnixMs : UInt64)

theorem TelemetrySample.keys_members :
    (sample.members sessionId startedAtUnixMs).map Prod.fst = telemetryKeys := rfl

theorem TelemetrySample.key_mem {member : String × Written}
    (inside : member ∈ sample.members sessionId startedAtUnixMs) : member.1 ∈ telemetryKeys := by
  rw [← sample.keys_members sessionId startedAtUnixMs]
  exact List.mem_map_of_mem inside

theorem Written.isFinite_ofOption {α : Type} {value : Option α} {written : α → Written}
    (finite : ∀ value, (written value).IsFinite) : (Written.ofOption value written).IsFinite := by
  cases value with
  | none => exact trivial
  | some value => exact finite value

theorem TelemetrySample.finite_members :
    ∀ member ∈ sample.members sessionId startedAtUnixMs, member.2.IsFinite := by
  have estimate : ∀ part : RttEstimates → F64, (∀ rtt, (part rtt).isFinite = true) →
      (Written.ofOption sample.rtt fun rtt => .double (part rtt)).IsFinite :=
    fun part finite => Written.isFinite_ofOption finite
  intro member inside
  simp only [members, List.mem_cons, List.not_mem_nil, or_false] at inside
  rcases inside with rfl | rfl | rfl | rfl | rfl | rfl | rfl | rfl | rfl | rfl | rfl | rfl | rfl |
    rfl | rfl | rfl | rfl | rfl | rfl | rfl | rfl | rfl
  all_goals first
    | exact trivial
    | exact Written.isFinite_ofOption fun _ => trivial
    | exact estimate _ fun rtt => rtt.finite.1
    | exact estimate _ fun rtt => rtt.finite.2.1
    | exact estimate _ fun rtt => rtt.finite.2.2

variable {printDouble : F64 → List UInt8}

def TelemetrySample.fields (printDouble : F64 → List UInt8) : List (Json.Bytes × Json.Scalar) :=
  (sample.members sessionId startedAtUnixMs).map fun (key, value) =>
    (asBytes key, value.scalar printDouble)

theorem TelemetrySample.printed (numbers : PrintsNumbers printDouble) :
    List.Forall₂ Json.Printed
      ((sample.members sessionId startedAtUnixMs).map fun (key, value) =>
        (asBytes key, value.bytes printDouble))
      (sample.fields sessionId startedAtUnixMs printDouble) := by
  rw [fields, List.forall₂_map_left_iff, List.forall₂_map_right_iff, List.forall₂_same]
  intro member inside
  constructor
  · rfl
  · exact plain_telemetryKeys _ (sample.key_mem sessionId startedAtUnixMs inside)
  · exact Written.denotes numbers (sample.finite_members sessionId startedAtUnixMs member inside)

end Object

theorem payload_ne_nil (emitter : TelemetryEmitter) (printDouble : F64 → List UInt8)
    (sample : TelemetrySample) : emitter.payload printDouble sample ≠ [] := List.cons_ne_nil _ _

section Payload

variable {printDouble : F64 → List UInt8} (numbers : PrintsNumbers printDouble)
  (emitter : TelemetryEmitter) (sample : TelemetrySample)

include numbers

theorem document_payload : Json.Document (emitter.payload printDouble sample) :=
  Json.document_print (sample.printed _ _ numbers) (by simp [TelemetrySample.members])

/-- What a connection that fails has carried of a payload is no payload. -/
theorem not_document_of_payload {part : List UInt8}
    (within : part <+: emitter.payload printDouble sample) (nonempty : part ≠ [])
    (shorter : part ≠ emitter.payload printDouble sample) : ¬ Json.Document part :=
  Json.not_document_of_print (sample.printed _ _ numbers) (by simp [TelemetrySample.members]) within
    nonempty shorter

theorem visible_payload : ∀ byte ∈ emitter.payload printDouble sample, 32 ≤ byte := by
  apply Json.forall_print
  · decide +kernel
  · intro member inside
    obtain ⟨⟨key, value⟩, written, rfl⟩ := List.mem_map.mp inside
    constructor
    · have named : key ∈ telemetryKeys := sample.key_mem _ _ written
      exact fun byte member => (plain_telemetryKeys key named byte member).1
    · exact Written.visible numbers (sample.finite_members _ _ _ written)

end Payload

end Moshwatch
