import Mathlib

namespace Json

abbrev Bytes := List UInt8

section Grammar

def Gap (text : Bytes) : Prop := ∀ byte ∈ text, byte = 32 ∨ byte = 9 ∨ byte = 10 ∨ byte = 13

def IsDigit (byte : UInt8) : Prop := 48 ≤ byte ∧ byte ≤ 57

instance (byte : UInt8) : Decidable (IsDigit byte) := inferInstanceAs (Decidable (_ ∧ _))

def hexValue (byte : UInt8) : Option Nat :=
  if 48 ≤ byte ∧ byte ≤ 57 then some (byte.toNat - 48)
  else if 97 ≤ byte ∧ byte ≤ 102 then some (byte.toNat - 87)
  else if 65 ≤ byte ∧ byte ≤ 70 then some (byte.toNat - 55)
  else none

def hexCode (d3 d2 d1 d0 : UInt8) : Option Nat := do
  return 16 * (16 * (16 * (← hexValue d3) + (← hexValue d2)) + (← hexValue d1)) + (← hexValue d0)

/-- The digits before the point, without leading zeros. -/
inductive Whole : Bytes → Prop where
  | zero : Whole [48]
  | digits (first : UInt8) (rest : Bytes) (leads : first ≠ 48)
      (decimal : ∀ byte ∈ first :: rest, IsDigit byte) : Whole (first :: rest)

inductive Fraction : Bytes → Prop where
  | none : Fraction []
  | digits (rest : Bytes) (nonempty : rest ≠ []) (decimal : ∀ byte ∈ rest, IsDigit byte) :
      Fraction (46 :: rest)

inductive Exponent : Bytes → Prop where
  | none : Exponent []
  | digits (mark : UInt8) (sign rest : Bytes) (letter : mark = 101 ∨ mark = 69)
      (signed : sign = [] ∨ sign = [43] ∨ sign = [45]) (nonempty : rest ≠ [])
      (decimal : ∀ byte ∈ rest, IsDigit byte) : Exponent (mark :: (sign ++ rest))

inductive Number : Bytes → Prop where
  | mk (sign whole fraction exponent : Bytes) (signed : sign = [] ∨ sign = [45])
      (isWhole : Whole whole) (isFraction : Fraction fraction) (isExponent : Exponent exponent) :
      Number (sign ++ (whole ++ (fraction ++ exponent)))

/-- The byte that a letter after a backslash stands for. -/
def shortEscape (letter : UInt8) : Option UInt8 :=
  if letter = 34 ∨ letter = 92 ∨ letter = 47 then some letter
  else if letter = 98 then some 8
  else if letter = 102 then some 12
  else if letter = 110 then some 10
  else if letter = 114 then some 13
  else if letter = 116 then some 9
  else none

def IsPlain (byte : UInt8) : Prop := 32 ≤ byte ∧ byte ≠ 34 ∧ byte ≠ 92

instance (byte : UInt8) : Decidable (IsPlain byte) := inferInstanceAs (Decidable (_ ∧ _ ∧ _))

/-- What a string holds, and what is written for it between the quotes. -/
inductive StringText : Bytes → Bytes → Prop where
  | nil : StringText [] []
  | plain (byte : UInt8) (content text : Bytes) (isPlain : IsPlain byte)
      (rest : StringText content text) : StringText (byte :: content) (byte :: text)
  | escape (letter byte : UInt8) (content text : Bytes) (short : shortEscape letter = some byte)
      (rest : StringText content text) : StringText (byte :: content) (92 :: letter :: text)
  | unicode (d3 d2 d1 d0 : UInt8) (code : Nat) (content text : Bytes)
      (hex : hexCode d3 d2 d1 d0 = some code) (single : code < 0xd800 ∨ 0xdfff < code)
      (rest : StringText content text) :
      StringText (String.utf8EncodeChar (Char.ofNat code) ++ content)
        (92 :: 117 :: d3 :: d2 :: d1 :: d0 :: text)
  | pair (d3 d2 d1 d0 e3 e2 e1 e0 : UInt8) (high low : Nat) (content text : Bytes)
      (first : hexCode d3 d2 d1 d0 = some high) (isHigh : 0xd800 ≤ high ∧ high ≤ 0xdbff)
      (second : hexCode e3 e2 e1 e0 = some low) (isLow : 0xdc00 ≤ low ∧ low ≤ 0xdfff)
      (rest : StringText content text) :
      StringText
        (String.utf8EncodeChar
          (Char.ofNat (0x10000 + (high - 0xd800) * 0x400 + (low - 0xdc00))) ++ content)
        (92 :: 117 :: d3 :: d2 :: d1 :: d0 :: 92 :: 117 :: e3 :: e2 :: e1 :: e0 :: text)

inductive Quoted : Bytes → Prop where
  | nil : Quoted []
  | plain (byte : UInt8) (text : Bytes) (isPlain : IsPlain byte) (rest : Quoted text) :
      Quoted (byte :: text)
  | escape (letter byte : UInt8) (text : Bytes) (short : shortEscape letter = some byte)
      (rest : Quoted text) : Quoted (92 :: letter :: text)
  | unicode (d3 d2 d1 d0 : UInt8) (code : Nat) (text : Bytes)
      (hex : hexCode d3 d2 d1 d0 = some code) (rest : Quoted text) :
      Quoted (92 :: 117 :: d3 :: d2 :: d1 :: d0 :: text)

theorem StringText.quoted {content text : Bytes} (written : StringText content text) :
    Quoted text := by
  induction written with
  | nil => exact .nil
  | plain byte content text isPlain rest ih => exact .plain byte text isPlain ih
  | escape letter byte content text short rest ih => exact .escape letter byte text short ih
  | unicode d3 d2 d1 d0 code content text hex single rest ih =>
    exact .unicode d3 d2 d1 d0 code text hex ih
  | pair d3 d2 d1 d0 e3 e2 e1 e0 high low content text first isHigh second isLow rest ih =>
    exact .unicode d3 d2 d1 d0 high _ first (.unicode e3 e2 e1 e0 low text second ih)

inductive Kind where
  | value
  | element
  | elements
  | members

inductive Derives : Kind → Bytes → Prop where
  | null : Derives .value [110, 117, 108, 108]
  | true : Derives .value [116, 114, 117, 101]
  | false : Derives .value [102, 97, 108, 115, 101]
  | number (text : Bytes) (isNumber : Number text) : Derives .value text
  | string (text : Bytes) (quoted : Quoted text) : Derives .value (34 :: (text ++ [34]))
  | emptyArray (gap : Bytes) (blank : Gap gap) : Derives .value (91 :: (gap ++ [93]))
  | array (text : Bytes) (inner : Derives .elements text) : Derives .value (91 :: (text ++ [93]))
  | emptyObject (gap : Bytes) (blank : Gap gap) : Derives .value (123 :: (gap ++ [125]))
  | object (text : Bytes) (inner : Derives .members text) : Derives .value (123 :: (text ++ [125]))
  | element (before text after : Bytes) (first : Gap before) (inner : Derives .value text)
      (last : Gap after) : Derives .element (before ++ (text ++ after))
  | single (text : Bytes) (inner : Derives .element text) : Derives .elements text
  | elements (front back : Bytes) (left : Derives .elements front)
      (right : Derives .elements back) : Derives .elements (front ++ 44 :: back)
  | member (before keyText between text : Bytes) (first : Gap before) (quoted : Quoted keyText)
      (second : Gap between) (inner : Derives .element text) :
      Derives .members (before ++ (34 :: (keyText ++ 34 :: (between ++ 58 :: text))))
  | members (front back : Bytes) (left : Derives .members front)
      (right : Derives .members back) : Derives .members (front ++ 44 :: back)

/-- A text that is one value with white space around it. -/
def Document (text : Bytes) : Prop := Derives .element text

end Grammar

section Scan

inductive Mode where
  | outside
  | inside
  | escaped
  deriving DecidableEq

/-- How many brackets are open, and whether a string is. -/
structure Scan where
  depth : Nat
  mode : Mode
  deriving DecidableEq

def Scan.step (scan : Scan) (byte : UInt8) : Scan :=
  match scan.mode with
  | .outside =>
    if byte = 34 then { scan with mode := .inside }
    else if byte = 91 ∨ byte = 123 then { scan with depth := scan.depth + 1 }
    else if byte = 93 ∨ byte = 125 then { scan with depth := scan.depth - 1 }
    else scan
  | .inside =>
    if byte = 34 then { scan with mode := .outside }
    else if byte = 92 then { scan with mode := .escaped }
    else scan
  | .escaped => { scan with mode := .inside }

/-- A text that takes the scan from one state to another without closing more than it opens. -/
structure Passes (floor : Nat) (text : Bytes) (first last : Scan) : Prop where
  ends : text.foldl Scan.step first = last
  above : ∀ part, part <+: text → floor ≤ (part.foldl Scan.step first).depth

namespace Passes

variable {floor : Nat} {front back text : Bytes} {first middle last : Scan}

theorem nil (high : floor ≤ first.depth) : Passes floor [] first first := by
  constructor
  · rfl
  · intro part within
    rw [List.prefix_nil.mp within]
    exact high

theorem cons {byte : UInt8} (high : floor ≤ first.depth)
    (later : Passes floor text (first.step byte) last) : Passes floor (byte :: text) first last := by
  constructor
  · exact later.ends
  · intro part within
    cases part with
    | nil => exact high
    | cons other part =>
      obtain ⟨rfl, inner⟩ := List.cons_prefix_cons.mp within
      exact later.above part inner

theorem append (left : Passes floor front first middle) (right : Passes floor back middle last) :
    Passes floor (front ++ back) first last := by
  constructor
  · rw [List.foldl_append, left.ends, right.ends]
  · intro part within
    rcases List.prefix_or_prefix_of_prefix within (List.prefix_append front back) with
      inner | ⟨more, rfl⟩
    · exact left.above part inner
    · rw [List.foldl_append, left.ends]
      exact right.above more ((List.prefix_append_right_inj front).mp within)

theorem weaken {lower : Nat} (passes : Passes floor text first last) (below : lower ≤ floor) :
    Passes lower text first last :=
  ⟨passes.ends, fun part within => below.trans (passes.above part within)⟩

end Passes

variable {depth : Nat}

def IsNeutral (byte : UInt8) : Prop :=
  byte ≠ 34 ∧ byte ≠ 91 ∧ byte ≠ 123 ∧ byte ≠ 93 ∧ byte ≠ 125

instance (byte : UInt8) : Decidable (IsNeutral byte) :=
  inferInstanceAs (Decidable (_ ∧ _ ∧ _ ∧ _ ∧ _))

theorem passes_neutral {text : Bytes} (neutral : ∀ byte ∈ text, IsNeutral byte) :
    Passes depth text ⟨depth, .outside⟩ ⟨depth, .outside⟩ := by
  induction text with
  | nil => exact .nil le_rfl
  | cons byte text ih =>
    obtain ⟨⟨quote, square, brace, endSquare, endBrace⟩, rest⟩ := List.forall_mem_cons.mp neutral
    refine Passes.cons le_rfl ?_
    simpa [Scan.step, quote, square, brace, endSquare, endBrace] using ih rest

theorem Gap.passes {text : Bytes} (gap : Gap text) :
    Passes depth text ⟨depth, .outside⟩ ⟨depth, .outside⟩ := by
  apply passes_neutral
  intro byte member
  rcases gap byte member with rfl | rfl | rfl | rfl <;> decide

def InNumber (byte : UInt8) : Prop :=
  IsDigit byte ∨ byte = 43 ∨ byte = 45 ∨ byte = 46 ∨ byte = 69 ∨ byte = 101

theorem Whole.bytes {text : Bytes} (whole : Whole text) : ∀ byte ∈ text, IsDigit byte := by
  intro byte member
  cases whole with
  | zero =>
    rw [List.mem_singleton.mp member]
    decide
  | digits first rest leads decimal => exact decimal byte member

theorem Fraction.bytes {text : Bytes} (fraction : Fraction text) : ∀ byte ∈ text, InNumber byte := by
  intro byte member
  cases fraction with
  | none => cases member
  | digits rest nonempty decimal =>
    rcases List.mem_cons.mp member with rfl | digit
    · exact .inr (.inr (.inr (.inl rfl)))
    · exact .inl (decimal byte digit)

theorem Exponent.bytes {text : Bytes} (exponent : Exponent text) : ∀ byte ∈ text, InNumber byte := by
  intro byte member
  cases exponent with
  | none => cases member
  | digits mark sign rest letter signed nonempty decimal =>
    rcases List.mem_cons.mp member with rfl | later
    · rcases letter with rfl | rfl <;> simp [InNumber]
    · rcases List.mem_append.mp later with inSign | digit
      · rcases signed with rfl | rfl | rfl <;> simp at inSign <;> simp [InNumber, inSign]
      · exact .inl (decimal byte digit)

theorem Number.bytes {text : Bytes} (number : Number text) : ∀ byte ∈ text, InNumber byte := by
  obtain ⟨sign, whole, fraction, exponent, signed, isWhole, isFraction, isExponent⟩ := number
  intro byte member
  simp only [List.mem_append] at member
  rcases member with inSign | inWhole | inFraction | inExponent
  · rcases signed with rfl | rfl <;> simp at inSign
    simp [InNumber, inSign]
  · exact .inl (isWhole.bytes byte inWhole)
  · exact isFraction.bytes byte inFraction
  · exact isExponent.bytes byte inExponent

theorem InNumber.neutral {byte : UInt8} (inNumber : InNumber byte) : IsNeutral byte := by
  rcases inNumber with ⟨low, high⟩ | rfl | rfl | rfl | rfl | rfl
  · rw [UInt8.le_iff_toNat_le] at low high
    refine ⟨?_, ?_, ?_, ?_, ?_⟩ <;> rintro rfl <;> revert low high <;> decide
  · decide
  · decide
  · decide
  · decide
  · decide

theorem InNumber.visible {byte : UInt8} (inNumber : InNumber byte) : 32 ≤ byte := by
  rcases inNumber with ⟨low, -⟩ | rfl | rfl | rfl | rfl | rfl
  · exact UInt8.le_trans (by decide) low
  · decide
  · decide
  · decide
  · decide
  · decide

theorem Number.neutral {text : Bytes} (number : Number text) : ∀ byte ∈ text, IsNeutral byte :=
  fun byte member => (number.bytes byte member).neutral

theorem hexValue_plain {byte : UInt8} {value : Nat} (digit : hexValue byte = some value) :
    byte ≠ 34 ∧ byte ≠ 92 := by
  constructor <;> rintro rfl <;> simp [hexValue] at digit

theorem hexCode_plain {d3 d2 d1 d0 : UInt8} {code : Nat} (hex : hexCode d3 d2 d1 d0 = some code) :
    ∀ byte ∈ [d3, d2, d1, d0], byte ≠ 34 ∧ byte ≠ 92 := by
  simp only [hexCode, Option.bind_eq_bind, Option.bind_eq_some_iff] at hex
  obtain ⟨v3, h3, v2, h2, v1, h1, v0, h0, -⟩ := hex
  simp [hexValue_plain h3, hexValue_plain h2, hexValue_plain h1, hexValue_plain h0]

theorem passes_inside {text : Bytes} (plain : ∀ byte ∈ text, byte ≠ 34 ∧ byte ≠ 92) :
    Passes depth text ⟨depth, .inside⟩ ⟨depth, .inside⟩ := by
  induction text with
  | nil => exact .nil le_rfl
  | cons byte text ih =>
    obtain ⟨⟨quote, backslash⟩, rest⟩ := List.forall_mem_cons.mp plain
    refine Passes.cons le_rfl ?_
    simpa [Scan.step, quote, backslash] using ih rest

theorem passes_escape (letter : UInt8) :
    Passes depth [92, letter] ⟨depth, .inside⟩ ⟨depth, .inside⟩ := by
  refine Passes.cons le_rfl ?_
  refine Passes.cons le_rfl ?_
  exact .nil le_rfl

theorem Quoted.passes {text : Bytes} (quoted : Quoted text) :
    Passes depth text ⟨depth, .inside⟩ ⟨depth, .inside⟩ := by
  induction quoted with
  | nil => exact .nil le_rfl
  | plain byte text isPlain rest ih =>
    exact (@passes_inside depth [byte] (by simp [isPlain.2])).append ih
  | escape letter byte text short rest ih => exact (passes_escape letter).append ih
  | unicode d3 d2 d1 d0 code text hex rest ih =>
    exact ((passes_escape 117).append (passes_inside (hexCode_plain hex))).append ih

theorem Quoted.passes_quotes {text : Bytes} (quoted : Quoted text) :
    Passes depth (34 :: (text ++ [34])) ⟨depth, .outside⟩ ⟨depth, .outside⟩ := by
  have closing : Passes depth [34] ⟨depth, .inside⟩ ⟨depth, .outside⟩ := by
    refine Passes.cons le_rfl ?_
    exact .nil le_rfl
  refine Passes.cons le_rfl ?_
  exact Passes.append quoted.passes closing

theorem passes_bracketed {opening closing : UInt8} (opens : opening = 91 ∨ opening = 123)
    (closes : closing = 93 ∨ closing = 125) {text : Bytes}
    (inner : Passes (depth + 1) text ⟨depth + 1, .outside⟩ ⟨depth + 1, .outside⟩) :
    Passes depth (opening :: (text ++ [closing])) ⟨depth, .outside⟩ ⟨depth, .outside⟩ := by
  have up : (Scan.step ⟨depth, .outside⟩ opening) = ⟨depth + 1, .outside⟩ := by
    rcases opens with rfl | rfl <;> rfl
  have down : (Scan.step ⟨depth + 1, .outside⟩ closing) = ⟨depth, .outside⟩ := by
    rcases closes with rfl | rfl <;> rfl
  refine Passes.cons le_rfl ?_
  rw [up]
  refine (inner.weaken (Nat.le_succ _)).append ?_
  refine Passes.cons (Nat.le_succ _) ?_
  rw [down]
  exact .nil le_rfl

theorem passes_comma : Passes depth [44] ⟨depth, .outside⟩ ⟨depth, .outside⟩ :=
  passes_neutral (by simp [IsNeutral])

/-- A text of the grammar closes all that it opens, and nothing else. -/
theorem Derives.passes {kind : Kind} {text : Bytes} (derives : Derives kind text) :
    ∀ depth, Passes depth text ⟨depth, .outside⟩ ⟨depth, .outside⟩ := by
  induction derives with
  | null => exact fun _ => passes_neutral (by simp [IsNeutral])
  | true => exact fun _ => passes_neutral (by simp [IsNeutral])
  | false => exact fun _ => passes_neutral (by simp [IsNeutral])
  | number text isNumber => exact fun _ => passes_neutral isNumber.neutral
  | string text quoted => exact fun _ => quoted.passes_quotes
  | emptyArray gap blank => exact fun _ => passes_bracketed (.inl rfl) (.inl rfl) blank.passes
  | array text inner ih => exact fun depth => passes_bracketed (.inl rfl) (.inl rfl) (ih _)
  | emptyObject gap blank => exact fun _ => passes_bracketed (.inr rfl) (.inr rfl) blank.passes
  | object text inner ih => exact fun depth => passes_bracketed (.inr rfl) (.inr rfl) (ih _)
  | element before text after first inner last ih =>
    exact fun depth => first.passes.append ((ih depth).append last.passes)
  | single text inner ih => exact ih
  | elements front back left right leftIh rightIh =>
    exact fun depth => (leftIh depth).append (passes_comma.append (rightIh depth))
  | member before keyText between text first quoted second inner ih =>
    intro depth
    have colon : Passes depth [58] ⟨depth, .outside⟩ ⟨depth, .outside⟩ := passes_neutral (by simp [IsNeutral])
    have whole := first.passes.append (quoted.passes_quotes.append
      (second.passes.append (colon.append (ih depth))))
    simpa using whole
  | members front back left right leftIh rightIh =>
    exact fun depth => (leftIh depth).append (passes_comma.append (rightIh depth))

/-- What is left of an object's text when its end is cut off is no document. -/
theorem not_document_of_prefix {body part : Bytes} (inner : Derives .members body)
    (within : part <+: 123 :: (body ++ [125])) (nonempty : part ≠ [])
    (shorter : part ≠ 123 :: (body ++ [125])) : ¬ Document part := by
  intro document
  have closed := (document.passes 0).ends
  cases part with
  | nil => exact nonempty rfl
  | cons byte part =>
    obtain ⟨rfl, inside⟩ := List.cons_prefix_cons.mp within
    rcases List.prefix_concat_iff.mp inside with whole | cut
    · exact shorter (congrArg _ whole)
    · have deep := (inner.passes 1).above part cut
      have opened : Scan.step ⟨0, .outside⟩ 123 = ⟨1, .outside⟩ := rfl
      rw [List.foldl_cons, opened] at closed
      rw [closed] at deep
      contradiction

end Scan

section Objects

inductive Scalar where
  | null
  | bool (value : Bool)
  | number (text : Bytes)
  | string (content : Bytes)
  deriving DecidableEq

inductive Denotes : Scalar → Bytes → Prop where
  | null : Denotes .null [110, 117, 108, 108]
  | true : Denotes (.bool true) [116, 114, 117, 101]
  | false : Denotes (.bool false) [102, 97, 108, 115, 101]
  | number (text : Bytes) (isNumber : Number text) : Denotes (.number text) text
  | string (content text : Bytes) (written : StringText content text) :
      Denotes (.string content) (34 :: (text ++ [34]))

inductive Fields : List (Bytes × Scalar) → Bytes → Prop where
  | single (before key keyText between value after text : Bytes) (scalar : Scalar)
      (first : Gap before) (written : StringText key keyText) (second : Gap between)
      (third : Gap value) (denotes : Denotes scalar text) (last : Gap after) :
      Fields [(key, scalar)]
        (before ++ (34 :: (keyText ++ 34 :: (between ++ 58 :: (value ++ (text ++ after))))))
  | cons (field : Bytes × Scalar) (fields : List (Bytes × Scalar)) (front back : Bytes)
      (left : Fields [field] front) (right : Fields fields back) :
      Fields (field :: fields) (front ++ 44 :: back)

theorem Denotes.derives {scalar : Scalar} {text : Bytes} (denotes : Denotes scalar text) :
    Derives .value text := by
  cases denotes with
  | null => exact .null
  | true => exact .true
  | false => exact .false
  | number text isNumber => exact .number text isNumber
  | string content text written => exact .string text written.quoted

theorem Fields.derives {fields : List (Bytes × Scalar)} {text : Bytes}
    (read : Fields fields text) : Derives .members text := by
  induction read with
  | single before key keyText between value after text scalar first written second third denotes
      last =>
    exact .member before keyText between _ first written.quoted second
      (.element value text after third denotes.derives last)
  | cons field fields front back left right leftIh rightIh => exact .members front back leftIh rightIh

/-- A text that is its own string. -/
def PlainText (text : Bytes) : Prop := ∀ byte ∈ text, IsPlain byte

theorem PlainText.written {text : Bytes} (plain : PlainText text) : StringText text text := by
  induction text with
  | nil => exact .nil
  | cons byte text ih =>
    obtain ⟨first, rest⟩ := List.forall_mem_cons.mp plain
    exact .plain byte text text first (ih rest)

def printMember (key value : Bytes) : Bytes := 34 :: (key ++ 34 :: 58 :: value)

def printMembers : List (Bytes × Bytes) → Bytes
  | [] => []
  | [(key, value)] => printMember key value
  | (key, value) :: rest => printMember key value ++ 44 :: printMembers rest

/-- An object without white space. -/
def print (members : List (Bytes × Bytes)) : Bytes := 123 :: (printMembers members ++ [125])

/-- The value of a member has the text that is printed for it. -/
structure Printed (member : Bytes × Bytes) (field : Bytes × Scalar) : Prop where
  key : member.1 = field.1
  plain : PlainText member.1
  denotes : Denotes field.2 member.2

theorem fields_printMember {member : Bytes × Bytes} {field : Bytes × Scalar}
    (printed : Printed member field) : Fields [field] (printMember member.1 member.2) := by
  obtain ⟨key, value⟩ := member
  obtain ⟨name, scalar⟩ := field
  obtain ⟨same, plain, denotes⟩ := printed
  cases same
  have none : Gap [] := List.forall_mem_nil _
  have whole := Fields.single [] key key [] [] [] value scalar none plain.written none none denotes none
  simpa [printMember] using whole

theorem fields_printMembers {members : List (Bytes × Bytes)} {fields : List (Bytes × Scalar)}
    (printed : List.Forall₂ Printed members fields) (nonempty : members ≠ []) :
    Fields fields (printMembers members) := by
  induction printed with
  | nil => exact absurd rfl nonempty
  | @cons member field members fields first rest ih =>
    obtain ⟨key, value⟩ := member
    cases rest with
    | nil => exact fields_printMember first
    | cons second later =>
      exact .cons field _ _ _ (fields_printMember first) (ih (List.cons_ne_nil _ _))

theorem not_document_of_print {members : List (Bytes × Bytes)} {fields : List (Bytes × Scalar)}
    (printed : List.Forall₂ Printed members fields) (nonempty : members ≠ []) {part : Bytes}
    (within : part <+: print members) (some : part ≠ []) (shorter : part ≠ print members) :
    ¬ Document part :=
  not_document_of_prefix (fields_printMembers printed nonempty).derives within some shorter

theorem document_print {members : List (Bytes × Bytes)} {fields : List (Bytes × Scalar)}
    (printed : List.Forall₂ Printed members fields) (nonempty : members ≠ []) :
    Document (print members) := by
  have none : Gap [] := List.forall_mem_nil _
  have whole := Derives.element [] (print members) [] none
    (.object _ (fields_printMembers printed nonempty).derives) none
  simpa [Document] using whole

theorem forall_printMembers {property : UInt8 → Prop} {members : List (Bytes × Bytes)}
    (marks : ∀ byte ∈ [34, 44, 58], property byte)
    (inside : ∀ member ∈ members,
      (∀ byte ∈ member.1, property byte) ∧ ∀ byte ∈ member.2, property byte) :
    ∀ byte ∈ printMembers members, property byte := by
  have member_of : ∀ member ∈ members, ∀ byte ∈ printMember member.1 member.2, property byte := by
    intro member listed byte found
    simp only [printMember, List.mem_cons, List.mem_append] at found
    rcases found with rfl | inKey | rfl | rfl | inValue
    · exact marks 34 (by simp)
    · exact (inside member listed).1 byte inKey
    · exact marks 34 (by simp)
    · exact marks 58 (by simp)
    · exact (inside member listed).2 byte inValue
  induction members with
  | nil => exact List.forall_mem_nil _
  | cons member members ih =>
    obtain ⟨key, value⟩ := member
    have later := ih (fun other listed => inside other (List.mem_cons_of_mem _ listed))
      fun other listed => member_of other (List.mem_cons_of_mem _ listed)
    have first := member_of (key, value) List.mem_cons_self
    cases members with
    | nil => exact first
    | cons next members =>
      intro byte found
      rw [printMembers, List.mem_append, List.mem_cons] at found
      rcases found with inFirst | rfl | inLater
      · exact first byte inFirst
      · exact marks 44 (by simp)
      · exact later byte inLater
      · exact List.cons_ne_nil _ _

theorem forall_print {property : UInt8 → Prop} {members : List (Bytes × Bytes)}
    (marks : ∀ byte ∈ [34, 44, 58, 123, 125], property byte)
    (inside : ∀ member ∈ members,
      (∀ byte ∈ member.1, property byte) ∧ ∀ byte ∈ member.2, property byte) :
    ∀ byte ∈ print members, property byte := by
  intro byte found
  simp only [print, List.mem_cons, List.mem_append, List.not_mem_nil, or_false] at found
  rcases found with rfl | between | rfl
  · exact marks 123 (by simp)
  · apply forall_printMembers _ inside byte between
    intro mark listed
    apply marks
    rw [show [34, 44, 58, 123, 125] = [34, 44, 58] ++ [(123 : UInt8), 125] from rfl]
    exact List.mem_append_left _ listed
  · exact marks 125 (by simp)

end Objects

section Decimal

def digits (value : Nat) : Bytes := (Nat.toDigits 10 value).map fun digit => UInt8.ofNat digit.toNat

theorem toNat_digit {value : Nat} {digit : Char} (member : digit ∈ Nat.toDigits 10 value) :
    48 ≤ digit.toNat ∧ digit.toNat ≤ 57 ∧ (UInt8.ofNat digit.toNat).toNat = digit.toNat := by
  have decimal := Nat.isDigit_of_mem_toDigits (by decide) (by decide) member
  simp only [Char.isDigit, Bool.and_eq_true, decide_eq_true_eq, UInt32.le_iff_toNat_le] at decimal
  have low : 48 ≤ digit.toNat := decimal.1
  have high : digit.toNat ≤ 57 := decimal.2
  have size : digit.toNat < UInt8.size := by
    unfold UInt8.size
    omega
  exact ⟨low, high, UInt8.toNat_ofNat_of_lt' size⟩

theorem isDigit_digits {value : Nat} : ∀ byte ∈ digits value, IsDigit byte := by
  intro byte member
  obtain ⟨digit, inside, rfl⟩ := List.mem_map.mp member
  obtain ⟨low, high, same⟩ := toNat_digit inside
  rw [IsDigit, UInt8.le_iff_toNat_le, UInt8.le_iff_toNat_le, same]
  exact ⟨low, high⟩

theorem head_toDigits {value : Nat} (positive : 0 < value) :
    ∀ digit ∈ (Nat.toDigits 10 value).head?, digit ≠ '0' := by
  induction value using Nat.strong_induction_on with
  | _ value ih =>
    intro digit head
    by_cases small : value < 10
    · rw [Nat.toDigits_of_lt_base small] at head
      cases head
      simp
      omega
    · rw [Nat.toDigits_of_base_le (by decide) (by omega),
        List.head?_append_of_ne_nil _ Nat.toDigits_ne_nil] at head
      exact ih (value / 10) (by omega) (by omega) digit head

theorem whole_digits (value : Nat) : Whole (digits value) := by
  have decimal := @isDigit_digits value
  by_cases zero : value = 0
  · subst zero
    exact .zero
  · have leads := head_toDigits (Nat.pos_of_ne_zero zero)
    unfold digits at decimal ⊢
    obtain ⟨digit, rest, split⟩ := List.exists_cons_of_ne_nil (@Nat.toDigits_ne_nil value 10)
    rw [split] at decimal leads ⊢
    refine .digits _ _ ?_ decimal
    intro same
    have number := congrArg UInt8.toNat same
    have inside : digit ∈ Nat.toDigits 10 value := by
      rw [split]
      exact List.mem_cons_self
    rw [(toNat_digit inside).2.2] at number
    apply leads digit rfl
    rw [← Char.ofNat_toNat digit, number]
    rfl

theorem number_digits (value : Nat) : Number (digits value) := by
  have whole := Number.mk [] (digits value) [] [] (.inl rfl) (whole_digits value) .none .none
  simpa using whole

end Decimal

end Json
