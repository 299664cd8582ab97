import Mathlib

namespace Squeeze

variable {α : Type*} (blank : α → Bool) (gap : α)

/-- Replace each run of blanks by one gap. The flag says that a blank came before. -/
def squeezeFrom : Bool → List α → List α
  | _, [] => []
  | afterBlank, ch :: rest =>
    if blank ch then
      if afterBlank then squeezeFrom true rest else gap :: squeezeFrom true rest
    else ch :: squeezeFrom false rest

def squeeze (chars : List α) : List α := squeezeFrom blank gap false chars

def trim (chars : List α) : List α := (chars.dropWhile blank).rdropWhile blank

/-- Every blank is the gap, and no two of them are neighbours. -/
structure Spaced (chars : List α) : Prop where
  gaps : ∀ ch ∈ chars, blank ch = true → ch = gap
  single : chars.IsChain fun left right => ¬(blank left = true ∧ blank right = true)

/-- Spaced with a visible item at either end. -/
structure Canonical (chars : List α) : Prop extends Spaced blank gap chars where
  starts : ∀ ch ∈ chars.head?, blank ch = false
  ends : ∀ ch ∈ chars.getLast?, blank ch = false

variable {blank gap} {chars : List α}

section Squeezed

theorem head_squeezeFrom_true (chars : List α) :
    ∀ ch ∈ (squeezeFrom blank gap true chars).head?, blank ch = false := by
  induction chars with
  | nil => simp [squeezeFrom]
  | cons first rest ih =>
    rw [squeezeFrom]
    by_cases isBlank : blank first = true
    · rw [if_pos isBlank, if_pos rfl]
      exact ih
    · rw [if_neg isBlank]
      simpa using isBlank

theorem squeezeFrom_false_ne_nil (nonempty : chars ≠ []) :
    squeezeFrom blank gap false chars ≠ [] := by
  obtain ⟨first, rest, rfl⟩ := List.exists_cons_of_ne_nil nonempty
  rw [squeezeFrom]
  by_cases isBlank : blank first = true
  · rw [if_pos isBlank, if_neg Bool.false_ne_true]
    exact List.cons_ne_nil _ _
  · rw [if_neg isBlank]
    exact List.cons_ne_nil _ _

theorem spaced_squeezeFrom (afterBlank : Bool) (chars : List α) :
    Spaced blank gap (squeezeFrom blank gap afterBlank chars) := by
  induction chars generalizing afterBlank with
  | nil => exact ⟨by simp [squeezeFrom], List.isChain_nil⟩
  | cons first rest ih =>
    rw [squeezeFrom]
    by_cases isBlank : blank first = true
    · rw [if_pos isBlank]
      cases afterBlank with
      | true => exact ih true
      | false =>
        refine ⟨?_, List.isChain_cons.mpr ⟨?_, (ih true).single⟩⟩
        · intro ch member shown
          rcases List.mem_cons.mp member with rfl | later
          · rfl
          · exact (ih true).gaps ch later shown
        · intro next isNext both
          rw [head_squeezeFrom_true rest next isNext] at both
          cases both.2
    · rw [if_neg isBlank]
      refine ⟨?_, List.isChain_cons.mpr ⟨fun next _ both => isBlank both.1, (ih false).single⟩⟩
      intro ch member shown
      rcases List.mem_cons.mp member with rfl | later
      · exact absurd shown isBlank
      · exact (ih false).gaps ch later shown

theorem Spaced.squeezeFrom_eq (spaced : Spaced blank gap chars) {afterBlank : Bool}
    (starts : afterBlank = true → ∀ ch ∈ chars.head?, blank ch = false) :
    squeezeFrom blank gap afterBlank chars = chars := by
  induction chars generalizing afterBlank with
  | nil => rfl
  | cons first rest ih =>
    obtain ⟨apart, later⟩ := List.isChain_cons.mp spaced.single
    have tail : Spaced blank gap rest :=
      ⟨fun ch member => spaced.gaps ch (List.mem_cons_of_mem _ member), later⟩
    rw [squeezeFrom]
    by_cases isBlank : blank first = true
    · have fresh : afterBlank = false := by
        cases afterBlank with
        | false => rfl
        | true =>
          rw [starts rfl first rfl] at isBlank
          cases isBlank
      rw [if_pos isBlank, fresh, if_neg Bool.false_ne_true,
        spaced.gaps first List.mem_cons_self isBlank, ih tail]
      intro _ next isNext
      by_contra shown
      exact apart next isNext ⟨isBlank, by simpa using shown⟩
    · rw [if_neg isBlank, ih tail]
      intro impossible
      cases impossible

end Squeezed

section Trimmed

theorem dropWhile_squeezeFrom (isGap : blank gap = true) (afterBlank : Bool) (chars : List α) :
    (squeezeFrom blank gap afterBlank chars).dropWhile blank = squeezeFrom blank gap true chars := by
  induction chars generalizing afterBlank with
  | nil => rfl
  | cons first rest ih =>
    rw [squeezeFrom, squeezeFrom]
    by_cases isBlank : blank first = true
    · rw [if_pos isBlank, if_pos isBlank, if_pos rfl]
      cases afterBlank with
      | true => exact ih true
      | false => rw [if_neg Bool.false_ne_true, List.dropWhile_cons_of_pos isGap, ih true]
    · rw [if_neg isBlank, if_neg isBlank, List.dropWhile_cons_of_neg isBlank]

theorem trim_squeezeFrom (isGap : blank gap = true) (afterBlank : Bool) (chars : List α) :
    trim blank (squeezeFrom blank gap afterBlank chars) =
      (squeezeFrom blank gap true chars).rdropWhile blank := by
  rw [trim, dropWhile_squeezeFrom isGap]

theorem Spaced.rdropWhile (spaced : Spaced blank gap chars) :
    chars.rdropWhile blank = chars ∨ chars = chars.rdropWhile blank ++ [gap] := by
  rcases List.eq_nil_or_concat chars with rfl | ⟨front, last, rfl⟩
  · exact .inl rfl
  rw [List.concat_eq_append] at *
  by_cases isBlank : blank last = true
  · have apart := (List.isChain_append.mp spaced.single).2.2
    have whole : front.rdropWhile blank = front := by
      rw [List.rdropWhile_eq_self_iff]
      intro nonempty shown
      exact apart _ (List.getLast?_eq_some_getLast nonempty) last rfl ⟨shown, isBlank⟩
    rw [List.rdropWhile_concat_pos _ _ _ isBlank, whole,
      spaced.gaps last (by simp) isBlank]
    exact .inr rfl
  · exact .inl (List.rdropWhile_concat_neg _ _ _ isBlank)

theorem Spaced.dropWhile (spaced : Spaced blank gap chars) :
    chars.dropWhile blank = chars ∨ chars = gap :: chars.dropWhile blank := by
  cases chars with
  | nil => exact .inl rfl
  | cons first rest =>
    by_cases isBlank : blank first = true
    · obtain ⟨apart, -⟩ := List.isChain_cons.mp spaced.single
      have whole : rest.dropWhile blank = rest := by
        cases rest with
        | nil => rfl
        | cons next later =>
          exact List.dropWhile_cons_of_neg fun shown => apart next rfl ⟨isBlank, shown⟩
      rw [List.dropWhile_cons_of_pos isBlank, whole, spaced.gaps first List.mem_cons_self isBlank]
      exact .inr rfl
    · exact .inl (List.dropWhile_cons_of_neg isBlank)

theorem Spaced.of_infix {part : List α} (spaced : Spaced blank gap chars) (inside : part <:+: chars) :
    Spaced blank gap part :=
  ⟨fun ch member => spaced.gaps ch (inside.subset member), spaced.single.infix inside⟩

theorem trim_isInfix (chars : List α) : trim blank chars <:+: chars :=
  (List.rdropWhile_prefix _ _).isInfix.trans (List.dropWhile_suffix _).isInfix

theorem head?_of_isPrefix {part : List α} (inside : part <+: chars) {ch : α}
    (first : part.head? = some ch) : chars.head? = some ch := by
  obtain ⟨rest, rfl⟩ := inside
  rw [List.head?_append, first, Option.some_or]

theorem Spaced.canonical_trim (spaced : Spaced blank gap chars) :
    Canonical blank gap (trim blank chars) := by
  refine ⟨spaced.of_infix (trim_isInfix chars), ?_, ?_⟩
  · intro ch first
    have kept := head?_of_isPrefix (List.rdropWhile_prefix blank (chars.dropWhile blank)) first
    have shown := List.head?_dropWhile_not blank chars
    rw [kept] at shown
    exact shown
  · intro ch last
    have nonempty : trim blank chars ≠ [] := by
      intro empty
      rw [empty] at last
      cases last
    have shown := List.rdropWhile_last_not blank (chars.dropWhile blank) nonempty
    rw [List.getLast?_eq_some_getLast nonempty, Option.mem_some_iff] at last
    rw [← last]
    exact Bool.eq_false_iff.mpr shown

theorem Canonical.trim_eq (canonical : Canonical blank gap chars) : trim blank chars = chars := by
  have front : chars.dropWhile blank = chars := by
    cases chars with
    | nil => rfl
    | cons first rest =>
      have shown := canonical.starts first rfl
      exact List.dropWhile_cons_of_neg (by rw [shown]; exact Bool.false_ne_true)
  rw [trim, front, List.rdropWhile_eq_self_iff]
  intro nonempty shown
  rw [canonical.ends _ (List.getLast?_eq_some_getLast nonempty)] at shown
  cases shown

theorem Canonical.squeeze_eq (canonical : Canonical blank gap chars) :
    squeeze blank gap chars = chars :=
  canonical.toSpaced.squeezeFrom_eq fun _ => canonical.starts

theorem Canonical.take_append (canonical : Canonical blank gap chars) (keep : Nat) {tail : List α}
    (visible : ∀ ch ∈ tail, blank ch = false) (nonempty : tail ≠ []) :
    Canonical blank gap (chars.take keep ++ tail) := by
  have front := canonical.toSpaced.of_infix (List.take_prefix keep chars).isInfix
  have shown : ∀ ch ∈ tail, ¬blank ch = true := by
    intro ch member
    rw [visible ch member]
    exact Bool.false_ne_true
  refine ⟨⟨?_, List.isChain_append.mpr ⟨front.single, ?_, ?_⟩⟩, ?_, ?_⟩
  · intro ch member isBlank
    rcases List.mem_append.mp member with inside | after
    · exact front.gaps ch inside isBlank
    · exact absurd isBlank (shown ch after)
  · have apart : tail.Pairwise fun left right => ¬(blank left = true ∧ blank right = true) :=
      List.pairwise_of_forall_mem_list fun left member _ _ both => shown left member both.1
    exact apart.isChain
  · intro last _ first isFirst both
    exact shown first (List.mem_of_head? isFirst) both.2
  · intro ch first
    rw [List.head?_append] at first
    cases head : (chars.take keep).head? with
    | none =>
      rw [head, Option.none_or] at first
      exact visible ch (List.mem_of_head? first)
    | some item =>
      rw [head, Option.some_or] at first
      rw [← Option.some.inj first]
      exact canonical.starts item (head?_of_isPrefix (List.take_prefix keep chars) head)
  · intro ch last
    rw [List.getLast?_append_of_ne_nil _ nonempty] at last
    exact visible ch (List.mem_of_getLast? last)

end Trimmed

section Padded

variable {front back : List α}

theorem squeezeFrom_true_append (blanks : ∀ ch ∈ front, blank ch = true) (back : List α) :
    squeezeFrom blank gap true (front ++ back) = squeezeFrom blank gap true back := by
  induction front with
  | nil => rfl
  | cons first rest ih =>
    rw [List.cons_append, squeezeFrom, if_pos (blanks first List.mem_cons_self), if_pos rfl]
    exact ih fun ch member => blanks ch (List.mem_cons_of_mem _ member)

theorem squeezeFrom_append (blanks : ∀ ch ∈ back, blank ch = true) (afterBlank : Bool)
    (front : List α) :
    squeezeFrom blank gap afterBlank (front ++ back) = squeezeFrom blank gap afterBlank front ∨
      squeezeFrom blank gap afterBlank (front ++ back) =
        squeezeFrom blank gap afterBlank front ++ [gap] := by
  induction front generalizing afterBlank with
  | nil =>
    rw [List.nil_append]
    cases back with
    | nil => exact .inl rfl
    | cons first rest =>
      have isBlank := blanks first List.mem_cons_self
      have none := @squeezeFrom_true_append _ blank gap rest
        (fun ch member => blanks ch (List.mem_cons_of_mem _ member)) []
      rw [List.append_nil] at none
      have opened : squeezeFrom blank gap afterBlank (first :: rest) =
          if afterBlank then [] else [gap] := by
        rw [squeezeFrom.eq_2, if_pos isBlank, none]
        rfl
      rw [opened]
      cases afterBlank with
      | true => exact .inl rfl
      | false => exact .inr rfl
  | cons first rest ih =>
    rw [List.cons_append, squeezeFrom, squeezeFrom]
    by_cases isBlank : blank first = true
    · rw [if_pos isBlank, if_pos isBlank]
      cases afterBlank with
      | true => exact ih true
      | false =>
        rw [if_neg Bool.false_ne_true, if_neg Bool.false_ne_true]
        rcases ih true with same | longer
        · exact .inl (congrArg _ same)
        · exact .inr (congrArg _ longer)
    · rw [if_neg isBlank, if_neg isBlank]
      rcases ih false with same | longer
      · exact .inl (congrArg _ same)
      · exact .inr (congrArg _ longer)

theorem trim_squeeze_padded (isGap : blank gap = true) (frontBlank : ∀ ch ∈ front, blank ch = true)
    (backBlank : ∀ ch ∈ back, blank ch = true) :
    trim blank (squeeze blank gap (front ++ chars ++ back)) =
      trim blank (squeeze blank gap chars) := by
  rw [squeeze, squeeze, trim_squeezeFrom isGap, trim_squeezeFrom isGap, List.append_assoc,
    squeezeFrom_true_append frontBlank]
  rcases squeezeFrom_append backBlank true chars with same | longer
  · rw [same]
  · rw [longer, List.rdropWhile_concat_pos _ _ _ isGap]

theorem getLast_squeezeFrom (isGap : blank gap = true) {last : α} (isBlank : blank last = true)
    (front : List α) (afterBlank : Bool) :
    ∀ ch ∈ (squeezeFrom blank gap afterBlank (front ++ [last])).getLast?, blank ch = true := by
  induction front generalizing afterBlank with
  | nil =>
    rw [List.nil_append, squeezeFrom, if_pos isBlank]
    cases afterBlank with
    | true => simp [squeezeFrom]
    | false => simpa [squeezeFrom] using isGap
  | cons first rest ih =>
    rw [List.cons_append, squeezeFrom]
    by_cases firstBlank : blank first = true
    · rw [if_pos firstBlank]
      cases afterBlank with
      | true => exact ih true
      | false =>
        rw [if_neg Bool.false_ne_true]
        intro ch isLast
        rw [List.getLast?_cons] at isLast
        cases later : (squeezeFrom blank gap true (rest ++ [last])).getLast? with
        | none =>
          rw [later] at isLast
          rw [← Option.some.inj isLast]
          exact isGap
        | some item =>
          rw [later] at isLast
          rw [← Option.some.inj isLast]
          exact ih true item later
    · rw [if_neg firstBlank]
      have later : squeezeFrom blank gap false (rest ++ [last]) ≠ [] :=
        squeezeFrom_false_ne_nil (List.append_ne_nil_of_right_ne_nil _ (List.cons_ne_nil _ _))
      rw [List.getLast?_cons_of_ne_nil later]
      exact ih false

/-- With a blank on either side, a visible list is squeezed to its trimmed form between gaps. -/
theorem squeeze_padded (isGap : blank gap = true) {pad : α} (isBlank : blank pad = true)
    (visible : trim blank (squeeze blank gap chars) ≠ []) :
    squeeze blank gap (pad :: chars ++ [pad]) =
      gap :: trim blank (squeeze blank gap chars) ++ [gap] := by
  have pads : ∀ ch ∈ [pad], blank ch = true := by
    intro ch member
    rwa [List.mem_singleton.mp member]
  have core : (squeezeFrom blank gap true (chars ++ [pad])).rdropWhile blank =
      trim blank (squeeze blank gap chars) := by
    have padded := @trim_squeeze_padded _ blank gap chars [] [pad] isGap (by simp) pads
    rwa [List.nil_append, squeeze, trim_squeezeFrom isGap] at padded
  have ended := @getLast_squeezeFrom _ blank gap isGap _ isBlank chars true
  have opened : squeeze blank gap (pad :: chars ++ [pad]) =
      gap :: squeezeFrom blank gap true (chars ++ [pad]) := by
    rw [squeeze, List.cons_append, squeezeFrom, if_pos isBlank, if_neg Bool.false_ne_true]
  rw [opened, List.cons_append, ← core]
  refine congrArg _ ((spaced_squeezeFrom true (chars ++ [pad])).rdropWhile.resolve_left ?_)
  intro whole
  have nonempty : squeezeFrom blank gap true (chars ++ [pad]) ≠ [] := by
    rwa [← whole, core]
  exact List.rdropWhile_eq_self_iff.mp whole nonempty
    (ended _ (List.getLast?_eq_some_getLast nonempty))

end Padded

section Lengths

theorem length_trim_le (chars : List α) : (trim blank chars).length ≤ chars.length :=
  (trim_isInfix chars).length_le

def lead (blank : α → Bool) (chars : List α) : Nat := if chars.head?.any blank then 1 else 0

theorem lead_le_one (chars : List α) : lead blank chars ≤ 1 := by
  unfold lead
  split <;> omega

theorem Spaced.drop_lead (spaced : Spaced blank gap chars) :
    chars.dropWhile blank = chars.drop (lead blank chars) := by
  cases chars with
  | nil => rfl
  | cons first rest =>
    by_cases isBlank : blank first = true
    · have one : lead blank (first :: rest) = 1 := by simp [lead, isBlank]
      rcases spaced.dropWhile with same | dropped
      · rw [List.dropWhile_cons_of_pos isBlank] at same
        have shorter := (List.dropWhile_suffix (p := blank) (l := rest)).length_le
        rw [same, List.length_cons] at shorter
        omega
      · rw [one, List.drop_one]
        exact (congrArg List.tail dropped).symm
    · have zero : lead blank (first :: rest) = 0 := by simp [lead, isBlank]
      rw [zero, List.dropWhile_cons_of_neg isBlank, List.drop_zero]

theorem Spaced.take_trim (spaced : Spaced blank gap chars) {keep : Nat}
    (long : keep + 2 ≤ chars.length) :
    keep ≤ (trim blank chars).length ∧
      (trim blank chars).take keep = (chars.drop (lead blank chars)).take keep := by
  have dropped := spaced.drop_lead
  have one : lead blank chars ≤ 1 := lead_le_one chars
  have tail : Spaced blank gap (chars.dropWhile blank) :=
    spaced.of_infix (List.dropWhile_suffix _).isInfix
  have size : (chars.dropWhile blank).length = chars.length - lead blank chars := by
    rw [dropped, List.length_drop]
  rw [trim, ← dropped]
  rcases tail.rdropWhile with same | shorter
  · rw [same]
    exact ⟨by omega, rfl⟩
  · have total := congrArg List.length shorter
    rw [List.length_append, List.length_singleton] at total
    refine ⟨by omega, ?_⟩
    conv => rhs; rw [shorter]
    rw [List.take_append_of_le_length (by omega)]

theorem Spaced.take_trim_take (spaced : Spaced blank gap chars) {keep limit : Nat}
    (room : keep + 2 ≤ limit) (long : limit ≤ chars.length) :
    (trim blank (chars.take limit)).take keep = (trim blank chars).take keep := by
  have front : Spaced blank gap (chars.take limit) :=
    spaced.of_infix (List.take_prefix limit chars).isInfix
  have same : lead blank (chars.take limit) = lead blank chars := by
    have positive : limit ≠ 0 := by omega
    rw [lead, lead, List.head?_take, if_neg positive]
  have one : lead blank chars ≤ 1 := lead_le_one chars
  rw [(front.take_trim (by rw [List.length_take]; omega)).2, (spaced.take_trim (by omega)).2, same,
    List.drop_take, List.take_take, Nat.min_eq_left (by omega)]

end Lengths

end Squeeze
