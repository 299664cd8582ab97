import Moshwatch.General.Framing

namespace Framing

variable {α β : Type*} (sep : α) (text : β → List α)

/-- Items written one after the other, each with the separator behind it. -/
def joined (items : List β) : List α := items.flatMap fun item => text item ++ [sep]

/-- What has come through of the items that were written, of which the last may be cut short. -/
inductive Carries : List β → List α → Prop where
  | whole (items : List β) : Carries items (joined sep text items)
  | torn (items : List β) (last : β) (part : List α) (within : part <+: text last) :
      Carries (items ++ [last]) (joined sep text items ++ part)

variable {sep text} {items : List β} {bytes part : List α}

theorem joined_cons (item : β) (items : List β) :
    joined sep text (item :: items) = text item ++ [sep] ++ joined sep text items := rfl

theorem joined_concat (items : List β) (item : β) :
    joined sep text (items ++ [item]) = joined sep text items ++ (text item ++ [sep]) := by
  rw [joined, List.flatMap_append, List.flatMap_singleton]
  rfl

theorem Carries.cons (carries : Carries sep text items bytes) (item : β) :
    Carries sep text (item :: items) (text item ++ [sep] ++ bytes) := by
  cases carries with
  | whole => exact .whole (item :: items)
  | torn items last part within =>
    rw [← List.append_assoc, ← joined_cons, ← List.cons_append]
    exact .torn (item :: items) last part within

theorem exists_of_prefix {tail : List α} (within : bytes <+: joined sep text items ++ tail) :
    (∃ used, used <+: items ∧ Carries sep text used bytes) ∨
      ∃ rest, rest <+: tail ∧ bytes = joined sep text items ++ rest := by
  induction items generalizing bytes with
  | nil => exact .inr ⟨bytes, within, rfl⟩
  | cons item items ih =>
    rw [joined_cons, List.append_assoc] at within
    rcases List.prefix_or_prefix_of_prefix within (List.prefix_append _ _) with inFirst | ⟨rest, rfl⟩
    · left
      refine ⟨[item], List.cons_prefix_cons.mpr ⟨rfl, List.nil_prefix⟩, ?_⟩
      rcases List.prefix_concat_iff.mp inFirst with rfl | cut
      · have whole := (@Carries.whole α β sep text []).cons item
        rwa [joined, List.flatMap_nil, List.append_nil] at whole
      · exact .torn [] item bytes cut
    · rcases ih ((List.prefix_append_right_inj _).mp within) with ⟨used, front, carried⟩ | ⟨rest, front, rfl⟩
      · exact .inl ⟨item :: used, List.cons_prefix_cons.mpr ⟨rfl, front⟩, carried.cons item⟩
      · right
        refine ⟨rest, front, ?_⟩
        rw [joined_cons]
        simp only [List.append_assoc]

theorem Carries.of_prefix (carries : Carries sep text items bytes) (within : part <+: bytes) :
    ∃ used, used <+: items ∧ Carries sep text used part := by
  cases carries with
  | whole =>
    rw [← List.append_nil (joined sep text items)] at within
    rcases exists_of_prefix within with found | ⟨rest, front, rfl⟩
    · exact found
    · rw [List.prefix_nil.mp front, List.append_nil]
      exact ⟨items, List.prefix_refl _, .whole items⟩
  | torn items last cut inner =>
    rcases exists_of_prefix within with ⟨used, front, carried⟩ | ⟨rest, front, rfl⟩
    · exact ⟨used, front.trans (List.prefix_append _ _), carried⟩
    · exact ⟨_, List.prefix_refl _, .torn items last rest (front.trans inner)⟩

variable [DecidableEq α]

theorem lines_joined (unbroken : ∀ item, sep ∉ text item) (items : List β) :
    lines sep (joined sep text items) = items.map fun item => text item ++ [sep] := by
  have read := @lines_flatMap α _ sep (items.map text) (by simp [unbroken])
  rwa [List.flatMap_map, List.map_map] at read

/-- A line of a stream that carries an item: all of it, or a part that is left at its end. -/
def IsLineOf (sep : α) (item line : List α) : Prop :=
  line = item ++ [sep] ∨ line ≠ [] ∧ line <+: item

/-- The lines of a stream are those of the items that it carries. -/
theorem Carries.lines (unbroken : ∀ item, sep ∉ text item) (carries : Carries sep text items bytes) :
    ∃ read, read <+: items ∧
      List.Forall₂ (fun item line => IsLineOf sep (text item) line) read (lines sep bytes) := by
  have complete : ∀ items : List β, List.Forall₂ (fun item line => IsLineOf sep (text item) line)
      items (Framing.lines sep (joined sep text items)) := by
    intro items
    rw [lines_joined unbroken, List.forall₂_map_right_iff, List.forall₂_same]
    exact fun item _ => .inl rfl
  cases carries with
  | whole => exact ⟨items, List.prefix_refl _, complete items⟩
  | torn items last part within =>
    by_cases empty : part = []
    · subst empty
      rw [List.append_nil]
      exact ⟨items, List.prefix_append _ _, complete items⟩
    · refine ⟨items ++ [last], List.prefix_refl _, ?_⟩
      have absent : sep ∉ part := fun member => unbroken last (within.subset member)
      have ended : joined sep text items = [] ∨ ∃ body, joined sep text items = body ++ [sep] := by
        rcases List.eq_nil_or_concat items with rfl | ⟨front, item, rfl⟩
        · exact .inl rfl
        · right
          rw [List.concat_eq_append, joined_concat, ← List.append_assoc]
          exact ⟨_, rfl⟩
      rw [lines_append ended, lines_of_not_mem absent empty]
      exact List.rel_append (complete items) (.cons (.inr ⟨empty, within⟩) .nil)

end Framing
