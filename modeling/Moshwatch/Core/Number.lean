import Mathlib
import Moshwatch.General.Binary64

open Binary64

namespace Moshwatch

/-- An `f64`; every NaN is one. -/
inductive F64 where
  | nan
  | infinite (negative : Bool)
  | negativeZero
  | finite (value : ℚ) (double : IsDouble value)
  deriving DecidableEq

namespace F64

def isFinite : F64 → Bool
  | negativeZero | finite .. => true
  | nan | infinite _ => false

def number : F64 → ℚ
  | finite value _ => value
  | nan | infinite _ | negativeZero => 0

def partialCmp : F64 → F64 → Option Ordering
  | nan, _ | _, nan => none
  | infinite left, infinite right => some (compare right left)
  | infinite negative, _ => some (if negative then .lt else .gt)
  | _, infinite negative => some (if negative then .gt else .lt)
  | left, right => some (compare left.number right.number)

def ge (left right : F64) : Bool :=
  match partialCmp left right with
  | some .gt | some .eq => true
  | _ => false

def round (value : ℚ) : F64 :=
  if range : |rounded value| < limit then
    if rounded value = 0 ∧ value < 0 then negativeZero
    else finite (rounded value) (isDouble_rounded range)
  else infinite (decide (value < 0))

theorem isDouble_natCast {value : Nat} (small : value < 2 ^ 53) : IsDouble value := by
  exact_mod_cast @isDouble_intCast value (by rw [Nat.abs_cast]; exact_mod_cast small)

/-- The `as f64` cast of an unsigned number; a small one needs no rounding. -/
def ofNat (value : Nat) : F64 :=
  if small : value < 2 ^ 53 then finite value (isDouble_natCast small) else round value

/-- The `as f64` cast of a signed number. -/
def ofInt (value : Int) : F64 := round value

/-- `part as f64 * 100.0 / total as f64`. -/
def percentage (part total : Nat) : F64 :=
  round (rounded (rounded part * 100) / rounded total)

theorem partialCmp_of_isFinite {left right : F64} (leftFinite : left.isFinite = true)
    (rightFinite : right.isFinite = true) :
    left.partialCmp right = some (compare left.number right.number) := by
  cases left <;> cases right <;> first | rfl | cases leftFinite; done | cases rightFinite

theorem ge_iff {left right : F64} (leftFinite : left.isFinite = true)
    (rightFinite : right.isFinite = true) :
    left.ge right = true ↔ right.number ≤ left.number := by
  rw [ge, partialCmp_of_isFinite leftFinite rightFinite]
  rcases lt_trichotomy left.number right.number with less | same | more
  · simp [compare_lt_iff_lt.mpr less, less]
  · simp [same]
  · simp [compare_gt_iff_gt.mpr more, more.le]

theorem round_of_nonneg {value : ℚ} (nonneg : 0 ≤ value)
    (range : |rounded value| < limit) :
    round value = finite (rounded value) (isDouble_rounded range) := by
  rw [round, dif_pos range, if_neg (fun both => both.2.not_ge nonneg)]

theorem round_of_isDouble {value : ℚ} (double : IsDouble value) (nonneg : 0 ≤ value) :
    round value = finite value double := by
  have same := rounded_of_isDouble double
  have range : |rounded value| < limit := by
    rw [same]
    exact abs_lt_limit double
  rw [round_of_nonneg nonneg range]
  simp only [same]

theorem ofNat_eq_round (value : Nat) : ofNat value = round value := by
  by_cases small : value < 2 ^ 53
  · rw [ofNat, dif_pos small, round_of_isDouble (isDouble_natCast small) value.cast_nonneg]
  · rw [ofNat, dif_neg small]

section OfNat

variable {value : Nat} (small : value < 2 ^ 53)

include small

theorem ofNat_of_lt : ofNat value = finite value (isDouble_natCast small) := dif_pos small

theorem isFinite_ofNat : (ofNat value).isFinite = true := by
  rw [ofNat_of_lt small, isFinite]

theorem number_ofNat : (ofNat value).number = value := by
  rw [ofNat_of_lt small, number]

end OfNat

@[simp]
theorem isFinite_ofNat_zero : (ofNat 0).isFinite = true := isFinite_ofNat (by norm_num)

@[simp]
theorem number_ofNat_zero : (ofNat 0).number = 0 := by
  rw [number_ofNat (by norm_num), Nat.cast_zero]

theorem not_lt_of_infinite (value : F64) : (infinite false).partialCmp value ≠ some .lt := by
  cases value with
  | infinite negative => cases negative <;> decide
  | _ => simp [partialCmp]

theorem lt_of_partialCmp_ofNat {left right : Nat}
    (less : (ofNat left).partialCmp (ofNat right) = some .lt) : left < right := by
  by_contra order
  have nonneg : ∀ value : Nat, (0 : ℚ) ≤ value := fun value => value.cast_nonneg
  have mono : rounded right ≤ rounded left :=
    rounded_mono (nonneg right) (by exact_mod_cast not_lt.mp order)
  by_cases range : |rounded left| < limit
  · have range' : |rounded right| < limit := by
      rw [abs_of_nonneg (rounded_nonneg (nonneg _))] at range ⊢
      exact mono.trans_lt range
    rw [ofNat_eq_round, ofNat_eq_round, round_of_nonneg (nonneg left) range,
      round_of_nonneg (nonneg right) range',
      partialCmp_of_isFinite rfl rfl, Option.some.injEq, compare_lt_iff_lt] at less
    exact less.not_ge mono
  · have infinite : ofNat left = .infinite false := by
      rw [ofNat_eq_round, round, dif_neg range, decide_eq_false (nonneg left).not_gt]
    rw [infinite] at less
    exact not_lt_of_infinite _ less

section Percentage

variable {part total : Nat}

/-- The largest quotient: a whole that is rounded up twice. -/
theorem rounded_hundred : rounded (100 + 100 / 2 ^ 53) = 100 + 1 / 2 ^ 46 := by decide +kernel

theorem quotient_in_range : (100 + 1 / 2 ^ 46 : ℚ) < limit := by decide +kernel

theorem one_le_rounded (positive : total ≠ 0) : 1 ≤ rounded total := by
  have one := @rounded_natCast 1 (by norm_num)
  have mono : rounded (1 : Nat) ≤ rounded total :=
    rounded_mono (by simp) (by exact_mod_cast Nat.one_le_iff_ne_zero.mpr positive)
  rw [one] at mono
  exact_mod_cast mono

theorem quotient_nonneg : 0 ≤ rounded (rounded part * 100) / rounded total :=
  have cast : ∀ value : Nat, 0 ≤ rounded value := fun value => rounded_nonneg value.cast_nonneg
  div_nonneg (rounded_nonneg (mul_nonneg (cast part) (by norm_num))) (cast total)

/-- The product is rounded up by one part in `2 ^ 53` at most, and the quotient once more. -/
theorem rounded_quotient_le (part_le : part ≤ total) (positive : total ≠ 0) :
    rounded (rounded (rounded part * 100) / rounded total) ≤ 100 + 1 / 2 ^ 46 := by
  have one := one_le_rounded positive
  have casts : rounded part ≤ rounded total :=
    rounded_mono part.cast_nonneg (by exact_mod_cast part_le)
  have product : rounded (rounded part * 100) ≤ (100 + 100 / 2 ^ 53) * rounded total := by
    calc rounded (rounded part * 100)
        ≤ rounded (rounded total * 100) :=
          rounded_mono (mul_nonneg (rounded_nonneg part.cast_nonneg) (by norm_num)) (by linarith)
      _ ≤ rounded total * 100 + rounded total * 100 / 2 ^ 53 := rounded_le (by linarith)
      _ = (100 + 100 / 2 ^ 53) * rounded total := by ring
  rw [← rounded_hundred]
  exact rounded_mono quotient_nonneg ((div_le_iff₀ (by linarith)).mpr product)

theorem rounded_quotient_le_hundred (part_le : part ≤ total) (positive : total ≠ 0)
    (small : part * 100 ≤ 2 ^ 53) :
    rounded (rounded (rounded part * 100) / rounded total) ≤ 100 := by
  have one := one_le_rounded positive
  have casts : rounded part ≤ rounded total :=
    rounded_mono part.cast_nonneg (by exact_mod_cast part_le)
  have product : rounded (rounded part * 100) = rounded part * 100 := by
    rw [rounded_natCast (by omega)]
    simpa using rounded_natCast small
  have quotient : rounded (rounded part * 100) / rounded total ≤ (100 : Nat) := by
    rw [product, div_le_iff₀ (by linarith)]
    push_cast
    linarith
  have hundred := rounded_mono quotient_nonneg quotient
  rw [@rounded_natCast 100 (by norm_num)] at hundred
  exact_mod_cast hundred

theorem percentage_eq (part_le : part ≤ total) (positive : total ≠ 0) :
    ∃ double, percentage part total =
      finite (rounded (rounded (rounded part * 100) / rounded total)) double := by
  have range : |rounded (rounded (rounded part * 100) / rounded total)| < limit := by
    rw [abs_of_nonneg (rounded_nonneg quotient_nonneg)]
    exact (rounded_quotient_le part_le positive).trans_lt quotient_in_range
  refine ⟨isDouble_rounded range, ?_⟩
  rw [percentage]
  exact round_of_nonneg quotient_nonneg range

-- 16.666666666666668 in decimal
example : (percentage 5 30).number = 4691249611844267 / 2 ^ 48 := by decide +kernel

end Percentage

end F64

def u64Max : Nat := 2 ^ 64 - 1

def i64Min : Int := -2 ^ 63

def i64Max : Int := 2 ^ 63 - 1

/-- `u64::saturating_add`. -/
def satAdd (left right : Nat) : Nat := min (left + right) u64Max

/-- `u64::saturating_mul`. -/
def satMul (left right : Nat) : Nat := min (left * right) u64Max

/-- `i64::saturating_sub`. -/
def satSubI64 (left right : Int) : Int := max (-2 ^ 63) (min (left - right) (2 ^ 63 - 1))

def wrapMul (left right : Nat) : Nat := left * right % 2 ^ 64

/-- The `as i64` cast of a `u64`. -/
def asI64 (value : Nat) : Int := Int.bmod value (2 ^ 64)

theorem satAdd_satAdd (left middle right : Nat) :
    satAdd (satAdd left middle) right = satAdd left (middle + right) := by
  unfold satAdd
  omega

theorem satAdd_of_le {left right : Nat} (bound : left + right ≤ u64Max) :
    satAdd left right = left + right := Nat.min_eq_left bound

end Moshwatch
