import Mathlib

/-!
Binary64 numbers as the rationals they denote, and rounding to the nearest of them. The range is
left to the caller: `rounded` knows the least exponent, and no greatest one.
-/

namespace Binary64

/-- The nearest integer, and the even one of two equally near. -/
def nearest (value : ℚ) : ℤ :=
  if value - ⌊value⌋ < 1 / 2 then ⌊value⌋
  else if 1 / 2 < value - ⌊value⌋ then ⌊value⌋ + 1
  else if 2 ∣ ⌊value⌋ then ⌊value⌋
  else ⌊value⌋ + 1

theorem nearest_bounds (value : ℚ) :
    value - 1 / 2 ≤ nearest value ∧ (nearest value : ℚ) ≤ value + 1 / 2 := by
  have low := Int.floor_le value
  have high := Int.lt_floor_add_one value
  unfold nearest
  split_ifs <;> push_cast <;> constructor <;> linarith

@[simp]
theorem nearest_intCast (number : ℤ) : nearest number = number := by
  simp [nearest]

theorem nearest_mono {left right : ℚ} (order : left ≤ right) : nearest left ≤ nearest right := by
  by_contra apart
  have above : (nearest right : ℚ) + 1 ≤ nearest left := by
    exact_mod_cast Int.add_one_le_iff.mpr (not_le.mp apart)
  -- only a tie can be rounded both ways, and ties are rounded one way
  have same : left = right := by
    linarith [(nearest_bounds left).2, (nearest_bounds right).1]
  subst same
  exact apart le_rfl

theorem nearest_le {value : ℚ} {bound : ℤ} (below : value ≤ bound) : nearest value ≤ bound := by
  simpa using nearest_mono below

theorem le_nearest {value : ℚ} {bound : ℤ} (above : (bound : ℚ) ≤ value) :
    bound ≤ nearest value := by
  simpa using nearest_mono above

def IsDouble (value : ℚ) : Prop :=
  ∃ mantissa exponent : ℤ, |mantissa| < 2 ^ 53 ∧ -1074 ≤ exponent ∧ exponent ≤ 971 ∧
    value = mantissa * 2 ^ exponent

theorem isDouble_intCast {number : ℤ} (small : |number| < 2 ^ 53) : IsDouble number :=
  ⟨number, 0, small, by norm_num, by norm_num, by simp⟩

/-- The least power of two beyond the doubles. -/
def limit : ℚ := 2 ^ (1024 : ℤ)

theorem abs_lt_limit {value : ℚ} (double : IsDouble value) : |value| < limit := by
  obtain ⟨mantissa, exponent, small, -, most, rfl⟩ := double
  have positive : (0 : ℚ) < 2 ^ exponent := zpow_pos two_pos _
  have power : (2 : ℚ) ^ exponent ≤ 2 ^ (971 : ℤ) := zpow_le_zpow_right₀ one_le_two most
  have bits : |(mantissa : ℚ)| < 2 ^ (53 : ℤ) := by exact_mod_cast small
  have product : (2 : ℚ) ^ (53 : ℤ) * 2 ^ (971 : ℤ) = limit := by
    rw [← zpow_add₀ two_ne_zero, limit, show (53 : ℤ) + 971 = 1024 by norm_num]
  rw [abs_mul, abs_of_pos positive, ← product]
  exact mul_lt_mul bits power positive (zpow_nonneg two_pos.le _)

/-- The exponent of the last place of `value`. -/
def lastPlace (value : ℚ) : ℤ := max (Int.log 2 |value| - 52) (-1074)

def spacing (value : ℚ) : ℚ := 2 ^ lastPlace value

def rounded (value : ℚ) : ℚ := nearest (value / spacing value) * spacing value

theorem spacing_pos (value : ℚ) : 0 < spacing value := zpow_pos two_pos _

theorem pow_add_lastPlace (count : ℕ) (value : ℚ) :
    (2 : ℚ) ^ ((count : ℤ) + lastPlace value) = 2 ^ count * spacing value := by
  rw [zpow_add₀ two_ne_zero, zpow_natCast, spacing]

theorem abs_lt_spacing (value : ℚ) : |value| < 2 ^ 53 * spacing value := by
  have below := Int.lt_zpow_succ_log_self (b := 2) one_lt_two |value|
  have exponents : Int.log 2 |value| + 1 ≤ ((53 : ℕ) : ℤ) + lastPlace value := by
    unfold lastPlace
    omega
  rw [← pow_add_lastPlace]
  exact below.trans_le (zpow_le_zpow_right₀ one_le_two exponents)

/-- Above the smallest numbers, 53 bits are all used. -/
theorem spacing_le_abs {value : ℚ} (nonzero : value ≠ 0) (normal : -1022 ≤ Int.log 2 |value|) :
    2 ^ 52 * spacing value ≤ |value| := by
  have exponents : ((52 : ℕ) : ℤ) + lastPlace value = Int.log 2 |value| := by
    unfold lastPlace
    omega
  rw [← pow_add_lastPlace, exponents]
  exact Int.zpow_log_le_self one_lt_two (abs_pos.mpr nonzero)

theorem log_of_lastPlace {value : ℚ} (normal : -1074 < lastPlace value) :
    -1022 ≤ Int.log 2 |value| := by
  unfold lastPlace at normal
  omega

section Rounded

theorem abs_rounded_sub_le (value : ℚ) : |rounded value - value| ≤ spacing value / 2 := by
  have positive := spacing_pos value
  have whole : value / spacing value * spacing value = value := div_mul_cancel₀ _ positive.ne'
  obtain ⟨low, high⟩ := nearest_bounds (value / spacing value)
  have lower := mul_le_mul_of_nonneg_right low positive.le
  have upper := mul_le_mul_of_nonneg_right high positive.le
  rw [sub_mul, whole] at lower
  rw [add_mul, whole] at upper
  rw [rounded, abs_le]
  constructor <;> linarith

theorem rounded_le_of_multiple {value : ℚ} {count : ℤ} (below : value ≤ count * spacing value) :
    rounded value ≤ count * spacing value := by
  have positive := spacing_pos value
  have integer := nearest_le ((div_le_iff₀ positive).mpr below)
  exact mul_le_mul_of_nonneg_right (by exact_mod_cast integer) positive.le

theorem le_rounded_of_multiple {value : ℚ} {count : ℤ} (above : count * spacing value ≤ value) :
    count * spacing value ≤ rounded value := by
  have positive := spacing_pos value
  have integer := le_nearest ((le_div_iff₀ positive).mpr above)
  exact mul_le_mul_of_nonneg_right (by exact_mod_cast integer) positive.le

theorem rounded_of_multiple {value : ℚ} {count : ℤ} (multiple : value = count * spacing value) :
    rounded value = value := by
  have quotient : value / spacing value = count :=
    (div_eq_iff (spacing_pos value).ne').mpr multiple
  rw [rounded, quotient, nearest_intCast]
  exact multiple.symm

@[simp]
theorem rounded_zero : rounded 0 = 0 := @rounded_of_multiple 0 0 (by simp)

theorem lastPlace_le {value : ℚ} {exponent : ℤ} (nonzero : value ≠ 0)
    (small : |value| < 2 ^ (53 + exponent)) (least : -1074 ≤ exponent) :
    lastPlace value ≤ exponent := by
  have log := (Int.lt_zpow_iff_log_lt one_lt_two (abs_pos.mpr nonzero)).mp (by exact_mod_cast small)
  unfold lastPlace
  omega

theorem rounded_of_mantissa {mantissa exponent : ℤ} (small : |mantissa| < 2 ^ 53)
    (least : -1074 ≤ exponent) :
    rounded (mantissa * 2 ^ exponent) = mantissa * 2 ^ exponent := by
  by_cases zero : mantissa = 0
  · simp [zero]
  have positive : (0 : ℚ) < 2 ^ exponent := zpow_pos two_pos _
  have nonzero : (mantissa : ℚ) * 2 ^ exponent ≠ 0 :=
    mul_ne_zero (Int.cast_ne_zero.mpr zero) positive.ne'
  have size : |(mantissa : ℚ) * 2 ^ exponent| < 2 ^ (53 + exponent) := by
    rw [abs_mul, abs_of_pos positive, zpow_add₀ two_ne_zero]
    exact mul_lt_mul_of_pos_right (by exact_mod_cast small) positive
  have places := lastPlace_le nonzero size least
  obtain ⟨shift, shifted⟩ := Int.eq_ofNat_of_zero_le (sub_nonneg.mpr places)
  have split : exponent = shift + lastPlace (mantissa * 2 ^ exponent) := by omega
  have scaled : (2 : ℚ) ^ exponent = 2 ^ shift * spacing (mantissa * 2 ^ exponent) := by
    rw [← pow_add_lastPlace, ← split]
  apply @rounded_of_multiple _ (mantissa * 2 ^ shift)
  push_cast
  rw [mul_assoc, ← scaled]

theorem rounded_of_isDouble {value : ℚ} (double : IsDouble value) : rounded value = value := by
  obtain ⟨mantissa, exponent, small, least, -, rfl⟩ := double
  exact rounded_of_mantissa small least

theorem rounded_intCast {number : ℤ} (small : |number| ≤ 2 ^ 53) :
    rounded number = number := by
  rcases small.lt_or_eq with strict | edge
  · exact rounded_of_isDouble (isDouble_intCast strict)
  -- the bound itself is a power of two
  have power : ∀ sign : ℤ, |sign| < 2 ^ 53 →
      rounded (sign * 2 ^ (53 : ℤ)) = sign * 2 ^ (53 : ℤ) :=
    fun sign unit => rounded_of_mantissa unit (by norm_num)
  rcases eq_or_eq_neg_of_abs_eq edge with rfl | rfl
  · have := power 1 (by norm_num)
    norm_num at this ⊢
    exact this
  · have := power (-1) (by norm_num)
    norm_num at this ⊢
    exact this

theorem rounded_natCast {number : ℕ} (small : number ≤ 2 ^ 53) :
    rounded number = number := by
  have integer : |(number : ℤ)| ≤ 2 ^ 53 := by
    rw [Nat.abs_cast]
    exact_mod_cast small
  exact_mod_cast rounded_intCast integer

theorem abs_rounded (value : ℚ) :
    |rounded value| = |nearest (value / spacing value)| * spacing value := by
  rw [rounded, abs_mul, abs_of_pos (spacing_pos value), Int.cast_abs]

theorem mantissa_le (value : ℚ) : |nearest (value / spacing value)| ≤ 2 ^ 53 := by
  have positive := spacing_pos value
  have scaled : |value / spacing value| < 2 ^ 53 := by
    rw [abs_div, abs_of_pos positive]
    exact (div_lt_iff₀ positive).mpr (abs_lt_spacing value)
  obtain ⟨low, high⟩ := abs_le.mp scaled.le
  rw [abs_le]
  exact ⟨le_nearest (by exact_mod_cast low), nearest_le (by exact_mod_cast high)⟩

theorem le_mantissa {value : ℚ} (nonzero : value ≠ 0) (normal : -1022 ≤ Int.log 2 |value|) :
    2 ^ 52 ≤ |nearest (value / spacing value)| := by
  have positive := spacing_pos value
  have used := spacing_le_abs nonzero normal
  rw [le_abs]
  rcases le_total 0 value with nonneg | negative
  · left
    apply le_nearest
    rw [abs_of_nonneg nonneg] at used
    exact (le_div_iff₀ positive).mpr (by exact_mod_cast used)
  · right
    rw [le_neg]
    apply nearest_le
    rw [abs_of_nonpos negative] at used
    rw [div_le_iff₀ positive]
    push_cast
    linarith

theorem isDouble_rounded {value : ℚ} (range : |rounded value| < limit) :
    IsDouble (rounded value) := by
  have lowest : -1074 ≤ lastPlace value := le_max_right _ _
  have fits : ∀ count : ℕ, (2 : ℤ) ^ count ≤ |nearest (value / spacing value)| →
      count + lastPlace value < 1024 := by
    intro count large
    have power : (2 : ℚ) ^ ((count : ℤ) + lastPlace value) < 2 ^ (1024 : ℤ) := by
      rw [pow_add_lastPlace]
      apply lt_of_le_of_lt _ range
      rw [abs_rounded]
      exact mul_le_mul_of_nonneg_right (by exact_mod_cast large) (spacing_pos value).le
    exact (zpow_lt_zpow_iff_right₀ one_lt_two).mp power
  rcases (mantissa_le value).lt_or_eq with strict | edge
  · refine ⟨nearest (value / spacing value), lastPlace value, strict, lowest, ?_, rfl⟩
    by_contra beyond
    have nonzero : value ≠ 0 := by
      rintro rfl
      simp [lastPlace] at beyond
    have := fits 52 (le_mantissa nonzero (log_of_lastPlace (by omega)))
    omega
  · -- the mantissa carried over: half of it, one place up
    have place := fits 53 edge.ge
    have doubled : (2 : ℚ) ^ (lastPlace value + 1) = 2 * spacing value := by
      rw [zpow_add₀ two_ne_zero, zpow_one, mul_comm, spacing]
    rcases eq_or_eq_neg_of_abs_eq edge with whole | whole
    · refine ⟨2 ^ 52, lastPlace value + 1, by norm_num, by omega, by omega, ?_⟩
      rw [rounded, whole, doubled]
      push_cast
      ring
    · refine ⟨-2 ^ 52, lastPlace value + 1, by norm_num, by omega, by omega, ?_⟩
      rw [rounded, whole, doubled]
      push_cast
      ring

/-- Where the last places of two values differ, a power of two stands between them. -/
theorem rounded_mono {left right : ℚ} (nonneg : 0 ≤ left) (order : left ≤ right) :
    rounded left ≤ rounded right := by
  rcases nonneg.eq_or_lt with rfl | positive
  · rw [rounded_zero]
    have := @le_rounded_of_multiple right 0 (by simpa using order)
    simpa using this
  have positive' := positive.trans_le order
  have places : lastPlace left ≤ lastPlace right := by
    have logs := Int.log_mono_right (b := 2) positive order
    unfold lastPlace
    rw [abs_of_pos positive, abs_of_pos positive']
    omega
  rcases places.eq_or_lt with same | fewer
  · have spacings : spacing left = spacing right := by rw [spacing, same, spacing]
    have quotients : left / spacing left ≤ right / spacing right := by
      rw [spacings]
      exact div_le_div_of_nonneg_right order (spacing_pos right).le
    have mantissas : (nearest (left / spacing left) : ℚ) ≤ nearest (right / spacing right) := by
      exact_mod_cast nearest_mono quotients
    rw [rounded, rounded, spacings]
    rw [spacings] at mantissas
    exact mul_le_mul_of_nonneg_right mantissas (spacing_pos right).le
  · have full := spacing_le_abs positive'.ne' (log_of_lastPlace (by unfold lastPlace at *; omega))
    rw [abs_of_pos positive'] at full
    have below : rounded left ≤ 2 ^ 53 * spacing left := by
      have size := (abs_lt_spacing left).le
      rw [abs_of_pos positive] at size
      have := @rounded_le_of_multiple left ((2 : ℤ) ^ (53 : ℕ)) (by push_cast; exact size)
      push_cast at this
      exact this
    have above : 2 ^ 52 * spacing right ≤ rounded right := by
      have := @le_rounded_of_multiple right ((2 : ℤ) ^ (52 : ℕ)) (by push_cast; exact full)
      push_cast at this
      exact this
    have powers : (2 : ℚ) ^ 53 * spacing left ≤ 2 ^ 52 * spacing right := by
      rw [← pow_add_lastPlace, ← pow_add_lastPlace]
      apply zpow_le_zpow_right₀ one_le_two
      push_cast
      omega
    exact below.trans (powers.trans above)

theorem rounded_nonneg {value : ℚ} (nonneg : 0 ≤ value) : 0 ≤ rounded value := by
  simpa using rounded_mono le_rfl nonneg

theorem rounded_le {value : ℚ} (normal : 1 ≤ value) : rounded value ≤ value + value / 2 ^ 53 := by
  have positive : 0 < value := by linarith
  have log : 0 ≤ Int.log 2 |value| := by
    rw [abs_of_pos positive]
    simpa using Int.log_mono_right (b := 2) one_pos normal
  have used := spacing_le_abs positive.ne' (by omega)
  rw [abs_of_pos positive] at used
  have near := (abs_le.mp (abs_rounded_sub_le value)).2
  have half : spacing value / 2 ≤ value / 2 ^ 53 := by
    rw [le_div_iff₀ (by norm_num)]
    linarith
  linarith

end Rounded

end Binary64
