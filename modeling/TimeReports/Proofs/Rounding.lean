import TimeReports.Proofs.Doubles

set_option autoImplicit false

namespace TimeReports.Number

open Float.Model (UnpackedFloat Format totalExponent)
open Float.Model.UnpackedFloat

section Residues

variable {extended : ExtendedMantissa} {x : ℚ}

/-- Whether a significand with its residual bits stands for a number: the bits tell where in the
unit above the significand the number lies. -/
def Represents (extended : ExtendedMantissa) (x : ℚ) : Prop :=
  match extended with
  | ⟨mantissa, false, false⟩ => x = mantissa
  | ⟨mantissa, false, true⟩ => mantissa < x ∧ x < mantissa + 1 / 2
  | ⟨mantissa, true, false⟩ => x = mantissa + 1 / 2
  | ⟨mantissa, true, true⟩ => mantissa + 1 / 2 < x ∧ x < mantissa + 1

theorem Represents.bounds (represents : Represents extended x) :
    extended.mantissa ≤ x ∧ x < extended.mantissa + 1 := by
  obtain ⟨mantissa, roundBit, stickyBit⟩ := extended
  cases roundBit <;> cases stickyBit <;> simp only [Represents] at represents ⊢ <;>
    constructor <;> linarith

/-- A digit that is cut off is kept in the bits. -/
theorem Represents.shiftRightOne (represents : Represents extended x) :
    Represents extended.shiftRightOne (x / 2) := by
  obtain ⟨mantissa, roundBit, stickyBit⟩ := extended
  obtain ⟨half, rfl | rfl⟩ : ∃ half, mantissa = 2 * half ∨ mantissa = 2 * half + 1 :=
    ⟨mantissa / 2, by omega⟩
  · have shifted : ExtendedMantissa.shiftRightOne ⟨2 * half, roundBit, stickyBit⟩ =
        ⟨half, false, roundBit || stickyBit⟩ := by
      simp [ExtendedMantissa.shiftRightOne]
    rw [shifted]
    cases roundBit <;> cases stickyBit <;>
      simp only [Represents, Bool.or_false, Bool.or_true, Nat.cast_mul, Nat.cast_ofNat]
        at represents ⊢
    · linarith
    · constructor <;> linarith
    · constructor <;> linarith
    · constructor <;> linarith
  · have shifted : ExtendedMantissa.shiftRightOne ⟨2 * half + 1, roundBit, stickyBit⟩ =
        ⟨half, true, roundBit || stickyBit⟩ := by
      simp only [ExtendedMantissa.shiftRightOne, ExtendedMantissa.mk.injEq, bne_iff_ne, ne_eq,
        and_true]
      omega
    rw [shifted]
    cases roundBit <;> cases stickyBit <;>
      simp only [Represents, Bool.or_false, Bool.or_true, Nat.cast_mul, Nat.cast_ofNat,
        Nat.cast_add, Nat.cast_one] at represents ⊢
    · linarith
    · constructor <;> linarith
    · constructor <;> linarith
    · constructor <;> linarith

theorem Represents.shiftRight (represents : Represents extended x) (digits : ℕ) :
    Represents (extended >>> digits) (x / 2 ^ digits) := by
  change Represents (digits.repeat ExtendedMantissa.shiftRightOne extended) _
  induction digits with
  | zero => simpa [Nat.repeat] using represents
  | succ digits ih =>
    rw [pow_succ, ← div_div]
    exact ih.shiftRightOne

/-- The rounded significand is no further away than half a unit. -/
theorem Represents.rounded (represents : Represents extended x) :
    |x - extended.roundedMantissa| ≤ 1 / 2 := by
  obtain ⟨mantissa, roundBit, stickyBit⟩ := extended
  rw [abs_le]
  cases roundBit <;> cases stickyBit <;>
    simp only [Represents, ExtendedMantissa.roundedMantissa, ExtendedMantissa.accuracy,
      Accuracy.roundToNearestEven] at represents ⊢
  · constructor <;> linarith
  · constructor <;> linarith
  · have parity : ((mantissa % 2 : ℕ) : ℚ) = 0 ∨ ((mantissa % 2 : ℕ) : ℚ) = 1 := by
      rcases Nat.mod_two_eq_zero_or_one mantissa with even | odd
      · exact .inl (by rw [even, Nat.cast_zero])
      · exact .inr (by rw [odd, Nat.cast_one])
    push_cast at parity ⊢
    rcases parity with even | odd
    · rw [even]
      constructor <;> linarith
    · rw [odd]
      constructor <;> linarith
  · push_cast
    constructor <;> linarith

theorem represents_exact (mantissa : ℕ) :
    Represents (ExtendedMantissa.ofMantissaAndAccuracy mantissa .exact) mantissa :=
  rfl

/-- The whole part of a fraction with the place of the rest. -/
theorem represents_fraction (numerator : ℕ) {denominator : ℕ} (positive : 0 < denominator) :
    Represents (ExtendedMantissa.ofMantissaAndAccuracy (numerator / denominator)
      (accuracyOfFraction (numerator % denominator) denominator))
      (numerator / denominator : ℚ) := by
  have whole : (numerator : ℚ) =
      denominator * (numerator / denominator : ℕ) + (numerator % denominator : ℕ) := by
    exact_mod_cast (Nat.div_add_mod numerator denominator).symm
  have less := Nat.mod_lt numerator positive
  generalize numerator / denominator = quotient at whole ⊢
  generalize numerator % denominator = rest at whole less ⊢
  have denominator_pos : (0 : ℚ) < denominator := by exact_mod_cast positive
  have value : (numerator : ℚ) / denominator = quotient + rest / denominator := by
    rw [whole]
    field_simp
  rw [value]
  unfold accuracyOfFraction
  split
  · next none =>
    rw [none]
    simp [ExtendedMantissa.ofMantissaAndAccuracy, Represents]
  · next some =>
    have rest_pos : (0 : ℚ) < rest := by exact_mod_cast Nat.pos_of_ne_zero some
    have part_pos : (0 : ℚ) < rest / denominator := div_pos rest_pos denominator_pos
    have part_lt : (rest : ℚ) / denominator < 1 := by
      rw [div_lt_one denominator_pos]
      exact_mod_cast less
    rcases lt_trichotomy (2 * rest) denominator with below | half | above
    · have ordering : compare (2 * rest) denominator = .lt := Nat.compare_eq_lt.mpr below
      have small : (rest : ℚ) / denominator < 1 / 2 := by
        rw [div_lt_div_iff₀ denominator_pos two_pos]
        exact_mod_cast (by omega : rest * 2 < 1 * denominator)
      rw [ordering]
      simp only [ExtendedMantissa.ofMantissaAndAccuracy, Represents]
      constructor <;> linarith
    · have ordering : compare (2 * rest) denominator = .eq := Nat.compare_eq_eq.mpr half
      have middle : (rest : ℚ) / denominator = 1 / 2 := by
        rw [div_eq_div_iff denominator_pos.ne' two_ne_zero]
        exact_mod_cast (by omega : rest * 2 = 1 * denominator)
      rw [ordering]
      simp only [ExtendedMantissa.ofMantissaAndAccuracy, Represents]
      linarith
    · have ordering : compare (2 * rest) denominator = .gt := Nat.compare_eq_gt.mpr above
      have large : 1 / 2 < (rest : ℚ) / denominator := by
        rw [div_lt_div_iff₀ two_pos denominator_pos]
        exact_mod_cast (by omega : 1 * denominator < rest * 2)
      rw [ordering]
      simp only [ExtendedMantissa.ofMantissaAndAccuracy, Represents]
      constructor <;> linarith

end Residues

section Nearest

variable {x y v w g : ℚ} {mantissa digits : ℕ} {exponent place : ℤ}

/-- Whether a significand and an exponent are those of a double, but for numbers that are too large:
all 53 digits are used, or no digit stands below the least place. -/
structure Normalized (mantissa : ℕ) (exponent : ℤ) : Prop where
  below : mantissa < 2 ^ 53
  least : -1074 ≤ exponent
  full : 2 ^ 52 ≤ mantissa ∨ exponent = -1074

theorem Normalized.lt_two_zpow (normalized : Normalized mantissa exponent) :
    (mantissa : ℚ) * 2 ^ exponent < 2 ^ (exponent + 53) := by
  rw [zpow_add₀ two_ne_zero, mul_comm]
  refine mul_lt_mul_of_pos_left ?_ (by positivity)
  exact_mod_cast normalized.below

def IsDouble (v : ℚ) : Prop :=
  ∃ mantissa exponent, Normalized mantissa exponent ∧ v = mantissa * 2 ^ exponent

theorem isDouble_zero : IsDouble 0 :=
  ⟨0, -1074, ⟨by norm_num, le_rfl, .inr rfl⟩, by simp⟩

/-- Whole numbers of up to 53 digits are of double precision. -/
theorem isDouble_natCast (small : mantissa < 2 ^ 53) : IsDouble mantissa := by
  rcases Nat.eq_zero_or_pos mantissa with rfl | positive
  · exact_mod_cast isDouble_zero
  · have first : 2 ^ mantissa.log2 ≤ mantissa := Nat.log2_self_le positive.ne'
    have last : mantissa < 2 ^ (mantissa.log2 + 1) := Nat.lt_log2_self
    have length : mantissa.log2 ≤ 52 := Nat.lt_succ_iff.mp ((Nat.log2_lt positive.ne').mpr small)
    obtain ⟨rest, split⟩ := Nat.exists_eq_add_of_le length
    refine ⟨mantissa * 2 ^ rest, -rest, ⟨?_, by omega, .inl ?_⟩, ?_⟩
    · calc mantissa * 2 ^ rest < 2 ^ (mantissa.log2 + 1) * 2 ^ rest :=
            Nat.mul_lt_mul_of_pos_right last (by positivity)
        _ = 2 ^ 53 := by
            rw [← pow_add]
            congr 1
            omega
    · calc 2 ^ 52 = 2 ^ mantissa.log2 * 2 ^ rest := by rw [← pow_add, ← split]
        _ ≤ mantissa * 2 ^ rest := Nat.mul_le_mul_right _ first
    · rw [Nat.cast_mul, Nat.cast_pow, Nat.cast_ofNat, zpow_neg, zpow_natCast, mul_assoc,
        mul_inv_cancel₀ (by positivity), mul_one]

/-- Whether no number of double precision is nearer to a number than one of them. -/
structure Nearest (x v : ℚ) : Prop where
  isDouble : IsDouble v
  nearer : ∀ g, IsDouble g → |x - v| ≤ |x - g|

/-- A number of double precision is the nearest to itself. -/
theorem IsDouble.nearest (double : IsDouble x) : Nearest x x where
  isDouble := double
  nearer := fun g _ => by
    rw [sub_self, abs_zero]
    exact abs_nonneg _

theorem Nearest.le (nearest : Nearest x v) (double : IsDouble g) (above : x ≤ g) : v ≤ g := by
  by_contra beyond
  have nearer := nearest.nearer g double
  rw [abs_of_nonpos (by linarith), abs_of_nonpos (by linarith)] at nearer
  linarith

theorem Nearest.ge (nearest : Nearest x v) (double : IsDouble g) (below : g ≤ x) : g ≤ v := by
  by_contra beyond
  have nearer := nearest.nearer g double
  rw [abs_of_nonneg (by linarith), abs_of_nonneg (by linarith)] at nearer
  linarith

theorem Nearest.eq_of_isDouble (nearest : Nearest x v) (double : IsDouble x) : v = x :=
  le_antisymm (nearest.le double le_rfl) (nearest.ge double le_rfl)

/-- What is no further from the greater of two numbers is not below their middle. -/
theorem add_le_of_nearer (less : w < v) (nearer : |x - v| ≤ |x - w|) : w + v ≤ 2 * x := by
  have squares := sq_le_sq.mpr nearer
  nlinarith

theorem le_add_of_nearer (less : w < v) (nearer : |x - w| ≤ |x - v|) : 2 * x ≤ w + v := by
  have squares := sq_le_sq.mpr nearer
  nlinarith

/-- Rounding keeps the order. -/
theorem Nearest.mono (nearest : Nearest x v) (nearest' : Nearest y w) (less : x < y) : v ≤ w := by
  by_contra beyond
  have below := add_le_of_nearer (not_le.mp beyond) (nearest.nearer w nearest'.isDouble)
  have above := le_add_of_nearer (not_le.mp beyond) (nearest'.nearer v nearest.isDouble)
  linarith

/-- A whole number that is within a half is the nearest one. -/
theorem abs_sub_le_of_close {whole : ℕ} (close : |x - whole| ≤ 1 / 2) (other : ℕ) :
    |x - whole| ≤ |x - other| := by
  rcases eq_or_ne whole other with rfl | differ
  · exact le_rfl
  · have apart : (1 : ℚ) ≤ |(whole : ℚ) - other| := by
      have apart : 1 ≤ |(whole : ℤ) - other| := Int.one_le_abs (by omega)
      exact_mod_cast apart
    have split := abs_sub_le (whole : ℚ) x other
    rw [abs_sub_comm (whole : ℚ) x] at split
    linarith

/-- A number whose first digit stands 52 places above the last place has 53 digits in that place, or
it is carried to the first number of 54. -/
theorem digits_of_place (full : place ≠ -1074 → (2 : ℚ) ^ (place + 52) ≤ x)
    (below : x < 2 ^ (place + 53)) (close : |x / 2 ^ place - digits| ≤ 1 / 2) :
    digits ≤ 2 ^ 53 ∧ (place ≠ -1074 → 2 ^ 52 ≤ digits) := by
  have unit_pos : (0 : ℚ) < 2 ^ place := by positivity
  obtain ⟨lower, upper⟩ := abs_le.mp close
  constructor
  · have top : x / 2 ^ place < 2 ^ 53 := by
      rw [div_lt_iff₀ unit_pos, ← zpow_natCast, ← zpow_add₀ two_ne_zero, add_comm]
      exact below
    have few : (digits : ℚ) < 2 ^ 53 + 1 := by linarith
    exact Nat.lt_succ_iff.mp (by exact_mod_cast few)
  · intro above
    have bottom : (2 : ℚ) ^ 52 ≤ x / 2 ^ place := by
      rw [le_div_iff₀ unit_pos, ← zpow_natCast, ← zpow_add₀ two_ne_zero, add_comm]
      exact full above
    have many : (2 : ℚ) ^ 52 < digits + 1 := by linarith
    exact Nat.lt_succ_iff.mp (by exact_mod_cast many)

theorem isDouble_of_digits (least : -1074 ≤ place) (few : digits ≤ 2 ^ 53)
    (many : place ≠ -1074 → 2 ^ 52 ≤ digits) : IsDouble (digits * 2 ^ place) := by
  rcases Nat.lt_or_eq_of_le few with small | carry
  · exact ⟨digits, place, ⟨small, least, (eq_or_ne place (-1074)).symm.imp_left many⟩, rfl⟩
  · refine ⟨2 ^ 52, place + 1, ⟨by norm_num, by omega, .inl le_rfl⟩, ?_⟩
    rw [carry, zpow_add₀ two_ne_zero]
    push_cast
    ring

/-- A multiple of the last place that is no further away than half of it is the nearest number, when
the number has its first digit 52 places above. -/
theorem nearest_of_place (least : -1074 ≤ place)
    (full : place ≠ -1074 → (2 : ℚ) ^ (place + 52) ≤ x) (below : x < 2 ^ (place + 53))
    (close : |x / 2 ^ place - digits| ≤ 1 / 2) : Nearest x (digits * 2 ^ place) := by
  have unit_pos : (0 : ℚ) < 2 ^ place := by positivity
  have scaled : x = x / 2 ^ place * 2 ^ place := (div_mul_cancel₀ x unit_pos.ne').symm
  have multiple (other : ℕ) : |x - digits * 2 ^ place| ≤ |x - other * 2 ^ place| := by
    rw [scaled, ← sub_mul, ← sub_mul, abs_mul, abs_mul]
    exact mul_le_mul_of_nonneg_right (abs_sub_le_of_close close other) (abs_nonneg _)
  obtain ⟨few, many⟩ := digits_of_place full below close
  refine ⟨isDouble_of_digits least few many, ?_⟩
  rintro _ ⟨mantissa, exponent, normalized, rfl⟩
  rcases le_or_gt place exponent with behind | before
  · obtain ⟨shift, rfl⟩ := Int.le.dest behind
    have value : (mantissa : ℚ) * 2 ^ (place + shift) =
        (mantissa * 2 ^ shift : ℕ) * 2 ^ place := by
      rw [zpow_add₀ two_ne_zero, zpow_natCast]
      push_cast
      ring
    rw [value]
    exact multiple _
  · -- a number with smaller places is below the first one that has the number's own
    have inner : place ≠ -1074 := fun last => absurd normalized.least (by omega)
    have first : (2 ^ 52 : ℕ) * (2 : ℚ) ^ place = 2 ^ (place + 52) := by
      rw [zpow_add₀ two_ne_zero, mul_comm]
      norm_num
    have less : (mantissa : ℚ) * 2 ^ exponent ≤ 2 ^ (place + 52) :=
      normalized.lt_two_zpow.le.trans (zpow_le_zpow_right₀ one_le_two (by omega))
    refine (multiple (2 ^ 52)).trans ?_
    rw [first, abs_of_nonneg (sub_nonneg.mpr (full inner)),
      abs_of_nonneg (sub_nonneg.mpr (less.trans (full inner)))]
    linarith

end Nearest

section Operations

variable {a b : UnpackedFloat} {u v x : ℚ} {mantissa digits : ℕ} {exponent place : ℤ}
  {accuracy : Accuracy}

/-- Whether an unpacked double that is not negative stands for a number, which may be too large for
it to be packed. -/
inductive Holds : UnpackedFloat → ℚ → Prop
  | zero (sign : Sign) : Holds (.zero sign) 0
  | finite {mantissa : ℕ} {exponent : ℤ} (positive : 0 < mantissa)
      (normalized : Normalized mantissa exponent) :
      Holds (.finite .positive mantissa exponent positive) (mantissa * 2 ^ exponent)

theorem Holds.isDouble (holds : Holds a v) : IsDouble v := by
  cases holds with
  | zero => exact isDouble_zero
  | finite positive normalized => exact ⟨_, _, normalized, rfl⟩

theorem Holds.nonneg (holds : Holds a v) : 0 ≤ v := by
  cases holds with
  | zero => exact le_rfl
  | finite => positivity

theorem targetExponent_binary64 (first : ℤ) :
    Format.binary64.targetExponent first = max (first - 53) (-1074) :=
  rfl

theorem shiftToTargetExponent_of_le
    (cut : exponent ≤ Format.binary64.targetExponent (totalExponent mantissa exponent)) :
    shiftToTargetExponent .binary64 mantissa exponent accuracy =
      (ExtendedMantissa.ofMantissaAndAccuracy mantissa accuracy >>>
          (Format.binary64.targetExponent (totalExponent mantissa exponent) - exponent).toNat,
        Format.binary64.targetExponent (totalExponent mantissa exponent)) := by
  unfold shiftToTargetExponent shiftToExponent
  dsimp only
  rw [Int.toNat_of_nonneg (sub_nonneg.mpr cut), add_sub_cancel]

/-- The first digit of a number stands 52 places above the last place that it is cut off at, or the
last place is the least one. -/
theorem bounds_of_target (whole : mantissa ≤ x / 2 ^ exponent)
    (part : x / 2 ^ exponent < mantissa + 1)
    (target : Format.binary64.targetExponent (totalExponent mantissa exponent) = place)
    (cut : exponent ≤ place) :
    -1074 ≤ place ∧ (place ≠ -1074 → (2 : ℚ) ^ (place + 52) ≤ x) ∧ x < 2 ^ (place + 53) := by
  have unit_pos : (0 : ℚ) < 2 ^ exponent := by positivity
  rw [le_div_iff₀ unit_pos] at whole
  rw [div_lt_iff₀ unit_pos] at part
  rw [targetExponent_binary64, totalExponent] at target
  refine ⟨target ▸ le_max_right _ _, fun inner => ?_, ?_⟩
  · have some : mantissa ≠ 0 := by
      rintro rfl
      rw [Nat.log2_zero] at target
      omega
    have first : (2 : ℚ) ^ mantissa.log2 ≤ mantissa := by exact_mod_cast Nat.log2_self_le some
    calc (2 : ℚ) ^ (place + 52) = 2 ^ mantissa.log2 * 2 ^ exponent := by
          rw [← zpow_natCast, ← zpow_add₀ two_ne_zero]
          congr 1
          omega
      _ ≤ mantissa * 2 ^ exponent := mul_le_mul_of_nonneg_right first unit_pos.le
      _ ≤ x := whole
  · have last : (mantissa : ℚ) + 1 ≤ 2 ^ (mantissa.log2 + 1) := by
      exact_mod_cast Nat.succ_le_of_lt Nat.lt_log2_self
    calc x < (mantissa + 1) * 2 ^ exponent := part
      _ ≤ 2 ^ (mantissa.log2 + 1) * 2 ^ exponent := mul_le_mul_of_nonneg_right last unit_pos.le
      _ = 2 ^ (mantissa.log2 + 1 + exponent) := by
          rw [zpow_add₀ two_ne_zero]
          rfl
      _ ≤ 2 ^ (place + 53) := zpow_le_zpow_right₀ one_le_two (by omega)

/-- What is done once the significand is rounded: one that was carried over to 54 digits ends in
zeros and loses the last of them. -/
theorem holds_carried (least : -1074 ≤ place) (few : digits ≤ 2 ^ 53)
    (many : place ≠ -1074 → 2 ^ 52 ≤ digits) :
    ∃ shifted : ExtendedMantissa × ℤ,
      shiftToTargetExponent .binary64 digits place .exact = shifted ∧
        shifted.1.mantissa * (2 : ℚ) ^ shifted.2 = digits * 2 ^ place ∧
          Normalized shifted.1.mantissa shifted.2 := by
  rcases Nat.lt_or_eq_of_le few with small | carry
  · have length : digits.log2 ≤ 52 := by
      by_cases none : digits = 0
      · rw [none, Nat.log2_zero]
        omega
      · exact Nat.lt_succ_iff.mp ((Nat.log2_lt none).mpr small)
    have settled : Format.binary64.targetExponent (totalExponent digits place) ≤ place := by
      rw [targetExponent_binary64, totalExponent]
      omega
    refine ⟨(ExtendedMantissa.ofMantissaAndAccuracy digits .exact, place), ?_, rfl, small, least,
      (eq_or_ne place (-1074)).symm.imp_left many⟩
    unfold shiftToTargetExponent shiftToExponent
    dsimp only
    rw [Int.toNat_of_nonpos (sub_nonpos.mpr settled), Nat.cast_zero, add_zero]
    rfl
  · subst carry
    have settled : Format.binary64.targetExponent (totalExponent (2 ^ 53) place) = place + 1 := by
      rw [targetExponent_binary64, totalExponent, Nat.log2_two_pow]
      omega
    refine ⟨((ExtendedMantissa.ofMantissaAndAccuracy (2 ^ 53) .exact).shiftRightOne, place + 1), ?_,
      ?_, Nat.div_lt_self (by decide : 0 < 2 ^ 53) one_lt_two, by omega, .inl le_rfl⟩
    · rw [shiftToTargetExponent_of_le (by omega), settled, add_sub_cancel_left]
      rfl
    · rw [zpow_add₀ two_ne_zero]
      simp only [ExtendedMantissa.shiftRightOne, ExtendedMantissa.ofMantissaAndAccuracy]
      norm_num
      ring

/-- A number of which enough digits are known is rounded to the nearest one. -/
theorem holds_roundWithAccuracy
    (represents : Represents (ExtendedMantissa.ofMantissaAndAccuracy mantissa accuracy)
      (x / 2 ^ exponent))
    (cut : exponent ≤ Format.binary64.targetExponent (totalExponent mantissa exponent)) :
    ∃ v, Holds (roundWithAccuracy .binary64 .positive mantissa exponent accuracy) v ∧
      Nearest x v := by
  have same : (ExtendedMantissa.ofMantissaAndAccuracy mantissa accuracy).mantissa = mantissa := by
    unfold ExtendedMantissa.ofMantissaAndAccuracy
    split <;> rfl
  obtain ⟨whole, part⟩ := represents.bounds
  rw [same] at whole part
  unfold roundWithAccuracy
  rw [shiftToTargetExponent_of_le cut]
  generalize target : Format.binary64.targetExponent (totalExponent mantissa exponent) = place at *
  obtain ⟨least, full, below⟩ := bounds_of_target whole part target cut
  have shifted := represents.shiftRight (place - exponent).toNat
  have value : x / 2 ^ exponent / 2 ^ (place - exponent).toNat = x / 2 ^ place := by
    rw [div_div, ← zpow_natCast, ← zpow_add₀ two_ne_zero,
      Int.toNat_of_nonneg (sub_nonneg.mpr cut), add_sub_cancel]
  rw [value] at shifted
  have close := shifted.rounded
  dsimp only
  generalize ExtendedMantissa.roundedMantissa _ = digits at close ⊢
  obtain ⟨few, many⟩ := digits_of_place full below close
  obtain ⟨carried, computed, exact, normalized⟩ := holds_carried least few many
  rw [computed]
  refine ⟨_, ?_, nearest_of_place least full below close⟩
  rw [← exact]
  split
  · next none =>
    rw [none, Nat.cast_zero, zero_mul]
    exact .zero _
  · exact .finite _ normalized

theorem log2_mul_two_pow (positive : 0 < mantissa) (digits : ℕ) :
    (mantissa * 2 ^ digits).log2 = mantissa.log2 + digits := by
  rw [Nat.log2_eq_iff (by positivity), pow_add, add_right_comm, pow_add (n := digits)]
  exact ⟨Nat.mul_le_mul_right _ (Nat.log2_self_le positive.ne'),
    Nat.mul_lt_mul_of_pos_right Nat.lt_log2_self (by positivity)⟩

theorem shiftLeft_mul_zpow (mantissa digits : ℕ) (exponent : ℤ) :
    ((mantissa <<< digits : ℕ) : ℚ) * 2 ^ (exponent - digits) = mantissa * 2 ^ exponent := by
  rw [Nat.shiftLeft_eq, Nat.cast_mul, Nat.cast_pow, Nat.cast_ofNat, mul_assoc, ← zpow_natCast,
    ← zpow_add₀ two_ne_zero, add_sub_cancel]

/-- A number is rounded to the nearest one, after digits are added to it where too few are there. -/
theorem holds_round (positive : 0 < mantissa) (exponent : ℤ) :
    ∃ v, Holds (UnpackedFloat.round .binary64 .positive mantissa exponent) v ∧
      Nearest (mantissa * 2 ^ exponent) v := by
  unfold UnpackedFloat.round decreaseExponent
  dsimp only
  generalize added : (exponent - Format.binary64.targetExponent
    (totalExponent mantissa exponent)).toNat = digits
  have value : (mantissa : ℚ) * 2 ^ exponent / 2 ^ (exponent - digits) =
      (mantissa <<< digits : ℕ) := by
    rw [← shiftLeft_mul_zpow mantissa digits, mul_div_cancel_right₀ _ (by positivity)]
  refine holds_roundWithAccuracy (value ▸ represents_exact _) ?_
  rw [targetExponent_binary64, totalExponent] at added ⊢
  rw [Nat.shiftLeft_eq, log2_mul_two_pow positive]
  omega

/-- The sum is rounded to the nearest number. -/
theorem holds_add (left : Holds a u) (right : Holds b v) :
    ∃ w, Holds (UnpackedFloat.add .binary64 a b) w ∧ Nearest (u + v) w := by
  cases left with
  | zero sign =>
    rw [zero_add]
    refine ⟨v, ?_, right.isDouble.nearest⟩
    cases right with
    | zero sign' =>
      unfold UnpackedFloat.add
      dsimp only
      split <;> exact .zero _
    | finite positive normalized => exact .finite positive normalized
  | @finite mantissa exponent positive normalized =>
    cases right with
    | zero sign =>
      rw [add_zero]
      exact ⟨_, .finite positive normalized, (Holds.finite positive normalized).isDouble.nearest⟩
    | @finite mantissa' exponent' positive' normalized' =>
      unfold UnpackedFloat.add decreaseExponent
      dsimp only
      generalize least : min exponent exponent' = place
      have aligned (mantissa : ℕ) {exponent : ℤ} (behind : place ≤ exponent) :
          ((mantissa <<< (exponent - place).toNat : ℕ) : ℚ) * 2 ^ place =
            mantissa * 2 ^ exponent := by
        rw [← shiftLeft_mul_zpow mantissa (exponent - place).toNat,
          Int.toNat_of_nonneg (sub_nonneg.mpr behind), sub_sub_cancel]
      rw [← aligned mantissa (least ▸ min_le_left _ _),
        ← aligned mantissa' (least ▸ min_le_right _ _), ← add_mul, ← Nat.cast_add]
      have some : 0 < mantissa <<< (exponent - place).toNat +
          mantissa' <<< (exponent' - place).toNat := by
        rw [Nat.shiftLeft_eq]
        positivity
      generalize mantissa <<< (exponent - place).toNat = digits at some ⊢
      generalize mantissa' <<< (exponent' - place).toNat = digits' at some ⊢
      have sign : compare ((digits : ℤ) + digits') 0 = .gt := Int.compare_eq_gt.mpr (by omega)
      unfold UnpackedFloat.normalize
      simp only [Sign.apply, sign]
      exact holds_round some place

/-- The product is rounded to the nearest number. -/
theorem holds_mul (left : Holds a u) (right : Holds b v) :
    ∃ w, Holds (UnpackedFloat.mul .binary64 a b) w ∧ Nearest (u * v) w := by
  cases left with
  | zero sign =>
    rw [zero_mul]
    refine ⟨0, ?_, isDouble_zero.nearest⟩
    cases right with
    | zero sign' => exact .zero _
    | finite positive normalized => exact .zero _
  | @finite mantissa exponent positive normalized =>
    cases right with
    | zero sign =>
      rw [mul_zero]
      exact ⟨0, .zero _, isDouble_zero.nearest⟩
    | @finite mantissa' exponent' positive' normalized' =>
      have value : (mantissa : ℚ) * 2 ^ exponent * (mantissa' * 2 ^ exponent') /
          2 ^ (exponent + exponent') = (mantissa * mantissa' : ℕ) := by
        rw [zpow_add₀ two_ne_zero, Nat.cast_mul]
        field_simp
      refine holds_roundWithAccuracy (value ▸ represents_exact _) ?_
      -- one of the two has all its digits, or both stand at the least place
      have enough : 52 ≤ (mantissa * mantissa').log2 ∨ exponent = -1074 ∧ exponent' = -1074 := by
        rw [Nat.le_log2 (by positivity)]
        rcases normalized.full with full | least
        · exact .inl (Nat.le_mul_of_pos_right _ positive' |>.trans' full)
        · rcases normalized'.full with full | least'
          · exact .inl (Nat.le_mul_of_pos_left _ positive |>.trans' full)
          · exact .inr ⟨least, least'⟩
      rw [targetExponent_binary64, totalExponent]
      omega

/-- The quotient by a number other than zero is rounded to the nearest number. -/
theorem holds_div (left : Holds a u) (right : Holds b v) (divides : v ≠ 0) :
    ∃ w, Holds (UnpackedFloat.div .binary64 a b) w ∧ Nearest (u / v) w := by
  cases right with
  | zero sign => exact absurd rfl divides
  | @finite mantissa' exponent' positive' normalized' =>
    cases left with
    | zero sign =>
      rw [zero_div]
      exact ⟨0, .zero _, isDouble_zero.nearest⟩
    | @finite mantissa exponent positive normalized =>
      unfold UnpackedFloat.div divCore
      dsimp only
      rw [targetExponent_binary64, totalExponent, totalExponent]
      generalize first : min (exponent - exponent') _ = place
      generalize added : (exponent - exponent' - place).toNat = digits
      have shift : (digits : ℤ) = exponent - exponent' - place := by omega
      rw [Nat.shiftLeft_eq]
      have value : (mantissa : ℚ) * 2 ^ exponent / (mantissa' * 2 ^ exponent') / 2 ^ place =
          (mantissa * 2 ^ digits : ℕ) / mantissa' := by
        rw [Nat.cast_mul, Nat.cast_pow, Nat.cast_ofNat, ← zpow_natCast, shift,
          zpow_sub₀ two_ne_zero, zpow_sub₀ two_ne_zero]
        field_simp
      refine holds_roundWithAccuracy (value ▸ represents_fraction _ positive') ?_
      rw [targetExponent_binary64, totalExponent]
      -- unless the last place is the least one, the quotient has all its digits
      rcases le_or_gt place (-1074) with least | inner
      · exact le_max_of_le_right least
      · have enough : 2 ^ 52 ≤ mantissa * 2 ^ digits / mantissa' := by
          rw [Nat.le_div_iff_mul_le positive']
          calc 2 ^ 52 * mantissa' ≤ 2 ^ 52 * 2 ^ (mantissa'.log2 + 1) :=
                Nat.mul_le_mul_left _ Nat.lt_log2_self.le
            _ = 2 ^ (52 + (mantissa'.log2 + 1)) := (pow_add ..).symm
            _ ≤ 2 ^ (mantissa.log2 + digits) := Nat.pow_le_pow_right two_pos (by omega)
            _ = 2 ^ mantissa.log2 * 2 ^ digits := pow_add ..
            _ ≤ mantissa * 2 ^ digits :=
                Nat.mul_le_mul_right _ (Nat.log2_self_le positive.ne')
        have length := (Nat.le_log2 (by omega)).mpr enough
        omega

end Operations

end TimeReports.Number
