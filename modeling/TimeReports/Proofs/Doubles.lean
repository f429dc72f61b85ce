import Mathlib
import TimeReports.Report.View

set_option autoImplicit false

namespace TimeReports.Number

open Float.Model (UnpackedFloat Format)
open Float.Model.UnpackedFloat

variable {spec : Format} {a b : UnpackedFloat} {x y : Float}

/-- A sign, an exponent and a significand that are not negative; a zero may have either sign. -/
def Nonnegative : UnpackedFloat → Prop
  | .notANumber => False
  | .infinity sign => sign = .positive
  | .zero _ => True
  | .finite sign _ _ _ => sign = .positive

theorem nonnegative_round (mantissa : Nat) (exponent : Int) :
    Nonnegative (UnpackedFloat.round spec .positive mantissa exponent) := by
  unfold UnpackedFloat.round UnpackedFloat.roundWithAccuracy
  dsimp only
  split
  · trivial
  · rfl

theorem nonnegative_normalize {mantissa : Int} (positive : 0 ≤ mantissa) (exponent : Int)
    (sign : UnpackedFloat.Sign) :
    Nonnegative (UnpackedFloat.normalize spec mantissa exponent sign) := by
  unfold UnpackedFloat.normalize
  split
  · next less =>
    have negative := Int.compare_eq_lt.mp less
    omega
  · trivial
  · exact nonnegative_round _ _

theorem nonnegative_add (left : Nonnegative a) (right : Nonnegative b) :
    Nonnegative (UnpackedFloat.add spec a b) := by
  cases a with
  | notANumber => exact left.elim
  | infinity sign =>
    obtain rfl : sign = .positive := left
    cases b with
    | notANumber => exact right.elim
    | infinity sign =>
      obtain rfl : sign = .positive := right
      rfl
    | _ => rfl
  | zero sign =>
    cases b with
    | notANumber => exact right.elim
    | zero sign' =>
      unfold UnpackedFloat.add
      dsimp only
      split <;> trivial
    | _ => exact right
  | finite sign mantissa exponent positive =>
    obtain rfl : sign = .positive := left
    cases b with
    | notANumber => exact right.elim
    | infinity sign => exact right
    | zero sign => rfl
    | finite sign mantissa' exponent' positive' =>
      obtain rfl : sign = .positive := right
      refine nonnegative_normalize ?_ _ _
      exact Int.add_nonneg (Int.natCast_nonneg _) (Int.natCast_nonneg _)

theorem nonnegative_unpack_packed {exponent : BitVec Format.binary64.exponentBits}
    (defined : exponent ≠ -1#11) (mantissa : BitVec Format.binary64.mantissaBitsWithoutImplicit) :
    Nonnegative (unpack .binary64 (packComponents .binary64 .positive exponent mantissa)) := by
  unfold unpack
  simp only [unpackSign_packComponents, unpackExponent_packComponents,
    unpackMantissa_packComponents]
  split
  · next undefined => exact absurd undefined defined
  · split
    · split
      · trivial
      · rfl
    · rfl

theorem nonnegative_unpack_pack (nonnegative : Nonnegative a) :
    Nonnegative (unpack .binary64 (pack .binary64 a)) := by
  cases a with
  | notANumber => exact nonnegative.elim
  | infinity sign =>
    obtain rfl : sign = .positive := nonnegative
    exact (rfl : Sign.positive = .positive)
  | zero sign => cases sign <;> trivial
  | finite sign mantissa exponent positive =>
    obtain rfl : sign = .positive := nonnegative
    unfold pack
    dsimp only
    split
    · exact (rfl : Sign.positive = .positive)
    · next small =>
      split
      · refine nonnegative_unpack_packed (fun same => ?_) _
        have exponents := congrArg BitVec.toNat same
        rw [BitVec.toNat_ofNat, show (-1#11).toNat = 2047 from rfl] at exponents
        omega
      · exact nonnegative_unpack_packed (by decide) _

theorem nonnegative_iff : 0 ≤ x ↔ Nonnegative x.toModel.unpack := by
  have compared : 0 ≤ x ↔ UnpackedFloat.le (.zero .positive) x.toModel.unpack = true := by
    refine Iff.trans decide_eq_true_iff ?_
    rfl
  rw [compared]
  cases x.toModel.unpack with
  | notANumber => simp [UnpackedFloat.le, UnpackedFloat.compare, Nonnegative]
  | infinity sign => cases sign <;> simp [UnpackedFloat.le, UnpackedFloat.compare, Nonnegative]
  | zero sign => simp [UnpackedFloat.le, UnpackedFloat.compare, Nonnegative]
  | finite sign _ _ _ => cases sign <;> simp [UnpackedFloat.le, UnpackedFloat.compare, Nonnegative]

/-- The sum of doubles that are not negative is not negative. -/
theorem add_nonnegative (left : 0 ≤ x) (right : 0 ≤ y) : 0 ≤ x + y := by
  rw [nonnegative_iff] at left right ⊢
  exact nonnegative_unpack_pack (nonnegative_add left right)

/-- A double that is not negative is not undefined: it equals itself. -/
theorem eq_self_of_nonnegative (nonnegative : 0 ≤ x) : (x != x) = false := by
  rw [nonnegative_iff] at nonnegative
  have defined : x ≠ Float.nan := by
    rintro rfl
    exact nonnegative
  rw [Float.bne_eq, Float.beq_self_iff.mpr defined]
  rfl

/-- Where a number stands among those that are not negative: zeros come first, infinity last, and
finite numbers by exponent and significand. -/
def place : UnpackedFloat → ℕ ×ₗ ℤ ×ₗ ℕ
  | .notANumber | .zero _ => toLex (0, toLex (0, 0))
  | .finite _ mantissa exponent _ => toLex (1, toLex (exponent, mantissa))
  | .infinity _ => toLex (2, toLex (0, 0))

theorem compare_place (left : Nonnegative a) (right : Nonnegative b) :
    UnpackedFloat.compare a b = some (compare (place a) (place b)) := by
  cases a with
  | notANumber => exact left.elim
  | infinity sign =>
    obtain rfl : sign = .positive := left
    cases b with
    | notANumber => exact right.elim
    | infinity sign =>
      obtain rfl : sign = .positive := right
      rfl
    | zero sign => rfl
    | finite sign mantissa exponent positive => rfl
  | zero sign =>
    cases b with
    | notANumber => exact right.elim
    | infinity sign =>
      obtain rfl : sign = .positive := right
      rfl
    | zero sign => rfl
    | finite sign mantissa exponent positive =>
      obtain rfl : sign = .positive := right
      rfl
  | finite sign mantissa exponent positive =>
    obtain rfl : sign = .positive := left
    cases b with
    | notANumber => exact right.elim
    | infinity sign =>
      obtain rfl : sign = .positive := right
      rfl
    | zero sign => rfl
    | finite sign mantissa' exponent' positive' =>
      obtain rfl : sign = .positive := right
      rfl

/-- Where a double stands among those that are not negative. -/
def rank (x : Float) : ℕ ×ₗ ℤ ×ₗ ℕ := place x.toModel.unpack

theorem le_iff_rank_le (left : 0 ≤ x) (right : 0 ≤ y) : x ≤ y ↔ rank x ≤ rank y := by
  have compared : x ≤ y ↔ UnpackedFloat.le x.toModel.unpack y.toModel.unpack = true := by
    refine Iff.trans decide_eq_true_iff ?_
    rfl
  rw [compared, UnpackedFloat.le,
    compare_place (nonnegative_iff.mp left) (nonnegative_iff.mp right),
    Option.any_some, Ordering.isLE_iff_ne_gt]
  exact compare_le_iff_le

theorem beq_iff_rank_eq (left : 0 ≤ x) (right : 0 ≤ y) : (x == y) = true ↔ rank x = rank y := by
  have compared : (x == y) = UnpackedFloat.beq x.toModel.unpack y.toModel.unpack := rfl
  rw [compared, UnpackedFloat.beq,
    compare_place (nonnegative_iff.mp left) (nonnegative_iff.mp right),
    beq_iff_eq, Option.some_inj, compare_eq_iff_eq, rank, rank]

end TimeReports.Number

namespace TimeReports.Report

open Number (add_nonnegative)

theorem foldl_add_nonnegative {hours : List Float} {total : Float} (started : 0 ≤ total)
    (all : ∀ x ∈ hours, 0 ≤ x) : 0 ≤ hours.foldl (· + ·) total := by
  induction hours generalizing total with
  | nil => exact started
  | cons x rest ih =>
    obtain ⟨first, others⟩ := List.forall_mem_cons.mp all
    exact ih (add_nonnegative started first) others

theorem sum_nonnegative {hours : List Float} (all : ∀ x ∈ hours, 0 ≤ x) : 0 ≤ sum hours := by
  have zero : (0 : Float) ≤ 0 := by decide +kernel
  exact foldl_add_nonnegative zero all

theorem totalHours_nonnegative (entries : List TimeEntry) : 0 ≤ totalHours entries := by
  refine sum_nonnegative fun x member => ?_
  obtain ⟨entry, -, rfl⟩ := List.mem_map.mp member
  exact entry.hours_nonneg

end TimeReports.Report
