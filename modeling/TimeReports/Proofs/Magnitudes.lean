import TimeReports.Proofs.Rounding

set_option autoImplicit false

namespace TimeReports.Number

open Float.Model (UnpackedFloat Format)
open Float.Model.UnpackedFloat

section Packing

variable {a b : UnpackedFloat} {u v : ℚ} {mantissa : ℕ} {exponent : ℤ}

theorem Normalized.lt_iff (normalized : Normalized mantissa exponent) :
    (mantissa : ℚ) * 2 ^ exponent < 2 ^ (1024 : ℤ) ↔ exponent ≤ 971 := by
  constructor
  · intro less
    by_contra beyond
    have full : (2 : ℚ) ^ 52 ≤ mantissa := by
      exact_mod_cast normalized.full.resolve_right (by omega)
    have large : (2 : ℚ) ^ (1024 : ℤ) ≤ mantissa * 2 ^ exponent := by
      calc (2 : ℚ) ^ (1024 : ℤ) ≤ 2 ^ (52 + exponent) := zpow_le_zpow_right₀ one_le_two (by omega)
        _ = 2 ^ 52 * 2 ^ exponent := zpow_add₀ two_ne_zero _ _
        _ ≤ mantissa * 2 ^ exponent := mul_le_mul_of_nonneg_right full (by positivity)
    linarith
  · intro fits
    exact normalized.lt_two_zpow.trans_le (zpow_le_zpow_right₀ one_le_two (by omega))

theorem toNat_append_one (digits : BitVec 52) : (1#1 ++ digits).toNat = 2 ^ 52 + digits.toNat := by
  rw [BitVec.toNat_append, ← Nat.shiftLeft_add_eq_or_of_lt digits.isLt]
  rfl

theorem biased_exponent (exponent : ℤ) :
    exponent + Format.binary64.exponentBias + (52 : ℕ) = exponent + 1075 := by
  have bias : Format.binary64.exponentBias = 1023 := rfl
  omega

variable {sign : Sign} {biased : BitVec 11} {digits : BitVec 52}

/-- Bits are those of a sign, an exponent and a significand. -/
theorem exists_parts (bits : BitVec Format.binary64.numBits) :
    ∃ (sign : Sign) (biased : BitVec 11) (digits : BitVec 52),
      bits = packComponents .binary64 sign biased digits :=
  ⟨_, _, _, (packComponents_unpackSign_unpackExponent_unpackMantissa bits).symm⟩

theorem unpack_normal (least : 0 < biased.toNat) (fits : biased.toNat < 2047) :
    unpack .binary64 (packComponents .binary64 sign biased digits) =
      .finite sign (2 ^ 52 + digits.toNat) (biased.toNat - 1075) (by omega) := by
  have bias : (Format.binary64.exponentBias : ℤ) + (52 : ℕ) = 1075 := rfl
  unfold unpack
  simp only [unpackSign_packComponents, unpackExponent_packComponents,
    unpackMantissa_packComponents, Sign.ofBitVec_toBitVec]
  rw [if_neg fun same => ?_, if_neg fun same => ?_]
  · simp only [UnpackedFloat.finite.injEq, true_and]
    exact ⟨toNat_append_one digits, by rw [bias]⟩
  · have values := congrArg BitVec.toNat same
    rw [BitVec.toNat_ofNat] at values
    omega
  · have values := congrArg BitVec.toNat same
    rw [show (-1#11).toNat = 2047 from rfl] at values
    omega

theorem unpack_subnormal (positive : 0 < digits.toNat) :
    unpack .binary64 (packComponents .binary64 sign 0#11 digits) =
      .finite sign digits.toNat (-1074) positive := by
  have some : digits ≠ 0#52 := by
    rintro rfl
    exact absurd positive (lt_irrefl 0)
  unfold unpack
  simp only [unpackSign_packComponents, unpackExponent_packComponents,
    unpackMantissa_packComponents, Sign.ofBitVec_toBitVec]
  rw [if_neg (by decide), if_pos trivial, dif_neg some]
  rfl

theorem unpack_special (undefined : biased.toNat = 2047) :
    unpack .binary64 (packComponents .binary64 sign biased digits) =
      if digits = 0 then .infinity sign else .notANumber := by
  obtain rfl : biased = -1#11 := BitVec.eq_of_toNat_eq undefined
  unfold unpack
  simp only [unpackSign_packComponents, unpackExponent_packComponents,
    unpackMantissa_packComponents, Sign.ofBitVec_toBitVec]
  rw [if_pos trivial]
  rfl

/-- What is packed reads back the same, if its exponent is not too large. -/
theorem unpack_pack_of_le (positive : 0 < mantissa) (normalized : Normalized mantissa exponent)
    (fits : exponent ≤ 971) :
    unpack .binary64 (pack .binary64 (.finite .positive mantissa exponent positive)) =
      .finite .positive mantissa exponent positive := by
  have below := normalized.below
  obtain ⟨biased, shifted⟩ := Int.eq_ofNat_of_zero_le
    (show 0 ≤ exponent + 1075 by have := normalized.least; omega)
  unfold pack
  dsimp only
  rw [biased_exponent, shifted, Int.toNat_natCast, if_neg (by omega)]
  split
  · next length =>
    have full : 2 ^ 52 ≤ mantissa := by
      rw [← Nat.le_log2 positive.ne']
      exact (Nat.succ_injective length).ge
    have value : (BitVec.ofNat 11 biased).toNat = biased := by
      rw [BitVec.toNat_ofNat]
      omega
    have least := normalized.least
    rw [unpack_normal (by omega) (by omega)]
    simp only [UnpackedFloat.finite.injEq, true_and, BitVec.toNat_ofNat]
    omega
  · next length =>
    have short : mantissa < 2 ^ 52 := by
      by_contra full
      have first := (Nat.le_log2 positive.ne').mpr (not_lt.mp full)
      have last := (Nat.log2_lt positive.ne').mpr below
      exact length (by
        change mantissa.log2 + 1 = 1 + 52
        omega)
    have value : (BitVec.ofNat 52 mantissa).toNat = mantissa := by
      rw [BitVec.toNat_ofNat, Nat.mod_eq_of_lt short]
    have last : exponent = -1074 := normalized.full.resolve_left (by omega)
    rw [unpack_subnormal (value.symm ▸ positive)]
    simp only [UnpackedFloat.finite.injEq, true_and]
    exact ⟨value, last.symm⟩

theorem unpack_pack_of_lt (positive : 0 < mantissa) (large : 971 < exponent) :
    unpack .binary64 (pack .binary64 (.finite .positive mantissa exponent positive)) =
      .infinity .positive := by
  unfold pack
  dsimp only
  rw [biased_exponent, if_pos (by omega)]
  rfl

/-- What an unpacked double that is not negative amounts to. -/
inductive Amounts : UnpackedFloat → WithTop ℚ → Prop
  | infinite : Amounts (.infinity .positive) ⊤
  | finite {a : UnpackedFloat} {v : ℚ} (holds : Holds a v) (fits : v < 2 ^ (1024 : ℤ)) : Amounts a v

/-- What is left of a number when it is packed: one that is too large becomes infinite. -/
def overflowed (v : ℚ) : WithTop ℚ := if v < 2 ^ (1024 : ℤ) then v else ⊤

theorem amounts_pack (holds : Holds a v) :
    Amounts (unpack .binary64 (pack .binary64 a)) (overflowed v) := by
  cases holds with
  | zero sign =>
    have fits : (0 : ℚ) < 2 ^ (1024 : ℤ) := by positivity
    rw [overflowed, if_pos fits, pack, unpack_packedZero]
    exact .finite (.zero sign) fits
  | @finite mantissa exponent positive normalized =>
    rw [overflowed]
    rcases le_or_gt exponent 971 with small | large
    · have fits := normalized.lt_iff.mpr small
      rw [if_pos fits, unpack_pack_of_le positive normalized small]
      exact .finite (.finite positive normalized) fits
    · rw [if_neg (normalized.lt_iff.not.mpr (not_le.mpr large)), unpack_pack_of_lt positive large]
      exact .infinite

/-- Every double that is not negative amounts to something. -/
theorem exists_amounts {bits : BitVec Format.binary64.numBits}
    (nonnegative : Nonnegative (unpack .binary64 bits)) :
    ∃ amount, Amounts (unpack .binary64 bits) amount := by
  obtain ⟨sign, biased, digits, rfl⟩ := exists_parts bits
  have length : digits.toNat < 2 ^ 52 := digits.isLt
  rcases lt_or_eq_of_le (Nat.le_of_lt_succ biased.isLt) with fits | undefined
  · rcases Nat.eq_zero_or_pos biased.toNat with least | some
    · obtain rfl : biased = 0#11 := BitVec.eq_of_toNat_eq least
      rcases Nat.eq_zero_or_pos digits.toNat with none | positive
      · obtain rfl : digits = 0#52 := BitVec.eq_of_toNat_eq none
        exact ⟨0, .finite (unpack_packedZero ▸ .zero sign) (by positivity)⟩
      · rw [unpack_subnormal positive] at nonnegative ⊢
        obtain rfl : sign = .positive := nonnegative
        have normalized : Normalized digits.toNat (-1074) :=
          ⟨length.trans (by norm_num), le_rfl, .inr rfl⟩
        exact ⟨_, .finite (.finite positive normalized) (normalized.lt_iff.mpr (by norm_num))⟩
    · rw [unpack_normal some fits] at nonnegative ⊢
      obtain rfl : sign = .positive := nonnegative
      have normalized : Normalized (2 ^ 52 + digits.toNat) (biased.toNat - 1075) :=
        ⟨by omega, by omega, .inl (by omega)⟩
      exact ⟨_, .finite (.finite _ normalized) (normalized.lt_iff.mpr (by omega))⟩
  · rw [unpack_special undefined] at nonnegative ⊢
    split at nonnegative
    · next none =>
      obtain rfl : sign = .positive := nonnegative
      exact ⟨⊤, if_pos none ▸ .infinite⟩
    · exact nonnegative.elim

theorem Normalized.lt_of_lt {mantissa' : ℕ} {exponent' : ℤ}
    (normalized : Normalized mantissa exponent) (normalized' : Normalized mantissa' exponent')
    (less : exponent < exponent') :
    (mantissa : ℚ) * 2 ^ exponent < mantissa' * 2 ^ exponent' := by
  have full : (2 : ℚ) ^ 52 ≤ mantissa' := by
    exact_mod_cast normalized'.full.resolve_right (by have := normalized.least; omega)
  calc (mantissa : ℚ) * 2 ^ exponent < 2 ^ (exponent + 53) := normalized.lt_two_zpow
    _ ≤ 2 ^ (52 + exponent') := zpow_le_zpow_right₀ one_le_two (by omega)
    _ = 2 ^ 52 * 2 ^ exponent' := zpow_add₀ two_ne_zero _ _
    _ ≤ mantissa' * 2 ^ exponent' := mul_le_mul_of_nonneg_right full (by positivity)

/-- Numbers are in the order of their exponents and, for the same one, their significands. -/
theorem Normalized.le_iff {mantissa' : ℕ} {exponent' : ℤ}
    (normalized : Normalized mantissa exponent) (normalized' : Normalized mantissa' exponent') :
    (mantissa : ℚ) * 2 ^ exponent ≤ mantissa' * 2 ^ exponent' ↔
      exponent < exponent' ∨ exponent = exponent' ∧ mantissa ≤ mantissa' := by
  rcases lt_trichotomy exponent exponent' with less | rfl | more
  · exact iff_of_true (normalized.lt_of_lt normalized' less).le (.inl less)
  · rw [mul_le_mul_iff_of_pos_right (by positivity), Nat.cast_le]
    simp
  · exact iff_of_false (normalized'.lt_of_lt normalized more).not_ge (by omega)

theorem place_le_place_iff {amount amount' : WithTop ℚ} (left : Amounts a amount)
    (right : Amounts b amount') : place a ≤ place b ↔ amount ≤ amount' := by
  cases left with
  | infinite =>
    cases right with
    | infinite => exact iff_of_true le_rfl le_rfl
    | finite holds =>
      rw [top_le_iff]
      refine iff_of_false ?_ WithTop.coe_ne_top
      cases holds <;> simp [place, Prod.Lex.toLex_le_toLex]
  | finite holds =>
    cases right with
    | infinite =>
      refine iff_of_true ?_ le_top
      cases holds <;> simp [place, Prod.Lex.toLex_le_toLex]
    | finite holds' =>
      rw [WithTop.coe_le_coe]
      cases holds with
      | zero sign =>
        refine iff_of_true ?_ holds'.nonneg
        cases holds' <;> simp [place, Prod.Lex.toLex_le_toLex]
      | finite positive normalized =>
        cases holds' with
        | zero sign =>
          refine iff_of_false ?_ (not_le.mpr (by positivity))
          simp [place, Prod.Lex.toLex_le_toLex]
        | finite positive' normalized' =>
          rw [normalized.le_iff normalized']
          simp [place, Prod.Lex.toLex_le_toLex]

theorem twoTo_pos (exponent : ℕ) : 0 < twoTo exponent := Nat.two_pow_pos exponent

theorem cast_twoTo (exponent : ℕ) : ((twoTo exponent : ℕ) : ℚ) = 2 ^ exponent :=
  Nat.cast_pow 2 exponent

theorem toNat_packComponents :
    (packComponents .binary64 sign biased digits).toNat =
      (sign.toBitVec.toNat * 2 ^ 11 + biased.toNat) * 2 ^ 52 + digits.toNat := by
  unfold packComponents
  rw [BitVec.toNat_append, BitVec.toNat_append, ← Nat.shiftLeft_add_eq_or_of_lt biased.isLt,
    ← Nat.shiftLeft_add_eq_or_of_lt digits.isLt, Nat.shiftLeft_eq, Nat.shiftLeft_eq]

theorem fields_of_parts {x : Float}
    (parts : x.toModel.toBits.toBitVec = packComponents .binary64 sign biased digits) :
    x.toBits.toNat / twoTo 63 = sign.toBitVec.toNat ∧
      x.toBits.toNat / twoTo 52 % twoTo 11 = biased.toNat ∧
      x.toBits.toNat % twoTo 52 = digits.toNat := by
  have bits : x.toBits.toNat =
      (sign.toBitVec.toNat * 2 ^ 11 + biased.toNat) * 2 ^ 52 + digits.toNat := by
    rw [← toNat_packComponents, ← parts]
    rfl
  rw [bits, twoTo, twoTo, twoTo]
  change _ / 2 ^ 63 = _ ∧ _ / 2 ^ 52 % 2 ^ 11 = _ ∧ _ % 2 ^ 52 = _
  omega

/-- The fraction that is read from the bits of a double is the number that it stands for, and only
zero is under a minus. -/
theorem shape_of_holds {x : Float} (holds : Holds x.toModel.unpack v) :
    ∃ negative numerator denominator, shape x = .finite negative numerator denominator ∧
      0 < denominator ∧ v = numerator / denominator ∧ (negative = true → numerator = 0) := by
  obtain ⟨sign, biased, digits, parts⟩ := exists_parts x.toModel.toBits.toBitVec
  replace holds : Holds (unpack .binary64 (packComponents .binary64 sign biased digits)) v :=
    parts ▸ holds
  obtain ⟨sign_bit, exponent, fraction⟩ := fields_of_parts parts
  unfold shape
  dsimp only
  rw [sign_bit, exponent, fraction]
  split
  · next undefined =>
    rw [unpack_special undefined] at holds
    split at holds <;> cases holds
  · next defined =>
    split
    · next least =>
      obtain rfl : biased = 0#11 := BitVec.eq_of_toNat_eq least
      refine ⟨_, _, _, rfl, twoTo_pos _, ?_⟩
      rw [cast_twoTo]
      rcases Nat.eq_zero_or_pos digits.toNat with none | positive
      · obtain rfl : digits = 0#52 := BitVec.eq_of_toNat_eq none
        change Holds (unpack .binary64 (packedZero .binary64 sign)) v at holds
        rw [unpack_packedZero] at holds
        cases holds
        simp
      · rw [unpack_subnormal positive] at holds
        cases holds
        rw [div_eq_mul_inv, ← zpow_natCast, ← zpow_neg, Nat.cast_ofNat]
        exact ⟨rfl, fun minus => nomatch minus⟩
    · next some =>
      rw [unpack_normal (Nat.pos_of_ne_zero some) (by omega)] at holds
      cases holds
      rw [show twoTo 52 = 2 ^ 52 from rfl]
      generalize 2 ^ 52 + digits.toNat = mantissa
      split
      · next whole =>
        refine ⟨_, _, _, rfl, one_pos, ?_, fun minus => nomatch minus⟩
        rw [Nat.cast_mul, cast_twoTo, Nat.cast_one, div_one, ← zpow_natCast, Nat.cast_sub whole]
        rfl
      · next part =>
        refine ⟨_, _, _, rfl, twoTo_pos _, ?_, fun minus => nomatch minus⟩
        rw [cast_twoTo, ← zpow_natCast, Nat.cast_sub (by omega), div_eq_mul_inv, ← zpow_neg,
          neg_sub]
        rfl

end Packing

section Arithmetic

variable {a b : UnpackedFloat} {x y z : Float} {u v : ℚ} {amount amount' : WithTop ℚ} {m n : ℕ}

theorem Amounts.nonnegative (amounts : Amounts a amount) : Nonnegative a := by
  cases amounts with
  | infinite => rfl
  | finite holds =>
    cases holds with
    | zero sign => trivial
    | finite => rfl

theorem Amounts.finite_iff : Amounts a (v : WithTop ℚ) ↔ Holds a v ∧ v < 2 ^ (1024 : ℤ) := by
  refine ⟨fun amounts => ?_, fun ⟨holds, fits⟩ => .finite holds fits⟩
  generalize equal : (v : WithTop ℚ) = amount at amounts
  cases amounts with
  | infinite => exact absurd equal WithTop.coe_ne_top
  | finite holds fits =>
    obtain rfl := WithTop.coe_injective equal
    exact ⟨holds, fits⟩

theorem Amounts.holds (amounts : Amounts a (v : WithTop ℚ)) : Holds a v :=
  (Amounts.finite_iff.mp amounts).1

theorem Amounts.overflowed_eq (amounts : Amounts a (v : WithTop ℚ)) : overflowed v = v :=
  if_pos (Amounts.finite_iff.mp amounts).2

theorem Amounts.unique (amounts : Amounts a amount) (amounts' : Amounts a amount') :
    amount = amount' :=
  le_antisymm ((place_le_place_iff amounts amounts').mp le_rfl)
    ((place_le_place_iff amounts' amounts).mp le_rfl)

theorem exists_amounts_of_nonneg (nonneg : 0 ≤ x) : ∃ amount, Amounts x.toModel.unpack amount :=
  exists_amounts (nonnegative_iff.mp nonneg)

/-- Doubles compare as what they amount to. -/
theorem le_iff_of_amounts (left : Amounts x.toModel.unpack amount)
    (right : Amounts y.toModel.unpack amount') : x ≤ y ↔ amount ≤ amount' :=
  (le_iff_rank_le (nonnegative_iff.mpr left.nonnegative)
    (nonnegative_iff.mpr right.nonnegative)).trans (place_le_place_iff left right)

/-- A number other than zero has one form only. -/
theorem Holds.unique (holds : Holds a v) (holds' : Holds b v) (some : v ≠ 0) : a = b := by
  generalize equal : v = w at holds'
  cases holds with
  | zero sign => exact absurd rfl some
  | @finite mantissa exponent positive normalized =>
    cases holds' with
    | zero sign => exact absurd equal some
    | @finite mantissa' exponent' positive' normalized' =>
      have before := (normalized.le_iff normalized').mp equal.le
      have behind := (normalized'.le_iff normalized).mp equal.ge
      obtain rfl : exponent = exponent' := by omega
      obtain rfl : mantissa = mantissa' := by omega
      rfl

theorem overflowed_mono (le : u ≤ v) : overflowed u ≤ overflowed v := by
  unfold overflowed
  split
  · split
    · exact WithTop.coe_le_coe.mpr le
    · exact le_top
  · next large => rw [if_neg fun fits => large (le.trans_lt fits)]

theorem amounts_add (left : Holds x.toModel.unpack u) (right : Holds y.toModel.unpack v) :
    ∃ w, Nearest (u + v) w ∧ Amounts (x + y).toModel.unpack (overflowed w) := by
  obtain ⟨w, holds, nearest⟩ := holds_add left right
  exact ⟨w, nearest, amounts_pack holds⟩

theorem amounts_add_infinite (left : Amounts x.toModel.unpack amount)
    (right : Amounts y.toModel.unpack amount') (infinite : amount = ⊤ ∨ amount' = ⊤) :
    Amounts (x + y).toModel.unpack ⊤ := by
  have sum : UnpackedFloat.add .binary64 x.toModel.unpack y.toModel.unpack =
      .infinity .positive := by
    generalize x.toModel.unpack = a at left
    generalize y.toModel.unpack = b at right
    cases left with
    | infinite =>
      cases right with
      | infinite => rfl
      | finite holds => cases holds <;> rfl
    | finite holds =>
      cases right with
      | infinite => cases holds <;> rfl
      | finite => simp at infinite
  have packed : (x + y).toModel.unpack = .infinity .positive :=
    congrArg (fun sum => unpack .binary64 (pack .binary64 sum)) sum
  exact packed ▸ .infinite

/-- A sum is not below its parts. -/
theorem le_add_right (left : 0 ≤ x) (right : 0 ≤ y) : x ≤ x + y := by
  obtain ⟨amount, amounts⟩ := exists_amounts_of_nonneg left
  obtain ⟨amount', amounts'⟩ := exists_amounts_of_nonneg right
  by_cases infinite : amount = ⊤ ∨ amount' = ⊤
  · exact (le_iff_of_amounts amounts (amounts_add_infinite amounts amounts' infinite)).mpr le_top
  · obtain ⟨some, some'⟩ := not_or.mp infinite
    obtain ⟨u, rfl⟩ := WithTop.ne_top_iff_exists.mp some
    obtain ⟨v, rfl⟩ := WithTop.ne_top_iff_exists.mp some'
    obtain ⟨w, nearest, sum⟩ := amounts_add amounts.holds amounts'.holds
    rw [le_iff_of_amounts amounts sum, ← amounts.overflowed_eq]
    have nonneg := amounts'.holds.nonneg
    exact overflowed_mono (nearest.ge amounts.holds.isDouble (by linarith))

theorem eq_of_unpack_eq (same : x.toModel.unpack = y.toModel.unpack) : x = y :=
  Float.toBits_inj.mp <| UInt64.toBitVec_inj.mp <|
    (unpack_inj_of_valid x.toModel.valid y.toModel.valid).mp same

/-- Adding the same keeps the order. -/
theorem add_le_add_right (left : 0 ≤ x) (right : 0 ≤ y) (nonneg : 0 ≤ z) (le : x ≤ y) :
    x + z ≤ y + z := by
  obtain ⟨amount, first⟩ := exists_amounts_of_nonneg left
  obtain ⟨amount', second⟩ := exists_amounts_of_nonneg right
  obtain ⟨added, third⟩ := exists_amounts_of_nonneg nonneg
  rw [le_iff_of_amounts first second] at le
  by_cases infinite : amount' = ⊤ ∨ added = ⊤
  · obtain ⟨sum, sums⟩ := exists_amounts_of_nonneg (add_nonnegative left nonneg)
    exact (le_iff_of_amounts sums (amounts_add_infinite second third infinite)).mpr le_top
  · obtain ⟨some, some'⟩ := not_or.mp infinite
    obtain ⟨u, rfl⟩ := WithTop.ne_top_iff_exists.mp (ne_top_of_le_ne_top some le)
    obtain ⟨v, rfl⟩ := WithTop.ne_top_iff_exists.mp some
    obtain ⟨w, rfl⟩ := WithTop.ne_top_iff_exists.mp some'
    obtain ⟨s, nearest, sum⟩ := amounts_add first.holds third.holds
    obtain ⟨s', nearest', sum'⟩ := amounts_add second.holds third.holds
    rw [le_iff_of_amounts sum sum']
    rcases (WithTop.coe_le_coe.mp le).lt_or_eq with less | rfl
    · exact overflowed_mono (nearest.mono nearest' (by linarith))
    · -- of two equally near numbers the choice is the same
      by_cases none : u = 0
      · subst none
        rw [zero_add] at nearest nearest'
        have double := third.holds.isDouble
        rw [nearest.eq_of_isDouble double, nearest'.eq_of_isDouble double]
      · obtain rfl := eq_of_unpack_eq (first.holds.unique second.holds none)
        exact (sum.unique sum').le

theorem holds_of_bits {mantissa : ℕ} {exponent : ℤ} {positive : 0 < mantissa} {bits : UInt64}
    (same : x.toModel.toBits = bits)
    (read : unpack .binary64 bits.toBitVec = .finite .positive mantissa exponent positive)
    (normalized : Normalized mantissa exponent) (value : (mantissa : ℚ) * 2 ^ exponent = v) :
    Holds x.toModel.unpack v := by
  rw [Float.Model.unpack, same, read, ← value]
  exact .finite positive normalized

/-- Whether a double is a number from zero to a whole one. -/
def Within (n : ℕ) (x : Float) : Prop := ∃ v, Holds x.toModel.unpack v ∧ v ≤ n

theorem natCast_lt (small : n < 2 ^ 53) : (n : ℚ) < 2 ^ (1024 : ℤ) := by
  calc (n : ℚ) < 2 ^ (53 : ℤ) := by exact_mod_cast small
    _ ≤ 2 ^ (1024 : ℤ) := zpow_le_zpow_right₀ one_le_two (by norm_num)

/-- A result that is not above a whole number is not above it once it is rounded and packed. -/
theorem exists_packed (holds : Holds a v) (nearest : Nearest u v) (le : u ≤ n)
    (small : n < 2 ^ 53) :
    ∃ v, Holds (unpack .binary64 (pack .binary64 a)) v ∧ v ≤ n := by
  have below : v ≤ n := nearest.le (isDouble_natCast small) le
  have packed := amounts_pack holds
  rw [overflowed, if_pos (below.trans_lt (natCast_lt small))] at packed
  exact ⟨v, packed.holds, below⟩

/-- What is divided by something not below it becomes one at most. -/
theorem within_div (left : Holds x.toModel.unpack u) (right : Holds y.toModel.unpack v) (le : u ≤ v)
    (divides : v ≠ 0) : Within 1 (x / y) := by
  obtain ⟨w, holds, nearest⟩ := holds_div left right divides
  have ratio : u / v ≤ (1 : ℕ) := by
    rw [Nat.cast_one]
    exact div_le_one_of_le₀ le right.nonneg
  exact exists_packed holds nearest ratio (by norm_num)

theorem Within.mul (left : Within m x) (right : Within n y) (small : m * n < 2 ^ 53) :
    Within (m * n) (x * y) := by
  obtain ⟨u, holds, le⟩ := left
  obtain ⟨v, holds', le'⟩ := right
  obtain ⟨w, product, nearest⟩ := holds_mul holds holds'
  refine exists_packed product nearest ?_ small
  rw [Nat.cast_mul]
  exact mul_le_mul le le' holds'.nonneg (Nat.cast_nonneg m)

/-- A number divided by infinity becomes zero. -/
theorem within_div_infinite (left : Holds x.toModel.unpack u)
    (right : y.toModel.unpack = .infinity .positive) : Within 0 (x / y) := by
  have quotient : ∃ sign,
      UnpackedFloat.div .binary64 x.toModel.unpack y.toModel.unpack = .zero sign := by
    rw [right]
    generalize x.toModel.unpack = a at left
    cases left with
    | zero sign => exact ⟨_, rfl⟩
    | finite => exact ⟨_, rfl⟩
  obtain ⟨sign, quotient⟩ := quotient
  have packed : (x / y).toModel.unpack = .zero sign :=
    (congrArg (fun quotient => unpack .binary64 (pack .binary64 quotient)) quotient).trans
      unpack_packedZero
  exact ⟨0, packed ▸ .zero sign, le_of_eq Nat.cast_zero.symm⟩

/-- A number that is not negative is finite or infinite. -/
theorem finite_or_infinite (nonneg : 0 ≤ x) :
    (x.isFinite = true ∧ ∃ v : ℚ, Amounts x.toModel.unpack v) ∨
      x.isFinite = false ∧ x.toModel.unpack = .infinity .positive := by
  obtain ⟨amount, amounts⟩ := exists_amounts_of_nonneg nonneg
  change (x.toModel.unpack.isFinite = true ∧ _) ∨ x.toModel.unpack.isFinite = false ∧ _
  generalize x.toModel.unpack = a at amounts ⊢
  cases amounts with
  | infinite => exact .inr ⟨rfl, rfl⟩
  | finite holds fits => exact .inl ⟨by cases holds <;> rfl, _, .finite holds fits⟩

/-- What is not below infinity is infinite. -/
theorem infinite_of_le (infinite : x.toModel.unpack = .infinity .positive) (nonneg : 0 ≤ y)
    (le : x ≤ y) : y.toModel.unpack = .infinity .positive := by
  have endless : Amounts x.toModel.unpack ⊤ := infinite ▸ .infinite
  rcases finite_or_infinite nonneg with ⟨-, v, amounts⟩ | ⟨-, infinite'⟩
  · have above := (le_iff_of_amounts endless amounts).mp le
    exact absurd (top_le_iff.mp above) WithTop.coe_ne_top
  · exact infinite'

/-- An infinite number has no share of an infinite one. -/
theorem div_infinite (left : x.toModel.unpack = .infinity .positive)
    (right : y.toModel.unpack = .infinity .positive) : x / y = Float.nan := by
  refine eq_of_unpack_eq (Eq.trans ?_ unpack_packedNaN.symm)
  change unpack .binary64 (pack .binary64 (UnpackedFloat.div .binary64 _ _)) = _
  rw [left, right]
  exact unpack_packedNaN

theorem le_trans_of_nonneg (first : 0 ≤ x) (second : 0 ≤ y) (third : 0 ≤ z) (below : x ≤ y)
    (above : y ≤ z) : x ≤ z := by
  rw [le_iff_rank_le first second] at below
  rw [le_iff_rank_le second third] at above
  exact (le_iff_rank_le first third).mpr (below.trans above)

theorem Within.isNaN (within : Within n x) : x.isNaN = false := by
  obtain ⟨v, holds, -⟩ := within
  change x.toModel.unpack.isNaN = false
  generalize x.toModel.unpack = a at holds
  cases holds <;> rfl

end Arithmetic

end TimeReports.Number
