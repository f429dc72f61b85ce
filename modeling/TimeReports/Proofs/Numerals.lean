import TimeReports.Display.Render

set_option autoImplicit false

namespace TimeReports

namespace Text

variable {first last text : Text}

/-- The characters that numbers and dates are written with. -/
def numericChars : Text := "0123456789.-+aefin".text

/-- Whether a text has only characters that numbers and dates are written with. -/
def Numeric (text : Text) : Prop := ∀ c ∈ text, c ∈ numericChars

instance (text : Text) : Decidable (Numeric text) := inferInstanceAs (Decidable (∀ _ ∈ text, _))

theorem Numeric.subset (numeric : Numeric last) (inside : first ⊆ last) : Numeric first :=
  fun c member => numeric c (inside member)

@[simp] theorem numeric_nil : Numeric [] := fun _ member => nomatch member

@[simp] theorem numeric_cons {c : CodePoint} :
    Numeric (c :: text) ↔ c ∈ numericChars ∧ Numeric text :=
  List.forall_mem_cons

@[simp] theorem numeric_append : Numeric (first ++ last) ↔ Numeric first ∧ Numeric last :=
  List.forall_mem_append

theorem numeric_digitChar : ∀ n : Fin 10, Numeric [digitChar n] := by decide

theorem numeric_paddedDigits (width n : Nat) : Numeric (paddedDigits width n) := by
  induction width generalizing n with
  | zero => exact numeric_nil
  | succ width ih =>
    have digit := numeric_digitChar ⟨n % 10, Nat.mod_lt n (by decide)⟩
    simp only [digitChar, Nat.mod_mod] at digit
    exact numeric_append.mpr ⟨ih (n / 10), digit⟩

theorem mem_numericChars_of_isDigit {digit : Char} (isDigit : digit.isDigit = true) :
    .char digit ∈ numericChars := by
  have digits : ∀ n : Fin 10, .char (Char.ofNat (48 + n)) ∈ numericChars := by decide
  rw [Char.isDigit, Bool.and_eq_true, decide_eq_true_eq, decide_eq_true_eq] at isDigit
  have least : 48 ≤ digit.toNat := isDigit.1
  have greatest : digit.toNat ≤ 57 := isDigit.2
  have member := digits ⟨digit.toNat - 48, by omega⟩
  have same : 48 + (digit.toNat - 48) = digit.toNat := by omega
  rwa [same, Char.ofNat_toNat] at member

theorem numeric_natDigits (n : Nat) : Numeric (natDigits n) := by
  intro c member
  obtain ⟨digit, inside, rfl⟩ := List.mem_map.mp member
  exact mem_numericChars_of_isDigit (Nat.isDigit_of_mem_toDigits (by decide) (by decide) inside)

theorem numeric_intDigits (n : Int) : Numeric (intDigits n) := by
  cases n with
  | ofNat n => exact numeric_natDigits n
  | negSucc n => exact numeric_cons.mpr ⟨by decide, numeric_natDigits (n + 1)⟩

theorem numeric_replicate {c : CodePoint} (count : Nat) (one : c ∈ numericChars) :
    Numeric (List.replicate count c) := by
  intro other member
  rw [List.eq_of_mem_replicate member]
  exact one

end Text

theorem Date.numeric_iso (date : Date) : Text.Numeric date.iso := by
  simp only [Date.iso, Text.numeric_append, Text.numeric_cons, Text.numeric_paddedDigits, true_and,
    and_true]
  decide

namespace Number

open Text

theorem numeric_signed {negative : Bool} {text : Text} (numeric : Numeric text) :
    Numeric (signed negative text) := by
  cases negative with
  | false => exact numeric
  | true => exact numeric_cons.mpr ⟨by decide, numeric⟩

theorem numeric_withPoint (places n : Nat) : Numeric (withPoint places n) := by
  unfold withPoint
  split
  · exact numeric_natDigits n
  · simp only [numeric_append, numeric_cons, numeric_natDigits, numeric_paddedDigits, true_and,
      and_true]
    decide

theorem numeric_fixed (places : Nat) (x : Float) : Numeric (fixed places x) := by
  unfold fixed
  split
  · decide
  · exact numeric_signed (by decide)
  · exact numeric_signed (numeric_withPoint _ _)

theorem numeric_exponentText (power : Int) : Numeric (exponentText power) := by
  have digits := numeric_natDigits power.natAbs
  have padded : Numeric (.char '0' :: natDigits power.natAbs) :=
    numeric_cons.mpr ⟨by decide, digits⟩
  unfold exponentText
  refine numeric_cons.mpr ⟨by decide, numeric_cons.mpr ⟨?_, ?_⟩⟩
  · split <;> decide
  · split
    · exact padded
    · exact digits

theorem numeric_withoutZeros {digits : Text} (numeric : Numeric digits) :
    Numeric (withoutZeros digits) := by
  unfold withoutZeros
  split
  · decide
  · refine numeric.subset fun c member => ?_
    have inside := List.mem_reverse.mp member
    exact List.mem_reverse.mp ((List.dropWhile_sublist _).subset inside)

theorem numeric_write (layout : Layout) {digits : Text} (power : Int) (numeric : Numeric digits) :
    Numeric (layout.write digits power) := by
  have kept := numeric_withoutZeros numeric
  have exponent := numeric_exponentText power
  have zeros (count : Nat) : Numeric (List.replicate count (.char '0')) :=
    numeric_replicate count (by decide)
  unfold Layout.write
  generalize withoutZeros digits = shown at kept
  dsimp only
  split
  · split
    · exact numeric_nil
    · next first =>
      rw [numeric_cons] at kept
      refine numeric_cons.mpr ⟨kept.1, numeric_append.mpr ⟨?_, exponent⟩⟩
      split <;> decide
    · next first rest _ =>
      rw [numeric_cons] at kept
      exact numeric_cons.mpr ⟨kept.1,
        numeric_cons.mpr ⟨by decide, numeric_append.mpr ⟨kept.2, exponent⟩⟩⟩
  · split
    · exact numeric_cons.mpr ⟨by decide,
        numeric_cons.mpr ⟨by decide, numeric_append.mpr ⟨zeros _, kept⟩⟩⟩
    · have padded := numeric_append.mpr ⟨kept, zeros (power.toNat + 1 - shown.length)⟩
      split
      · refine numeric_append.mpr ⟨padded, ?_⟩
        split <;> decide
      · refine numeric_append.mpr ⟨padded.subset (List.take_subset _ _),
          numeric_cons.mpr ⟨by decide, ?_⟩⟩
        exact padded.subset (List.drop_subset _ _)

theorem numeric_significant (count numerator denominator : Nat) :
    Numeric (significant count numerator denominator).1 := by
  unfold significant
  dsimp only
  split <;> exact numeric_natDigits _

theorem numeric_general (layout : Layout) (count : Nat) (x : Float) :
    Numeric (general layout count x) := by
  unfold general
  split
  · decide
  · exact numeric_signed (by decide)
  · refine numeric_signed ?_
    split
    · split <;> decide
    · exact numeric_write layout _ (numeric_significant _ _ _)

end Number

end TimeReports
