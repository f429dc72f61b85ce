import TimeReports.Proofs.Numerals

set_option autoImplicit false

namespace TimeReports

namespace Text

variable {first last text : Text}

/-- Whether a text holds no character that ends a line. -/
def OneLine (text : Text) : Prop := ∀ c ∈ text, c ≠ .char '\n' ∧ c ≠ .char '\r'

instance (text : Text) : Decidable (OneLine text) := inferInstanceAs (Decidable (∀ _ ∈ text, _))

@[simp] theorem oneLine_append : OneLine (first ++ last) ↔ OneLine first ∧ OneLine last :=
  List.forall_mem_append

theorem text_ofList (chars : List Char) : (String.ofList chars).text = chars.map .char := by
  rw [String.text, String.toList_ofList]

/-- A string, given by its characters, is on one line. Unlike the text of the string these need not
be decoded to be looked at. -/
theorem oneLine_ofList {chars : List Char}
    (plain : (chars.all fun c => c != '\n' && c != '\r') = true) :
    OneLine (String.ofList chars).text := by
  rw [text_ofList]
  intro c member
  obtain ⟨char, inside, rfl⟩ := List.mem_map.mp member
  have apart := List.all_eq_true.mp plain char inside
  rw [Bool.and_eq_true, bne_iff_ne, bne_iff_ne] at apart
  exact ⟨fun same => apart.1 (CodePoint.char.inj same),
    fun same => apart.2 (CodePoint.char.inj same)⟩

theorem Numeric.oneLine (numeric : Numeric text) : OneLine text := by
  have chars : OneLine numericChars := by decide
  exact fun c member => chars c (numeric c member)

theorem oneLine_intDigits (n : Int) : OneLine (intDigits n) := (numeric_intDigits n).oneLine

end Text

theorem Date.oneLine_iso (date : Date) : Text.OneLine date.iso := date.numeric_iso.oneLine

theorem Number.oneLine_fixed (places : Nat) (x : Float) : Text.OneLine (fixed places x) :=
  (numeric_fixed places x).oneLine

theorem Number.oneLine_general (layout : Layout) (count : Nat) (x : Float) :
    Text.OneLine (general layout count x) :=
  (numeric_general layout count x).oneLine

theorem Display.color_mem_palette (rank : Int) : color rank ∈ palette := by
  have least : 0 ≤ rank % palette.length := Int.emod_nonneg rank (by decide)
  have less : rank % palette.length < palette.length := Int.emod_lt_of_pos rank (by decide)
  have inside : (rank % palette.length).toNat < palette.length := by omega
  rw [color, List.getD_eq_getElem?_getD, List.getElem?_eq_getElem inside]
  exact List.getElem_mem inside

end TimeReports
