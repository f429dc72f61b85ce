import TimeReports.Console
import TimeReports.Harvest.Program
import TimeReports.Proofs.Forms

set_option autoImplicit false

namespace TimeReports

namespace Text

theorem whole_paddedHex (width n : Nat) : Whole (paddedHex width n) := by
  have digits : ∀ n < 16, (hexDigit n).isSurrogate = false := by decide
  induction width generalizing n with
  | zero => exact fun _ member => absurd member List.not_mem_nil
  | succ width ih =>
    refine whole_append (ih (n / 16)) (List.forall_mem_singleton.mpr ?_)
    have digit := digits (n % 16) (Nat.mod_lt n (by decide))
    rwa [hexDigit, Nat.mod_mod] at digit

theorem whole_codeChar (c : CodePoint) : Whole (codeChar c) := by
  unfold codeChar
  split <;> [skip; split] <;>
    exact List.forall_mem_cons.mpr ⟨rfl, List.forall_mem_cons.mpr ⟨rfl, whole_paddedHex _ _⟩⟩

theorem Unencodable.whole_report (encoding reason : String) (found : Unencodable) :
    Whole (report encoding reason found) := by
  have place : Whole (if found.count = 1 then
      " '".text ++ codeChar found.first ++ "' in position ".text ++ natDigits found.offset
    else
      "s in position ".text ++ natDigits found.offset ++ "-".text
        ++ natDigits (found.offset + found.count - 1)) := by
    split
    · exact whole_append (whole_append (whole_append (whole_text _) (whole_codeChar _))
        (whole_text _)) (whole_natDigits _)
    · exact whole_append (whole_append (whole_append (whole_text _) (whole_natDigits _))
        (whole_text _)) (whole_natDigits _)
  exact whole_append (whole_append (whole_append (whole_append (whole_append (whole_text _)
    (whole_text _)) (whole_text _)) place) (whole_text _)) (whole_text _)

end Text

variable [Console] {text : Text}

namespace Console

theorem takes_iff : Takes text ↔ ∀ c ∈ text, c.isSurrogate = true → passes c = true := by
  rw [Takes, refusal?, Text.Unencodable.find?, Option.map_eq_none_iff, List.head?_eq_none_iff,
    List.dropWhile_eq_nil_iff]
  refine forall₂_congr fun c _ => ?_
  cases c.isSurrogate <;> simp

/-- Every console takes a text of characters. -/
theorem takes_of_whole (whole : Text.Whole text) : Takes text :=
  takes_iff.mpr fun c member surrogate => nomatch (whole c member).symm.trans surrogate

theorem takes_append_iff {first last : Text} :
    Takes (first ++ last) ↔ Takes first ∧ Takes last := by
  simp only [takes_iff, List.forall_mem_append]

end Console

namespace Program

variable {σ : Type}

@[simp] theorem say_text (s : String) :
    (say s.text : Program σ Unit) = tell (.line s.text) (done ()) :=
  say_of_takes (Console.takes_of_whole (Text.whole_text s))

/-- A program that goes on behind a line has written the line. -/
theorem takes_of_returned {α : Type} {next : Unit → Program σ α} {state : σ}
    {replies : List Harvest.Reply} {value : α}
    (returned : (((say text).bind next).run state replies).outcome = .returned value) :
    Console.Takes text := by
  cases refused : Console.refusal? text with
  | none => exact refused
  | some found =>
    rw [say_of_refusal refused] at returned
    cases returned

end Program
end TimeReports
