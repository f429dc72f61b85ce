import Mathlib.Data.List.Basic
import TimeReports.Proofs.Splitting
import TimeReports.Proofs.Utf8
import TimeReports.Text.Digit
import TimeReports.Text.Form

set_option autoImplicit false

namespace TimeReports.Text

variable {c : CodePoint} {text rest : Text}

theorem readPatchedUtf8_utf8 (characters : ∀ c ∈ text, c.isSurrogate = false) {fuel : Nat}
    (enough : text.length ≤ fuel) : readPatchedUtf8 fuel (utf8 text) = text := by
  induction text generalizing fuel with
  | nil => cases fuel <;> rfl
  | cons c text ih =>
    cases fuel with
    | zero => simp at enough
    | succ fuel =>
      have front := frontUtf8?_utf8Char (characters c (by simp)) (utf8 text)
      have behind := ih (fun c member => characters c (by simp [member]))
        (Nat.le_of_succ_le_succ enough)
      change readPatchedUtf8 _ (utf8Char c ++ utf8 text) = _
      cases bytes_eq : utf8Char c ++ utf8 text with
      | nil => simp [utf8Char_ne_nil c] at bytes_eq
      | cons byte bytes =>
        rw [bytes_eq] at front
        simp only [readPatchedUtf8, front, behind]

theorem ofPatchedUtf8_utf8 (characters : ∀ c ∈ text, c.isSurrogate = false) :
    ofPatchedUtf8 (utf8 text) = text :=
  readPatchedUtf8_utf8 characters (length_le_utf8 text)

theorem percentBytes_cons (other : c ≠ '%') :
    percentBytes (c :: rest) = utf8Char c ++ percentBytes rest := by
  rw [percentBytes.eq_def]
  split
  · next first => cases first; exact absurd rfl other
  · next first => cases first; rfl
  · next first => cases first

theorem percentDecode_of_not_mem (characters : ∀ c ∈ text, c.isSurrogate = false)
    (plain : .char '%' ∉ text) : percentDecode text = text := by
  have bytes : percentBytes text = utf8 text := by
    clear characters
    induction text with
    | nil => rfl
    | cons c text ih =>
      rw [List.mem_cons, not_or] at plain
      rw [percentBytes_cons (Ne.symm plain.1), ih plain.2]
      rfl
  rw [percentDecode, bytes, ofPatchedUtf8_utf8 characters]

/-- A character as a form shows it: a plus stands for a space. -/
def spaced (c : CodePoint) : CodePoint := if c = '+' then ' ' else c

theorem percentByte_read : ∀ b : UInt8, ∃ high low : CodePoint,
    percentByte b = [.char '%', high, low] ∧ hexValue? high = some (b.toNat / 16) ∧
      hexValue? low = some (b.toNat % 16) ∧ spaced high = high ∧ spaced low = low ∧
      ∀ mark ∈ "&=".text, mark ∉ percentByte b := by
  have digit : ∀ n < 16, hexValue? ("0123456789ABCDEF".text.getD n '0') = some n ∧
      spaced ("0123456789ABCDEF".text.getD n '0') = "0123456789ABCDEF".text.getD n '0' ∧
      ∀ mark ∈ "&=".text, mark ≠ "0123456789ABCDEF".text.getD n '0' := by decide
  intro b
  have small : b.toNat / 16 % 16 = b.toNat / 16 := by
    have := b.toNat_lt
    omega
  obtain ⟨high, highSpaced, highApart⟩ := digit (b.toNat / 16 % 16) (Nat.mod_lt _ (by decide))
  obtain ⟨low, lowSpaced, lowApart⟩ := digit (b.toNat % 16) (Nat.mod_lt _ (by decide))
  refine ⟨_, _, rfl, high.trans (congrArg some small), low, highSpaced, lowSpaced, ?_⟩
  intro mark among inside
  simp only [percentByte, List.mem_cons, List.not_mem_nil, or_false] at inside
  rcases inside with percent | same | same
  · subst percent
    revert among
    decide
  · exact highApart mark among same
  · exact lowApart mark among same

theorem percentBytes_bytes (bytes : Bytes) (rest : Text) :
    percentBytes ((bytes.flatMap percentByte).map spaced ++ rest) =
      bytes ++ percentBytes rest := by
  induction bytes with
  | nil => rfl
  | cons b bytes ih =>
    obtain ⟨high, low, written, highValue, lowValue, highSpaced, lowSpaced, -⟩ :=
      percentByte_read b
    have value : 16 * (b.toNat / 16) + b.toNat % 16 = b.toNat := by omega
    rw [List.flatMap_cons, written]
    simp only [List.cons_append, List.nil_append, List.map_cons, highSpaced, lowSpaced]
    rw [show spaced (.char '%') = .char '%' from rfl, percentBytes, highValue, lowValue]
    simp only [value, ih, ofNat_toNat_byte]

theorem isPlainInForm_spared (plain : isPlainInForm c = true) :
    c ≠ '%' ∧ spaced c = c ∧ ∀ mark ∈ "&=".text, mark ≠ c := by
  refine ⟨?_, ?_, ?_⟩
  · rintro rfl
    revert plain
    decide
  · unfold spaced
    split
    · next plus =>
      subst plus
      revert plain
      decide
    · rfl
  · rintro mark among rfl
    have apart : ∀ mark ∈ "&=".text, isPlainInForm mark = false := by decide
    rw [apart mark among] at plain
    cases plain

theorem not_mem_formEncode {mark : CodePoint} (among : mark ∈ "&=".text) (text : Text) :
    mark ∉ formEncode text := by
  intro inside
  obtain ⟨c, -, inside⟩ := List.mem_flatMap.mp inside
  unfold formChar at inside
  split at inside
  · next plain => exact (isPlainInForm_spared plain).2.2 mark among (List.mem_singleton.mp inside)
  split at inside
  · obtain rfl := List.mem_singleton.mp inside
    revert among
    decide
  · obtain ⟨b, -, inside⟩ := List.mem_flatMap.mp inside
    exact (percentByte_read b).elim fun _ ⟨_, read⟩ => read.2.2.2.2.2 mark among inside

theorem percentBytes_formEncode (text : Text) :
    percentBytes ((formEncode text).map spaced) = utf8 text := by
  induction text with
  | nil => rfl
  | cons c text ih =>
    change percentBytes ((formChar c ++ formEncode text).map spaced) = utf8Char c ++ utf8 text
    rw [List.map_append, ← ih, formChar]
    split
    · next plain =>
      obtain ⟨notPercent, same, -⟩ := isPlainInForm_spared plain
      rw [List.map_cons, List.map_nil, same, List.cons_append, List.nil_append,
        percentBytes_cons notPercent]
    split
    · next space =>
      subst space
      exact percentBytes_cons (by decide)
    · exact percentBytes_bytes _ _

/-- What a form writes for a text of characters is read as this text. -/
theorem percentDecode_formEncode (characters : ∀ c ∈ text, c.isSurrogate = false) :
    percentDecode ((formEncode text).map spaced) = text := by
  rw [percentDecode, percentBytes_formEncode, ofPatchedUtf8_utf8 characters]

theorem cutAt?_append {mark : CodePoint} (absent : mark ∉ text) :
    cutAt? mark (text ++ mark :: rest) = some (text, rest) := by
  induction text with
  | nil => simp [cutAt?]
  | cons c text ih =>
    rw [List.mem_cons, not_or] at absent
    simp [cutAt?, Ne.symm absent.1, ih absent.2]

/-- Whether a name or a value can be sent: no half of a pair stands alone in it. -/
def Whole (text : Text) : Prop := ∀ c ∈ text, c.isSurrogate = false

/-- A field as it is written holds none of the marks between fields. -/
theorem not_mem_field (field : Text × Text) :
    CodePoint.char '&' ∉ formEncode field.1 ++ .char '=' :: formEncode field.2 := by
  intro inside
  rcases List.mem_append.mp inside with inside | inside
  · exact not_mem_formEncode (by decide) _ inside
  rcases List.mem_cons.mp inside with same | inside
  · exact absurd same (by decide)
  · exact not_mem_formEncode (by decide) _ inside

theorem pieces_formQuery {fields : List (Text × Text)} (some_field : fields ≠ []) :
    pieces '&' (formQuery fields) =
      fields.map fun field => formEncode field.1 ++ .char '=' :: formEncode field.2 := by
  refine pieces_join (fun piece among => ?_) (by simpa using some_field)
  obtain ⟨field, -, rfl⟩ := List.mem_map.mp among
  exact not_mem_field field

/-- A query string tells the value of a field whose neighbours are known. -/
theorem value_of_formQuery {front back : List (Text × Text)} {name value other : Text}
    (whole : Whole value) (whole' : Whole other)
    (same : formQuery (front ++ (name, value) :: back) =
      formQuery (front ++ (name, other) :: back)) : value = other := by
  have written := congrArg (pieces '&') same
  rw [pieces_formQuery (by simp), pieces_formQuery (by simp), List.map_append, List.map_append,
    List.append_cancel_left_eq, List.map_cons, List.map_cons, List.cons.injEq,
    List.append_cancel_left_eq, List.cons.injEq] at written
  have read := congrArg (fun text => percentDecode (text.map spaced)) written.1.2
  dsimp only at read
  rwa [percentDecode_formEncode whole, percentDecode_formEncode whole'] at read

/-- The fields of a query string are those that it was written for. -/
theorem formFields_formQuery {fields : List (Text × Text)} (some_field : fields ≠ [])
    (whole : ∀ field ∈ fields, Whole field.1 ∧ Whole field.2) :
    formFields (formQuery fields) = fields := by
  unfold formFields
  rw [pieces_formQuery some_field, List.filterMap_map]
  refine (List.filterMap_congr fun field member => ?_).trans List.filterMap_some
  have cut : cutAt? '=' (formEncode field.1 ++ .char '=' :: formEncode field.2) =
      some (formEncode field.1, formEncode field.2) :=
    cutAt?_append (not_mem_formEncode (by decide) field.1)
  have name := percentDecode_formEncode (whole field member).1
  have value := percentDecode_formEncode (whole field member).2
  unfold spaced at name value
  simp only [Function.comp_apply, List.isEmpty_iff, List.append_eq_nil_iff, reduceCtorEq,
    and_false, ↓reduceIte, cut, name, value]

theorem whole_append {first last : Text} (front : Whole first) (behind : Whole last) :
    Whole (first ++ last) :=
  fun c member => (List.mem_append.mp member).elim (front c) (behind c)

theorem whole_text (s : String) : Whole s.text := by
  intro c member
  obtain ⟨char, -, rfl⟩ := List.mem_map.mp member
  rfl

theorem whole_natDigits (n : Nat) : Whole (natDigits n) := by
  intro c member
  obtain ⟨char, -, rfl⟩ := List.mem_map.mp member
  rfl

theorem whole_intDigits (n : Int) : Whole (intDigits n) := by
  cases n with
  | ofNat n => exact whole_natDigits n
  | negSucc n => exact List.forall_mem_cons.mpr ⟨rfl, whole_natDigits (n + 1)⟩

theorem percent_not_mem_intDigits (n : Int) : .char '%' ∉ intDigits n := by
  have digits (n : Nat) : .char '%' ∉ natDigits n := by
    intro member
    obtain ⟨char, inside, same⟩ := List.mem_map.mp member
    have isDigit := Nat.isDigit_of_mem_toDigits (by decide) (by decide) inside
    rw [CodePoint.char.inj same] at isDigit
    exact absurd isDigit (by decide)
  cases n with
  | ofNat n => exact digits n
  | negSucc n =>
    rw [intDigits, List.mem_cons, not_or]
    exact ⟨by decide, digits (n + 1)⟩

/-- A number is known by its digits. -/
theorem natDigits_inj {m n : Nat} : natDigits m = natDigits n ↔ m = n := by
  refine ⟨fun same => ?_, fun same => same ▸ rfl⟩
  have chars : Nat.toDigits 10 m = Nat.toDigits 10 n :=
    (List.map_inj_right fun _ _ => CodePoint.char.inj).mp same
  rw [← Nat.ofDigitChars_toDigits (b := 10) (n := m) (by decide) (by decide), chars,
    Nat.ofDigitChars_toDigits (by decide) (by decide)]

end TimeReports.Text
