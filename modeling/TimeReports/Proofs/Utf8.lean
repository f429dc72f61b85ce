import Mathlib.Data.List.TakeWhile
import TimeReports.Text.Unencodable

set_option autoImplicit false

namespace TimeReports

namespace CodePoint

theorem charOf?_toNat {c : CodePoint} (character : c.isSurrogate = false) :
    charOf? c.toNat = some c := by
  cases c with
  | surrogate index => cases character
  | char c =>
    have valid : c.toNat.isValidChar := c.valid
    simp only [toNat, charOf?, valid, ↓reduceDIte, Option.some.injEq, char.injEq]
    apply Char.ext
    apply UInt32.toNat_inj.mp
    simp only [Char.toNat, UInt32.toNat_ofNat']
    exact Nat.mod_eq_of_lt c.val.toNat_lt

theorem toNat_of_charOf? {code : Nat} {c : CodePoint} (found : charOf? code = some c) :
    c.toNat = code ∧ c.isSurrogate = false := by
  unfold charOf? at found
  split at found
  · rename_i valid
    cases found
    have small : code < 4294967296 := by rcases valid with h | ⟨_, h⟩ <;> omega
    refine ⟨?_, rfl⟩
    simp only [toNat, Char.toNat, UInt32.toNat_ofNat']
    exact Nat.mod_eq_of_lt small
  · cases found

theorem ofNat_of_charOf? {code : Nat} {c : CodePoint} (found : charOf? code = some c) :
    ofNat code = c := by
  have outside : ¬ (firstSurrogate ≤ code ∧ code < firstSurrogate + 2048) := by
    unfold charOf? at found
    split at found
    · rename_i valid
      rcases valid with h | ⟨h, _⟩ <;> unfold firstSurrogate <;> omega
    · cases found
  simp only [ofNat, ofNat?, outside, ↓reduceDIte, found, Option.getD_some]

theorem toNat_lt {c : CodePoint} (character : c.isSurrogate = false) :
    c.toNat < 0xD800 ∨ 0xDFFF < c.toNat ∧ c.toNat < 0x110000 := by
  cases c with
  | surrogate index => cases character
  | char c => exact c.valid

theorem exists_charOf? {code : Nat} (small : code < 0x80) : ∃ c, charOf? code = some c :=
  ⟨_, dif_pos (Or.inl (by omega))⟩

end CodePoint

namespace Text

theorem continuation?_ofNat (n : Nat) :
    continuation? (UInt8.ofNat (0x80 + n % 64)) = some (n % 64) := by
  have value : (UInt8.ofNat (0x80 + n % 64)).toNat = 0x80 + n % 64 := by
    simp only [UInt8.toNat_ofNat']
    omega
  simp only [continuation?, value]
  rw [if_pos (by omega)]
  simp

theorem eq_of_continuation? {b : UInt8} {value : Nat} (found : continuation? b = some value) :
    value < 64 ∧ b = UInt8.ofNat (0x80 + value) := by
  unfold continuation? at found
  split at found
  · rename_i inside
    have value_eq : b.toNat - 0x80 = value := Option.some.inj found
    refine ⟨by omega, ?_⟩
    apply UInt8.toNat_inj.mp
    rw [UInt8.toNat_ofNat', Nat.mod_eq_of_lt (by omega)]
    omega
  · cases found

theorem toNat_byte {n : Nat} (small : n < 256) : (UInt8.ofNat n).toNat = n := by
  rw [UInt8.toNat_ofNat', Nat.mod_eq_of_lt (by omega)]

section Front

variable {decode : Nat → Option CodePoint} {a b d e : UInt8} {x y z : Nat} {rest : Bytes}

theorem frontUtf8?_one (first : a.toNat < 0x80) :
    frontUtf8? decode (a :: rest) = some (CodePoint.ofNat a.toNat, rest) := by
  simp only [frontUtf8?, first, ↓reduceIte]

theorem frontUtf8?_two (first : 0xC2 ≤ a.toNat ∧ a.toNat < 0xE0)
    (second : continuation? b = some x) :
    frontUtf8? decode (a :: b :: rest) =
      (decode ((a.toNat - 0xC0) * 64 + x)).map fun c => (c, rest) := by
  have above : ¬ a.toNat < 0x80 := by omega
  simp only [frontUtf8?, above, first, second, and_self, ↓reduceIte, Option.bind_eq_bind,
    Option.bind_some, Option.map_eq_bind]
  rfl

theorem frontUtf8?_three (first : 0xE0 ≤ a.toNat ∧ a.toNat < 0xF0)
    (second : continuation? b = some x) (third : continuation? d = some y)
    (long : 0x800 ≤ (a.toNat - 0xE0) * 4096 + x * 64 + y) :
    frontUtf8? decode (a :: b :: d :: rest) =
      (decode ((a.toNat - 0xE0) * 4096 + x * 64 + y)).map fun c => (c, rest) := by
  have above : ¬ a.toNat < 0x80 := by omega
  have above' : ¬ (0xC2 ≤ a.toNat ∧ a.toNat < 0xE0) := by omega
  have long' : ¬ (a.toNat - 0xE0) * 4096 + x * 64 + y < 0x800 := by omega
  simp only [frontUtf8?, above, above', first, second, third, long', and_self, ↓reduceIte,
    Option.bind_eq_bind, Option.bind_some, Option.map_eq_bind]
  rfl

theorem frontUtf8?_four (first : 0xF0 ≤ a.toNat ∧ a.toNat < 0xF5)
    (second : continuation? b = some x) (third : continuation? d = some y)
    (fourth : continuation? e = some z)
    (long : 0x10000 ≤ (a.toNat - 0xF0) * 262144 + x * 4096 + y * 64 + z) :
    frontUtf8? decode (a :: b :: d :: e :: rest) =
      (decode ((a.toNat - 0xF0) * 262144 + x * 4096 + y * 64 + z)).map fun c => (c, rest) := by
  have above : ¬ a.toNat < 0x80 := by omega
  have above' : ¬ (0xC2 ≤ a.toNat ∧ a.toNat < 0xE0) := by omega
  have above'' : ¬ (0xE0 ≤ a.toNat ∧ a.toNat < 0xF0) := by omega
  have long' : ¬ (a.toNat - 0xF0) * 262144 + x * 4096 + y * 64 + z < 0x10000 := by omega
  unfold frontUtf8?
  dsimp only
  -- One rewriting step for each byte: unfolding the chain at once makes the sums be computed.
  rw [if_neg above, if_neg above', if_neg above'', if_pos first, second, third, fourth,
    Option.bind_eq_bind, Option.bind_some, Option.bind_eq_bind, Option.bind_some,
    Option.bind_some, if_neg long', Option.map_eq_bind]
  rfl

variable {c : CodePoint}

theorem ofNat_toNat_byte (a : UInt8) : UInt8.ofNat a.toNat = a := by simp

theorem utf8Char_eq_one (first : a.toNat < 0x80) (code : c.toNat = a.toNat) :
    utf8Char c = [a] := by
  simp only [utf8Char, code, first, ↓reduceIte, ofNat_toNat_byte]

theorem utf8Char_eq_two (first : 0xC2 ≤ a.toNat ∧ a.toNat < 0xE0)
    (second : continuation? b = some x) (code : c.toNat = (a.toNat - 0xC0) * 64 + x) :
    utf8Char c = [a, b] := by
  obtain ⟨small, rfl⟩ := eq_of_continuation? second
  generalize code_eq : c.toNat = n at code
  have lower : ¬ n < 0x80 := by omega
  have upper : n < 0x800 := by omega
  have lead : 0xC0 + n / 64 = a.toNat := by omega
  have last : n % 64 = x := by omega
  simp only [utf8Char, code_eq, lower, upper, ↓reduceIte, Nat.shiftRight_eq_div_pow,
    Nat.pow_zero, Nat.div_one, lead, last, ofNat_toNat_byte]

theorem utf8Char_eq_three (first : 0xE0 ≤ a.toNat ∧ a.toNat < 0xF0)
    (second : continuation? b = some x) (third : continuation? d = some y)
    (long : 0x800 ≤ (a.toNat - 0xE0) * 4096 + x * 64 + y)
    (code : c.toNat = (a.toNat - 0xE0) * 4096 + x * 64 + y) : utf8Char c = [a, b, d] := by
  obtain ⟨small, rfl⟩ := eq_of_continuation? second
  obtain ⟨small', rfl⟩ := eq_of_continuation? third
  generalize code_eq : c.toNat = n at code
  have lower : ¬ n < 0x80 := by omega
  have middle : ¬ n < 0x800 := by omega
  have upper : n < 0x10000 := by omega
  have lead : 0xE0 + n / 4096 = a.toNat := by omega
  have next : n / 2 ^ 6 % 64 = x := by omega
  have last : n % 64 = y := by omega
  simp only [utf8Char, code_eq, lower, middle, upper, ↓reduceIte, Nat.shiftRight_eq_div_pow,
    Nat.pow_zero, Nat.div_one, lead, next, last, ofNat_toNat_byte]

theorem utf8Char_eq_four (first : 0xF0 ≤ a.toNat ∧ a.toNat < 0xF5)
    (second : continuation? b = some x) (third : continuation? d = some y)
    (fourth : continuation? e = some z)
    (long : 0x10000 ≤ (a.toNat - 0xF0) * 262144 + x * 4096 + y * 64 + z)
    (code : c.toNat = (a.toNat - 0xF0) * 262144 + x * 4096 + y * 64 + z) :
    utf8Char c = [a, b, d, e] := by
  obtain ⟨small, rfl⟩ := eq_of_continuation? second
  obtain ⟨small', rfl⟩ := eq_of_continuation? third
  obtain ⟨small'', rfl⟩ := eq_of_continuation? fourth
  generalize code_eq : c.toNat = n at code
  have lower : ¬ n < 0x80 := by omega
  have middle : ¬ n < 0x800 := by omega
  have upper : ¬ n < 0x10000 := by omega
  have lead : 0xF0 + n / 262144 = a.toNat := by omega
  have next : n / 2 ^ 12 % 64 = x := by omega
  have after : n / 2 ^ 6 % 64 = y := by omega
  have last : n % 64 = z := by omega
  simp only [utf8Char, code_eq, lower, middle, upper, ↓reduceIte, Nat.shiftRight_eq_div_pow,
    Nat.pow_zero, Nat.div_one, lead, next, after, last, ofNat_toNat_byte]

end Front

/-- The front of what a character is written as is that character. -/
theorem frontUtf8?_utf8Char {c : CodePoint} (character : c.isSurrogate = false) (rest : Bytes) :
    frontUtf8? CodePoint.charOf? (utf8Char c ++ rest) = some (c, rest) := by
  have bound := CodePoint.toNat_lt character
  have back := CodePoint.charOf?_toNat character
  generalize code_eq : c.toNat = code at bound back
  simp only [utf8Char, code_eq, Nat.shiftRight_eq_div_pow, Nat.reducePow, Nat.div_one]
  split
  · rename_i one
    have lead := toNat_byte (show code < 256 by omega)
    rw [List.cons_append, List.nil_append, frontUtf8?_one (by omega), lead,
      CodePoint.ofNat_of_charOf? back]
  · split
    · have lead := toNat_byte (show 0xC0 + code / 64 < 256 by omega)
      have joined : (0xC0 + code / 64 - 0xC0) * 64 + code % 64 = code := by omega
      rw [List.cons_append, List.cons_append, List.nil_append,
        frontUtf8?_two (by omega) (continuation?_ofNat _), lead, joined, back, Option.map_some]
    · split
      · have lead := toNat_byte (show 0xE0 + code / 4096 < 256 by omega)
        have joined : (0xE0 + code / 4096 - 0xE0) * 4096 + code / 64 % 64 * 64 + code % 64
            = code := by omega
        rw [List.cons_append, List.cons_append, List.cons_append, List.nil_append,
          frontUtf8?_three (by omega) (continuation?_ofNat _) (continuation?_ofNat _) (by omega),
          lead, joined, back, Option.map_some]
      · have lead := toNat_byte (show 0xF0 + code / 262144 < 256 by omega)
        have joined : (0xF0 + code / 262144 - 0xF0) * 262144 + code / 4096 % 64 * 4096
            + code / 64 % 64 * 64 + code % 64 = code := by omega
        rw [List.cons_append, List.cons_append, List.cons_append, List.cons_append,
          List.nil_append, frontUtf8?_four (by omega) (continuation?_ofNat _)
            (continuation?_ofNat _) (continuation?_ofNat _) (by omega),
          lead, joined, back, Option.map_some]

/-- Whatever is read as a character is what this character is written as. -/
theorem eq_of_frontUtf8? {bytes rest : Bytes} {c : CodePoint}
    (found : frontUtf8? CodePoint.charOf? bytes = some (c, rest)) :
    bytes = utf8Char c ++ rest ∧ c.isSurrogate = false := by
  unfold frontUtf8? at found
  split at found
  · cases found
  · rename_i a behind
    dsimp only at found
    split at found
    · rename_i one
      obtain ⟨d, decoded⟩ := CodePoint.exists_charOf? one
      rw [CodePoint.ofNat_of_charOf? decoded] at found
      cases found
      obtain ⟨code, character⟩ := CodePoint.toNat_of_charOf? decoded
      rw [utf8Char_eq_one one code]
      exact ⟨rfl, character⟩
    split at found
    · rename_i two
      split at found
      · simp only [Option.bind_eq_bind, Option.bind_eq_some_iff] at found
        obtain ⟨x, second, d, decoded, ended⟩ := found
        cases ended
        obtain ⟨code, character⟩ := CodePoint.toNat_of_charOf? decoded
        rw [utf8Char_eq_two two second code]
        exact ⟨rfl, character⟩
      · cases found
    split at found
    · rename_i three
      split at found
      · simp only [Option.bind_eq_bind, Option.bind_eq_some_iff] at found
        obtain ⟨x, second, y, third, found⟩ := found
        split at found
        · cases found
        · rename_i long
          simp only [Option.bind_eq_some_iff] at found
          obtain ⟨d, decoded, ended⟩ := found
          cases ended
          obtain ⟨code, character⟩ := CodePoint.toNat_of_charOf? decoded
          rw [utf8Char_eq_three three second third (Nat.le_of_not_lt long) code]
          exact ⟨rfl, character⟩
      · cases found
    split at found
    · rename_i four
      split at found
      · simp only [Option.bind_eq_bind, Option.bind_eq_some_iff] at found
        obtain ⟨x, second, y, third, z, fourth, found⟩ := found
        split at found
        · cases found
        · rename_i long
          simp only [Option.bind_eq_some_iff] at found
          obtain ⟨d, decoded, ended⟩ := found
          cases ended
          obtain ⟨code, character⟩ := CodePoint.toNat_of_charOf? decoded
          rw [utf8Char_eq_four four second third fourth (Nat.le_of_not_lt long) code]
          exact ⟨rfl, character⟩
      · cases found
    · cases found

theorem utf8Char_ne_nil (c : CodePoint) : utf8Char c ≠ [] := by
  unfold utf8Char
  dsimp only
  repeat' split
  all_goals exact List.cons_ne_nil _ _

theorem readUtf8?_utf8 {text : Text} (characters : ∀ c ∈ text, c.isSurrogate = false) {fuel : Nat}
    (enough : text.length ≤ fuel) : readUtf8? CodePoint.charOf? fuel (utf8 text) = some text := by
  induction text generalizing fuel with
  | nil => cases fuel <;> rfl
  | cons c text ih =>
    cases fuel with
    | zero => simp at enough
    | succ fuel =>
      have front := frontUtf8?_utf8Char (characters c (by simp)) (utf8 text)
      have behind := ih (fun c member => characters c (by simp [member]))
        (Nat.le_of_succ_le_succ enough)
      have nonempty := utf8Char_ne_nil c
      change readUtf8? _ _ (utf8Char c ++ utf8 text) = _
      cases bytes_eq : utf8Char c ++ utf8 text with
      | nil => simp [nonempty] at bytes_eq
      | cons byte bytes =>
        rw [bytes_eq] at front
        simp only [readUtf8?, front, Option.bind_eq_bind, Option.bind_some, behind]

theorem eq_of_readUtf8? {bytes : Bytes} {text : Text} {fuel : Nat}
    (found : readUtf8? CodePoint.charOf? fuel bytes = some text) :
    bytes = utf8 text ∧ ∀ c ∈ text, c.isSurrogate = false := by
  induction fuel generalizing bytes text with
  | zero =>
    cases bytes with
    | nil => cases found; exact ⟨rfl, by simp⟩
    | cons byte bytes => cases found
  | succ fuel ih =>
    cases bytes with
    | nil => cases found; exact ⟨rfl, by simp⟩
    | cons byte bytes =>
      simp only [readUtf8?, Option.bind_eq_bind, Option.bind_eq_some_iff, Prod.exists] at found
      obtain ⟨c, rest, front, behind, read, ended⟩ := found
      cases ended
      obtain ⟨written, character⟩ := eq_of_frontUtf8? front
      obtain ⟨rest_eq, characters⟩ := ih read
      refine ⟨by rw [written, rest_eq]; rfl, ?_⟩
      simpa [character] using characters

theorem length_le_utf8 (text : Text) : text.length ≤ (utf8 text).length := by
  induction text with
  | nil => exact Nat.le_refl 0
  | cons c text ih =>
    have positive := List.length_pos_iff.mpr (utf8Char_ne_nil c)
    simp only [utf8, List.flatMap_cons, List.length_append, List.length_cons] at ih ⊢
    omega

/-- Strict reading gives a text exactly for the bytes that it is written as. -/
theorem ofUtf8?_eq_some_iff {bytes : Bytes} {text : Text} :
    ofUtf8? bytes = some text ↔ bytes = utf8 text ∧ ∀ c ∈ text, c.isSurrogate = false := by
  constructor
  · exact eq_of_readUtf8?
  · rintro ⟨rfl, characters⟩
    exact readUtf8?_utf8 characters (length_le_utf8 text)

theorem inUtf8?_eq_none_iff {text : Text} :
    Unencodable.inUtf8? text = none ↔ ∀ c ∈ text, c.isSurrogate = false := by
  simp [Unencodable.inUtf8?, Unencodable.find?, List.dropWhile_eq_nil_iff]

end Text
end TimeReports
