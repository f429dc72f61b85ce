import TimeReports.Proofs.Literals

set_option autoImplicit false

namespace TimeReports

namespace Text

variable {c : CodePoint} {text : Text} {n : Nat}

/-- A character, or the one of the ten digits that is worth the same. -/
def plainDigit (c : CodePoint) : CodePoint := (decimalValue? c).elim c digitChar

theorem decimalValue?_lt (worth : decimalValue? c = some n) : n < 10 := by
  by_cases plain : c.toNat < 128
  · obtain ⟨digit, small, rfl⟩ := exists_digitChar (by rw [isDecimal, worth]; rfl) plain
    rw [decimalValue?_digitChar, Nat.mod_eq_of_lt small] at worth
    exact Option.some.inj worth ▸ small
  · have outside : ¬ ('0' ≤ c ∧ c ≤ '9') := by
      rintro ⟨-, low⟩
      have : c.toNat ≤ 57 := low
      omega
    rw [decimalValue?, if_neg outside, if_neg plain, Option.map_eq_some_iff] at worth
    obtain ⟨base, found, rfl⟩ := worth
    have inside := List.find?_some found
    simp only [Bool.decide_and, Bool.and_eq_true, decide_eq_true_eq] at inside
    omega

theorem plainDigit_of_isDecimal (decimal : isDecimal c = true) :
    ∃ digit < 10, decimalValue? c = some digit ∧ plainDigit c = digitChar digit := by
  obtain ⟨digit, worth⟩ := Option.isSome_iff_exists.mp decimal
  exact ⟨digit, decimalValue?_lt worth, worth, by rw [plainDigit, worth]; rfl⟩

theorem plainDigit_of_not_isDecimal (other : ¬ isDecimal c = true) : plainDigit c = c := by
  rw [isDecimal, Option.not_isSome_iff_eq_none] at other
  rw [plainDigit, other]
  rfl

@[simp] theorem decimalValue?_plainDigit (c : CodePoint) :
    decimalValue? (plainDigit c) = decimalValue? c := by
  by_cases decimal : isDecimal c = true
  · obtain ⟨digit, small, worth, written⟩ := plainDigit_of_isDecimal decimal
    rw [written, decimalValue?_digitChar, Nat.mod_eq_of_lt small, worth]
  · rw [plainDigit_of_not_isDecimal decimal]

@[simp] theorem isDecimal_plainDigit (c : CodePoint) : isDecimal (plainDigit c) = isDecimal c := by
  rw [isDecimal, isDecimal, decimalValue?_plainDigit]

theorem plainDigit_of_lt (plain : c.toNat < 128) : plainDigit c = c := by
  by_cases decimal : isDecimal c = true
  · obtain ⟨digit, small, rfl⟩ := exists_digitChar decimal plain
    rw [plainDigit, decimalValue?_digitChar, Nat.mod_eq_of_lt small]
    rfl
  · exact plainDigit_of_not_isDecimal decimal

theorem plainDigit_lt (decimal : isDecimal c = true) : (plainDigit c).toNat < 128 := by
  have small : ∀ digit : Fin 10, (digitChar digit).toNat < 128 := by decide
  obtain ⟨digit, inTen, -, written⟩ := plainDigit_of_isDecimal decimal
  rw [written]
  exact small ⟨digit, inTen⟩

theorem plainDigits_map_plainDigit (text : Text) : PlainDigits (text.map plainDigit) := by
  intro d member decimal
  obtain ⟨c, -, rfl⟩ := List.mem_map.mp member
  exact plainDigit_lt (isDecimal_plainDigit c ▸ decimal)

theorem PlainDigits.map_plainDigit (plain : PlainDigits text) : text.map plainDigit = text := by
  refine List.map_congr_left (fun c member => ?_) |>.trans (List.map_id text)
  by_cases decimal : isDecimal c = true
  · exact plainDigit_of_lt (plain c member decimal)
  · exact plainDigit_of_not_isDecimal decimal

theorem numeralValue_map_plainDigit (text : Text) :
    numeralValue (text.map plainDigit) = numeralValue text := by
  rw [numeralValue, numeralValue, List.foldl_map]
  simp only [decimalValue?_plainDigit]

theorem plainDigit_eq_iff {mark : CodePoint} (other : isDecimal mark = false) :
    plainDigit c = mark ↔ c = mark := by
  by_cases decimal : isDecimal c = true
  · have written : isDecimal (plainDigit c) = true := isDecimal_plainDigit c ▸ decimal
    refine iff_of_false (fun same => ?_) (fun same => ?_)
    · rw [same, other] at written
      cases written
    · rw [same, other] at decimal
      cases decimal
  · rw [plainDigit_of_not_isDecimal decimal]

end Text

namespace Calendar

open Text

variable {word : Text} {date : Date} {a b c d e f g h : CodePoint}

theorem lt_of_le_nine (low : c ≤ CodePoint.char '9') : c.toNat < 128 := by
  have : c.toNat ≤ 57 := low
  omega

/-- The month of a literal is read from two of the ten digits. -/
theorem takeMonth?_eq_some {found : Nat × Text} {rest : Text} (decimal : isDecimal f = true)
    (taken : takeMonth? (e :: f :: .char '-' :: rest) = some found) :
    e.toNat < 128 ∧ f.toNat < 128 ∧ found.2 = rest := by
  unfold takeMonth? at taken
  split at taken
  · next same =>
    obtain ⟨rfl, rfl, -, rfl⟩ := same
    split at taken
    · next inside =>
      have : f.toNat ≤ 50 := inside.2
      cases taken
      exact ⟨by decide, by omega, rfl⟩
    · cases taken
  · next same =>
    obtain ⟨rfl, rfl, -, rfl⟩ := same
    split at taken
    · next inside =>
      cases taken
      exact ⟨by decide, lt_of_le_nine inside.2, rfl⟩
    · cases taken
  · next same =>
    obtain ⟨rfl, rfl, -⟩ := same
    cases decimal
  · cases taken

theorem takeShortDay?_eq_some {day : Nat} (taken : takeShortDay? [h] = some (day, [])) :
    h.toNat < 128 := by
  unfold takeShortDay? at taken
  dsimp only at taken
  split at taken
  · next inside => exact lt_of_le_nine inside.2
  · cases taken

/-- The day of a literal is read from two of the ten digits, but for the last one behind a one or a
two. -/
theorem takeDay?_eq_some {day : Nat} (decimal : isDecimal h = true)
    (taken : takeDay? [g, h] = some (day, [])) :
    g.toNat < 128 ∧ (h.toNat < 128 ∨ g = .char '1' ∨ g = .char '2') := by
  unfold takeDay? at taken
  split at taken
  · next same =>
    obtain ⟨rfl, rfl, rfl⟩ := same
    split at taken
    · next ends => rcases ends with rfl | rfl <;> exact ⟨by decide, Or.inl (by decide)⟩
    · cases taken
  · next same =>
    obtain ⟨rfl, rfl⟩ := same
    exact ⟨by decide, Or.inl (takeShortDay?_eq_some taken)⟩
  · next same =>
    obtain ⟨rfl, rfl⟩ := same
    exact ⟨by decide, Or.inl (takeShortDay?_eq_some taken)⟩
  · next same =>
    obtain ⟨rfl, rfl, rfl⟩ := same
    split at taken
    · next tens => rcases tens with rfl | rfl <;> exact ⟨by decide, Or.inr (by decide)⟩
    · unfold takeShortDay? at taken
      dsimp only at taken
      split at taken <;> cases taken
  · next unmatched => exact absurd rfl (unmatched g h [])

theorem takeDay?_plainDigit (decimal : isDecimal h = true)
    (last : h.toNat < 128 ∨ g = .char '1' ∨ g = .char '2') :
    takeDay? [g, plainDigit h] = takeDay? [g, h] := by
  obtain ⟨units, worth⟩ := Option.isSome_iff_exists.mp decimal
  have written : decimalValue? (plainDigit h) = some units :=
    (decimalValue?_plainDigit h).trans worth
  rcases last with plain | rfl | rfl
  · rw [plainDigit_of_lt plain]
  · simp [takeDay?, worth, written]
  · simp [takeDay?, worth, written]

/-- Ten characters with hyphens between them are a literal that may be read: they are digits, and
those of the month and the day are among the ten, but for the last one behind a one or a two. -/
structure Legible (a b c d e f g h : CodePoint) : Prop where
  digits : [a, b, c, d, e, f, g, h].all isDecimal = true
  tensOfMonth : e.toNat < 128
  unitsOfMonth : f.toNat < 128
  tensOfDay : g.toNat < 128
  unitsOfDay : h.toNat < 128 ∨ g = .char '1' ∨ g = .char '2'

theorem exists_digits (shape : hasLiteralShape word = true) : ∃ a b c d e f g h,
    word = [a, b, c, d, .char '-', e, f, .char '-', g, h] ∧
      [a, b, c, d, e, f, g, h].all isDecimal = true := by
  unfold hasLiteralShape at shape
  split at shape
  · simp only [Bool.and_eq_true, beq_iff_eq] at shape
    obtain ⟨⟨rfl, rfl⟩, digits⟩ := shape
    exact ⟨_, _, _, _, _, _, _, _, rfl, digits⟩
  · cases shape

theorem takeFields?_eq (a b c d : CodePoint) (rest : Text) :
    takeFields? (a :: b :: c :: d :: .char '-' :: rest) =
      if [a, b, c, d].all isDecimal then
        (takeMonth? rest).bind fun month => (takeDay? month.2).bind fun day =>
          some (numeralValue [a, b, c, d], month.1, day.1, day.2)
      else none := rfl

theorem legible_of_takeFields? {year month day : Nat}
    (digits : [a, b, c, d, e, f, g, h].all isDecimal = true)
    (taken : takeFields? [a, b, c, d, .char '-', e, f, .char '-', g, h] =
      some (year, month, day, [])) : Legible a b c d e f g h := by
  have each := digits
  simp only [List.all_cons, List.all_nil, Bool.and_eq_true, and_true] at each
  obtain ⟨-, -, -, -, decimalE, decimalF, -, decimalH⟩ := each
  rw [takeFields?_eq] at taken
  split at taken
  · obtain ⟨⟨month', rest⟩, takenMonth, taken⟩ := Option.bind_eq_some_iff.mp taken
    obtain ⟨⟨day', rest'⟩, takenDay, fields⟩ := Option.bind_eq_some_iff.mp taken
    cases fields
    obtain ⟨tens, units, rfl⟩ := takeMonth?_eq_some decimalF takenMonth
    obtain ⟨tens', units'⟩ := takeDay?_eq_some decimalH takenDay
    exact ⟨digits, tens, units, tens', units'⟩
  · cases taken

/-- What is read is legible. -/
theorem exists_legible (read : ofLiteral? word = some date) : ∃ a b c d e f g h,
    word = [a, b, c, d, .char '-', e, f, .char '-', g, h] ∧ Legible a b c d e f g h := by
  rw [ofLiteral?, Option.ite_none_right_eq_some] at read
  obtain ⟨shape, read⟩ := read
  obtain ⟨a, b, c, d, e, f, g, h, rfl, digits⟩ := exists_digits shape
  cases taken : takeFields? [a, b, c, d, .char '-', e, f, .char '-', g, h] with
  | none =>
    rw [toOption_readDate_of_none taken] at read
    cases read
  | some fields =>
    obtain ⟨year, month, day, rest⟩ := fields
    rw [toOption_readDate taken] at read
    split at read
    · next ended =>
      obtain rfl := List.isEmpty_iff.mp ended
      exact ⟨a, b, c, d, e, f, g, h, rfl, legible_of_takeFields? digits taken⟩
    · cases read

theorem toOption_readDate_congr {other : Text} (same : takeFields? other = takeFields? word) :
    (readDate other).toOption = (readDate word).toOption := by
  cases taken : takeFields? word with
  | none => rw [toOption_readDate_of_none taken, toOption_readDate_of_none (same.trans taken)]
  | some fields => rw [toOption_readDate taken, toOption_readDate (same.trans taken)]

theorem hasLiteralShape_digits (digits : [a, b, c, d, e, f, g, h].all isDecimal = true) :
    hasLiteralShape [a, b, c, d, .char '-', e, f, .char '-', g, h] = true := by
  rw [hasLiteralShape, digits]
  rfl

theorem plainDigit_hyphen : plainDigit (.char '-') = .char '-' := by decide

theorem takeFields?_map_plainDigit (legible : Legible a b c d e f g h) :
    takeFields? ([a, b, c, d, .char '-', e, f, .char '-', g, h].map plainDigit) =
      takeFields? [a, b, c, d, .char '-', e, f, .char '-', g, h] := by
  have digits := legible.digits
  simp only [List.all_cons, List.all_nil, Bool.and_eq_true, and_true] at digits
  obtain ⟨-, -, -, -, decimalE, decimalF, -, decimalH⟩ := digits
  have sameE := plainDigit_of_lt legible.tensOfMonth
  have sameF := plainDigit_of_lt legible.unitsOfMonth
  have sameG := plainDigit_of_lt legible.tensOfDay
  have day := takeDay?_plainDigit decimalH legible.unitsOfDay
  have year := numeralValue_map_plainDigit [a, b, c, d]
  obtain ⟨tens, smallE, rfl⟩ := exists_digitChar decimalE legible.tensOfMonth
  obtain ⟨units, smallF, rfl⟩ := exists_digitChar decimalF legible.unitsOfMonth
  have month := takeMonth?_digits ⟨tens, smallE⟩ ⟨units, smallF⟩
  simp only [List.map_cons, List.map_nil] at year
  simp only [List.map_cons, List.map_nil, plainDigit_hyphen, sameE, sameF, sameG]
  rw [takeFields?_eq, takeFields?_eq, month, month, year]
  simp only [List.all_cons, List.all_nil, isDecimal_plainDigit]
  split
  · split
    · simp only [Option.bind_some, day]
    · rfl
  · rfl

/-- A legible literal is read as the one with its digits among the ten. -/
theorem ofLiteral?_map_plainDigit (legible : Legible a b c d e f g h) :
    ofLiteral? ([a, b, c, d, .char '-', e, f, .char '-', g, h].map plainDigit) =
      ofLiteral? [a, b, c, d, .char '-', e, f, .char '-', g, h] := by
  have digits : [plainDigit a, plainDigit b, plainDigit c, plainDigit d, plainDigit e, plainDigit f,
      plainDigit g, plainDigit h].all isDecimal = true := by
    simpa only [List.all_cons, List.all_nil, isDecimal_plainDigit] using legible.digits
  have shape := hasLiteralShape_digits digits
  rw [ofLiteral?, ofLiteral?, if_pos (hasLiteralShape_digits legible.digits),
    ← toOption_readDate_congr (takeFields?_map_plainDigit legible)]
  simp only [List.map_cons, List.map_nil, plainDigit_hyphen]
  exact if_pos shape

/-- Where in a date a digit may come from any script: in the year, and at the end of a day from the
tenth to the twenty-ninth. -/
def AnyScript (date : Date) (place : Nat) : Prop :=
  place < 4 ∨ place = 9 ∧ 10 ≤ date.day ∧ date.day < 30

/-- Whether a word is a date in writing, some of whose digits may come from any script. -/
structure IsSpelling (date : Date) (word : Text) : Prop where
  plain : word.map plainDigit = date.iso
  script : ∀ place c, word[place]? = some c → AnyScript date place ∨ c.toNat < 128

theorem IsSpelling.exists_legible (spelling : IsSpelling date word) : ∃ a b c d e f g h,
    word = [a, b, c, d, .char '-', e, f, .char '-', g, h] ∧ Legible a b c d e f g h := by
  have same := spelling.plain
  rw [iso_eq, literal] at same
  simp only [List.map_eq_cons_iff, List.map_eq_nil_iff] at same
  obtain ⟨a, _, rfl, sameA, b, _, rfl, sameB, c, _, rfl, sameC, d, _, rfl, sameD, x, _, rfl, sameX,
    e, _, rfl, sameE, f, _, rfl, sameF, y, _, rfl, sameY, g, _, rfl, sameG, h, _, rfl, sameH,
    rfl⟩ := same
  have digit {other : CodePoint} {n : Nat} (written : plainDigit other = digitChar n) :
      isDecimal other = true := by rw [← isDecimal_plainDigit, written, isDecimal_digitChar]
  have fixed (place : Nat) (other : CodePoint)
      (found : [a, b, c, d, x, e, f, y, g, h][place]? = some other)
      (own : ¬ AnyScript date place) : other.toNat < 128 :=
    (spelling.script place other found).resolve_left own
  have smallG : g.toNat < 128 := fixed 8 g rfl (by unfold AnyScript; omega)
  have last : h.toNat < 128 ∨ g = .char '1' ∨ g = .char '2' := by
    refine (spelling.script 9 h rfl).symm.imp_right fun late => ?_
    have between : date.day / 10 = 1 ∨ date.day / 10 = 2 := by unfold AnyScript at late; omega
    rw [plainDigit_of_lt smallG] at sameG
    rcases between with tens | tens
    · exact Or.inl (by rw [sameG, tens]; decide)
    · exact Or.inr (by rw [sameG, tens]; decide)
  rw [plainDigit_eq_iff (by decide)] at sameX sameY
  subst sameX sameY
  refine ⟨a, b, c, d, e, f, g, h, rfl, ?_, fixed 5 e rfl (by unfold AnyScript; omega),
    fixed 6 f rfl (by unfold AnyScript; omega), smallG, last⟩
  simp only [List.all_cons, List.all_nil, digit sameA, digit sameB, digit sameC, digit sameD,
    digit sameE, digit sameF, digit sameG, digit sameH, Bool.and_self]

theorem isSpelling_of_read (read : ofLiteral? word = some date) : IsSpelling date word := by
  obtain ⟨a, b, c, d, e, f, g, h, rfl, legible⟩ := Calendar.exists_legible read
  have plain : [a, b, c, d, .char '-', e, f, .char '-', g, h].map plainDigit = date.iso := by
    rw [← ofLiteral?_eq_some_iff (plainDigits_map_plainDigit _), ofLiteral?_map_plainDigit legible,
      read]
  have tens : plainDigit g = digitChar (date.day / 10) := by
    rw [iso_eq, literal] at plain
    simp only [List.map_cons, List.cons.injEq] at plain
    exact plain.2.2.2.2.2.2.2.2.1
  have last : AnyScript date 9 ∨ h.toNat < 128 := by
    refine legible.unitsOfDay.symm.imp_left fun oneOrTwo => Or.inr ⟨rfl, ?_⟩
    have bounds := isDay_bounds date.isDay
    have worth := congrArg decimalValue? tens
    rw [decimalValue?_plainDigit, decimalValue?_digitChar] at worth
    rcases oneOrTwo with rfl | rfl
    · have one : 1 = date.day / 10 % 10 := Option.some.inj worth
      omega
    · have two : 2 = date.day / 10 % 10 := Option.some.inj worth
      omega
  refine ⟨plain, fun place other found => ?_⟩
  by_cases inYear : place < 4
  · exact Or.inl (Or.inl inYear)
  · have inside : place < 10 := (List.getElem?_eq_some_iff.mp found).1
    obtain rfl | rfl | rfl | rfl | rfl | rfl : place = 4 ∨ place = 5 ∨ place = 6 ∨ place = 7 ∨
      place = 8 ∨ place = 9 := by omega
    all_goals obtain rfl := Option.some.inj found
    · exact Or.inr (by decide)
    · exact Or.inr legible.tensOfMonth
    · exact Or.inr legible.unitsOfMonth
    · exact Or.inr (by decide)
    · exact Or.inr legible.tensOfDay
    · exact last

/-- A date is read from its spellings. -/
theorem ofLiteral?_eq_some_iff_isSpelling : ofLiteral? word = some date ↔ IsSpelling date word := by
  refine ⟨isSpelling_of_read, fun spelling => ?_⟩
  have plain := spelling.plain
  obtain ⟨a, b, c, d, e, f, g, h, rfl, legible⟩ := spelling.exists_legible
  rw [← ofLiteral?_map_plainDigit legible, plain, ofLiteral?_iso]

/-- A date that is read from a literal has the literal as its spelling, and is written like it
exactly if the digits of the literal are among the ten. Two literals of such digits are read as one
date only if they are the same. -/
theorem iso_eq_iff_plainDigits (read : ofLiteral? word = some date) :
    IsSpelling date word ∧ (date.iso = word ↔ PlainDigits word) ∧
      ∀ other day, ofLiteral? other = some day →
        (day = date ↔ other.map plainDigit = word.map plainDigit) ∧
        (PlainDigits word → PlainDigits other → (day = date ↔ other = word)) := by
  have spelling := isSpelling_of_read read
  refine ⟨spelling, ⟨?_, fun plain => ((ofLiteral?_eq_some_iff plain).mp read).symm⟩, ?_⟩
  · rintro rfl
    exact plainDigits_iso date
  · intro other day read'
    have same : day = date ↔ other.map plainDigit = word.map plainDigit := by
      rw [spelling.plain, (isSpelling_of_read read').plain]
      refine ⟨congrArg Date.iso, fun alike => Option.some.inj ?_⟩
      rw [← ofLiteral?_iso day, alike, ofLiteral?_iso]
    refine ⟨same, fun plain plain' => ?_⟩
    rw [same, plain.map_plainDigit, plain'.map_plainDigit]

def leapDay : Date := ⟨2024, 2, 29, by decide⟩

/-- A leap day with its year in wide digits and its last digit in Arabic ones, and as it is
written. -/
theorem leapDay_spelled : ofLiteral? "２０２４-02-2٩".text = some leapDay ∧
    ofLiteral? "2024-02-29".text = some leapDay ∧ IsSpelling leapDay "２０２４-02-2٩".text ∧
    ¬ PlainDigits "２０２４-02-2٩".text ∧
    "2024-02-29".text.map plainDigit = "２０２４-02-2٩".text.map plainDigit := by
  have wide : ofLiteral? "２０２４-02-2٩".text = some leapDay := by decide
  have plain : ofLiteral? "2024-02-29".text = some leapDay := by decide
  obtain ⟨spelling, written, alone⟩ := iso_eq_iff_plainDigits wide
  exact ⟨wide, plain, spelling, fun digits => absurd (written.mpr digits) (by decide),
    (alone _ _ plain).1.mp rfl⟩

/-- What is read from the wide and Arabic digits is written in another way. -/
theorem leapDay_iso_ne : ofLiteral? "２０２４-02-2٩".text = some leapDay ∧
    leapDay.iso ≠ "２０２４-02-2٩".text ∧ ofLiteral? leapDay.iso = some leapDay := by
  decide

end Calendar
end TimeReports
