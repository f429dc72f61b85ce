import Mathlib.Data.Fintype.Basic
import Mathlib.Data.List.Induction
import Mathlib.Tactic.FinCases
import TimeReports.Proofs.Utf8
import TimeReports.Query.Basic

set_option autoImplicit false

namespace TimeReports

theorem CodePoint.toNat_ofNat (code : Nat) :
    (CodePoint.ofNat code).toNat = code ∨ CodePoint.ofNat code = .char '\uFFFD' := by
  unfold CodePoint.ofNat CodePoint.ofNat?
  split
  · next inside =>
    refine Or.inl ?_
    simp only [Option.getD_some, CodePoint.toNat]
    omega
  · cases found : CodePoint.charOf? code with
    | none => exact Or.inr rfl
    | some c => exact Or.inl (CodePoint.toNat_of_charOf? found).1

namespace Text

open CaseTable

variable {c d : CodePoint} {word : Text} {n : Nat}

/-- Whether the decimal digits of a text are among the ten. -/
def PlainDigits (text : Text) : Prop := ∀ c ∈ text, isDecimal c = true → c.toNat < 128

theorem PlainDigits.subset {text : Text} (plain : PlainDigits text) (inside : word ⊆ text) :
    PlainDigits word :=
  fun c member => plain c (inside member)

theorem decimalValue?_digitChar (n : Nat) : decimalValue? (digitChar n) = some (n % 10) := by
  have each : ∀ digit : Fin 10, decimalValue? (digitChar digit) = some digit.val := by decide
  have one := each ⟨n % 10, Nat.mod_lt n (by decide)⟩
  simp only [digitChar, Nat.mod_mod] at one
  exact one

theorem isDecimal_digitChar (n : Nat) : isDecimal (digitChar n) = true := by
  rw [isDecimal, decimalValue?_digitChar, Option.isSome_some]

/-- The ten digits are the decimal digits of ASCII. -/
theorem exists_digitChar (decimal : isDecimal c = true) (plain : c.toNat < 128) :
    ∃ digit < 10, c = digitChar digit := by
  have inTen : '0' ≤ c ∧ c ≤ '9' := by
    by_contra outside
    rw [isDecimal, decimalValue?, if_neg outside, if_pos plain] at decimal
    cases decimal
  have lower : 48 ≤ c.toNat := inTen.1
  have upper : c.toNat ≤ 57 := inTen.2
  have character : c.isSurrogate = false := by
    cases c with
    | char c => rfl
    | surrogate index =>
      simp only [CodePoint.toNat, CodePoint.firstSurrogate] at plain
      omega
  refine ⟨c.toNat - 48, by omega, ?_⟩
  rw [digitChar, Nat.mod_eq_of_lt (by omega), show 48 + (c.toNat - 48) = c.toNat by omega,
    CodePoint.ofNat_of_charOf? (CodePoint.charOf?_toNat character)]

/-- Words of the ten digits and the numbers that they write. The empty word counts as zero. -/
inductive Spells : Text → Nat → Prop
  | empty : Spells [] 0
  | append {front : Text} {n : Nat} (spells : Spells front n) (digit : Nat) (small : digit < 10) :
    Spells (front ++ [digitChar digit]) (10 * n + digit)

theorem numeralValue_append (front : Text) (digit : Nat) :
    numeralValue (front ++ [digitChar digit]) = 10 * numeralValue front + digit % 10 := by
  rw [numeralValue, List.foldl_append, List.foldl_cons, List.foldl_nil, decimalValue?_digitChar]
  rfl

theorem Spells.all_isDecimal (spells : Spells word n) : word.all isDecimal = true := by
  induction spells with
  | empty => rfl
  | append spells digit small ih =>
    rw [List.all_append, ih, List.all_cons, isDecimal_digitChar]
    rfl

theorem Spells.numeralValue_eq (spells : Spells word n) : numeralValue word = n := by
  induction spells with
  | empty => rfl
  | append spells digit small ih => rw [numeralValue_append, ih, Nat.mod_eq_of_lt small]

theorem spells_numeralValue (plain : PlainDigits word) (decimal : word.all isDecimal = true) :
    Spells word (numeralValue word) := by
  induction word using List.reverseRecOn with
  | nil => exact .empty
  | append_singleton front c ih =>
    rw [List.all_append, Bool.and_eq_true, List.all_cons, Bool.and_eq_true] at decimal
    have last : c ∈ front ++ [c] := List.mem_append_right _ (List.mem_singleton_self c)
    obtain ⟨digit, small, rfl⟩ := exists_digitChar decimal.2.1 (plain c last decimal.2.1)
    rw [numeralValue_append, Nat.mod_eq_of_lt small]
    exact .append (ih (plain.subset (List.subset_append_left _ _)) decimal.1) digit small

/-- Where the digits of a script outside ASCII stand. -/
theorem exists_zero (decimal : isDecimal d = true) (wide : 128 ≤ d.toNat) :
    ∃ base ∈ zeros, base ≤ d.toNat ∧ d.toNat < base + 10 := by
  have outside : ¬ ('0' ≤ d ∧ d ≤ '9') := by
    rintro ⟨-, low⟩
    have : d.toNat ≤ 57 := low
    omega
  rw [isDecimal, decimalValue?, if_neg outside, if_neg (by omega), Option.isSome_map,
    List.find?_isSome] at decimal
  simpa using decimal

/-- Whether a run of letters is moved past the digits of all scripts. -/
def passesDigits (run : Run) : Bool :=
  zeros.all fun base =>
    (run.last + run.shift).toNat < base || base + 9 < (run.first + run.shift).toNat

theorem passesDigits_runs : ∀ run ∈ runs upperRows, passesDigits run = true := by decide +kernel

theorem not_isDecimal_expansions : ∀ row ∈ upperExpansions, ∀ code ∈ row.2,
    isDecimal (CodePoint.ofNat code) = false := by decide +kernel

theorem not_isDecimal_shifted {run : Run} {code moved : Nat} (passes : passesDigits run = true)
    (shifted : run.shift? code = some moved) (wide : 128 ≤ (CodePoint.ofNat moved).toNat) :
    isDecimal (CodePoint.ofNat moved) = false := by
  rcases CodePoint.toNat_ofNat moved with same | replaced
  · by_contra decimal
    obtain ⟨base, member, low, high⟩ := exists_zero (Bool.not_eq_false _ ▸ decimal) wide
    unfold Run.shift? at shifted
    split at shifted
    · next inRun =>
      have apart := List.all_eq_true.mp passes base member
      simp only [Bool.or_eq_true, decide_eq_true_eq] at apart
      have moved_eq := Option.some.inj shifted
      omega
    · cases shifted
  · rw [replaced]
    decide

/-- Capital letters have no digits outside ASCII but those that were there. -/
theorem eq_of_mem_upperChar (member : d ∈ upperChar c) (decimal : isDecimal d = true)
    (wide : 128 ≤ d.toNat) : d = c := by
  unfold upperChar at member
  split at member
  · next small =>
    rw [List.mem_singleton] at member
    split at member
    · next inLetters =>
      rcases CodePoint.toNat_ofNat (c.toNat - 32) with same | replaced
      · rw [← member] at same
        omega
      · have undecimal : isDecimal (.char '\uFFFD') = false := by decide
        rw [member, replaced, undecimal] at decimal
        cases decimal
    · exact member
  · split at member
    · next codes found =>
      obtain ⟨code, inside, rfl⟩ := List.mem_map.mp member
      obtain ⟨before, after, rows, -⟩ := List.lookup_eq_some_iff.mp found
      have row : (c.toNat, codes) ∈ upperExpansions := by rw [rows]; simp
      rw [not_isDecimal_expansions _ row code inside] at decimal
      cases decimal
    · rw [List.mem_singleton] at member
      cases moved : (runs upperRows).findSome? (·.shift? c.toNat) with
      | none =>
        rw [moved] at member
        exact member
      | some code =>
        rw [moved, Option.elim_some] at member
        subst member
        obtain ⟨run, inRuns, shifted⟩ := List.exists_of_findSome?_eq_some moved
        rw [not_isDecimal_shifted (passesDigits_runs run inRuns) shifted wide] at decimal
        cases decimal

theorem PlainDigits.upper {text : Text} (plain : PlainDigits text) : PlainDigits (upper text) := by
  intro d member decimal
  by_contra wide
  obtain ⟨c, inside, written⟩ := List.mem_flatMap.mp member
  obtain rfl := eq_of_mem_upperChar written decimal (by omega)
  exact wide (plain d inside decimal)

end Text

namespace Calendar

open Text

/-- The literal of a year, a month and a day, each by its digits. -/
def literal (a b c d e f g h : Nat) : Text :=
  [digitChar a, digitChar b, digitChar c, digitChar d, .char '-', digitChar e, digitChar f,
    .char '-', digitChar g, digitChar h]

theorem hasLiteralShape_literal (a b c d e f g h : Nat) :
    hasLiteralShape (literal a b c d e f g h) = true := by
  simp [literal, hasLiteralShape, isDecimal_digitChar]

/-- A text with the shape of a date literal is the literal of its digits. -/
theorem exists_literal {word : Text} (plain : PlainDigits word)
    (shape : hasLiteralShape word = true) : ∃ a b c d e f g h, a < 10 ∧ b < 10 ∧ c < 10 ∧ d < 10 ∧
      e < 10 ∧ f < 10 ∧ g < 10 ∧ h < 10 ∧ word = literal a b c d e f g h := by
  unfold hasLiteralShape at shape
  split at shape
  · simp only [List.all_cons, List.all_nil, Bool.and_eq_true, beq_iff_eq, and_true] at shape
    obtain ⟨⟨rfl, rfl⟩, isA, isB, isC, isD, isE, isF, isG, isH⟩ := shape
    obtain ⟨a, smallA, rfl⟩ := exists_digitChar isA (plain _ (by simp) isA)
    obtain ⟨b, smallB, rfl⟩ := exists_digitChar isB (plain _ (by simp) isB)
    obtain ⟨c, smallC, rfl⟩ := exists_digitChar isC (plain _ (by simp) isC)
    obtain ⟨d, smallD, rfl⟩ := exists_digitChar isD (plain _ (by simp) isD)
    obtain ⟨e, smallE, rfl⟩ := exists_digitChar isE (plain _ (by simp) isE)
    obtain ⟨f, smallF, rfl⟩ := exists_digitChar isF (plain _ (by simp) isF)
    obtain ⟨g, smallG, rfl⟩ := exists_digitChar isG (plain _ (by simp) isG)
    obtain ⟨h, smallH, rfl⟩ := exists_digitChar isH (plain _ (by simp) isH)
    exact ⟨a, b, c, d, e, f, g, h, smallA, smallB, smallC, smallD, smallE, smallF, smallG, smallH,
      rfl⟩
  · cases shape

theorem takeMonth?_digits (tens units : Fin 10) (rest : Text) :
    takeMonth? (digitChar tens :: digitChar units :: .char '-' :: rest) =
      if 1 ≤ 10 * tens.val + units ∧ 10 * tens.val + units ≤ 12 then
        some (10 * tens.val + units, rest) else none := by
  fin_cases tens <;> fin_cases units <;> rfl

theorem takeDay?_digits : ∀ tens units : Fin 10,
    (takeDay? [digitChar tens, digitChar units]).filter (·.2.isEmpty) =
      if 1 ≤ 10 * tens.val + units ∧ 10 * tens.val + units ≤ 31 then
        some (10 * tens.val + units, []) else none := by
  decide

theorem isDay_bounds {year month day : Nat} (isDay : isDay year month day = true) :
    1 ≤ year ∧ year ≤ 9999 ∧ 1 ≤ month ∧ month ≤ 12 ∧ 1 ≤ day ∧ day ≤ 31 := by
  simp only [Calendar.isDay, Bool.and_eq_true, decide_eq_true_eq] at isDay
  have length : monthLength (isLeap year) month ≤ 31 := by
    unfold monthLength
    cases isLeap year <;> split <;> decide
  omega

theorem of?_eq_none {year month day : Nat}
    (outside : ¬ (1 ≤ year ∧ 1 ≤ month ∧ month ≤ 12 ∧ 1 ≤ day ∧ day ≤ 31)) :
    Date.of? year month day = none := by
  refine dif_neg fun isDay => outside ?_
  have := isDay_bounds isDay
  omega

theorem toOption_readDate {text rest : Text} {year month day : Nat}
    (taken : takeFields? text = some (year, month, day, rest)) :
    (readDate text).toOption = if rest.isEmpty then Date.of? year month day else none := by
  simp only [readDate, taken]
  cases empty : rest.isEmpty with
  | false => rfl
  | true =>
    by_cases zero : year = 0
    · rw [if_pos rfl, of?_eq_none (by omega)]
      simp [zero, Except.toOption]
    · cases found : Date.of? year month day <;> simp [zero, Except.toOption]

theorem toOption_readDate_of_none {text : Text} (untaken : takeFields? text = none) :
    (readDate text).toOption = none := by
  simp only [readDate, untaken]
  rfl

theorem takeFields?_literal (a b c d e f g h : Nat) : takeFields? (literal a b c d e f g h) =
    (do
      let (month, rest) ← takeMonth?
        [digitChar e, digitChar f, .char '-', digitChar g, digitChar h]
      let (day, rest) ← takeDay? rest
      some (numeralValue [digitChar a, digitChar b, digitChar c, digitChar d], month, day,
        rest)) :=
  if_pos (by simp [isDecimal_digitChar])

/-- A literal is read as the day that its digits name, if there is one. -/
theorem ofLiteral?_literal {a b c d e f g h : Nat} (smallA : a < 10) (smallB : b < 10)
    (smallC : c < 10) (smallD : d < 10) (smallE : e < 10) (smallF : f < 10) (smallG : g < 10)
    (smallH : h < 10) : ofLiteral? (literal a b c d e f g h) =
      Date.of? (1000 * a + 100 * b + 10 * c + d) (10 * e + f) (10 * g + h) := by
  have year : numeralValue [digitChar a, digitChar b, digitChar c, digitChar d] =
      1000 * a + 100 * b + 10 * c + d := by
    simp only [numeralValue, List.foldl_cons, List.foldl_nil, decimalValue?_digitChar,
      Option.getD_some]
    omega
  have month := takeMonth?_digits ⟨e, smallE⟩ ⟨f, smallF⟩ [digitChar g, digitChar h]
  have day := takeDay?_digits ⟨g, smallG⟩ ⟨h, smallH⟩
  have fields := takeFields?_literal a b c d e f g h
  rw [month, year] at fields
  rw [ofLiteral?, if_pos (hasLiteralShape_literal ..)]
  dsimp only at day fields
  by_cases inYear : 1 ≤ 10 * e + f ∧ 10 * e + f ≤ 12
  · rw [if_pos inYear, Option.bind_eq_bind, Option.bind_some] at fields
    by_cases inMonth : 1 ≤ 10 * g + h ∧ 10 * g + h ≤ 31
    · rw [if_pos inMonth, Option.filter_eq_some_iff] at day
      simp only [day.1, Option.bind_some] at fields
      exact toOption_readDate fields
    · rw [if_neg inMonth, Option.filter_eq_none_iff] at day
      rw [of?_eq_none (by omega)]
      cases taken : takeDay? [digitChar g, digitChar h] with
      | none =>
        simp only [taken, Option.bind_none] at fields
        exact toOption_readDate_of_none fields
      | some found =>
        simp only [taken, Option.bind_some] at fields
        rw [toOption_readDate fields, if_neg (day found taken)]
  · rw [if_neg inYear] at fields
    rw [of?_eq_none (by omega), toOption_readDate_of_none fields]

theorem iso_eq (date : Date) : date.iso = literal (date.year / 1000) (date.year / 100 % 10)
    (date.year / 10 % 10) (date.year % 10) (date.month / 10) (date.month % 10) (date.day / 10)
    (date.day % 10) := by
  have bounds := isDay_bounds date.isDay
  have digit {m n : Nat} (same : m % 10 = n % 10) : digitChar m = digitChar n := by
    rw [digitChar, digitChar, same]
  simp only [Date.iso, paddedDigits, literal, List.nil_append, List.cons_append, List.cons.injEq,
    true_and, and_true]
  exact ⟨digit (by omega), digit (by omega), digit (by omega), digit (by omega), digit (by omega),
    digit (by omega)⟩

/-- The date literals are the dates in writing. -/
theorem ofLiteral?_eq_some_iff {word : Text} (plain : PlainDigits word) {date : Date} :
    ofLiteral? word = some date ↔ word = date.iso := by
  have bounds := isDay_bounds date.isDay
  constructor
  · intro read
    cases shape : hasLiteralShape word with
    | false =>
      rw [ofLiteral?, shape] at read
      cases read
    | true =>
      obtain ⟨a, b, c, d, e, f, g, h, smallA, smallB, smallC, smallD, smallE, smallF, smallG,
        smallH, rfl⟩ := exists_literal plain shape
      rw [ofLiteral?_literal smallA smallB smallC smallD smallE smallF smallG smallH] at read
      obtain ⟨year, month, day⟩ := Date.of?_eq_some read
      rw [iso_eq, year, month, day]
      congr <;> omega
  · rintro rfl
    have found : Date.of? date.year date.month date.day = some date := dif_pos date.isDay
    rw [iso_eq, ofLiteral?_literal (by omega) (by omega) (by omega) (by omega) (by omega)
      (by omega) (by omega) (by omega), ← found]
    congr <;> omega

theorem mem_iso {date : Date} {c : CodePoint} (member : c ∈ date.iso) :
    c = .char '-' ∨ ∃ digit : Fin 10, c = digitChar digit := by
  have digit (n : Nat) : ∃ digit : Fin 10, digitChar n = digitChar digit :=
    ⟨⟨n % 10, Nat.mod_lt n (by decide)⟩, by simp only [digitChar, Nat.mod_mod]⟩
  rw [iso_eq, literal] at member
  simp only [List.mem_cons, List.not_mem_nil, or_false] at member
  rcases member with rfl | rfl | rfl | rfl | rfl | rfl | rfl | rfl | rfl | rfl
  all_goals first | exact Or.inr (digit _) | exact Or.inl rfl

theorem plainDigits_iso (date : Date) : PlainDigits date.iso := by
  have small : ∀ digit : Fin 10, (digitChar digit).toNat < 128 := by decide
  intro c member _
  rcases mem_iso member with rfl | ⟨digit, rfl⟩
  · decide
  · exact small digit

/-- A date that is written is read as itself. -/
theorem ofLiteral?_iso (date : Date) : ofLiteral? date.iso = some date :=
  (ofLiteral?_eq_some_iff (plainDigits_iso date)).mpr rfl

end Calendar
end TimeReports
