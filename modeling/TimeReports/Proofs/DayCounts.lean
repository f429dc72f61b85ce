import TimeReports.Query.Basic

set_option autoImplicit false

namespace TimeReports

theorem Number.readNumeral_eq_ok_iff {digits : Text} {value : Nat} :
    readNumeral digits = .ok value ↔
      digits.length ≤ digitLimit ∧ Text.numeralValue digits = value := by
  unfold readNumeral
  by_cases long : digitLimit < digits.length
  · simp only [long, ↓reduceIte, reduceCtorEq, Nat.not_le.mpr long, false_and]
  · simp only [long, ↓reduceIte, Except.ok.injEq, Nat.not_lt.mp long, true_and]

namespace Date

open Calendar

theorem ordinal_pos (date : Date) : 1 ≤ date.ordinal := by
  have fields := date.isDay
  simp only [Calendar.isDay, Bool.and_eq_true, decide_eq_true_eq] at fields
  unfold ordinal
  omega

theorem daysBeforeMonth_add_monthLength_le : ∀ (leap : Bool) (month : Fin 13), 1 ≤ month.val →
    daysBeforeMonth leap month + monthLength leap month ≤ if leap then 366 else 365 := by
  decide

theorem ordinal_le_lastOrdinal (date : Date) : date.ordinal ≤ lastOrdinal := by
  have fields := date.isDay
  simp only [Calendar.isDay, Bool.and_eq_true, decide_eq_true_eq] at fields
  have small : date.month < 13 := by omega
  have length := daysBeforeMonth_add_monthLength_le (isLeap date.year) ⟨date.month, small⟩
    fields.1.1.1.2
  have next := daysBeforeYear_succ date.year fields.1.1.1.1.1
  have end' : daysBeforeYear (date.year + 1) ≤ lastOrdinal := by
    unfold daysBeforeYear lastOrdinal
    omega
  unfold ordinal
  dsimp only at length
  omega

theorem addDays?_eq_none_iff {date : Date} {days : Int} : date.addDays? days = none ↔
    (date.ordinal : Int) + days < 1 ∨ (lastOrdinal : Int) < date.ordinal + days := by
  unfold addDays?
  dsimp only
  by_cases early : (date.ordinal : Int) + days < 1
  · simp only [early, ↓reduceIte, true_or]
  · simp only [early, ↓reduceIte, false_or]
    by_cases late : (lastOrdinal : Int) < date.ordinal + days
    · have beyond : ¬ (1 ≤ ((date.ordinal : Int) + days).toNat ∧
          ((date.ordinal : Int) + days).toNat ≤ lastOrdinal) := by omega
      simp only [ofOrdinal?, beyond, ↓reduceIte, late]
    · obtain ⟨found, is⟩ := exists_ofOrdinal?
        (show 1 ≤ ((date.ordinal : Int) + days).toNat by omega)
        (show ((date.ordinal : Int) + days).toNat ≤ lastOrdinal by omega)
      simp only [is, reduceCtorEq, late]

end Date

namespace DateRange

open Calendar

/-- The ordinal of the Sunday on or behind a day. -/
def sundayOf (date : Date) : Nat := date.ordinal - date.weekday + 6

theorem weekday_lt_ordinal (date : Date) : date.weekday < date.ordinal := by
  have := date.ordinal_pos
  unfold Date.weekday
  omega

theorem week_error_iff {date : Date} :
    (∃ fault, week date = .error fault) ↔ lastOrdinal < sundayOf date := by
  have inside := weekday_lt_ordinal date
  have last := date.ordinal_le_lastOrdinal
  unfold week sundayOf
  split
  · next unfound =>
    have := Date.addDays?_eq_none_iff.mp unfound
    omega
  · next monday found =>
    have start := Date.ordinal_of_addDays? found
    split
    · next unfound =>
      have := Date.addDays?_eq_none_iff.mp unfound
      have late : lastOrdinal < date.ordinal - date.weekday + 6 := by omega
      simp only [Except.error.injEq, exists_eq', late]
    · next sunday found' =>
      have end' := Date.ordinal_of_addDays? found'
      have := sunday.ordinal_le_lastOrdinal
      have early : ¬ lastOrdinal < date.ordinal - date.weekday + 6 := by omega
      simp only [reduceCtorEq, exists_false, early]

theorem upTo_error_iff {date : Date} {before : Nat} :
    (∃ fault, upTo date before = .error fault) ↔ date.ordinal ≤ before := by
  have last := date.ordinal_le_lastOrdinal
  unfold lastOrdinal at last
  unfold upTo
  by_cases large : 2147483647 < before
  · have early : date.ordinal ≤ before := by omega
    simp only [large, ↓reduceIte, Except.error.injEq, exists_eq', early]
  · by_cases long : 999999999 < before
    · have early : date.ordinal ≤ before := by omega
      simp only [large, long, ↓reduceIte, Except.error.injEq, exists_eq', early]
    · simp only [large, long, ↓reduceIte]
      split
      · next unfound =>
        have beyond := Date.addDays?_eq_none_iff.mp unfound
        have early : date.ordinal ≤ before := by
          unfold lastOrdinal at beyond
          omega
        simp only [Except.error.injEq, exists_eq', early]
      · next first found =>
        have start := Date.ordinal_of_addDays? found
        have := first.ordinal_pos
        have inside : ¬ date.ordinal ≤ before := by omega
        simp only [reduceCtorEq, exists_false, inside]

end DateRange

namespace Query

open Calendar

/-- The words of a query whose days cannot be counted from an anchor day. -/
inductive OutsideCalendar (anchor : Date) : List Text → Prop
  /-- The week of the anchor ends behind the calendar. -/
  | week (kind : ReportKind) (late : lastOrdinal < DateRange.sundayOf anchor) :
    OutsideCalendar anchor [kind.keyword, "WEEK".text]
  /-- A count is written with more digits than are read, whatever stands behind it. -/
  | digits (kind : ReportKind) (count : Text) (behind : List Text)
    (numeral : Text.isNumeral count = true) (long : Number.digitLimit < count.length) :
    OutsideCalendar anchor (kind.keyword :: "PAST".text :: count :: behind)
  /-- The calendar has fewer days up to the anchor than are counted. -/
  | days (kind : ReportKind) (count : Text) (numeral : Text.isNumeral count = true)
    (short : count.length ≤ Number.digitLimit)
    (early : anchor.ordinal < Text.numeralValue count) :
    OutsideCalendar anchor [kind.keyword, "PAST".text, count, "DAYS".text]

theorem kindOf?_keyword (kind : ReportKind) : ReportKind.of? kind.keyword = some kind := by
  cases kind <;> decide

theorem eq_keyword_of_kindOf? {word : Text} {kind : ReportKind}
    (found : ReportKind.of? word = some kind) : word = kind.keyword := by
  unfold ReportKind.of? at found
  split at found
  · next same =>
    cases found
    exact same
  · split at found
    · next same =>
      cases found
      exact same
    · cases found

/-- Whether a range is refused for the days that it counts. -/
def Uncounted {α : Type} (range : Except ParseFault α) : Prop :=
  ∃ fault, range = .error (.days fault)

theorem uncounted_mapError {range : Except DayFault DateRange} :
    Uncounted (range.mapError .days) ↔ ∃ fault, range = .error fault := by
  constructor
  · rintro ⟨fault, same⟩
    cases range with
    | error fault => exact ⟨fault, rfl⟩
    | ok range => cases same
  · rintro ⟨fault, rfl⟩
    exact ⟨fault, rfl⟩

theorem uncounted_behind {words : List Text} {range : Except ParseFault DateRange} :
    Uncounted (do nothingBehind words; range) ↔ words = [] ∧ Uncounted range := by
  cases words with
  | nil => simp [nothingBehind, Uncounted, bind, Except.bind]
  | cons word words => simp [nothingBehind, Uncounted, bind, Except.bind]

theorem not_uncounted_malformed {α : Type} (fault : QueryFault) :
    ¬ Uncounted (.error (.malformed fault) : Except ParseFault α) := by
  rintro ⟨other, same⟩
  cases same

theorem not_uncounted_ok {α : Type} (value : α) : ¬ Uncounted (.ok value) := by
  rintro ⟨fault, same⟩
  cases same

theorem uncounted_days {rest : List Text} {anchor : Date} {before : Nat} {count : Text}
    (numeral : Text.isNumeral count = true) (short : count.length ≤ Number.digitLimit)
    (value : Text.numeralValue count = before + 1) :
    Uncounted (pastRange (count :: rest) anchor) ↔
      rest = ["DAYS".text] ∧ anchor.ordinal ≤ before := by
  have read := Number.readNumeral_eq_ok_iff.mpr ⟨short, value⟩
  simp only [pastRange, numeral, Bool.not_true, Bool.false_eq_true, ↓reduceIte, read]
  cases rest with
  | nil => simp only [not_uncounted_malformed, reduceCtorEq, false_and]
  | cons unit behind =>
    by_cases days : unit = "DAYS".text
    · simp only [days, ne_eq, not_true_eq_false, ↓reduceIte, uncounted_behind, uncounted_mapError,
        DateRange.upTo_error_iff, List.cons.injEq, true_and]
    · simp only [days, ne_eq, not_false_eq_true, ↓reduceIte, not_uncounted_malformed,
        List.cons.injEq, false_and]

theorem uncounted_pastRange {words : List Text} {anchor : Date} :
    Uncounted (pastRange words anchor) ↔ ∃ count behind, words = count :: behind ∧
      Text.isNumeral count = true ∧ (Number.digitLimit < count.length ∨
        count.length ≤ Number.digitLimit ∧ behind = ["DAYS".text] ∧
          anchor.ordinal < Text.numeralValue count) := by
  cases words with
  | nil => simp only [pastRange, not_uncounted_malformed, reduceCtorEq, false_and, exists_false]
  | cons count behind =>
    have only : (∃ count' behind', count :: behind = count' :: behind' ∧
        Text.isNumeral count' = true ∧ (Number.digitLimit < count'.length ∨
          count'.length ≤ Number.digitLimit ∧ behind' = ["DAYS".text] ∧
            anchor.ordinal < Text.numeralValue count')) ↔
        Text.isNumeral count = true ∧ (Number.digitLimit < count.length ∨
          count.length ≤ Number.digitLimit ∧ behind = ["DAYS".text] ∧
            anchor.ordinal < Text.numeralValue count) := by
      constructor
      · rintro ⟨_, _, same, rest⟩
        obtain ⟨rfl, rfl⟩ := List.cons.inj same
        exact rest
      · intro rest
        exact ⟨count, behind, rfl, rest⟩
    rw [only]
    by_cases numeral : Text.isNumeral count = true
    · simp only [numeral, true_and]
      by_cases long : Number.digitLimit < count.length
      · have read : Number.readNumeral count = .error (.tooLong count.length) := if_pos long
        simp only [pastRange, numeral, Bool.not_true, Bool.false_eq_true, ↓reduceIte, read, long,
          true_or, iff_true]
        exact ⟨_, rfl⟩
      · have short := Nat.not_lt.mp long
        simp only [long, short, false_or, true_and]
        cases value : Text.numeralValue count with
        | zero =>
          have read := Number.readNumeral_eq_ok_iff.mpr ⟨short, value⟩
          simp only [pastRange, numeral, Bool.not_true, Bool.false_eq_true, ↓reduceIte, read,
            not_uncounted_malformed, Nat.not_lt_zero, and_false]
        | succ before =>
          rw [uncounted_days numeral short value, Nat.lt_succ_iff]
    · simp only [pastRange, numeral, Bool.not_false, ↓reduceIte, not_uncounted_malformed,
        Bool.false_eq_true, false_and]

theorem not_uncounted_readLiteral (word : Text) : ¬ Uncounted (readLiteral word) := by
  unfold readLiteral
  split
  · exact not_uncounted_ok _
  · exact not_uncounted_malformed _

theorem not_uncounted_fromRange (words : List Text) : ¬ Uncounted (fromRange words) := by
  unfold fromRange
  split
  · next start middle stop behind =>
    split
    · exact not_uncounted_malformed _
    · rw [uncounted_behind]
      rintro ⟨-, fault, refused⟩
      cases first : readLiteral start with
      | error other =>
        rw [first] at refused
        cases refused
        exact not_uncounted_readLiteral start ⟨fault, first⟩
      | ok firstDay =>
        cases last : readLiteral stop with
        | error other =>
          rw [first, last] at refused
          cases refused
          exact not_uncounted_readLiteral stop ⟨fault, last⟩
        | ok lastDay =>
          simp only [first, last, bind, Except.bind] at refused
          split at refused <;> cases refused
  · exact not_uncounted_malformed _

theorem resolveRange_week (words : List Text) (anchor : Date) :
    resolveRange "WEEK".text words anchor =
      (do nothingBehind words; (DateRange.week anchor).mapError .days) := by
  rw [resolveRange, if_neg (by decide), if_pos rfl]

theorem resolveRange_past (words : List Text) (anchor : Date) :
    resolveRange "PAST".text words anchor = pastRange words anchor := by
  rw [resolveRange, if_neg (by decide), if_neg (by decide), if_neg (by decide), if_pos rfl]

theorem uncounted_resolveRange {keyword : Text} {words : List Text} {anchor : Date} :
    Uncounted (resolveRange keyword words anchor) ↔
      (keyword = "WEEK".text ∧ words = [] ∧ lastOrdinal < DateRange.sundayOf anchor) ∨
      (keyword = "PAST".text ∧ Uncounted (pastRange words anchor)) := by
  by_cases week : keyword = "WEEK".text
  · subst week
    have apart : ¬ ("WEEK".text : Text) = "PAST".text := by decide
    rw [resolveRange_week, uncounted_behind, uncounted_mapError, DateRange.week_error_iff]
    simp only [true_and, apart, false_and, or_false]
  · by_cases past : keyword = "PAST".text
    · subst past
      rw [resolveRange_past]
      simp only [week, false_and, true_and, false_or]
    · simp only [week, past, false_and, or_self, iff_false]
      unfold resolveRange
      simp only [week, past, ↓reduceIte]
      split
      · rw [uncounted_behind]
        exact fun counted => not_uncounted_ok _ counted.2
      · split
        · rw [uncounted_behind]
          exact fun counted => not_uncounted_ok _ counted.2
        · split
          · exact not_uncounted_fromRange words
          · exact not_uncounted_malformed _

/-- Reading a query ends in another fault than a malformed query exactly for those words. -/
theorem uncounted_parse_of_kind {source keyword : Text} {words : List Text} {anchor : Date}
    {kind : ReportKind} (tokens : tokenize source = kind.keyword :: keyword :: words) :
    Uncounted (parse source anchor) ↔ Uncounted (resolveRange keyword words anchor) := by
  unfold parse
  rw [tokens]
  simp only [kindOf?_keyword]
  cases resolveRange keyword words anchor with
  | ok range =>
    constructor
    · exact fun uncounted => absurd uncounted (not_uncounted_ok _)
    · exact fun uncounted => absurd uncounted (not_uncounted_ok _)
  | error refused =>
    constructor
    · rintro ⟨fault, same⟩
      cases same
      exact ⟨fault, rfl⟩
    · rintro ⟨fault, same⟩
      cases same
      exact ⟨fault, rfl⟩

theorem uncounted_parse_iff {source : Text} {anchor : Date} :
    Uncounted (parse source anchor) ↔ OutsideCalendar anchor (tokenize source) := by
  constructor
  · intro uncounted
    cases tokens : tokenize source with
    | nil =>
      unfold parse at uncounted
      rw [tokens] at uncounted
      exact absurd uncounted (not_uncounted_malformed _)
    | cons word rest =>
      cases rest with
      | nil =>
        unfold parse at uncounted
        rw [tokens] at uncounted
        exact absurd uncounted (not_uncounted_malformed _)
      | cons keyword words =>
        cases found : ReportKind.of? word with
        | none =>
          unfold parse at uncounted
          rw [tokens] at uncounted
          simp only [found] at uncounted
          exact absurd uncounted (not_uncounted_malformed _)
        | some kind =>
          obtain rfl := eq_keyword_of_kindOf? found
          have ranges := (uncounted_parse_of_kind tokens).mp uncounted
          rcases uncounted_resolveRange.mp ranges with ⟨rfl, rfl, late⟩ | ⟨rfl, past⟩
          · exact .week kind late
          · obtain ⟨count, behind, rfl, numeral, long | ⟨short, rfl, early⟩⟩ :=
              uncounted_pastRange.mp past
            · exact .digits kind count behind numeral long
            · exact .days kind count numeral short early
  · intro outside
    generalize tokens : tokenize source = words at outside
    cases outside with
    | week kind late =>
      exact (uncounted_parse_of_kind tokens).mpr
        (uncounted_resolveRange.mpr (Or.inl ⟨rfl, rfl, late⟩))
    | digits kind count behind numeral long =>
      exact (uncounted_parse_of_kind tokens).mpr (uncounted_resolveRange.mpr (Or.inr ⟨rfl,
        uncounted_pastRange.mpr ⟨count, behind, rfl, numeral, Or.inl long⟩⟩))
    | days kind count numeral short early =>
      exact (uncounted_parse_of_kind tokens).mpr (uncounted_resolveRange.mpr (Or.inr ⟨rfl,
        uncounted_pastRange.mpr ⟨count, _, rfl, numeral, Or.inr ⟨short, rfl, early⟩⟩⟩))

end Query

end TimeReports
