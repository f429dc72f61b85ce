import TimeReports.Proofs.DayCounts
import TimeReports.Proofs.Literals
import TimeReports.Proofs.QueryLines

set_option autoImplicit false

namespace TimeReports

namespace Text

variable {inClass : CodePoint → Bool} {c : CodePoint} {text word : Text}

theorem mem_of_mem_runsOutside (isRun : word ∈ runsOutside inClass text) (member : c ∈ word) :
    c ∈ text := by
  induction text generalizing word with
  | nil => cases isRun
  | cons first text ih =>
    cases inside : inClass first with
    | true =>
      rw [runsOutside_of_inside inside] at isRun
      exact List.mem_cons_of_mem _ (ih isRun member)
    | false =>
      cases text with
      | nil =>
        rw [runsOutside_singleton inside, List.mem_singleton] at isRun
        exact isRun ▸ member
      | cons next text =>
        cases behind : inClass next with
        | true =>
          rw [runsOutside_last inside behind, ← runsOutside_of_inside behind] at isRun
          rcases List.mem_cons.mp isRun with rfl | later
          · exact List.mem_singleton.mp member ▸ List.mem_cons_self
          · exact List.mem_cons_of_mem _ (ih later member)
        | false =>
          obtain ⟨start, others, runs⟩ :=
            List.exists_cons_of_ne_nil (runsOutside_ne_nil behind text)
          rw [runsOutside_cons inside behind, runs, List.modifyHead_cons] at isRun
          rcases List.mem_cons.mp isRun with rfl | later
          · rcases List.mem_cons.mp member with rfl | member
            · exact List.mem_cons_self
            · exact List.mem_cons_of_mem _ (ih (runs ▸ List.mem_cons_self) member)
          · exact List.mem_cons_of_mem _ (ih (runs ▸ List.mem_cons_of_mem _ later) member)

end Text

namespace QueryFault

def OfWhole : QueryFault → Prop
  | .range _ => False
  | _ => True

end QueryFault

namespace Date

open Calendar

variable {earlier later : Date}

theorem daysBeforeYear_mono {year next : Nat} (positive : 1 ≤ year) (h : year ≤ next) :
    daysBeforeYear year ≤ daysBeforeYear next := by
  induction next, h using Nat.le_induction with
  | base => exact Nat.le_refl _
  | succ next inside ih =>
    rw [daysBeforeYear_succ next (by omega)]
    split <;> omega

theorem daysBeforeMonth_add_monthLength_le_of_lt : ∀ (leap : Bool) (month next : Fin 13),
    1 ≤ month.val → month < next →
      daysBeforeMonth leap month + monthLength leap month ≤ daysBeforeMonth leap next := by
  decide

theorem ordinal_lt_of_year_lt (before : earlier.year < later.year) :
    earlier.ordinal < later.ordinal := by
  have fields := isDay_bounds earlier.isDay
  have day := earlier.isDay
  simp only [Calendar.isDay, Bool.and_eq_true, decide_eq_true_eq] at day
  have length := daysBeforeMonth_add_monthLength_le (isLeap earlier.year)
    ⟨earlier.month, by omega⟩ fields.2.2.1
  have next := daysBeforeYear_succ earlier.year fields.1
  have years := daysBeforeYear_mono (by omega) (show earlier.year + 1 ≤ later.year from before)
  have positive := isDay_bounds later.isDay
  unfold ordinal
  dsimp only at length
  omega

theorem ordinal_lt_of_month_lt (same : earlier.year = later.year)
    (before : earlier.month < later.month) : earlier.ordinal < later.ordinal := by
  have fields := isDay_bounds earlier.isDay
  have fields' := isDay_bounds later.isDay
  have day := earlier.isDay
  simp only [Calendar.isDay, Bool.and_eq_true, decide_eq_true_eq] at day
  have months := daysBeforeMonth_add_monthLength_le_of_lt (isLeap earlier.year)
    ⟨earlier.month, by omega⟩ ⟨later.month, by omega⟩ fields.2.2.1 before
  unfold ordinal
  rw [← same]
  dsimp only at months
  omega

/-- An ordinal is the one of a single day. -/
theorem eq_of_ordinal_eq (same : earlier.ordinal = later.ordinal) : earlier = later := by
  have year : earlier.year = later.year := by
    rcases Nat.lt_trichotomy earlier.year later.year with less | equal | more
    · have := ordinal_lt_of_year_lt less
      omega
    · exact equal
    · have := ordinal_lt_of_year_lt more
      omega
  have month : earlier.month = later.month := by
    rcases Nat.lt_trichotomy earlier.month later.month with less | equal | more
    · have := ordinal_lt_of_month_lt year less
      omega
    · exact equal
    · have := ordinal_lt_of_month_lt year.symm more
      omega
  refine eq_of_fields year month ?_
  unfold ordinal at same
  rw [year, month] at same
  omega

end Date

namespace DateRange

open Calendar

/-- The month of a day holds the days of this year and month. -/
theorem mem_month_iff {date day : Date} :
    day ∈ month date ↔ day.year = date.year ∧ day.month = date.month := by
  have bounds := isDay_bounds day.isDay
  constructor
  · rintro ⟨first, last⟩
    rw [Date.le_iff] at first last
    have sameYear : day.year = date.year := by
      rcases Nat.lt_trichotomy day.year date.year with less | same | more
      · have : day.ordinal < (month date).first.ordinal := Date.ordinal_lt_of_year_lt less
        omega
      · exact same
      · have : (month date).last.ordinal < day.ordinal := Date.ordinal_lt_of_year_lt more
        omega
    refine ⟨sameYear, ?_⟩
    rcases Nat.lt_trichotomy day.month date.month with less | same | more
    · have : day.ordinal < (month date).first.ordinal :=
        Date.ordinal_lt_of_month_lt sameYear less
      omega
    · exact same
    · have : (month date).last.ordinal < day.ordinal :=
        Date.ordinal_lt_of_month_lt sameYear.symm more
      omega
  · rintro ⟨sameYear, sameMonth⟩
    have inMonth := day.isDay
    simp only [Calendar.isDay, Bool.and_eq_true, decide_eq_true_eq, sameYear, sameMonth] at inMonth
    have first : (month date).first.ordinal ≤ day.ordinal := by
      simp only [month, Date.ordinal, sameYear, sameMonth]
      omega
    have last : day.ordinal ≤ (month date).last.ordinal := by
      simp only [month, Date.ordinal, sameYear, sameMonth, Date.lastOfMonth]
      omega
    exact ⟨first, last⟩

theorem exists_week {date : Date} (inside : (date.ordinal : Int) - date.weekday + 6 ≤ lastOrdinal) :
    ∃ range, week date = .ok range := by
  cases found : week date with
  | ok range => exact ⟨range, rfl⟩
  | error fault =>
    have late := week_error_iff.mp ⟨fault, found⟩
    have := weekday_lt_ordinal date
    unfold sundayOf at late
    omega

theorem week_spec {date : Date} {range : DateRange} (found : week date = .ok range) :
    range.first.weekday = 0 ∧ range.last.ordinal = range.first.ordinal + 6 ∧ date ∈ range := by
  unfold week at found
  split at found
  · cases found
  · next monday isMonday =>
    split at found
    · cases found
    · next sunday isSunday =>
      cases found
      have start := Date.ordinal_of_addDays? isMonday
      have stop := Date.ordinal_of_addDays? isSunday
      have inWeek : date.weekday < 7 := Nat.mod_lt _ (by decide)
      have inFront := weekday_lt_ordinal date
      have first : monday.ordinal ≤ date.ordinal := by omega
      have last : date.ordinal ≤ sunday.ordinal := by omega
      have onMonday : monday.weekday = 0 := by
        unfold Date.weekday at start ⊢
        omega
      have sixBehind : sunday.ordinal = monday.ordinal + 6 := by omega
      exact ⟨onMonday, sixBehind, first, last⟩

theorem exists_upTo {date : Date} {before : Nat} (inside : before < date.ordinal) :
    ∃ range, upTo date before = .ok range := by
  cases found : upTo date before with
  | ok range => exact ⟨range, rfl⟩
  | error fault =>
    have early := upTo_error_iff.mp ⟨fault, found⟩
    omega

theorem upTo_spec {date : Date} {before : Nat} {range : DateRange}
    (found : upTo date before = .ok range) :
    range.first.ordinal + before = date.ordinal ∧ range.last = date := by
  unfold upTo at found
  split_ifs at found
  split at found
  · cases found
  · next first isFirst =>
    cases found
    have start := Date.ordinal_of_addDays? isFirst
    dsimp only
    exact ⟨by omega, rfl⟩

end DateRange

namespace Query

open Text Calendar

variable {source keyword word : Text} {behind : List Text} {anchor : Date} {range : DateRange}

theorem plainDigits_of_mem_tokenize (plain : PlainDigits source) (member : word ∈ tokenize source) :
    PlainDigits word := by
  obtain ⟨written, isWord, rfl⟩ := List.mem_map.mp member
  exact (plain.subset fun c inside => mem_of_mem_runsOutside isWord inside).upper

/-- The forms of a range. A count of days is a word with its value. -/
inductive RangeForm where
  | today
  | week
  | month
  | past (count : Text) (days : Nat)
  | fromTo (first last : Date)

namespace RangeForm

def words : RangeForm → List Text
  | today => ["TODAY".text]
  | week => ["WEEK".text]
  | month => ["MONTH".text]
  | past count _ => ["PAST".text, count, "DAYS".text]
  | fromTo first last => ["FROM".text, first.iso, "TO".text, last.iso]

/-- What a form needs besides its words: the Sunday of the anchor's week lies in the calendar; a
count of at most 4300 digits has a value of at least one, and the first of so many days up to the
anchor lies in the calendar; dates are in order. -/
def Allowed (anchor : Date) : RangeForm → Prop
  | today => True
  | week => (anchor.ordinal : Int) - anchor.weekday + 6 ≤ lastOrdinal
  | month => True
  | past count days => Spells count days ∧ count.length ≤ 4300 ∧ 1 ≤ days ∧
      1 ≤ (anchor.ordinal : Int) - (days - 1)
  | fromTo first last => first ≤ last

/-- Whether a range is the one of a form: the anchor alone, its week from Monday to Sunday, the days
of its month, so many days with the anchor as the last one, or the days from one date to another. -/
def Covers (anchor : Date) (range : DateRange) : RangeForm → Prop
  | today => range.first = anchor ∧ range.last = anchor
  | week => range.first.weekday = 0 ∧ range.last.ordinal = range.first.ordinal + 6 ∧ anchor ∈ range
  | month => ∀ date, date ∈ range ↔ date.year = anchor.year ∧ date.month = anchor.month
  | past _ days => range.first.ordinal + days = anchor.ordinal + 1 ∧ range.last = anchor
  | fromTo first last => range.first = first ∧ range.last = last

end RangeForm

def rangeKeywords : List Text :=
  ["TODAY".text, "WEEK".text, "MONTH".text, "PAST".text, "FROM".text]

theorem resolveRange_today (behind : List Text) (anchor : Date) :
    resolveRange "TODAY".text behind anchor =
      (do nothingBehind behind; .ok (DateRange.single anchor)) := if_pos rfl

theorem resolveRange_month (behind : List Text) (anchor : Date) :
    resolveRange "MONTH".text behind anchor =
      (do nothingBehind behind; .ok (DateRange.month anchor)) := by
  rw [resolveRange, if_neg (by decide), if_neg (by decide), if_pos rfl]

theorem resolveRange_from (behind : List Text) (anchor : Date) :
    resolveRange "FROM".text behind anchor = fromRange behind := by
  rw [resolveRange, if_neg (by decide), if_neg (by decide), if_neg (by decide),
    if_neg (by decide), if_pos rfl]

theorem resolveRange_other (unknown : keyword ∉ rangeKeywords) (behind : List Text)
    (anchor : Date) : resolveRange keyword behind anchor =
      .error (.malformed (.range (.unknownKeyword keyword))) := by
  simp only [rangeKeywords, List.mem_cons, List.not_mem_nil, or_false, not_or] at unknown
  obtain ⟨today, week, month, past, from'⟩ := unknown
  rw [resolveRange, if_neg today, if_neg week, if_neg month, if_neg past, if_neg from']

theorem pastRange_spelled {count : Text} {days : Nat} (spells : Spells count days)
    (short : count.length ≤ 4300) (positive : 1 ≤ days)
    (found : DateRange.upTo anchor (days - 1) = .ok range) :
    pastRange [count, "DAYS".text] anchor = .ok range := by
  obtain ⟨before, rfl⟩ := Nat.exists_eq_add_of_le' positive
  have numeral : isNumeral count = true := by
    rw [isNumeral, spells.all_isDecimal, Bool.and_true, Bool.not_eq_true',
      List.isEmpty_eq_false_iff]
    rintro rfl
    have := spells.numeralValue_eq
    cases this
  have read := Number.readNumeral_eq_ok_iff.mpr ⟨short, spells.numeralValue_eq⟩
  exact pastRange_eq_ok_iff.mpr ⟨count, before, rfl, numeral, read, found⟩

theorem readLiteral_iso (date : Date) : readLiteral date.iso = .ok date :=
  readLiteral_eq_ok_iff.mpr (ofLiteral?_iso date)

theorem fromRange_iso {first last : Date} (inOrder : first ≤ last) :
    fromRange [first.iso, "TO".text, last.iso] = .ok ⟨first, last, inOrder⟩ :=
  fromRange_eq_ok_iff.mpr ⟨_, _, rfl, readLiteral_iso first, readLiteral_iso last⟩

/-- A form that has what it needs is resolved to its range. -/
theorem resolveRange_of_allowed {form : RangeForm} (allowed : form.Allowed anchor)
    (written : form.words = keyword :: behind) :
    ∃ range, resolveRange keyword behind anchor = .ok range ∧ form.Covers anchor range := by
  cases form with
  | today =>
    obtain ⟨rfl, rfl⟩ := List.cons.inj written
    exact ⟨_, resolveRange_today [] anchor, rfl, rfl⟩
  | week =>
    obtain ⟨rfl, rfl⟩ := List.cons.inj written
    obtain ⟨range, found⟩ := DateRange.exists_week allowed
    refine ⟨range, ?_, DateRange.week_spec found⟩
    rw [resolveRange_week, found]
    rfl
  | month =>
    obtain ⟨rfl, rfl⟩ := List.cons.inj written
    exact ⟨_, resolveRange_month [] anchor, fun date => DateRange.mem_month_iff⟩
  | past count days =>
    obtain ⟨rfl, rfl⟩ := List.cons.inj written
    obtain ⟨spells, short, positive, inside⟩ := allowed
    obtain ⟨range, found⟩ := DateRange.exists_upTo (show days - 1 < anchor.ordinal by omega)
    obtain ⟨first, last⟩ := DateRange.upTo_spec found
    refine ⟨range, ?_, by omega, last⟩
    rw [resolveRange_past, pastRange_spelled spells short positive found]
  | fromTo first last =>
    obtain ⟨rfl, rfl⟩ := List.cons.inj written
    refine ⟨⟨first, last, allowed⟩, ?_, rfl, rfl⟩
    rw [resolveRange_from, fromRange_iso allowed]

theorem eq_iso_of_readLiteral (plain : PlainDigits word) {date : Date}
    (read : readLiteral word = .ok date) : word = date.iso :=
  (ofLiteral?_eq_some_iff plain).mp (readLiteral_eq_ok_iff.mp read)

theorem exists_iso_of_fromRange (plain : ∀ word ∈ behind, PlainDigits word)
    (resolved : fromRange behind = .ok range) : ∃ first last : Date, first ≤ last ∧
      behind = [first.iso, "TO".text, last.iso] := by
  obtain ⟨start, stop, rfl, first, last⟩ := fromRange_eq_ok_iff.mp resolved
  refine ⟨range.first, range.last, range.ordered, ?_⟩
  rw [eq_iso_of_readLiteral (plain start (by simp)) first,
    eq_iso_of_readLiteral (plain stop (by simp)) last]

theorem exists_count_of_pastRange (plain : ∀ word ∈ behind, PlainDigits word)
    (resolved : pastRange behind anchor = .ok range) : ∃ count days,
      behind = [count, "DAYS".text] ∧ (RangeForm.past count days).Allowed anchor := by
  obtain ⟨count, before, rfl, numeral, read, found⟩ := pastRange_eq_ok_iff.mp resolved
  have decimal : count.all isDecimal = true := by
    rw [isNumeral, Bool.and_eq_true] at numeral
    exact numeral.2
  obtain ⟨short, value⟩ := Number.readNumeral_eq_ok_iff.mp read
  have spelt : Spells count (before + 1) :=
    value ▸ spells_numeralValue (plain count List.mem_cons_self) decimal
  have inside := (DateRange.upTo_spec found).1
  have := range.first.ordinal_pos
  exact ⟨count, before + 1, rfl, spelt, short, by omega, by omega⟩

/-- A range that is resolved is written in one of the forms, which has what it needs. -/
theorem exists_form_of_resolveRange (plain : ∀ word ∈ behind, PlainDigits word)
    (resolved : resolveRange keyword behind anchor = .ok range) :
    ∃ form : RangeForm, form.Allowed anchor ∧ form.words = keyword :: behind := by
  by_cases known : keyword ∈ rangeKeywords
  · simp only [rangeKeywords, List.mem_cons, List.not_mem_nil, or_false] at known
    rcases known with rfl | rfl | rfl | rfl | rfl
    · rw [resolveRange_today] at resolved
      obtain ⟨rfl, -⟩ := eq_nil_of_nothingBehind resolved
      exact ⟨.today, trivial, rfl⟩
    · rw [resolveRange_week] at resolved
      obtain ⟨rfl, counted⟩ := eq_nil_of_nothingBehind resolved
      have found := mapError_eq_ok_iff.mp counted
      have onTime : ¬ lastOrdinal < DateRange.sundayOf anchor := by
        rw [← DateRange.week_error_iff, found]
        rintro ⟨fault, same⟩
        cases same
      have inside : (anchor.ordinal : Int) - anchor.weekday + 6 ≤ lastOrdinal := by
        have := DateRange.weekday_lt_ordinal anchor
        unfold DateRange.sundayOf at onTime
        omega
      exact ⟨.week, inside, rfl⟩
    · rw [resolveRange_month] at resolved
      obtain ⟨rfl, -⟩ := eq_nil_of_nothingBehind resolved
      exact ⟨.month, trivial, rfl⟩
    · rw [resolveRange_past] at resolved
      obtain ⟨count, days, rfl, allowed⟩ := exists_count_of_pastRange plain resolved
      exact ⟨.past count days, allowed, rfl⟩
    · rw [resolveRange_from] at resolved
      obtain ⟨first, last, inOrder, rfl⟩ := exists_iso_of_fromRange plain resolved
      exact ⟨.fromTo first last, inOrder, rfl⟩
  · rw [resolveRange_other known] at resolved
    cases resolved

/-- Whether a fault is one that a range with a known keyword can have. -/
def Unfit (fault : ParseFault) : Prop :=
  (∃ days, fault = .days days) ∨
    ∃ unfit, fault = .malformed (.range unfit) ∧ ∀ word, unfit ≠ .unknownKeyword word

variable {fault : ParseFault} {days : Except DayFault DateRange}

theorem unfit_of_mapError (refused : days.mapError ParseFault.days = .error fault) :
    Unfit fault := by
  cases days with
  | error reason =>
    cases refused
    exact Or.inl ⟨reason, rfl⟩
  | ok found => cases refused

theorem unfit_of_malformed {unfit : RangeFault} (other : ∀ word, unfit ≠ .unknownKeyword word) :
    Unfit (.malformed (.range unfit)) :=
  Or.inr ⟨unfit, rfl, other⟩

theorem unfit_of_nothingBehind {resolved : Except ParseFault DateRange}
    (later : ∀ fault, resolved = .error fault → Unfit fault)
    (refused : (do nothingBehind behind; resolved) = .error fault) : Unfit fault := by
  cases behind with
  | nil => exact later fault refused
  | cons word words =>
    cases refused
    exact unfit_of_malformed nofun

theorem unfit_of_pastRange (refused : pastRange behind anchor = .error fault) : Unfit fault := by
  unfold pastRange at refused
  split at refused
  · cases refused
    exact unfit_of_malformed nofun
  · split at refused
    · cases refused
      exact unfit_of_malformed nofun
    · split at refused
      · cases refused
        exact Or.inl ⟨_, rfl⟩
      · cases refused
        exact unfit_of_malformed nofun
      · cases refused
        exact unfit_of_malformed nofun
      · split at refused
        · split at refused
          · cases refused
            exact unfit_of_malformed nofun
          · exact unfit_of_nothingBehind (fun _ => unfit_of_mapError) refused
        · cases refused
          exact unfit_of_malformed nofun

theorem unfit_of_readLiteral (refused : readLiteral word = .error fault) : Unfit fault := by
  unfold readLiteral at refused
  split at refused
  · cases refused
  · cases refused
    exact unfit_of_malformed nofun

theorem unfit_of_fromRange (refused : fromRange behind = .error fault) : Unfit fault := by
  unfold fromRange at refused
  split at refused
  · next start middle stop others =>
    split at refused
    · cases refused
      exact unfit_of_malformed nofun
    · refine unfit_of_nothingBehind (fun fault refused => ?_) refused
      cases first : readLiteral start with
      | error other =>
        rw [first] at refused
        cases refused
        exact unfit_of_readLiteral first
      | ok firstDay =>
        cases last : readLiteral stop with
        | error other =>
          rw [first, last] at refused
          cases refused
          exact unfit_of_readLiteral last
        | ok lastDay =>
          simp only [first, last, bind, Except.bind] at refused
          split at refused
          · cases refused
          · cases refused
            exact unfit_of_malformed nofun
  · cases refused
    exact unfit_of_malformed nofun

theorem unfit_of_resolveRange (known : keyword ∈ rangeKeywords)
    (refused : resolveRange keyword behind anchor = .error fault) : Unfit fault := by
  have never {range : DateRange} (fault : ParseFault) (same : Except.ok range = .error fault) :
      Unfit fault := nomatch same
  simp only [rangeKeywords, List.mem_cons, List.not_mem_nil, or_false] at known
  rcases known with rfl | rfl | rfl | rfl | rfl
  · rw [resolveRange_today] at refused
    exact unfit_of_nothingBehind never refused
  · rw [resolveRange_week] at refused
    exact unfit_of_nothingBehind (fun _ => unfit_of_mapError) refused
  · rw [resolveRange_month] at refused
    exact unfit_of_nothingBehind never refused
  · rw [resolveRange_past] at refused
    exact unfit_of_pastRange refused
  · rw [resolveRange_from] at refused
    exact unfit_of_fromRange refused

theorem parse_of_tokens {kind : ReportKind}
    (tokens : tokenize source = kind.keyword :: keyword :: behind) :
    parse source anchor =
      (resolveRange keyword behind anchor).map fun range => ⟨kind, range⟩ := by
  rw [parse, tokens]
  simp only [kindOf?_keyword]

theorem parse_eq_error_iff {kind : ReportKind}
    (tokens : tokenize source = kind.keyword :: keyword :: behind) :
    parse source anchor = .error fault ↔ resolveRange keyword behind anchor = .error fault := by
  rw [parse_of_tokens tokens]
  cases resolveRange keyword behind anchor with
  | ok range =>
    constructor <;> intro same <;> cases same
  | error other =>
    constructor <;> intro same <;> cases same <;> rfl

/-- Whether words start with a kind of report and have a range behind it. -/
def Kinded (words : List Text) : Prop :=
  ∃ (kind : ReportKind) (keyword : Text) (behind : List Text),
    words = kind.keyword :: keyword :: behind

theorem kinded_iff {words : List Text} : Kinded words ↔
    ¬ (words.length < 2 ∨ ∀ kind : ReportKind, words.head? ≠ some kind.keyword) := by
  constructor
  · rintro ⟨kind, keyword, behind, rfl⟩ (short | unknown)
    · simp only [List.length_cons] at short
      omega
    · exact unknown kind rfl
  · intro long
    rw [not_or] at long
    obtain ⟨long, known⟩ := long
    match words with
    | [] => simp at long
    | [word] => simp at long
    | word :: keyword :: behind =>
      obtain ⟨kind, named⟩ := not_forall.mp known
      obtain rfl := Option.some.inj (not_not.mp named)
      exact ⟨kind, keyword, behind, rfl⟩

theorem parse_of_not_kinded (other : ¬ Kinded (tokenize source)) (anchor : Date) :
    ∃ fault : QueryFault, fault.OfWhole ∧ parse source anchor = .error (.malformed fault) := by
  unfold parse
  split
  · exact ⟨.empty, trivial, rfl⟩
  · exact ⟨.tooShort, trivial, rfl⟩
  · next first keyword behind tokens =>
    split
    · exact ⟨.unknownKind first, trivial, rfl⟩
    · next kind named =>
      exact absurd ⟨kind, keyword, behind, eq_keyword_of_kindOf? named ▸ tokens⟩ other

theorem exists_parse_of_allowed {kind : ReportKind} {form : RangeForm}
    (allowed : form.Allowed anchor) (tokens : tokenize source = kind.keyword :: form.words) :
    ∃ query, parse source anchor = .ok query ∧ query.kind = kind ∧
      form.Covers anchor query.range := by
  obtain ⟨keyword, behind, written⟩ : ∃ keyword behind, form.words = keyword :: behind := by
    cases form <;> exact ⟨_, _, rfl⟩
  obtain ⟨range, resolved, covers⟩ := resolveRange_of_allowed allowed written
  refine ⟨⟨kind, range⟩, ?_, rfl, covers⟩
  rw [parse_of_tokens (written ▸ tokens), resolved]
  rfl

theorem exists_form_of_parse (plain : PlainDigits source) {query : Query}
    (parsed : parse source anchor = .ok query) : ∃ form : RangeForm, form.Allowed anchor ∧
      tokenize source = query.kind.keyword :: form.words := by
  by_cases kinded : Kinded (tokenize source)
  · obtain ⟨kind, keyword, behind, tokens⟩ := kinded
    rw [parse_of_tokens tokens] at parsed
    cases resolved : resolveRange keyword behind anchor with
    | error fault =>
      rw [resolved] at parsed
      cases parsed
    | ok range =>
      rw [resolved] at parsed
      cases parsed
      have plainBehind (word : Text) (member : word ∈ behind) : PlainDigits word := by
        refine plainDigits_of_mem_tokenize plain ?_
        rw [tokens]
        exact List.mem_cons_of_mem _ (List.mem_cons_of_mem _ member)
      obtain ⟨form, allowed, written⟩ := exists_form_of_resolveRange plainBehind resolved
      exact ⟨form, allowed, by rw [tokens, written]⟩
  · obtain ⟨fault, -, refused⟩ := parse_of_not_kinded kinded anchor
    rw [refused] at parsed
    cases parsed

theorem parse_eq_unknownKeyword_iff :
    parse source anchor = .error (.malformed (.range (.unknownKeyword word))) ↔
      ∃ (kind : ReportKind) (behind : List Text),
        tokenize source = kind.keyword :: word :: behind ∧ word ∉ rangeKeywords := by
  constructor
  · intro refused
    by_cases kinded : Kinded (tokenize source)
    · obtain ⟨kind, keyword, behind, tokens⟩ := kinded
      rw [parse_eq_error_iff tokens] at refused
      by_cases known : keyword ∈ rangeKeywords
      · rcases unfit_of_resolveRange known refused with ⟨days, same⟩ | ⟨unfit, same, other⟩
        · cases same
        · cases same
          exact absurd rfl (other word)
      · rw [resolveRange_other known] at refused
        cases refused
        exact ⟨kind, behind, tokens, known⟩
    · obtain ⟨fault, whole, refused'⟩ := parse_of_not_kinded kinded anchor
      rw [refused'] at refused
      cases refused
      exact absurd whole id
  · rintro ⟨kind, behind, tokens, unknown⟩
    rw [parse_eq_error_iff tokens, resolveRange_other unknown]

theorem parse_whole_iff :
    (∃ fault : QueryFault, fault.OfWhole ∧ parse source anchor = .error (.malformed fault)) ↔
      ¬ Kinded (tokenize source) := by
  refine ⟨?_, fun other => parse_of_not_kinded other anchor⟩
  rintro ⟨fault, whole, refused⟩ ⟨kind, keyword, behind, tokens⟩
  rw [parse_eq_error_iff tokens] at refused
  by_cases known : keyword ∈ rangeKeywords
  · rcases unfit_of_resolveRange known refused with ⟨days, same⟩ | ⟨unfit, same, -⟩
    · cases same
    · cases same
      exact whole
  · rw [resolveRange_other known] at refused
    cases refused
    exact whole

/-- How queries from a source are read at an anchor day. -/
structure ReadsGrammar (source : Text) (anchor : Date) : Prop where
  /-- A query is read exactly when its words are of the grammar. -/
  accepts : (∃ query, parse source anchor = .ok query) ↔ ∃ (kind : ReportKind) (form : RangeForm),
    form.Allowed anchor ∧ tokenize source = kind.keyword :: form.words
  /-- It is then of the kind and for the days that its words say. -/
  gives : ∀ (kind : ReportKind) (form : RangeForm), form.Allowed anchor →
    tokenize source = kind.keyword :: form.words →
      ∃ query, parse source anchor = .ok query ∧ query.kind = kind ∧
        form.Covers anchor query.range
  /-- An unknown range is reported, by its keyword, exactly when the keyword behind a known kind is
  none that a range starts with. -/
  unknown : ∀ word, parse source anchor = .error (.malformed (.range (.unknownKeyword word))) ↔
    ∃ (kind : ReportKind) (behind : List Text),
      tokenize source = kind.keyword :: word :: behind ∧ word ∉ rangeKeywords
  /-- A fault of the whole is reported exactly when a word is missing or the kind is unknown. -/
  whole : (∃ fault : QueryFault, fault.OfWhole ∧ parse source anchor = .error (.malformed fault)) ↔
    (tokenize source).length < 2 ∨
      ∀ kind : ReportKind, (tokenize source).head? ≠ some kind.keyword

/-- Of a source whose digits are among the ten, the queries of the grammar are read, and nothing
else. -/
theorem parse_reads_grammar {source : Text} (plain : PlainDigits source) (anchor : Date) :
    ReadsGrammar source anchor where
  accepts := by
    constructor
    · rintro ⟨query, parsed⟩
      obtain ⟨form, allowed, tokens⟩ := exists_form_of_parse plain parsed
      exact ⟨query.kind, form, allowed, tokens⟩
    · rintro ⟨kind, form, allowed, tokens⟩
      obtain ⟨query, parsed, -⟩ := exists_parse_of_allowed allowed tokens
      exact ⟨query, parsed⟩
  gives := fun kind form allowed tokens => exists_parse_of_allowed allowed tokens
  unknown := fun word => parse_eq_unknownKeyword_iff
  whole := by rw [parse_whole_iff, kinded_iff, not_not]

/-- Three days up to the first of March of a leap year, counted with a zero in front. -/
theorem parse_past_leap_day : PlainDigits "summary past 03 days".text ∧
    ∃ query, parse "summary past 03 days".text ⟨2024, 3, 1, by decide⟩ = .ok query ∧
      query.kind = .summary ∧ query.range.first = ⟨2024, 2, 28, by decide⟩ := by
  have plain : PlainDigits "summary past 03 days".text := by
    unfold PlainDigits
    decide
  have spells : Spells "03".text 3 := .append (.append .empty 0 (by decide)) 3 (by decide)
  have allowed : (RangeForm.past "03".text 3).Allowed ⟨2024, 3, 1, by decide⟩ :=
    ⟨spells, by decide, by decide, by decide⟩
  obtain ⟨query, parsed, kind, covers, -⟩ := (parse_reads_grammar plain _).gives .summary
    (.past "03".text 3) allowed (by decide)
  have day : (⟨2024, 3, 1, by decide⟩ : Date).ordinal =
      (⟨2024, 2, 28, by decide⟩ : Date).ordinal + 2 := by decide
  exact ⟨plain, query, parsed, kind, Date.eq_of_ordinal_eq (by omega)⟩

end Query
end TimeReports
