import TimeReports.Proofs.Spellings
import TimeReports.Settings

set_option autoImplicit false

namespace TimeReports

namespace Text

variable {c : CodePoint}

theorem isDigit_of_isDecimal (decimal : isDecimal c = true) : isDigit c = true := by
  rw [isDigit, decimal, Bool.true_or]

def spaceCodes : List Nat := [9, 10, 11, 12, 13, 32] ++ wideBlanks

theorem mem_spaceCodes (space : isSpace c = true) : c.toNat ∈ spaceCodes := by
  simp only [isSpace, Bool.or_eq_true, Bool.and_eq_true, decide_eq_true_eq, beq_iff_eq,
    List.contains_iff_mem] at space
  rcases space with narrow | wide
  · refine List.mem_append_left _ ?_
    simp only [List.mem_cons]
    omega
  · exact List.mem_append_right _ wide

theorem exists_zero_of_isDecimal (decimal : isDecimal c = true) :
    ∃ base ∈ zeros, base ≤ c.toNat ∧ c.toNat < base + 10 := by
  by_cases plain : c.toNat < 128
  · obtain ⟨digit, small, rfl⟩ := exists_digitChar decimal plain
    have each : ∀ digit : Fin 10, 48 ≤ (digitChar digit).toNat ∧ (digitChar digit).toNat < 58 := by
      decide
    exact ⟨48, by decide, each ⟨digit, small⟩⟩
  · exact exists_zero decimal (Nat.not_lt.mp plain)

/-- No digit of any kind is white space. -/
theorem not_isSpace_of_isDigit (digit : isDigit c = true) : isSpace c = false := by
  by_contra space
  have member := mem_spaceCodes (Bool.not_eq_false _ ▸ space)
  rw [isDigit, Bool.or_eq_true] at digit
  rcases digit with decimal | sign
  · obtain ⟨base, zero, within⟩ := exists_zero_of_isDecimal decimal
    have apart : ∀ code ∈ spaceCodes, ∀ base ∈ zeros, ¬ (base ≤ code ∧ code < base + 10) := by
      decide
    exact apart c.toNat member base zero within
  · obtain ⟨range, inside, within⟩ := List.any_eq_true.mp sign
    rw [Bool.and_eq_true, decide_eq_true_eq, decide_eq_true_eq] at within
    have apart : ∀ code ∈ spaceCodes, ∀ range ∈ signDigitRanges,
        ¬ (range.1 ≤ code ∧ code ≤ range.2) := by decide
    exact apart c.toNat member range inside within

end Text

namespace Number

open Text

variable {text : Text} {before : Option CodePoint}

theorem takeSign_of_isDigit (digits : ∀ c ∈ text, isDigit c = true) :
    takeSign text = (false, text) := by
  unfold takeSign
  split
  · exact absurd (digits _ (List.mem_cons_self ..)) (by decide)
  · exact absurd (digits _ (List.mem_cons_self ..)) (by decide)
  · rfl

theorem marksBetweenDigits_of_not_mem (unmarked : CodePoint.char '_' ∉ text) :
    marksBetweenDigits before text = true := by
  induction text generalizing before with
  | nil => rfl
  | cons c rest ih =>
    rw [List.mem_cons, not_or] at unmarked
    rw [marksBetweenDigits]
    · exact ih unmarked.2
    · exact fun same => unmarked.1 same.symm

/-- A text without underscores has its digits written as the ten. -/
theorem plainDigits?_of_not_mem (unmarked : CodePoint.char '_' ∉ text) :
    plainDigits? text = some (text.map plainDigit) := by
  have plain : CodePoint.char '_' ∉ text.map plainDigit := by
    intro member
    obtain ⟨c, inside, same⟩ := List.mem_map.mp member
    rw [plainDigit_eq_iff (by decide)] at same
    exact unmarked (same ▸ inside)
  change (if marksBetweenDigits none (text.map plainDigit) then
    some ((text.map plainDigit).filter (· ≠ CodePoint.char '_')) else none) = _
  rw [if_pos (marksBetweenDigits_of_not_mem plain), List.filter_eq_self.mpr]
  intro c member
  exact decide_eq_true fun same => plain (same ▸ member)

theorem readNumeral_map_plainDigit : readNumeral (text.map plainDigit) = readNumeral text := by
  rw [readNumeral, readNumeral, List.length_map, numeralValue_map_plainDigit]

theorem span_isMarkOrDigit (unmarked : CodePoint.char '_' ∉ text) :
    text.span isMarkOrDigit = (text.takeWhile isDecimal, text.dropWhile isDecimal) := by
  rw [List.span_eq_takeWhile_dropWhile]
  induction text with
  | nil => rfl
  | cons c rest ih =>
    rw [List.mem_cons, not_or] at unmarked
    have same : isMarkOrDigit c = isDecimal c := by
      simp only [isMarkOrDigit, isDecimal, beq_false_of_ne (Ne.symm unmarked.1), Bool.false_or]
    simp only [List.takeWhile_cons, List.dropWhile_cons, same]
    split
    · rw [Prod.mk.injEq] at ih ⊢
      exact ⟨congrArg (c :: ·) (ih unmarked.2).1, (ih unmarked.2).2⟩
    · rfl

/-- What stands behind the decimal digits is no white space, so digits of any kind are refused
unless all are decimal. -/
theorem refused_eq_not_isDecimal (digits : ∀ c ∈ text, isDigit c = true) (nonempty : text ≠ []) :
    (((text.takeWhile isDecimal).map plainDigit).isEmpty ||
      !(text.dropWhile isDecimal).all isSpace) = !text.all isDecimal := by
  by_cases decimal : ∀ c ∈ text, isDecimal c = true
  · rw [List.takeWhile_eq_self_iff.mpr decimal, List.dropWhile_eq_nil_iff.mpr decimal,
      List.all_eq_true.mpr decimal]
    simpa using nonempty
  · obtain ⟨c, behind, rest⟩ :=
      List.exists_cons_of_ne_nil (mt List.dropWhile_eq_nil_iff.mp decimal)
    have unspaced : isSpace c = false := not_isSpace_of_isDigit (digits c
      (List.dropWhile_subset _ (rest ▸ List.mem_cons_self ..)))
    have mixed : text.all isDecimal = false :=
      Bool.eq_false_iff.mpr (mt List.all_eq_true.mp decimal)
    rw [rest, List.all_cons, unspaced, mixed, Bool.false_and, Bool.not_false, Bool.or_true]

/-- A whole number is read from digits of any kind when all of them are decimal; before that, those
in front are counted. -/
theorem readWhole_of_isDigit (digits : ∀ c ∈ text, isDigit c = true) (nonempty : text ≠ []) :
    readWhole text =
      if digitLimit < (text.takeWhile isDecimal).length then
        .error (.tooLong (text.takeWhile isDecimal).length)
      else if text.all isDecimal then .ok (numeralValue text) else .error .malformed := by
  have trimmed : text.dropWhile isSpace = text := by
    rw [List.dropWhile_eq_self_iff]
    exact fun inside => by simp [not_isSpace_of_isDigit (digits _ (List.getElem_mem inside))]
  have unmarked : CodePoint.char '_' ∉ text := fun member => absurd (digits _ member) (by decide)
  have plain : plainDigits? (text.takeWhile isDecimal) =
      some ((text.takeWhile isDecimal).map plainDigit) :=
    plainDigits?_of_not_mem fun member => unmarked (List.takeWhile_subset _ member)
  unfold readWhole
  simp only [trimmed, takeSign_of_isDigit digits, span_isMarkOrDigit unmarked, plain,
    readNumeral_map_plainDigit, refused_eq_not_isDecimal digits nonempty]
  rw [readNumeral]
  by_cases long : digitLimit < (text.takeWhile isDecimal).length
  · rw [if_pos long, if_pos long]
    rfl
  · rw [if_neg long, if_neg long]
    cases decimal : text.all isDecimal with
    | false => rfl
    | true =>
      rw [List.takeWhile_eq_self_iff.mpr (List.all_eq_true.mp decimal)]
      rfl

end Number

namespace Settings

open Text

variable {root : Text} {environment : List (Text × Text)} {settings : Settings} {value : Text}

def intervalName : Text := "POLLING_INTERVAL_MINUTES".text

/-- The interval as an environment has it, empty when it is absent. -/
def intervalText (environment : List (Text × Text)) : Text :=
  (environment.lookup intervalName).getD []

def unpolled (environment : List (Text × Text)) : List (Text × Text) :=
  environment.filter (·.1 ≠ intervalName)

/-- The seconds between polls that a text means: its number of minutes, when it is a positive number
in decimal digits, and otherwise five minutes. -/
def meantSeconds (value : Text) : Int :=
  if isNumeral (trim value) ∧ 1 ≤ numeralValue (trim value) then 60 * numeralValue (trim value)
  else 300

/-- Texts of digits that are not all decimal, or that are too many to be read. -/
structure Misread (value : Text) : Prop where
  nonempty : trim value ≠ []
  digits : ∀ c ∈ trim value, isDigit c = true
  unread : (trim value).all isDecimal = false ∨ Number.digitLimit < (trim value).length

/-- Why the settings are not loaded when the interval is misread. -/
def misreadFault (value : Text) : Fault :=
  let front := (trim value).takeWhile isDecimal
  if Number.digitLimit < front.length then .tooManyDigits front.length else .notWhole (trim value)

theorem readWhole_of_isDigit {text : Text} (digits : ∀ c ∈ text, isDigit c = true)
    (nonempty : text ≠ []) : readWhole text =
      if Number.digitLimit < (text.takeWhile isDecimal).length then
        .error (.tooManyDigits (text.takeWhile isDecimal).length)
      else if text.all isDecimal then .ok (numeralValue text) else .error (.notWhole text) := by
  rw [readWhole, Number.readWhole_of_isDigit digits nonempty]
  by_cases long : Number.digitLimit < (text.takeWhile isDecimal).length
  · simp only [if_pos long]
  · cases text.all isDecimal <;> simp only [if_neg long, ↓reduceIte, Bool.false_eq_true]

theorem pollingMinutes?_of_isDigit (digits : ∀ c ∈ trim value, isDigit c = true)
    (nonempty : trim value ≠ []) : pollingMinutes? value =
      (readWhole (trim value)).map fun minutes =>
        if 0 < minutes then minutes else Session.defaultInterval := by
  have tested : ¬ ((trim value).isEmpty || !(trim value).all isDigit) = true := by
    simp [nonempty, List.all_eq_true.mpr digits]
  rw [pollingMinutes?, if_neg tested]
  rfl

theorem pollingMinutes?_of_misread (misread : Misread value) :
    pollingMinutes? value = .error (misreadFault value) := by
  rw [pollingMinutes?_of_isDigit misread.digits misread.nonempty,
    readWhole_of_isDigit misread.digits misread.nonempty, misreadFault]
  split
  · rfl
  · next short =>
    rcases misread.unread with other | long
    · rw [other]
      rfl
    · have decimal : ¬ (trim value).all isDecimal = true := fun decimal =>
        short (by rwa [List.takeWhile_eq_self_iff.mpr (List.all_eq_true.mp decimal)])
      rw [if_neg decimal]
      rfl

theorem intervalSeconds_of_isNumeral (numeral : isNumeral (trim value) = true) :
    Session.intervalSeconds (if (0 : Int) < numeralValue (trim value) then
      numeralValue (trim value) else Session.defaultInterval) = meantSeconds value := by
  unfold meantSeconds
  by_cases positive : 1 ≤ numeralValue (trim value)
  · have above : (0 : Int) < numeralValue (trim value) := by omega
    rw [if_pos above, if_pos ⟨numeral, positive⟩, Session.intervalSeconds,
      if_neg (not_le.mpr above)]
  · have below : ¬ (0 : Int) < numeralValue (trim value) := by omega
    rw [if_neg below, if_neg fun meant => positive meant.2]
    rfl

/-- A text that is not misread gives the minutes that are meant. -/
theorem exists_pollingMinutes? (other : ¬ Misread value) : ∃ minutes,
    pollingMinutes? value = .ok minutes ∧ Session.intervalSeconds minutes = meantSeconds value := by
  by_cases tested : (trim value).isEmpty || !(trim value).all isDigit
  · have unread : pollingMinutes? value = .ok Session.defaultInterval := if_pos tested
    refine ⟨_, unread, ?_⟩
    rw [meantSeconds, if_neg]
    · rfl
    · rintro ⟨numeral, -⟩
      rw [isNumeral, Bool.and_eq_true, List.all_eq_true] at numeral
      have digits : (trim value).all isDigit = true :=
        List.all_eq_true.mpr fun c member => isDigit_of_isDecimal (numeral.2 c member)
      rw [digits, Bool.not_true, Bool.or_false] at tested
      rw [tested] at numeral
      exact absurd numeral.1 (by decide)
  · rw [Bool.not_eq_true, Bool.or_eq_false_iff, Bool.not_eq_false', List.isEmpty_eq_false_iff,
      List.all_eq_true] at tested
    obtain ⟨nonempty, digits⟩ := tested
    have decimal : (trim value).all isDecimal = true := by
      by_contra mixed
      exact other ⟨nonempty, digits, .inl (Bool.eq_false_iff.mpr mixed)⟩
    have short : ¬ Number.digitLimit < (trim value).length :=
      fun long => other ⟨nonempty, digits, .inr long⟩
    have read : readWhole (trim value) = .ok (numeralValue (trim value)) := by
      rw [readWhole_of_isDigit digits nonempty, if_pos decimal,
        List.takeWhile_eq_self_iff.mpr (List.all_eq_true.mp decimal), if_neg short]
    refine ⟨_, by rw [pollingMinutes?_of_isDigit digits nonempty, read]; rfl, ?_⟩
    exact intervalSeconds_of_isNumeral (by simp [isNumeral, nonempty, decimal])

theorem lookup_unpolled {name : Text} (other : name ≠ intervalName) :
    (unpolled environment).lookup name = environment.lookup name := by
  induction environment with
  | nil => rfl
  | cons entry rest ih =>
    unfold unpolled at ih ⊢
    by_cases dropped : entry.1 = intervalName
    · have skipped : (name == entry.1) = false :=
        beq_false_of_ne fun same => other (same.trans dropped)
      rw [List.filter_cons_of_neg (by simpa using dropped), ih, List.lookup_cons, skipped]
    · rw [List.filter_cons_of_pos (by simpa using dropped), List.lookup_cons, List.lookup_cons, ih]

theorem lookup_intervalName_unpolled : (unpolled environment).lookup intervalName = none := by
  rw [List.lookup_eq_none_iff]
  intro entry member
  have kept : entry.1 ≠ intervalName := of_decide_eq_true (List.mem_filter.mp member).2
  exact bne_iff_ne.mpr (Ne.symm kept)

/-- The interval decides no other setting. -/
theorem load_eq (loads : load root (unpolled environment) = .ok settings) :
    load root environment = (pollingMinutes? (intervalText environment)).map
      fun minutes => { settings with pollingMinutes := minutes } := by
  have absent : pollingMinutes? [] = .ok Session.defaultInterval := rfl
  have missing : (unpolled environment).lookup "POLLING_INTERVAL_MINUTES".text = none :=
    lookup_intervalName_unpolled
  have interval : (environment.lookup "POLLING_INTERVAL_MINUTES".text).getD [] =
    intervalText environment := rfl
  unfold load at loads ⊢
  simp (disch := decide) only [lookup_unpolled, missing, Option.getD_none, absent] at loads
  simp only [interval]
  cases timeout :
      readFloat ((environment.lookup "HARVEST_TIMEOUT_SECONDS".text).getD "30".text) with
  | error fault =>
    rw [timeout] at loads
    cases loads
  | ok seconds =>
    cases port : readWhole ((environment.lookup "API_PORT".text).getD "8000".text) with
    | error fault =>
      rw [timeout, port] at loads
      cases loads
    | ok number =>
      rw [timeout, port] at loads
      cases loads
      cases pollingMinutes? (intervalText environment) <;> rfl

/-- In an environment whose other settings are loaded, the interval is always usable but for the
texts that are misread: all settings are loaded, with the interval that is meant, exactly when its
text is not one of them, and otherwise the loading stops. -/
theorem polls_as_meant_iff (loads : load root (unpolled environment) = .ok settings) :
    ((∃ loaded, load root environment = .ok loaded ∧
        loaded = { settings with pollingMinutes := loaded.pollingMinutes } ∧
        Session.intervalSeconds loaded.pollingMinutes = meantSeconds (intervalText environment)) ↔
      ¬ Misread (intervalText environment)) ∧
    (Misread (intervalText environment) →
      load root environment = .error (misreadFault (intervalText environment))) := by
  have stops (misread : Misread (intervalText environment)) :
      load root environment = .error (misreadFault (intervalText environment)) := by
    rw [load_eq loads, pollingMinutes?_of_misread misread]
    rfl
  refine ⟨⟨?_, ?_⟩, stops⟩
  · rintro ⟨loaded, succeeds, -⟩ misread
    rw [stops misread] at succeeds
    cases succeeds
  · intro other
    obtain ⟨minutes, read, meant⟩ := exists_pollingMinutes? other
    refine ⟨{ settings with pollingMinutes := minutes }, ?_, rfl, meant⟩
    rw [load_eq loads, read]
    rfl

/-- A quarter of an hour in digits of two scripts, between blanks. -/
def quarterHour : List (Text × Text) := [(intervalName, " 1٥\n".text)]

theorem quarterHour_polled : ∃ settings, load [] (unpolled quarterHour) = .ok settings ∧
    ∃ loaded, load [] quarterHour = .ok loaded ∧
      Session.intervalSeconds loaded.pollingMinutes = 900 := by
  have loads : ∃ settings, load [] (unpolled quarterHour) = .ok settings := ⟨_, rfl⟩
  obtain ⟨settings, loads⟩ := loads
  have other : ¬ Misread (intervalText quarterHour) := by
    intro misread
    exact absurd misread.unread (by decide)
  obtain ⟨loaded, succeeds, -, meant⟩ := (polls_as_meant_iff loads).1.mpr other
  exact ⟨settings, loads, loaded, succeeds, meant.trans (by decide)⟩

/-- A superscript stops the loading of settings that are loaded without it. -/
theorem superscript_stops :
    load [] [(intervalName, "²".text)] = .error (.notWhole "²".text) ∧
    meantSeconds "²".text = 300 ∧
    ∃ settings, load [] (unpolled [(intervalName, "²".text)]) = .ok settings :=
  ⟨rfl, by decide, _, rfl⟩

end Settings
end TimeReports
