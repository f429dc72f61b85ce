import TimeReports.Proofs.Fences
import TimeReports.Query.Basic

set_option autoImplicit false

namespace TimeReports

namespace Text

variable {inClass : CodePoint → Bool} {c next : CodePoint} {text rest : Text}

theorem runsOutside_of_inside (inside : inClass c = true) (text : Text) :
    runsOutside inClass (c :: text) = runsOutside inClass text := by
  simp [runsOutside, inside]

theorem runsOutside_singleton (outside : inClass c = false) : runsOutside inClass [c] = [[c]] := by
  simp [runsOutside, outside]

theorem runsOutside_step (outside : inClass c = false) (next : CodePoint) (text : Text) :
    runsOutside inClass (c :: next :: text) =
      match runsOutside inClass (next :: text) with
      | [] => [[c]]
      | word :: words => if inClass next then [c] :: word :: words else (c :: word) :: words := by
  rw [runsOutside.eq_def]
  simp only [outside, Bool.false_eq_true, ↓reduceIte]
  cases runsOutside inClass (next :: text) <;> rfl

theorem runsOutside_last (outside : inClass c = false) (inside : inClass next = true)
    (text : Text) :
    runsOutside inClass (c :: next :: text) = [c] :: runsOutside inClass text := by
  rw [← runsOutside_of_inside inside text, runsOutside_step outside]
  cases runsOutside inClass (next :: text) with
  | nil => rfl
  | cons word words => simp only [inside, ↓reduceIte]

theorem runsOutside_ne_nil (outside : inClass c = false) (text : Text) :
    runsOutside inClass (c :: text) ≠ [] := by
  unfold runsOutside
  rw [if_neg (Bool.eq_false_iff.mp outside)]
  split
  · exact List.cons_ne_nil _ _
  · exact List.cons_ne_nil _ _
  · split <;> exact List.cons_ne_nil _ _

theorem runsOutside_cons (outside : inClass c = false) (outside' : inClass next = false)
    (text : Text) : runsOutside inClass (c :: next :: text) =
      (runsOutside inClass (next :: text)).modifyHead (c :: ·) := by
  obtain ⟨word, words, runs⟩ := List.exists_cons_of_ne_nil (runsOutside_ne_nil outside' text)
  rw [runsOutside_step outside, runs]
  simp only [outside', Bool.false_eq_true, ↓reduceIte, List.modifyHead_cons]

/-- The first run starts with the first character outside the class. -/
theorem exists_runsOutside (visible : text.dropWhile inClass = c :: rest) :
    ∃ word words, runsOutside inClass text = (c :: word) :: words := by
  induction text with
  | nil => cases visible
  | cons first text ih =>
    rw [List.dropWhile_cons] at visible
    cases inside : inClass first with
    | true =>
      rw [if_pos inside] at visible
      rw [runsOutside_of_inside inside]
      exact ih visible
    | false =>
      rw [if_neg (Bool.eq_false_iff.mp inside)] at visible
      obtain ⟨rfl, -⟩ := List.cons.inj visible
      cases text with
      | nil => exact ⟨[], [], runsOutside_singleton inside⟩
      | cons next text =>
        cases behind : inClass next with
        | true => exact ⟨[], _, runsOutside_last inside behind text⟩
        | false =>
          rw [runsOutside_cons inside behind]
          obtain ⟨word, words, runs⟩ :=
            List.exists_cons_of_ne_nil (runsOutside_ne_nil behind text)
          exact ⟨word, words, by rw [runs, List.modifyHead_cons]⟩

theorem runsOutside_append_cons (inside : inClass c = true) (text rest : Text) :
    runsOutside inClass (text ++ c :: rest) =
      runsOutside inClass text ++ runsOutside inClass rest := by
  induction text with
  | nil => exact runsOutside_of_inside inside rest
  | cons first text ih =>
    rw [List.cons_append]
    cases within : inClass first with
    | true => rw [runsOutside_of_inside within, runsOutside_of_inside within, ih]
    | false =>
      cases text with
      | nil =>
        rw [List.nil_append, runsOutside_last within inside, runsOutside_singleton within]
        rfl
      | cons next text =>
        rw [List.cons_append] at ih ⊢
        cases behind : inClass next with
        | true =>
          rw [runsOutside_last within behind, runsOutside_last within behind, List.cons_append,
            ← runsOutside_of_inside behind, ih, runsOutside_of_inside behind]
        | false =>
          obtain ⟨word, words, runs⟩ :=
            List.exists_cons_of_ne_nil (runsOutside_ne_nil behind text)
          rw [runsOutside_cons within behind, runsOutside_cons within behind, ih, runs,
            List.cons_append, List.modifyHead_cons, List.modifyHead_cons, List.cons_append]

/-- The words of a text are those of its lines. -/
theorem words_eq_flatMap (text : Text) : words text = (pieces feed text).flatMap words := by
  obtain ⟨rows, tail, clean, clean', rfl⟩ := exists_rowed text
  rw [pieces_rowed clean clean']
  clear clean clean'
  induction rows with
  | nil => simp
  | cons row rows ih =>
    rw [rowed_cons, List.append_assoc, List.cons_append, List.cons_append, List.flatMap_cons, ← ih]
    exact runsOutside_append_cons (by decide) row _

theorem words_append_blanks {blanks : Text} (allBlank : ∀ c ∈ blanks, isBlank c = true)
    (text : Text) : words (text ++ blanks) = words text := by
  induction blanks generalizing text with
  | nil => rw [List.append_nil]
  | cons c blanks ih =>
    have rest := ih (fun other member => allBlank other (List.mem_cons_of_mem _ member)) []
    rw [words, runsOutside_append_cons (allBlank c List.mem_cons_self)]
    rw [List.nil_append] at rest
    rw [show runsOutside isBlank blanks = [] from rest, List.append_nil]
    rfl

theorem words_dropWhile (text : Text) : words (text.dropWhile isBlank) = words text := by
  induction text with
  | nil => rfl
  | cons c text ih =>
    rw [List.dropWhile_cons]
    cases blank : isBlank c with
    | true => rw [if_pos rfl, ih, words, words, runsOutside_of_inside blank]
    | false => rw [if_neg Bool.false_ne_true]

theorem words_trim (text : Text) : words (trim text) = words text := by
  obtain ⟨blanks, split, allBlank⟩ := exists_trimRight_append (text.dropWhile isBlank)
  rw [trim_eq, ← words_dropWhile text, ← words_append_blanks allBlank, ← split]

end Text

namespace Query

open Text Document

variable {text source : Text} {anchor : Date} {query : Query} {token : Text}

/-- Whether a word can start a fence. -/
def Marked (word : Text) : Prop := ∃ c ∈ word.head?, IsMark c

instance : DecidablePred IsMark := fun _ => inferInstanceAs (Decidable (_ ∨ _))

instance : DecidablePred Marked := fun _ => inferInstanceAs (Decidable (∃ _ ∈ _, _))

theorem not_marked_of_isDecimal {c : CodePoint} {rest : Text} (decimal : isDecimal c = true) :
    ¬ Marked (c :: rest) := by
  rintro ⟨other, same, isMark⟩
  obtain rfl := Option.some.inj same
  rcases isMark with rfl | rfl <;> revert decimal <;> decide

theorem not_marked_of_isNumeral (numeral : isNumeral token = true) : ¬ Marked token := by
  cases token with
  | nil => decide
  | cons c rest =>
    simp only [isNumeral, List.isEmpty_cons, Bool.not_false, Bool.true_and, List.all_cons,
      Bool.and_eq_true] at numeral
    exact not_marked_of_isDecimal numeral.1

theorem readLiteral_eq_ok_iff {date : Date} :
    readLiteral token = .ok date ↔ Calendar.ofLiteral? token = some date := by
  unfold readLiteral
  split
  · next found => rw [found, Except.ok.injEq, Option.some.injEq]
  · next unfound => simp only [unfound, reduceCtorEq]

theorem not_marked_of_readLiteral {date : Date} (read : readLiteral token = .ok date) :
    ¬ Marked token := by
  have shape : Calendar.hasLiteralShape token = true := by
    have found := readLiteral_eq_ok_iff.mp read
    rw [Calendar.ofLiteral?, Option.ite_none_right_eq_some] at found
    exact found.1
  unfold Calendar.hasLiteralShape at shape
  split at shape
  · simp only [List.all_cons, Bool.and_eq_true] at shape
    exact not_marked_of_isDecimal shape.2.1
  · cases shape

theorem marked_upper {word : Text} (marked : Marked word) : Marked (upper word) := by
  obtain ⟨c, start, isMark⟩ := marked
  obtain ⟨rest, rfl⟩ := List.head?_eq_some_iff.mp start
  have kept : upperChar c = [c] := by
    rcases isMark with rfl | rfl <;> decide
  exact ⟨c, by rw [upper, List.flatMap_cons, kept]; rfl, isMark⟩

theorem eq_nil_of_nothingBehind {words : List Text} {range : Except ParseFault DateRange}
    {result : DateRange} (resolved : (do nothingBehind words; range) = .ok result) :
    words = [] ∧ range = .ok result := by
  cases words with
  | nil => exact ⟨rfl, resolved⟩
  | cons word words => cases resolved

theorem nothingBehind_eq_ok_iff {words : List Text} {range : Except ParseFault DateRange}
    {result : DateRange} :
    (do nothingBehind words; range) = .ok result ↔ words = [] ∧ range = .ok result := by
  constructor
  · exact eq_nil_of_nothingBehind
  · rintro ⟨rfl, found⟩
    exact found

theorem mapError_eq_ok_iff {counted : Except Calendar.DayFault DateRange} {range : DateRange} :
    counted.mapError ParseFault.days = .ok range ↔ counted = .ok range := by
  cases counted with
  | error fault => exact ⟨nofun, nofun⟩
  | ok found => simp only [Except.mapError, Except.ok.injEq]

theorem pastRange_eq_ok_iff {words : List Text} {range : DateRange} :
    pastRange words anchor = .ok range ↔ ∃ count before, words = [count, "DAYS".text] ∧
      isNumeral count = true ∧ Number.readNumeral count = .ok (before + 1) ∧
        DateRange.upTo anchor before = .ok range := by
  constructor
  · intro resolved
    unfold pastRange at resolved
    split at resolved
    · cases resolved
    · next count rest =>
      split at resolved
      · cases resolved
      · next numeral =>
        split at resolved
        · cases resolved
        · cases resolved
        · cases resolved
        · next before read =>
          split at resolved
          · next unit behind =>
            split at resolved
            · cases resolved
            · next days =>
              obtain ⟨rfl, counted⟩ := eq_nil_of_nothingBehind resolved
              exact ⟨count, before, by rw [not_not.mp days], by simpa using numeral, read,
                mapError_eq_ok_iff.mp counted⟩
          · cases resolved
  · rintro ⟨count, before, rfl, numeral, read, found⟩
    simp only [pastRange, numeral, Bool.not_true, Bool.false_eq_true, ↓reduceIte, read, ne_eq,
      not_true_eq_false, nothingBehind_eq_ok_iff, mapError_eq_ok_iff, found, and_self]

theorem fromRange_eq_ok_iff {words : List Text} {range : DateRange} :
    fromRange words = .ok range ↔ ∃ start stop, words = [start, "TO".text, stop] ∧
      readLiteral start = .ok range.first ∧ readLiteral stop = .ok range.last := by
  constructor
  · intro resolved
    unfold fromRange at resolved
    split at resolved
    · next start middle stop behind =>
      split at resolved
      · cases resolved
      · next between =>
        obtain ⟨rfl, dates⟩ := eq_nil_of_nothingBehind resolved
        refine ⟨start, stop, by rw [not_not.mp between], ?_⟩
        cases first : readLiteral start with
        | error fault =>
          rw [first] at dates
          cases dates
        | ok firstDay =>
          cases last : readLiteral stop with
          | error fault =>
            rw [first, last] at dates
            cases dates
          | ok lastDay =>
            simp only [first, last, bind, Except.bind, DateRange.of?] at dates
            by_cases inOrder : firstDay ≤ lastDay
            · rw [dif_pos inOrder] at dates
              cases dates
              exact ⟨rfl, rfl⟩
            · rw [dif_neg inOrder] at dates
              cases dates
    · cases resolved
  · rintro ⟨start, stop, rfl, first, last⟩
    have ordered : DateRange.of? range.first range.last = some range := dif_pos range.ordered
    simp only [fromRange, ne_eq, not_true_eq_false, ↓reduceIte, nothingBehind_eq_ok_iff, true_and]
    simp only [first, last, bind, Except.bind, ordered]

theorem not_marked_of_pastRange {words : List Text} {range : DateRange}
    (resolved : pastRange words anchor = .ok range) : ∀ token ∈ words, ¬ Marked token := by
  obtain ⟨count, before, rfl, numeral, -, -⟩ := pastRange_eq_ok_iff.mp resolved
  have counted : ¬ Marked count := not_marked_of_isNumeral numeral
  have unit : ¬ Marked "DAYS".text := by decide
  simp [counted, unit]

theorem not_marked_of_fromRange {words : List Text} {range : DateRange}
    (resolved : fromRange words = .ok range) : ∀ token ∈ words, ¬ Marked token := by
  obtain ⟨start, stop, rfl, first, last⟩ := fromRange_eq_ok_iff.mp resolved
  have start' := not_marked_of_readLiteral first
  have stop' := not_marked_of_readLiteral last
  have middle : ¬ Marked "TO".text := by decide
  simp [start', middle, stop']

theorem not_marked_of_resolveRange {keyword : Text} {words : List Text} {range : DateRange}
    (resolved : resolveRange keyword words anchor = .ok range) :
    ∀ token ∈ keyword :: words, ¬ Marked token := by
  have keywords : ∀ word ∈ ["TODAY".text, "WEEK".text, "MONTH".text, "PAST".text, "FROM".text],
      ¬ Marked word := by decide
  unfold resolveRange at resolved
  rw [List.forall_mem_cons]
  split_ifs at resolved with today week month past from'
  · obtain ⟨rfl, -⟩ := eq_nil_of_nothingBehind resolved
    exact ⟨keywords keyword (by simp [today]), by simp⟩
  · obtain ⟨rfl, -⟩ := eq_nil_of_nothingBehind resolved
    exact ⟨keywords keyword (by simp [week]), by simp⟩
  · obtain ⟨rfl, -⟩ := eq_nil_of_nothingBehind resolved
    exact ⟨keywords keyword (by simp [month]), by simp⟩
  · exact ⟨keywords keyword (by simp [past]), not_marked_of_pastRange resolved⟩
  · exact ⟨keywords keyword (by simp [from']), not_marked_of_fromRange resolved⟩

theorem not_marked_of_kind {kind : ReportKind} (named : ReportKind.of? token = some kind) :
    ¬ Marked token := by
  unfold ReportKind.of? at named
  split_ifs at named with list summary
  · exact list ▸ by decide
  · exact summary ▸ by decide

theorem not_marked_of_parse (parsed : parse text anchor = .ok query) :
    ∀ token ∈ tokenize text, ¬ Marked token := by
  unfold parse at parsed
  split at parsed
  · cases parsed
  · cases parsed
  · next first keyword words tokens =>
    rw [tokens, List.forall_mem_cons]
    cases named : ReportKind.of? first with
    | none =>
      rw [named] at parsed
      cases parsed
    | some kind =>
      refine ⟨not_marked_of_kind named, ?_⟩
      cases resolved : resolveRange keyword words anchor with
      | error fault =>
        rw [named, resolved] at parsed
        cases parsed
      | ok range => exact not_marked_of_resolveRange resolved

/-- No line of a query that can be read opens or closes a block. -/
theorem inert_of_parse (parsed : parse text anchor = .ok query) :
    ∀ line ∈ pieces feed (trim text), Inert queryLanguage line := by
  intro line member
  refine inert_of_start fun c rest visible isMark => ?_
  obtain ⟨word, words', runs⟩ := exists_runsOutside visible
  have inWords : (c :: word) ∈ words text := by
    rw [← words_trim, words_eq_flatMap]
    refine List.mem_flatMap.mpr ⟨line, member, ?_⟩
    rw [words, runs]
    exact List.mem_cons_self
  exact not_marked_of_parse parsed _ (List.mem_map_of_mem inWords)
    (marked_upper ⟨c, rfl, isMark⟩)

end Query

end TimeReports
