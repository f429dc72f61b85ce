import TimeReports.Proofs.Grammar

set_option autoImplicit false

namespace TimeReports

namespace Text

variable {inClass : CodePoint → Bool} {text word : Text}

theorem runsOutside_of_visible (visible : ∀ c ∈ word, inClass c = false) (nonempty : word ≠ []) :
    runsOutside inClass word = [word] := by
  induction word with
  | nil => exact absurd rfl nonempty
  | cons c rest ih =>
    have first := visible c List.mem_cons_self
    cases rest with
    | nil => exact runsOutside_singleton first
    | cons next rest =>
      have others (other : CodePoint) (member : other ∈ next :: rest) :=
        visible other (List.mem_cons_of_mem _ member)
      rw [runsOutside_cons first (others next List.mem_cons_self), ih others (List.cons_ne_nil _ _),
        List.modifyHead_cons]

/-- Whether a text is one word that is written in capital letters. -/
structure IsCapital (word : Text) : Prop where
  nonempty : word ≠ []
  visible : ∀ c ∈ word, isBlank c = false
  capital : ∀ c ∈ word, upperChar c = [c]

theorem IsCapital.upper (capital : IsCapital word) : Text.upper word = word := by
  rw [Text.upper, List.flatMap_congr capital.capital, List.flatMap_singleton']

theorem IsCapital.words (capital : IsCapital word) : words word = [word] :=
  runsOutside_of_visible capital.visible capital.nonempty

theorem IsCapital.words_append (capital : IsCapital word) (rest : Text) :
    Text.words (word ++ .char ' ' :: rest) = word :: Text.words rest := by
  rw [Text.words, runsOutside_append_cons (by decide),
    runsOutside_of_visible capital.visible capital.nonempty]
  rfl

theorem isCapital_iso (date : Date) : IsCapital date.iso where
  nonempty := by
    rw [Calendar.iso_eq]
    exact List.cons_ne_nil _ _
  visible := by
    have visible : ∀ digit : Fin 10, isBlank (digitChar digit) = false := by decide
    intro c member
    rcases Calendar.mem_iso member with rfl | ⟨digit, rfl⟩
    · decide
    · exact visible digit
  capital := by
    have capital : ∀ digit : Fin 10, upperChar (digitChar digit) = [digitChar digit] := by decide
    intro c member
    rcases Calendar.mem_iso member with rfl | ⟨digit, rfl⟩
    · decide
    · exact capital digit

end Text

namespace Query

open Text

theorem isCapital_keyword (kind : ReportKind) : IsCapital kind.keyword := by
  cases kind <;> exact ⟨by decide, by decide, by decide⟩

def explicit (query : Query) : Text :=
  query.kind.keyword ++ " FROM ".text ++ query.range.first.iso ++ " TO ".text
    ++ query.range.last.iso

theorem tokenize_explicit (query : Query) : tokenize query.explicit =
    [query.kind.keyword, "FROM".text, query.range.first.iso, "TO".text, query.range.last.iso] := by
  have kind := isCapital_keyword query.kind
  have first := isCapital_iso query.range.first
  have last := isCapital_iso query.range.last
  have from' : IsCapital "FROM".text := ⟨by decide, by decide, by decide⟩
  have until' : IsCapital "TO".text := ⟨by decide, by decide, by decide⟩
  have spaced : query.explicit = query.kind.keyword ++ .char ' ' :: ("FROM".text ++ .char ' ' ::
      (query.range.first.iso ++ .char ' ' :: ("TO".text ++ .char ' ' ::
        query.range.last.iso))) := by
    rw [explicit, show " FROM ".text = .char ' ' :: "FROM".text ++ [.char ' '] by decide,
      show " TO ".text = .char ' ' :: "TO".text ++ [.char ' '] by decide]
    simp only [List.append_assoc, List.cons_append, List.nil_append]
  rw [tokenize, spaced, kind.words_append, from'.words_append, first.words_append,
    until'.words_append, last.words]
  simp only [List.map_cons, List.map_nil, kind.upper, from'.upper, first.upper, until'.upper,
    last.upper]

theorem parse_of_explicit (query : Query) (anchor : Date) :
    parse query.explicit anchor = .ok query := by
  rw [parse_of_tokens (tokenize_explicit query), resolveRange_from,
    fromRange_iso query.range.ordered]
  rfl

/-- On every day the explicit form of a query is read as that query. There is a query for every kind
and every two dates in order, and any way in which a query was written, on any day, can so be
replaced by its explicit form. -/
theorem parse_explicit (anchor : Date) :
    (∀ query : Query, parse query.explicit anchor = .ok query) ∧
    (∀ (kind : ReportKind) (first last : Date), first ≤ last → ∃ query : Query,
      Query.of kind first last = .ok query ∧ query.explicit =
        kind.keyword ++ " FROM ".text ++ first.iso ++ " TO ".text ++ last.iso) ∧
    ∀ (source : Text) (today : Date) (query : Query), parse source today = .ok query →
      parse query.explicit anchor = .ok query := by
  refine ⟨fun query => parse_of_explicit query anchor, ?_,
    fun source today query _ => parse_of_explicit query anchor⟩
  intro kind first last inOrder
  have range : DateRange.of? first last = some ⟨first, last, inOrder⟩ := dif_pos inOrder
  exact ⟨⟨kind, first, last, inOrder⟩, by rw [Query.of, range], rfl⟩

/-- Three days up to the first of March of a leap year, read again on the first day of the
calendar. -/
theorem parse_explicit_leap_day : ∃ query,
    parse "summary past 03 days".text ⟨2024, 3, 1, by decide⟩ = .ok query ∧
      query.explicit = "SUMMARY FROM 2024-02-28 TO 2024-03-01".text ∧
        parse query.explicit ⟨1, 1, 1, by decide⟩ = .ok query := by
  have parsed : parse "summary past 03 days".text ⟨2024, 3, 1, by decide⟩ =
      .ok ⟨.summary, ⟨2024, 2, 28, by decide⟩, ⟨2024, 3, 1, by decide⟩, by decide⟩ := by
    decide +kernel
  exact ⟨_, parsed, by decide, (parse_explicit _).2.2 _ _ _ parsed⟩

end Query
end TimeReports
