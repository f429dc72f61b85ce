import TimeReports.Display.Markup
import TimeReports.Document.Frozen
import TimeReports.Proofs.Fences
import TimeReports.Proofs.OneLine

set_option autoImplicit false

namespace TimeReports

namespace Text

variable {text : Text}

theorem pieces_escape (text : Text) :
    pieces feed (escape text) = (pieces feed text).map escape := by
  induction text with
  | nil => rfl
  | cons c text ih =>
    rw [escape_cons]
    by_cases ends : c = feed
    · have kept : escapeChar c = [feed] := by rw [ends]; decide
      rw [kept, ends, List.singleton_append, pieces_cons_mark, pieces_cons_mark, ih, List.map_cons]
      rfl
    · have absent : feed ∉ escapeChar c := by
        intro member
        exact ends ((mem_escapeChar member).resolve_left (by decide)).1.symm
      obtain ⟨right, rest, others⟩ := exists_pieces_eq_cons feed text
      rw [others, List.map_cons] at ih
      have front : pieces feed (escapeChar c) = [] ++ [escapeChar c] := pieces_of_not_mem absent
      rw [pieces_append front ih, pieces_cons_of_ne ends, others,
        List.modifyHead_cons, List.map_cons, List.nil_append]
      simp only [escape, List.flatMap_cons]

end Text

namespace Document

open Text

variable {text first last : Text} {texts others lines lines' : List Text}

/-- The lines of a text without the first and the last one. -/
def innerLines (text : Text) : List Text := (pieces feed text).tail.dropLast

theorem innerLines_of_oneLine (oneLine : OneLine text) : innerLines text = [] := by
  have absent : feed ∉ text := fun member => (oneLine feed member).1 rfl
  rw [innerLines, pieces_of_not_mem absent]
  rfl

/-- What stands on one line with the end of a text is not in its inner lines. -/
theorem innerLines_append (first : Text) (oneLine : OneLine last) :
    innerLines (first ++ last) = innerLines first := by
  have absent : feed ∉ last := fun member => (oneLine feed member).1 rfl
  obtain ⟨init, left, split⟩ := exists_pieces_eq_append feed first
  rw [innerLines, innerLines, pieces_append split (pieces_of_not_mem absent), split]
  cases init with
  | nil => rfl
  | cons piece init =>
    rw [List.cons_append, List.cons_append, List.tail_cons, List.tail_cons, List.dropLast_concat,
      List.dropLast_concat]

theorem innerLines_escape (text : Text) :
    innerLines (escape text) = (innerLines text).map escape := by
  rw [innerLines, pieces_escape, innerLines, ← List.map_tail, ← List.map_dropLast]

/-- Whether a text holds an angle bracket. -/
def isTagged (text : Text) : Bool := text.contains (.char '<') || text.contains (.char '>')

theorem isTagged_append : isTagged (first ++ last) = (isTagged first || isTagged last) := by
  simp only [isTagged, List.contains_eq_mem, List.mem_append, Bool.decide_or]
  cases decide (CodePoint.char '<' ∈ first) <;> cases decide (CodePoint.char '>' ∈ first) <;> simp

theorem isTagged_escape (text : Text) : isTagged (escape text) = false := by
  have less := delimiter_not_mem_escape text '<' (by decide)
  have greater := delimiter_not_mem_escape text '>' (by decide)
  simp only [isTagged, List.contains_eq_mem, less, greater, decide_false, Bool.or_self]

theorem inert_of_isTagged (tagged : isTagged text = true) : Inert queryLanguage text := by
  simp only [isTagged, List.contains_eq_mem, Bool.or_eq_true, decide_eq_true_eq] at tagged
  rcases tagged with less | greater
  · exact inert_of_special less (by decide)
  · exact inert_of_special greater (by decide)

/-- Markup: a text between tags on one line. -/
structure IsTag (text : Text) : Prop where
  oneLine : OneLine text
  tagged : isTagged text = true

/-- A text shows other texts in order: each in escaped form, between tags. -/
inductive Shows : Text → List Text → Prop
  | tag {text : Text} (isTag : IsTag text) : Shows text []
  | escaped {before after : Text} {texts : List Text} (shows : Shows before texts) (text : Text)
    (isTag : IsTag after) : Shows (before ++ escape text ++ after) (texts ++ [text])
  | append {first last : Text} {texts others : List Text} (shows : Shows first texts)
    (shows' : Shows last others) : Shows (first ++ last) (texts ++ others)
  | stack {first last : Text} {texts others : List Text} (shows : Shows first texts)
    (shows' : Shows last others) : Shows (first ++ feed :: last) (texts ++ others)

/-- The lines of a text without an angle bracket. -/
def bareLines (text : Text) : List Text := (pieces feed text).filter (! isTagged ·)

/-- The lines of a text that starts and ends in tags: the first and the last one hold an angle
bracket, and those without one are known. -/
structure Edged (text : Text) (bare : List Text) : Prop where
  first : ∃ right rest, pieces feed text = right :: rest ∧ isTagged right = true
  last : ∃ init left, pieces feed text = init ++ [left] ∧ isTagged left = true
  bare : bareLines text = bare

theorem Edged.extend {bare rest : List Text} {right : Text} (edged : Edged first bare)
    (split : pieces feed last = right :: rest)
    (ends : rest = [] ∨ ∃ middle piece, rest = middle ++ [piece] ∧ isTagged piece = true) :
    Edged (first ++ last) (bare ++ rest.filter (! isTagged ·)) := by
  obtain ⟨⟨start, behind, starts, tagged⟩, ⟨init, left, splits, taggeds⟩, rfl⟩ := edged
  have whole := pieces_append splits split
  have grown : isTagged (left ++ right) = true := by rw [isTagged_append, taggeds, Bool.true_or]
  refine ⟨?_, ?_, ?_⟩
  · cases init with
    | nil => exact ⟨_, _, whole, grown⟩
    | cons piece init =>
      rw [starts] at splits
      exact ⟨piece, _, whole, (List.cons.inj splits).1 ▸ tagged⟩
  · rcases ends with rfl | ⟨middle, piece, rfl, tagged'⟩
    · exact ⟨init, _, whole, grown⟩
    · exact ⟨init ++ (left ++ right) :: middle, piece, by simp [whole], tagged'⟩
  · rw [bareLines, whole, bareLines, splits]
    simp only [List.filter_append, List.filter_cons, List.filter_nil, grown, taggeds, Bool.not_true,
      Bool.false_eq_true, ↓reduceIte, List.append_nil]

theorem Edged.seam {bare bare' : List Text} (edged : Edged first bare) (edged' : Edged last bare') :
    Edged (first ++ last) (bare ++ bare') := by
  obtain ⟨⟨right, rest, split, tagged⟩, ⟨init, left, splits, taggeds⟩, rfl⟩ := edged'
  have same : bareLines last = rest.filter (! isTagged ·) := by
    rw [bareLines, split]
    simp only [List.filter_cons, tagged, Bool.not_true, Bool.false_eq_true, ↓reduceIte]
  rw [same]
  refine edged.extend split ?_
  rw [split] at splits
  cases init with
  | nil => exact Or.inl (List.cons.inj splits).2
  | cons piece init => exact Or.inr ⟨init, left, (List.cons.inj splits).2, taggeds⟩

theorem Edged.escaped {bare : List Text} {before after : Text} (edged : Edged before bare)
    (text : Text) (isTag : IsTag after) :
    Edged (before ++ escape text ++ after) (bare ++ innerLines (escape text)) := by
  have absent : feed ∉ after := fun member => (isTag.oneLine feed member).1 rfl
  have behind : pieces feed after = after :: [] := pieces_of_not_mem absent
  have bracketless : ∀ piece ∈ pieces feed (escape text), isTagged piece = false := by
    rw [pieces_escape]
    intro piece member
    obtain ⟨line, -, rfl⟩ := List.mem_map.mp member
    exact isTagged_escape line
  obtain ⟨right, rest, split⟩ := exists_pieces_eq_cons feed (escape text)
  rw [List.append_assoc, innerLines, split, List.tail_cons]
  rcases List.eq_nil_or_concat rest with rfl | ⟨middle, piece, rfl⟩
  · have single : pieces feed (escape text) = [] ++ [right] := split
    exact edged.extend (pieces_append single behind) (Or.inl rfl)
  · rw [List.concat_eq_append, ← List.cons_append] at split
    have tagged : isTagged (piece ++ after) = true := by
      rw [isTagged_append, isTag.tagged, Bool.or_true]
    have joined : pieces feed (escape text ++ after) = right :: (middle ++ [piece ++ after]) :=
      pieces_append split behind
    have whole := edged.extend joined (Or.inr ⟨middle, piece ++ after, rfl, tagged⟩)
    have plain : middle.filter (! isTagged ·) = middle := by
      refine List.filter_eq_self.mpr fun line member => ?_
      rw [bracketless line (by simp [split, member]), Bool.not_false]
    rw [List.filter_append, plain] at whole
    rw [List.concat_eq_append, List.dropLast_concat]
    simpa [tagged] using whole

theorem Edged.stack {bare bare' : List Text} (edged : Edged first bare)
    (edged' : Edged last bare') :
    Edged (first ++ feed :: last) (bare ++ bare') := by
  obtain ⟨⟨right, rest, split, tagged⟩, -, rfl⟩ := edged
  obtain ⟨-, ⟨init, left, splits, taggeds⟩, rfl⟩ := edged'
  have whole := pieces_append_mark feed first last
  refine ⟨⟨right, rest ++ pieces feed last, ?_, tagged⟩,
    ⟨pieces feed first ++ init, left, ?_, taggeds⟩, ?_⟩
  · rw [whole, split, List.cons_append]
  · rw [whole, splits, List.append_assoc]
  · rw [bareLines, whole, List.filter_append]
    rfl

theorem IsTag.edged (isTag : IsTag text) : Edged text [] := by
  have absent : feed ∉ text := fun member => (isTag.oneLine feed member).1 rfl
  have whole := pieces_of_not_mem absent
  refine ⟨⟨text, [], whole, isTag.tagged⟩, ⟨[], text, whole, isTag.tagged⟩, ?_⟩
  rw [bareLines, whole]
  simp only [List.filter_cons, isTag.tagged, Bool.not_true, Bool.false_eq_true, ↓reduceIte,
    List.filter_nil]

/-- The lines without an angle bracket are the inner lines of the texts that are shown. -/
theorem Shows.edged (shows : Shows text texts) :
    Edged text ((texts.flatMap innerLines).map escape) := by
  induction shows with
  | tag isTag => exact isTag.edged
  | escaped _ text isTag ih =>
    rw [List.flatMap_append, List.map_append, List.flatMap_singleton, ← innerLines_escape]
    exact ih.escaped text isTag
  | append _ _ ih ih' =>
    rw [List.flatMap_append, List.map_append]
    exact ih.seam ih'
  | stack _ _ ih ih' =>
    rw [List.flatMap_append, List.map_append]
    exact ih.stack ih'

theorem back_not_mem_escape (absent : back ∉ text) : back ∉ escape text := by
  intro member
  exact absent ((mem_escape member).resolve_left (by decide)).1

theorem Shows.back_not_mem (shows : Shows text texts) (absent : ∀ text ∈ texts, back ∉ text) :
    back ∉ text := by
  induction shows with
  | tag isTag => exact fun member => (isTag.oneLine back member).2 rfl
  | escaped _ text isTag ih =>
    have before := ih fun other member => absent other (List.mem_append_left _ member)
    have within := back_not_mem_escape (absent text (by simp))
    have after : back ∉ _ := fun member => (isTag.oneLine back member).2 rfl
    simp only [List.mem_append, before, within, after, or_self, not_false_eq_true]
  | append _ _ ih ih' =>
    have first := ih fun other member => absent other (List.mem_append_left _ member)
    have last := ih' fun other member => absent other (List.mem_append_right _ member)
    simp only [List.mem_append, first, last, or_self, not_false_eq_true]
  | stack _ _ ih ih' =>
    have first := ih fun other member => absent other (List.mem_append_left _ member)
    have last := ih' fun other member => absent other (List.mem_append_right _ member)
    simp [first, last]

instance (text : Text) : Decidable (IsTag text) :=
  decidable_of_iff (OneLine text ∧ isTagged text = true)
    ⟨fun ⟨oneLine, tagged⟩ => ⟨oneLine, tagged⟩, fun isTag => ⟨isTag.oneLine, isTag.tagged⟩⟩

theorem IsTag.append_oneLine {text last : Text} (isTag : IsTag text) (oneLine : OneLine last) :
    IsTag (text ++ last) where
  oneLine := oneLine_append.mpr ⟨isTag.oneLine, oneLine⟩
  tagged := by rw [isTagged_append, isTag.tagged, Bool.true_or]

theorem IsTag.oneLine_append {text last : Text} (isTag : IsTag last) (oneLine : OneLine text) :
    IsTag (text ++ last) where
  oneLine := Text.oneLine_append.mpr ⟨oneLine, isTag.oneLine⟩
  tagged := by rw [isTagged_append, isTag.tagged, Bool.or_true]

/-- Whether characters hold an angle bracket and none that ends a line. -/
def holdTag (chars : List Char) : Bool :=
  (chars.all fun c => c != '\n' && c != '\r') && chars.any fun c => c == '<' || c == '>'

theorem isTag_ofList {chars : List Char} (hold : holdTag chars = true) :
    IsTag (String.ofList chars).text := by
  obtain ⟨plain, bracket⟩ := Bool.and_eq_true_iff.mp hold
  refine ⟨oneLine_ofList plain, ?_⟩
  obtain ⟨char, inside, is⟩ := List.any_eq_true.mp bracket
  rw [Bool.or_eq_true, beq_iff_eq, beq_iff_eq] at is
  rw [text_ofList, isTagged, Bool.or_eq_true, List.contains_iff_mem, List.contains_iff_mem]
  rcases is with rfl | rfl
  · exact Or.inl (List.mem_map_of_mem inside)
  · exact Or.inr (List.mem_map_of_mem inside)

/-- A text between two tags. -/
theorem shows_between {before after : Text} (text : Text) (isTag : IsTag before)
    (isTag' : IsTag after) : Shows (before ++ escape text ++ after) [text] :=
  (Shows.tag isTag).escaped text isTag'

inductive ShowLines : List Text → List Text → Prop
  | nil : ShowLines [] []
  | cons {line : Text} {lines texts others : List Text} (shows : Shows line texts)
    (show' : ShowLines lines others) : ShowLines (line :: lines) (texts ++ others)

theorem showLines_singleton {line : Text} (shows : Shows line texts) : ShowLines [line] texts := by
  have := ShowLines.cons shows .nil
  rwa [List.append_nil] at this

theorem ShowLines.append (show' : ShowLines lines texts) (show'' : ShowLines lines' others) :
    ShowLines (lines ++ lines') (texts ++ others) := by
  induction show' with
  | nil => exact show''
  | cons shows _ ih =>
    rw [List.cons_append, List.append_assoc]
    exact .cons shows ih

/-- Lines between an opening and a closing one. -/
theorem ShowLines.between {opening closing : Text} {shown : List Text}
    (opened : Shows opening shown) (show' : ShowLines lines texts) (closed : IsTag closing) :
    ShowLines (opening :: lines ++ [closing]) (shown ++ texts) := by
  have whole := ShowLines.cons opened (show'.append (showLines_singleton (.tag closed)))
  rwa [List.append_nil] at whole

theorem showLines_map {α : Type} {items : List α} {line : α → Text} {shown : α → List Text}
    (shows : ∀ item ∈ items, Shows (line item) (shown item)) :
    ShowLines (items.map line) (items.flatMap shown) := by
  induction items with
  | nil => exact .nil
  | cons item items ih =>
    rw [List.map_cons, List.flatMap_cons]
    exact .cons (shows item List.mem_cons_self) (ih fun other member =>
      shows other (List.mem_cons_of_mem _ member))

theorem showLines_map_singleton {α : Type} {items : List α} {line shown : α → Text}
    (shows : ∀ item ∈ items, Shows (line item) [shown item]) :
    ShowLines (items.map line) (items.map shown) := by
  rw [List.map_eq_flatMap (f := shown)]
  exact showLines_map shows

theorem ShowLines.join (show' : ShowLines lines texts) (some_line : lines ≠ []) :
    Shows (Text.join [feed] lines) texts := by
  induction show' with
  | nil => exact absurd rfl some_line
  | @cons line lines texts others shows show' ih =>
    by_cases last : lines = []
    · subst last
      cases show'
      rw [List.append_nil]
      exact shows
    · rw [join_cons_of_ne_nil _ _ last, List.append_assoc, List.singleton_append]
      exact shows.stack (ih last)

theorem Shows.flatMap {α : Type} {items : List α} {part : α → Text} {shown : α → List Text}
    (shows : Shows first texts) (shows' : ∀ item ∈ items, Shows (part item) (shown item)) :
    Shows (first ++ items.flatMap part) (texts ++ items.flatMap shown) := by
  induction items generalizing first texts with
  | nil => simpa using shows
  | cons item items ih =>
    rw [List.flatMap_cons, List.flatMap_cons, ← List.append_assoc, ← List.append_assoc]
    exact ih (shows.append (shows' item List.mem_cons_self)) fun other member =>
      shows' other (List.mem_cons_of_mem _ member)

/-- A frozen block shows its query and, below it, what its markup shows. -/
theorem shows_frozenBlock {markup : Text} (query : Text) (shows : Shows markup texts) :
    Shows (frozenBlock query markup) (trim query :: texts) := by
  have fold : Shows ("<pre>".text ++ escape (trim query) ++ "</pre>".text) [trim query] :=
    shows_between (trim query) (isTag_ofList (by decide)) (isTag_ofList (by decide))
  have opened : IsTag "<details class=\"harvest-frozen-query\">".text := isTag_ofList (by decide)
  have summary : IsTag "<summary>Harvest query</summary>".text := isTag_ofList (by decide)
  have closed : IsTag "</details>".text := isTag_ofList (by decide)
  have rest := ShowLines.cons fold (.cons (.tag closed) (showLines_singleton shows))
  have whole := ShowLines.cons (.tag opened) (.cons (.tag summary) rest)
  exact whole.join (List.cons_ne_nil _ _)

end Document

end TimeReports
