import TimeReports.Proofs.Markup

set_option autoImplicit false

namespace TimeReports

namespace Text

variable {first last text : Text}

/-- Whether a character begins or ends a tag or a value inside a tag. -/
def isDelimiter (c : CodePoint) : Bool := c = '<' || c = '>' || c = '"'

theorem isDelimiter_eq_false_iff {c : CodePoint} :
    isDelimiter c = false ↔ c ≠ .char '<' ∧ c ≠ .char '>' ∧ c ≠ .char '"' := by
  simp only [isDelimiter, Bool.or_eq_false_iff, decide_eq_false_iff_not, and_assoc]

def delimiters (text : Text) : Text := text.filter isDelimiter

def Undelimited (text : Text) : Prop := ∀ c ∈ text, isDelimiter c = false

instance (text : Text) : Decidable (Undelimited text) :=
  inferInstanceAs (Decidable (∀ _ ∈ text, _))

@[simp] theorem delimiters_append :
    delimiters (first ++ last) = delimiters first ++ delimiters last :=
  List.filter_append first last

theorem Undelimited.delimiters_eq (plain : Undelimited text) : delimiters text = [] :=
  List.filter_eq_nil_iff.mpr fun c member => by simp only [plain c member, Bool.false_eq_true,
    not_false_iff]

theorem Undelimited.append (plain : Undelimited first) (plain' : Undelimited last) :
    Undelimited (first ++ last) :=
  List.forall_mem_append.mpr ⟨plain, plain'⟩

/-- A string, given by its characters, has no delimiter. -/
theorem undelimited_ofList {chars : List Char}
    (plain : (chars.all fun c => c != '<' && c != '>' && c != '"') = true) :
    Undelimited (String.ofList chars).text := by
  rw [text_ofList]
  intro c member
  obtain ⟨char, inside, rfl⟩ := List.mem_map.mp member
  have apart := List.all_eq_true.mp plain char inside
  simp only [Bool.and_eq_true, bne_iff_ne, and_assoc] at apart
  obtain ⟨less, greater, quote⟩ := apart
  exact isDelimiter_eq_false_iff.mpr ⟨fun same => less (CodePoint.char.inj same),
    fun same => greater (CodePoint.char.inj same), fun same => quote (CodePoint.char.inj same)⟩

theorem Numeric.undelimited (numeric : Numeric text) : Undelimited text := by
  have chars : Undelimited numericChars := by decide
  exact fun c member => chars c (numeric c member)

theorem undelimited_escape (text : Text) : Undelimited (escape text) := by
  intro c member
  have apart (delimiter : Char) (inside : delimiter ∈ ['<', '>', '"', '\'']) :
      c ≠ .char delimiter := by
    rintro rfl
    exact delimiter_not_mem_escape text delimiter inside member
  exact isDelimiter_eq_false_iff.mpr
    ⟨apart '<' (by decide), apart '>' (by decide), apart '"' (by decide)⟩

end Text

namespace Display

open Text

variable {c : CodePoint} {first last text front : Text} {names : List Text}

/-- Where a reader of markup stands. -/
inductive Position where
  /-- Outside of tags. -/
  | content
  /-- In a tag, behind this much of it; the values inside a tag are left out. -/
  | tag (front : Text)
  /-- In a value, behind this much of its tag. -/
  | value (front : Text)
  deriving DecidableEq, Repr

/-- A reader of markup: the names of the open tags, the innermost first, and its position. -/
structure Reading where
  unclosed : List Text
  position : Position
  deriving DecidableEq, Repr

/-- The name of a tag: what stands before its first space. -/
def tagName (tag : Text) : Text := tag.takeWhile fun c => c ≠ .char ' '

/-- The open tags behind a tag. A tag begins with its name; a closing tag has the name of the
innermost open one and closes it. -/
def afterTag? (unclosed : List Text) : Text → Option (List Text)
  | [] => none
  | c :: rest =>
    if c = '/' then
      match unclosed with
      | [] => none
      | innermost :: others => if rest = innermost then some others else none
    else if c = ' ' then none
    else some (tagName (c :: rest) :: unclosed)

namespace Reading

variable {before middle after : Reading}

/-- Reads a character. Delimiters have no other place than around tags and values. -/
def next? (reading : Reading) (c : CodePoint) : Option Reading :=
  match reading.position with
  | .content =>
    if c = '<' then some ⟨reading.unclosed, .tag []⟩
    else if isDelimiter c then none
    else some reading
  | .tag front =>
    if c = '>' then (afterTag? reading.unclosed front).map fun unclosed => ⟨unclosed, .content⟩
    else if c = '"' then some ⟨reading.unclosed, .value front⟩
    else if isDelimiter c then none
    else some ⟨reading.unclosed, .tag (front ++ [c])⟩
  | .value front =>
    if c = '"' then some ⟨reading.unclosed, .tag front⟩
    else if isDelimiter c then none
    else some reading

/-- Whether a reader comes through a text and ends there. -/
def Through (before : Reading) (text : Text) (after : Reading) : Prop :=
  text.foldlM next? before = some after

instance (before after : Reading) (text : Text) : Decidable (before.Through text after) :=
  inferInstanceAs (Decidable (_ = _))

def start : Reading := ⟨[], .content⟩

theorem Through.nil : before.Through [] before := rfl

theorem through_cons : before.Through (c :: text) after ↔
    ∃ middle, before.next? c = some middle ∧ middle.Through text after := by
  rw [Through, List.foldlM_cons]
  exact Option.bind_eq_some_iff

theorem Through.append (front : before.Through first middle) (back : middle.Through last after) :
    before.Through (first ++ last) after := by
  rw [Through, List.foldlM_append, front]
  exact back

def inside (reading : Reading) (names : List Text) : Reading :=
  ⟨reading.unclosed ++ names, reading.position⟩

theorem afterTag?_append {unclosed unclosed' : List Text} {tag : Text} (names : List Text)
    (ended : afterTag? unclosed tag = some unclosed') :
    afterTag? (unclosed ++ names) tag = some (unclosed' ++ names) := by
  cases tag with
  | nil => cases ended
  | cons c rest =>
    simp only [afterTag?] at ended ⊢
    split_ifs at ended ⊢ with closes spaced
    · cases unclosed with
      | nil => cases ended
      | cons innermost others =>
        dsimp only [List.cons_append] at ended ⊢
        split_ifs at ended ⊢
        cases ended
        rfl
    · cases ended
      rfl

theorem next?_inside (names : List Text) (read : before.next? c = some after) :
    (before.inside names).next? c = some (after.inside names) := by
  unfold next? at read ⊢
  obtain ⟨unclosed, position⟩ := before
  cases position with
  | content =>
    simp only [inside] at read ⊢
    split_ifs at read ⊢ <;> cases read <;> rfl
  | tag front =>
    simp only [inside] at read ⊢
    split_ifs at read ⊢
    · obtain ⟨ended, leaves, rfl⟩ := Option.map_eq_some_iff.mp read
      rw [afterTag?_append names leaves]
      rfl
    all_goals cases read; rfl
  | value front =>
    simp only [inside] at read ⊢
    split_ifs at read ⊢ <;> cases read <;> rfl

/-- What a reader reads does not depend on the tags around it. -/
theorem Through.inside (names : List Text) (through : before.Through text after) :
    (before.inside names).Through text (after.inside names) := by
  induction text generalizing before with
  | nil =>
    cases through
    exact Through.nil
  | cons c text ih =>
    obtain ⟨middle, read, rest⟩ := through_cons.mp through
    exact through_cons.mpr ⟨middle.inside names, next?_inside names read, ih rest⟩

theorem next?_content (plain : isDelimiter c = false) :
    next? ⟨names, .content⟩ c = some ⟨names, .content⟩ := by
  obtain ⟨less, -, -⟩ := isDelimiter_eq_false_iff.mp plain
  simp only [next?, less, plain, Bool.false_eq_true, ↓reduceIte]

theorem next?_value (plain : isDelimiter c = false) :
    next? ⟨names, .value front⟩ c = some ⟨names, .value front⟩ := by
  obtain ⟨-, -, quote⟩ := isDelimiter_eq_false_iff.mp plain
  simp only [next?, quote, plain, Bool.false_eq_true, ↓reduceIte]

theorem next?_tag (plain : isDelimiter c = false) :
    next? ⟨names, .tag front⟩ c = some ⟨names, .tag (front ++ [c])⟩ := by
  obtain ⟨-, greater, quote⟩ := isDelimiter_eq_false_iff.mp plain
  simp only [next?, greater, quote, plain, Bool.false_eq_true, ↓reduceIte]

/-- The way through a string, given by its characters. These need not be decoded to be read. -/
theorem through_ofList {chars : List Char}
    (read : (chars.map CodePoint.char).foldlM next? before = some after) :
    before.Through (String.ofList chars).text after := by
  rw [text_ofList]
  exact read

theorem through_content (plain : Undelimited text) :
    Through ⟨names, .content⟩ text ⟨names, .content⟩ := by
  induction text with
  | nil => exact Through.nil
  | cons c text ih =>
    rw [Undelimited, List.forall_mem_cons] at plain
    exact through_cons.mpr ⟨_, next?_content plain.1, ih plain.2⟩

theorem through_value (plain : Undelimited text) :
    Through ⟨names, .value front⟩ text ⟨names, .value front⟩ := by
  induction text with
  | nil => exact Through.nil
  | cons c text ih =>
    rw [Undelimited, List.forall_mem_cons] at plain
    exact through_cons.mpr ⟨_, next?_value plain.1, ih plain.2⟩

theorem through_tag (plain : Undelimited text) :
    Through ⟨names, .tag front⟩ text ⟨names, .tag (front ++ text)⟩ := by
  induction text generalizing front with
  | nil =>
    rw [List.append_nil]
    exact Through.nil
  | cons c text ih =>
    rw [Undelimited, List.forall_mem_cons] at plain
    have rest : Through ⟨names, .tag (front ++ [c])⟩ text ⟨names, .tag (front ++ [c] ++ text)⟩ :=
      ih plain.2
    rw [List.append_assoc, List.singleton_append] at rest
    exact through_cons.mpr ⟨_, next?_tag plain.1, rest⟩

/-- A value inside a tag, between what stands before and behind it. -/
theorem Through.valued (begins : before.Through first ⟨names, .value front⟩)
    (plain : Undelimited text) (ends : Through ⟨names, .value front⟩ last after) :
    before.Through (first ++ text ++ last) after :=
  (begins.append (through_value plain)).append ends

end Reading

def WellNested (text : Text) : Prop := Reading.start.Through text .start

instance (text : Text) : Decidable (WellNested text) :=
  inferInstanceAs (Decidable (Reading.Through _ _ _))

example : WellNested "<p class=\"total\"><b>1</b>h</p>".text ∧
    ¬ WellNested "<p class=\"total\"><b>1</p>h</b>".text := by
  decide +kernel

theorem wellNested_of_undelimited (plain : Undelimited text) : WellNested text :=
  Reading.through_content plain

/-- A well nested text leaves the tags around it as they are. -/
theorem WellNested.through (nested : WellNested text) (names : List Text) :
    Reading.Through ⟨names, .content⟩ text ⟨names, .content⟩ :=
  nested.inside names

theorem WellNested.append (nested : WellNested first) (nested' : WellNested last) :
    WellNested (first ++ last) :=
  Reading.Through.append nested nested'

theorem wellNested_flatMap {α : Type} {items : List α} {write : α → Text}
    (nested : ∀ item ∈ items, WellNested (write item)) : WellNested (items.flatMap write) := by
  induction items with
  | nil => exact Reading.Through.nil
  | cons item items ih =>
    have rest := ih fun other member => nested other (List.mem_cons_of_mem item member)
    exact (nested item List.mem_cons_self).append rest

/-- What stands between the tags of an element. -/
theorem WellNested.between {opening inner closing : Text} {name : Text} (nested : WellNested inner)
    (opens : Reading.start.Through opening ⟨[name], .content⟩)
    (closes : Reading.Through ⟨[name], .content⟩ closing .start) :
    WellNested (opening ++ inner ++ closing) :=
  (opens.append (nested.through [name])).append closes

theorem wellNested_escape (text : Text) : WellNested (escape text) :=
  wellNested_of_undelimited (undelimited_escape text)

theorem undelimited_cellStyle {chars : List Char}
    (plain : (chars.all fun c => c != '<' && c != '>' && c != '"') = true) :
    Undelimited (cellStyle (String.ofList chars)) :=
  ((undelimited_ofList (by decide)).append (undelimited_ofList plain)).append
    (undelimited_ofList (by decide))

theorem wellNested_markupHeader (header : Text) : WellNested (markupHeader header) := by
  have begins : Reading.start.Through "<th style=\"".text ⟨[], .value "th style=".text⟩ :=
    Reading.through_ofList (by decide)
  have opens : Reading.start.Through ("<th style=\"".text ++ cellStyle "left" ++ "\">".text)
      ⟨["th".text], .content⟩ :=
    begins.valued (undelimited_cellStyle (by decide)) (Reading.through_ofList (by decide))
  exact (wellNested_escape header).between opens (Reading.through_ofList (by decide))

theorem wellNested_cell (cell : Text) :
    WellNested ("<td style=\"".text ++ cellStyle "left" ++ "\">".text ++ escape cell
      ++ "</td>".text) := by
  have begins : Reading.start.Through "<td style=\"".text ⟨[], .value "td style=".text⟩ :=
    Reading.through_ofList (by decide)
  have opens : Reading.start.Through ("<td style=\"".text ++ cellStyle "left" ++ "\">".text)
      ⟨["td".text], .content⟩ :=
    begins.valued (undelimited_cellStyle (by decide)) (Reading.through_ofList (by decide))
  exact (wellNested_escape cell).between opens (Reading.through_ofList (by decide))

theorem wellNested_hoursCell (hours : Text) :
    WellNested ("<td class=\"harvest-hours\" style=\"".text ++ cellStyle "right" ++ "\">".text
      ++ escape hours ++ "</td>".text) := by
  have begins : Reading.start.Through "<td class=\"harvest-hours\" style=\"".text
      ⟨[], .value "td class= style=".text⟩ := Reading.through_ofList (by decide)
  have opens : Reading.start.Through ("<td class=\"harvest-hours\" style=\"".text
      ++ cellStyle "right" ++ "\">".text) ⟨["td".text], .content⟩ :=
    begins.valued (undelimited_cellStyle (by decide)) (Reading.through_ofList (by decide))
  exact (wellNested_escape hours).between opens (Reading.through_ofList (by decide))

theorem wellNested_markupCells (cells : List Text) : WellNested (markupCells cells) := by
  induction cells with
  | nil => exact Reading.Through.nil
  | cons cell rest ih =>
    cases rest with
    | nil => exact wellNested_hoursCell cell
    | cons next rest => exact (wellNested_cell cell).append ih

theorem wellNested_markupRow (row : List Text) : WellNested (markupRow row) := by
  have opens : Reading.start.Through "<tr>".text ⟨["tr".text], .content⟩ :=
    Reading.through_ofList (by decide)
  exact (wellNested_markupCells row).between opens (Reading.through_ofList (by decide))

theorem wellNested_markupSegment {segment : Segment} (plain : Undelimited segment.color) :
    WellNested (markupSegment segment) := by
  have share := (Number.numeric_general Number.shareLayout 6 segment.percentage).undelimited
  have between : Undelimited "%; background-color: ".text := undelimited_ofList (by decide)
  have styled : Reading.start.Through
      "<div class=\"harvest-barchart-bar\" style=\"height: 100%; width: ".text
      ⟨[], .value "div class= style=".text⟩ := Reading.through_ofList (by decide)
  have titled : Reading.Through ⟨[], .value "div class= style=".text⟩ ";\" title=\"".text
      ⟨[], .value "div class= style= title=".text⟩ := Reading.through_ofList (by decide)
  have ends : Reading.Through ⟨[], .value "div class= style= title=".text⟩ "\"></div>".text
      .start := Reading.through_ofList (by decide)
  have colored := (styled.append (Reading.through_value share)).append
    (Reading.through_value between)
  exact (colored.valued plain titled).valued (undelimited_escape segment.title) ends

theorem wellNested_markupLegendItem {item : LegendItem} (plain : Undelimited item.color) :
    WellNested (markupLegendItem item) := by
  have sample : Undelimited sampleStyle := undelimited_ofList (by decide)
  have opens : Reading.start.Through
      "<div class=\"harvest-legend-item\" style=\"display: flex; align-items: center;\">".text
      ⟨["div".text], .content⟩ := Reading.through_ofList (by decide)
  have swatch : Reading.Through ⟨["div".text], .content⟩
      "<div class=\"harvest-legend-swatch\" style=\"".text
      ⟨["div".text], .value "div class= style=".text⟩ := Reading.through_ofList (by decide)
  have between : Reading.Through ⟨["div".text], .value "div class= style=".text⟩
      " background-color: ".text ⟨["div".text], .value "div class= style=".text⟩ :=
    Reading.through_ofList (by decide)
  have label : Reading.Through ⟨["div".text], .value "div class= style=".text⟩
      ";\"></div><span>".text ⟨["span".text, "div".text], .content⟩ :=
    Reading.through_ofList (by decide)
  have ends : Reading.Through ⟨["span".text, "div".text], .content⟩ "</span></div>".text .start :=
    Reading.through_ofList (by decide)
  have colored := ((opens.append swatch).valued sample between).valued plain label
  exact (colored.append (Reading.through_content (undelimited_escape item.label))).append ends

theorem tagName_eq {tag : Text} (unspaced : .char ' ' ∉ tag) : tagName tag = tag := by
  refine List.takeWhile_eq_self_iff.mpr fun c member => decide_eq_true ?_
  rintro rfl
  exact unspaced member

def headingName (level : Int) : Text := .char 'h' :: intDigits level

theorem tagName_headingName (level : Int) : tagName (headingName level) = headingName level := by
  have chars : .char ' ' ∉ .char 'h' :: numericChars := by decide
  refine tagName_eq fun member => chars ?_
  rcases List.mem_cons.mp member with same | inside
  · exact same ▸ List.mem_cons_self
  · exact List.mem_cons_of_mem _ (numeric_intDigits level _ inside)

theorem opens_heading (level : Int) :
    Reading.start.Through ("<h".text ++ intDigits level ++ [.char '>'])
      ⟨[headingName level], .content⟩ := by
  have front : Reading.start.Through "<h".text ⟨[], .tag "h".text⟩ := by decide
  have named : Reading.start.Through ("<h".text ++ intDigits level)
      ⟨[], .tag (headingName level)⟩ :=
    front.append (Reading.through_tag (numeric_intDigits level).undelimited)
  have opened : afterTag? [] (headingName level) = some [tagName (headingName level)] := rfl
  rw [tagName_headingName] at opened
  refine named.append (Reading.through_cons.mpr ⟨_, ?_, Reading.Through.nil⟩)
  simp only [Reading.next?, opened, ↓reduceIte, Option.map_some]

theorem closes_heading (level : Int) :
    Reading.Through ⟨[headingName level], .content⟩ ("</h".text ++ intDigits level ++ ">".text)
      .start := by
  have front : Reading.Through ⟨[headingName level], .content⟩ "</h".text
      ⟨[headingName level], .tag "/h".text⟩ := rfl
  have named := front.append (Reading.through_tag (numeric_intDigits level).undelimited)
  have closed : afterTag? [headingName level] ("/h".text ++ intDigits level) = some [] := by
    show (if headingName level = headingName level then some [] else none) = some []
    exact if_pos rfl
  refine named.append (Reading.through_cons.mpr ⟨_, ?_, Reading.Through.nil⟩)
  simp only [Reading.next?, closed, Option.map_some]
  rfl

theorem wellNested_heading (text : Text) (level : Int) :
    WellNested ("<h".text ++ intDigits level ++ .char '>' :: escape text ++ "</h".text
      ++ intDigits level ++ ">".text) := by
  have whole := (wellNested_escape text).between (opens_heading level) (closes_heading level)
  simpa only [List.append_assoc, List.cons_append, List.nil_append] using whole

theorem wellNested_paragraph {opening : Text} (text : Text) (strong : Bool)
    (opens : Reading.start.Through opening ⟨["p".text], .content⟩) :
    WellNested (opening ++ (if strong then "<strong>".text ++ escape text ++ "</strong>".text
      else escape text) ++ "</p>".text) := by
  have closes : Reading.Through ⟨["p".text], .content⟩ "</p>".text .start :=
    Reading.through_ofList (by decide)
  have plain := wellNested_escape text
  cases strong with
  | false => exact plain.between opens closes
  | true =>
    have strong : Reading.start.Through "<strong>".text ⟨["strong".text], .content⟩ :=
      Reading.through_ofList (by decide)
    have bold : WellNested ("<strong>".text ++ escape text ++ "</strong>".text) :=
      plain.between strong (Reading.through_ofList (by decide))
    exact bold.between opens closes

def lined (lines : List Text) : Text := lines.flatMap (feed :: ·)

theorem through_feed {after : Reading} (through : Reading.Through ⟨names, .content⟩ text after) :
    Reading.Through ⟨names, .content⟩ (feed :: text) after :=
  Reading.through_cons.mpr ⟨_, rfl, through⟩

theorem wellNested_lined {lines : List Text} (nested : ∀ line ∈ lines, WellNested line) :
    WellNested (lined lines) :=
  wellNested_flatMap fun line member => through_feed (nested line member)

theorem wellNested_lined_map {α : Type} {items : List α} {write : α → Text}
    (nested : ∀ item ∈ items, WellNested (write item)) : WellNested (lined (items.map write)) := by
  refine wellNested_lined fun line member => ?_
  obtain ⟨item, inside, rfl⟩ := List.mem_map.mp member
  exact nested item inside

theorem join_feed_cons (text : Text) (lines : List Text) :
    join [feed] (text :: lines) = text ++ lined lines := by
  induction lines generalizing text with
  | nil => exact (List.append_nil text).symm
  | cons line lines ih =>
    rw [join_cons_of_ne_nil _ _ (List.cons_ne_nil _ _), ih]
    simp only [lined, List.flatMap_cons, List.append_assoc, List.cons_append, List.nil_append]

theorem lined_append (lines others : List Text) :
    lined (lines ++ others) = lined lines ++ lined others :=
  List.flatMap_append

/-- An element whose tags stand on lines of their own. -/
theorem wellNested_lined_between {opening closing name : Text} {lines : List Text}
    (nested : WellNested (lined lines))
    (opens : Reading.start.Through opening ⟨[name], .content⟩)
    (closes : Reading.Through ⟨[name], .content⟩ closing .start) :
    WellNested (lined (opening :: lines ++ [closing])) := by
  have whole := nested.between (through_feed opens) (through_feed closes)
  simpa only [lined, List.cons_append, List.flatMap_cons, List.flatMap_append, List.flatMap_nil,
    List.append_nil, List.append_assoc] using whole

theorem wellNested_tableHead (headers : List Text) :
    WellNested ("<thead><tr>".text ++ headers.flatMap markupHeader ++ "</tr></thead>".text) := by
  have opens : Reading.start.Through "<thead><tr>".text ⟨["tr".text, "thead".text], .content⟩ :=
    Reading.through_ofList (by decide)
  have cells : WellNested (headers.flatMap markupHeader) :=
    wellNested_flatMap fun header _ => wellNested_markupHeader header
  exact (opens.append (cells.through _)).append (Reading.through_ofList (by decide))

theorem wellNested_tableBody (rows : List (List Text)) :
    WellNested (lined ("<tbody>".text :: rows.map markupRow ++ ["</tbody>".text])) := by
  have opens : Reading.start.Through "<tbody>".text ⟨["tbody".text], .content⟩ :=
    Reading.through_ofList (by decide)
  have inner : WellNested (lined (rows.map markupRow)) :=
    wellNested_lined_map fun row _ => wellNested_markupRow row
  exact wellNested_lined_between inner opens (Reading.through_ofList (by decide))

theorem wellNested_table (headers : List Text) (rows : List (List Text)) (style : Text) :
    WellNested (lined (["<table class=\"".text ++ escape style
        ++ "\" style=\"width: 100%; border-collapse: collapse;\">".text,
      "<thead><tr>".text ++ headers.flatMap markupHeader ++ "</tr></thead>".text,
      "<tbody>".text] ++ rows.map markupRow ++ ["</tbody>".text, "</table>".text])) := by
  have begins : Reading.start.Through "<table class=\"".text ⟨[], .value "table class=".text⟩ :=
    Reading.through_ofList (by decide)
  have ends : Reading.Through ⟨[], .value "table class=".text⟩
      "\" style=\"width: 100%; border-collapse: collapse;\">".text ⟨["table".text], .content⟩ :=
    Reading.through_ofList (by decide)
  have closes : Reading.Through ⟨["table".text], .content⟩ "</table>".text .start :=
    Reading.through_ofList (by decide)
  have opens := begins.valued (undelimited_escape style) ends
  have head := wellNested_lined (List.forall_mem_singleton.mpr (wellNested_tableHead headers))
  have inner := head.append (wellNested_tableBody rows)
  rw [← lined_append] at inner
  have whole := wellNested_lined_between inner opens closes
  simpa only [List.cons_append, List.nil_append, List.append_assoc] using whole

theorem undelimited_chartStyle : Undelimited chartStyle := by
  rw [chartStyle_eq]
  exact (undelimited_ofList (by decide)).append (undelimited_ofList (by decide))

theorem wellNested_barChart {segments : List Segment}
    (plain : ∀ segment ∈ segments, Undelimited segment.color) :
    WellNested (lined (("<div class=\"harvest-barchart-container\" style=\"".text ++ chartStyle
      ++ "\">".text) :: segments.map markupSegment ++ ["</div>".text])) := by
  have begins : Reading.start.Through "<div class=\"harvest-barchart-container\" style=\"".text
      ⟨[], .value "div class= style=".text⟩ := Reading.through_ofList (by decide)
  have ends : Reading.Through ⟨[], .value "div class= style=".text⟩ "\">".text
      ⟨["div".text], .content⟩ := Reading.through_ofList (by decide)
  have bars := wellNested_lined_map fun segment member =>
    wellNested_markupSegment (plain segment member)
  exact wellNested_lined_between bars (begins.valued undelimited_chartStyle ends)
    (Reading.through_ofList (by decide))

theorem wellNested_legend {items : List LegendItem}
    (plain : ∀ item ∈ items, Undelimited item.color) :
    WellNested (lined (("<div class=\"harvest-barchart-legend\" style=\"display: flex; ".text
      ++ "flex-direction: column; gap: 0.5em;\">".text) :: items.map markupLegendItem
      ++ ["</div>".text])) := by
  have begins : Reading.start.Through
      "<div class=\"harvest-barchart-legend\" style=\"display: flex; ".text
      ⟨[], .value "div class= style=".text⟩ := Reading.through_ofList (by decide)
  have ends : Reading.Through ⟨[], .value "div class= style=".text⟩
      "flex-direction: column; gap: 0.5em;\">".text ⟨["div".text], .content⟩ :=
    Reading.through_ofList (by decide)
  have labels := wellNested_lined_map fun item member =>
    wellNested_markupLegendItem (plain item member)
  exact wellNested_lined_between labels (begins.append ends) (Reading.through_ofList (by decide))

theorem opens_styledParagraph (style : Text) :
    Reading.start.Through ("<p".text ++ (" class=\"".text ++ escape style ++ "\"".text)
      ++ [.char '>']) ⟨["p".text], .content⟩ := by
  have begins : Reading.start.Through ("<p".text ++ " class=\"".text)
      ⟨[], .value "p class=".text⟩ := by decide
  have ends : Reading.Through ⟨[], .value "p class=".text⟩ ("\"".text ++ [.char '>'])
      ⟨["p".text], .content⟩ := by decide
  have whole := begins.valued (undelimited_escape style) ends
  simpa only [List.append_assoc] using whole

theorem wellNested_markupNode {node : Node} {lines : List Text}
    (plain : node.Colored Undelimited) (written : markupNode node = .ok lines) :
    WellNested (lined lines) := by
  cases node with
  | heading text level =>
    cases written
    exact wellNested_lined (List.forall_mem_singleton.mpr (wellNested_heading text level))
  | paragraph text strong style =>
    cases written
    have bare : Reading.start.Through "<p>".text ⟨["p".text], .content⟩ :=
      Reading.through_ofList (by decide)
    refine wellNested_lined (List.forall_mem_singleton.mpr ?_)
    match style with
    | none => exact wellNested_paragraph text strong bare
    | some [] => exact wellNested_paragraph text strong bare
    | some (c :: style) =>
      have whole := wellNested_paragraph text strong (opens_styledParagraph (c :: style))
      simpa only [List.append_assoc, List.cons_append, List.nil_append] using whole
  | table headers rows style =>
    cases written
    exact wellNested_table headers rows style
  | barChart segments =>
    cases written
    exact wellNested_barChart plain
  | legend items =>
    cases written
    exact wellNested_legend plain
  | foreign kind => cases written

theorem wellNested_markupNodes {nodes : List Node} {lines : List Text}
    (plain : ∀ node ∈ nodes, node.Colored Undelimited)
    (written : markupNodes nodes = .ok lines) : WellNested (lined lines) := by
  induction nodes generalizing lines with
  | nil =>
    cases written
    exact Reading.Through.nil
  | cons node nodes ih =>
    obtain ⟨front, behind, first, rest, rfl⟩ := exists_of_markupNodes_cons written
    rw [lined_append]
    have head := wellNested_markupNode (plain node List.mem_cons_self) first
    have tail := ih (fun other member => plain other (List.mem_cons_of_mem _ member)) rest
    exact head.append tail

/-- The tags of a display are well nested, whatever its texts and its style are. -/
theorem wellNested_markup {tree : Tree} {markup : Text}
    (plain : ∀ node ∈ tree.children, node.Colored Undelimited)
    (written : tree.markup = .ok markup) : WellNested markup := by
  obtain ⟨lines, nodes, rfl⟩ := exists_of_markup written
  have begins : Reading.start.Through "<div class=\"".text ⟨[], .value "div class=".text⟩ :=
    Reading.through_ofList (by decide)
  have ends : Reading.Through ⟨[], .value "div class=".text⟩ "\">".text ⟨["div".text], .content⟩ :=
    Reading.through_ofList (by decide)
  have closes : Reading.Through ⟨["div".text], .content⟩ "</div>".text .start :=
    Reading.through_ofList (by decide)
  have opens := begins.valued (undelimited_escape tree.style) ends
  have whole := (wellNested_markupNodes plain nodes).between opens (through_feed closes)
  rw [List.cons_append, join_feed_cons, lined_append, ← List.append_assoc]
  exact whole

end Display

end TimeReports
