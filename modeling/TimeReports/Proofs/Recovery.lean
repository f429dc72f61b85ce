import TimeReports.Document.Frozen
import TimeReports.Proofs.Entities
import TimeReports.Proofs.StaticFlag

set_option autoImplicit false

namespace TimeReports

namespace Text

variable {pattern text first last core blanks before inside opening closing : Text}

/-- The text before the first occurrence of a pattern and the text behind that occurrence. -/
def cutAtPattern? (pattern : Text) : Text → Option (Text × Text)
  | [] => if pattern.isEmpty then some ([], []) else none
  | c :: rest =>
    if pattern.isPrefixOf (c :: rest) then some ([], (c :: rest).drop pattern.length)
    else (cutAtPattern? pattern rest).map fun (before, behind) => (c :: before, behind)

theorem cutAtPattern?_append (unbordered : Unbordered pattern) (nonempty : pattern ≠ [])
    (absent : ¬ pattern <:+: before) (behind : Text) :
    cutAtPattern? pattern (before ++ (pattern ++ behind)) = some (before, behind) := by
  induction before with
  | nil =>
    obtain ⟨c, tail, rfl⟩ := List.exists_cons_of_ne_nil nonempty
    have begins : (c :: tail).isPrefixOf (c :: (tail ++ behind)) = true :=
      List.isPrefixOf_iff_prefix.mpr (List.prefix_append (c :: tail) behind)
    rw [List.nil_append, List.cons_append, cutAtPattern?, if_pos begins, ← List.cons_append,
      List.drop_left]
  | cons c before ih =>
    have passed : ¬ pattern.isPrefixOf (c :: (before ++ (pattern ++ behind))) = true := by
      intro begins
      have inFront : pattern <+: c :: before :=
        unbordered.prefix_front (List.cons_ne_nil c before) (List.isPrefixOf_iff_prefix.mp begins)
      exact absent inFront.isInfix
    rw [List.cons_append, cutAtPattern?, if_neg passed,
      ih fun found => absent (List.infix_cons found), Option.map_some]

/-- The text between the first opening and the first closing behind it. -/
def between? (opening closing text : Text) : Option Text := do
  let (_, behind) ← cutAtPattern? opening text
  let (inside, _) ← cutAtPattern? closing behind
  return inside

theorem between?_append (opens : Unbordered opening) (some_opening : opening ≠ [])
    (closes : Unbordered closing) (some_closing : closing ≠ []) (unopened : ¬ opening <:+: before)
    (unclosed : ¬ closing <:+: inside) (after : Text) :
    between? opening closing (before ++ (opening ++ (inside ++ (closing ++ after)))) =
      some inside := by
  simp only [between?, cutAtPattern?_append opens some_opening unopened,
    cutAtPattern?_append closes some_closing unclosed, Option.bind_eq_bind, Option.bind_some]
  rfl

/-- A text is a core with blanks around it. -/
inductive InBlanks (core : Text) : Text → Prop
  | around {before after : Text} (blank_before : ∀ c ∈ before, isBlank c = true)
    (blank_after : ∀ c ∈ after, isBlank c = true) : InBlanks core (before ++ (core ++ after))

theorem trim_blanks_append (allBlank : ∀ c ∈ blanks, isBlank c = true) (text : Text) :
    trim (blanks ++ text) = trim text := by
  rw [trim_eq, trim_eq, List.dropWhile_append_of_pos allBlank]

theorem trim_append_blanks (allBlank : ∀ c ∈ blanks, isBlank c = true) (text : Text) :
    trim (text ++ blanks) = trim text := by
  induction blanks generalizing text with
  | nil => rw [List.append_nil]
  | cons c blanks ih =>
    obtain ⟨blank, allBlank⟩ := List.forall_mem_cons.mp allBlank
    rw [List.append_cons, ih allBlank, trim_append blank]

theorem InBlanks.trim_eq (inBlanks : InBlanks core text) : trim text = trim core := by
  cases inBlanks with
  | around blank_before blank_after =>
    rw [trim_blanks_append blank_before, trim_append_blanks blank_after]

theorem inBlanks_trim (text : Text) : InBlanks (trim text) text := by
  obtain ⟨before, split, blank_before⟩ := exists_append_dropWhile text
  obtain ⟨after, split', blank_after⟩ := exists_trimRight_append (text.dropWhile isBlank)
  have whole : InBlanks (trim text) _ := .around blank_before blank_after
  rwa [Text.trim_eq, ← split', ← split] at whole

/-- Texts are trimmed alike exactly when they are equal up to the blanks around them. -/
theorem trim_eq_trim_iff :
    trim first = trim last ↔ ∃ core, InBlanks core first ∧ InBlanks core last := by
  constructor
  · intro same
    exact ⟨trim first, inBlanks_trim first, same ▸ inBlanks_trim last⟩
  · rintro ⟨core, around_first, around_last⟩
    rw [around_first.trim_eq, around_last.trim_eq]

end Text

namespace Document

open Text

/-- What stands in a frozen block in front of the tag that opens the query. -/
def foldStart : Text :=
  "<details class=\"harvest-frozen-query\">".text ++ [feed] ++
    ("<summary>Harvest query</summary>".text ++ [feed])

/-- What stands in a frozen block between the query and the report. -/
def foldEnd : Text := [feed] ++ ("</details>".text ++ [feed])

theorem frozenBlock_eq (query markup : Text) : frozenBlock query markup =
    foldStart ++ ("<pre>".text ++
      (escape (trim query) ++ ("</pre>".text ++ (foldEnd ++ markup)))) := by
  simp only [frozenBlock, join, foldStart, foldEnd, List.append_assoc]

theorem between?_frozenBlock (query markup : Text) :
    between? "<pre>".text "</pre>".text (frozenBlock query markup) =
      some (escape (trim query)) := by
  have bracketless := delimiter_not_mem_escape (trim query) '<' (by decide)
  rw [frozenBlock_eq]
  apply between?_append (by decide) (by decide) (by decide) (by decide)
  · exact occurs_eq_false_iff.mp (by decide)
  · intro found
    exact bracketless (found.subset (by decide))

/-- Frozen blocks are the same exactly when their queries are equal up to the blanks around them and
their reports are equal. What stands between the tags of the query holds no character that begins or
ends a tag or a value, and decoded it is the trimmed query. -/
theorem frozenBlock_recoverable :
    (∀ query query' markup markup', frozenBlock query markup = frozenBlock query' markup' ↔
      (∃ core, InBlanks core query ∧ InBlanks core query') ∧ markup = markup') ∧
    ∀ query markup, ∃ shown,
      between? "<pre>".text "</pre>".text (frozenBlock query markup) = some shown ∧
      (∀ c ∈ ['<', '>', '"', '\''], CodePoint.char c ∉ shown) ∧
      unescape shown = trim query := by
  constructor
  · intro query query' markup markup'
    rw [← trim_eq_trim_iff]
    constructor
    · intro same
      have shown := between?_frozenBlock query markup
      rw [same, between?_frozenBlock, Option.some.injEq] at shown
      have query_same : trim query = trim query' := (escape_injective shown).symm
      rw [frozenBlock_eq, frozenBlock_eq, query_same] at same
      simp only [List.append_cancel_left_eq] at same
      exact ⟨query_same, same⟩
    · rintro ⟨query_same, rfl⟩
      rw [frozenBlock, query_same, frozenBlock]
  · intro query markup
    exact ⟨escape (trim query), between?_frozenBlock query markup,
      delimiter_not_mem_escape (trim query), unescape_escape (trim query)⟩

/-- Queries that look like the end of the fold or like entities come back as they were. -/
example : (between? "<pre>".text "</pre>".text
    (frozenBlock " LIST</pre> &lt;&amp;amp; \n".text "<div></div>".text)).map unescape =
      some "LIST</pre> &lt;&amp;amp;".text := by
  decide

/-- The query of a frozen block, read again, is the one that the block was made for. -/
theorem parse_recovered (query markup : Text) (anchor : Date) :
    (between? "<pre>".text "</pre>".text (frozenBlock query markup)).map
      (fun shown => Query.parse (unescape shown) anchor) = some (Query.parse query anchor) := by
  have tokens : Query.tokenize (trim query) = Query.tokenize query := by
    rw [Query.tokenize, Query.tokenize, words_trim]
  rw [between?_frozenBlock, Option.map_some, unescape_escape, Query.parse_congr tokens]

end Document

end TimeReports
