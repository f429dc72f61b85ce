import Mathlib.Logic.Function.Basic
import Mathlib.Tactic.SplitIfs
import TimeReports.Text.Escape

set_option autoImplicit false

namespace TimeReports.Text

variable {text entity : Text} {c source : CodePoint}

/-- The entities, each with the character that it stands for. -/
def entities : List (Text × CodePoint) :=
  [("&amp;".text, '&'), ("&lt;".text, '<'), ("&gt;".text, '>'), ("&quot;".text, '"'),
    ("&#x27;".text, '\'')]

/-- A character is written as its entity, and as itself when it has none. -/
theorem escapeChar_cases (c : CodePoint) : (escapeChar c, c) ∈ entities ∨
    escapeChar c = [c] ∧ ∀ entry ∈ entities, c ≠ entry.2 := by
  unfold escapeChar
  split_ifs with ampersand less greater quote apostrophe
  case neg =>
    refine Or.inr ⟨rfl, ?_⟩
    simp only [entities, List.forall_mem_cons, ampersand, less, greater, quote, apostrophe, ne_eq,
      not_false_eq_true, List.not_mem_nil, false_imp_iff, implies_true, and_self]
  all_goals
    subst c
    exact Or.inl (by decide)

theorem escape_cons (c : CodePoint) (text : Text) :
    escape (c :: text) = escapeChar c ++ escape text :=
  List.flatMap_cons

theorem mem_escapeChar (member : c ∈ escapeChar source) : c ∈ entities.flatMap (·.1) ∨
    c = source ∧ ∀ entry ∈ entities, c ≠ entry.2 := by
  rcases escapeChar_cases source with coded | ⟨kept, apart⟩
  · exact Or.inl (List.mem_flatMap.mpr ⟨_, coded, member⟩)
  · rw [kept] at member
    obtain rfl := List.mem_singleton.mp member
    exact Or.inr ⟨rfl, apart⟩

/-- A character of an escaped text is one of an entity, or one of the text that has no entity. -/
theorem mem_escape (member : c ∈ escape text) : c ∈ entities.flatMap (·.1) ∨
    c ∈ text ∧ ∀ entry ∈ entities, c ≠ entry.2 := by
  obtain ⟨source, inside, written⟩ := List.mem_flatMap.mp member
  apply (mem_escapeChar written).imp_right
  rintro ⟨rfl, apart⟩
  exact ⟨inside, apart⟩

/-- A character that has an entity stands in an escaped text only as part of entities. -/
theorem not_mem_escape (coded : ∃ entry ∈ entities, c = entry.2)
    (outside : c ∉ entities.flatMap (·.1)) (text : Text) : c ∉ escape text := by
  intro member
  obtain ⟨entry, inside, same⟩ := coded
  exact ((mem_escape member).resolve_left outside).2 entry inside same

/-- No escaped text holds an angle bracket or a quote. -/
theorem delimiter_not_mem_escape (text : Text) :
    ∀ c ∈ ['<', '>', '"', '\''], CodePoint.char c ∉ escape text := by
  intro c member
  simp only [List.mem_cons, List.not_mem_nil, or_false] at member
  rcases member with rfl | rfl | rfl | rfl
  all_goals exact not_mem_escape (by decide) (by decide) text

/-- Decoding of entities from left to right, where the next `inside` characters belong to an entity
already decoded. -/
def unescapeFrom : Nat → Text → Text
  | _, [] => []
  | inside + 1, _ :: rest => unescapeFrom inside rest
  | 0, c :: rest =>
    match entities.find? fun entry => entry.1.isPrefixOf (c :: rest) with
    | some (entity, decoded) => decoded :: unescapeFrom (entity.length - 1) rest
    | none => c :: unescapeFrom 0 rest

/-- A text with each entity replaced by the character that it stands for. -/
def unescape (text : Text) : Text := unescapeFrom 0 text

theorem unescape_entity (member : (entity, c) ∈ entities) (rest : Text) :
    unescape (entity ++ rest) = c :: unescape rest := by
  simp only [entities, List.mem_cons, Prod.mk.injEq, List.not_mem_nil, or_false] at member
  rcases member with ⟨rfl, rfl⟩ | ⟨rfl, rfl⟩ | ⟨rfl, rfl⟩ | ⟨rfl, rfl⟩ | ⟨rfl, rfl⟩ <;> rfl

/-- Where no ampersand stands no entity starts. -/
theorem unescape_cons (plain : c ≠ .char '&') (rest : Text) :
    unescape (c :: rest) = c :: unescape rest := by
  have starts : ∀ entry ∈ entities, entry.1.head? = some (.char '&') := by decide
  have none_found : (entities.find? fun entry => entry.1.isPrefixOf (c :: rest)) = none := by
    refine List.find?_eq_none.mpr fun entry member begins => ?_
    obtain ⟨tail, split⟩ := List.head?_eq_some_iff.mp (starts entry member)
    rw [split, List.isPrefixOf_iff_prefix, List.cons_prefix_cons] at begins
    exact plain begins.1.symm
  rw [unescape, unescapeFrom, none_found]
  rfl

theorem unescape_escape (text : Text) : unescape (escape text) = text := by
  induction text with
  | nil => rfl
  | cons c text ih =>
    rw [escape_cons]
    rcases escapeChar_cases c with coded | ⟨kept, apart⟩
    · rw [unescape_entity coded, ih]
    · have plain : c ≠ .char '&' := apart ("&amp;".text, '&') (by decide)
      rw [kept, List.singleton_append, unescape_cons plain, ih]

theorem escape_injective : Function.Injective escape :=
  Function.LeftInverse.injective unescape_escape

end TimeReports.Text
