import TimeReports.Proofs.Names
import TimeReports.Proofs.Occurrences
import TimeReports.Proofs.QueryLines

set_option autoImplicit false

namespace TimeReports

namespace Text

variable {before after : Text} {pieces : List Text}

/-- Whether no word goes on from one text into the one behind it. -/
def Apart (before after : Text) : Prop :=
  (∀ c ∈ before.getLast?, isBlank c = true) ∨ ∀ c ∈ after.head?, isBlank c = true

instance (before after : Text) : Decidable (Apart before after) :=
  inferInstanceAs (Decidable (_ ∨ _))

/-- Whether a text that is cut into pieces is never cut inside a word. -/
def BetweenWords (pieces : List Text) : Prop :=
  ∀ count < pieces.length, Apart (pieces.take count).flatten (pieces.drop count).flatten

instance (pieces : List Text) : Decidable (BetweenWords pieces) :=
  inferInstanceAs (Decidable (∀ count < pieces.length, _))

theorem words_append (apart : Apart before after) :
    words (before ++ after) = words before ++ words after := by
  rcases apart with blank | blank
  · cases before using List.reverseRecOn with
    | nil => rfl
    | append_singleton front c =>
      have inside : isBlank c = true := blank c (by simp)
      rw [List.append_assoc, List.singleton_append, words, words, words,
        runsOutside_append_cons inside, runsOutside_append_cons inside]
      simp [runsOutside]
  · cases after with
    | nil => simp [words, runsOutside]
    | cons c rest =>
      have inside : isBlank c = true := blank c rfl
      rw [words, runsOutside_append_cons inside, words, words, runsOutside_of_inside inside]

theorem BetweenWords.tail {piece : Text} (between : BetweenWords (piece :: pieces)) :
    BetweenWords pieces := by
  intro count inside
  have cut := between (count + 1) (Nat.succ_lt_succ inside)
  rw [List.take_succ_cons, List.drop_succ_cons, List.flatten_cons] at cut
  refine cut.imp_left fun blank c member => blank c ?_
  -- the last character of what comes behind the first piece is the last one of the whole
  rw [Option.mem_def] at member ⊢
  rw [List.getLast?_append, member]
  rfl

theorem words_flatten (between : BetweenWords pieces) :
    words pieces.flatten = pieces.flatMap words := by
  induction pieces with
  | nil => rfl
  | cons piece pieces ih =>
    rw [List.flatten_cons, List.flatMap_cons, ← ih between.tail]
    cases pieces with
    | nil => simp [words, runsOutside]
    | cons next others =>
      have cut := between 1 (by simp)
      rw [List.take_succ_cons, List.take_zero, List.flatten_singleton] at cut
      exact words_append cut

/-- Blanks between pieces keep the words of the pieces. -/
theorem words_join (pieces : List Text) : words (join [' '] pieces) = pieces.flatMap words := by
  induction pieces with
  | nil => rfl
  | cons piece pieces ih =>
    cases pieces with
    | nil => rw [join, List.flatMap_singleton]
    | cons next others =>
      rw [join_cons_cons, List.flatMap_cons, ← ih, words]
      exact runsOutside_append_cons (by decide) piece _

end Text

namespace Query

open Text

variable {source flagged : Text} {pieces : List Text}

theorem unbordered_staticFlag : Unbordered staticFlag := by decide

theorem staticFlag_ne_nil : staticFlag ≠ [] := by decide

theorem isStatic_eq_false_iff : isStatic source = false ↔ ¬ staticFlag <:+: source :=
  occurs_eq_false_iff

/-- What is left of a source that is put together with the flag. -/
theorem withoutFlag_join (several : 2 ≤ pieces.length)
    (absent : ∀ piece ∈ pieces, ¬ staticFlag <:+: piece) :
    isStatic (join staticFlag pieces) = true ∧
      withoutFlag (join staticFlag pieces) = trim (join [' '] pieces) := by
  have found : isStatic (join staticFlag pieces) = true := by
    match pieces, several with
    | piece :: next :: others, _ =>
      rw [isStatic, occurs_iff, join_cons_cons]
      exact ⟨piece, join staticFlag (next :: others), List.append_assoc ..⟩
  refine ⟨found, ?_⟩
  rw [withoutFlag, if_pos found, substitute_join unbordered_staticFlag staticFlag_ne_nil absent]

/-- Taking the flag out takes all of it out. -/
theorem isStatic_withoutFlag (source : Text) : isStatic (withoutFlag source) = false := by
  cases found : isStatic source with
  | false => rw [withoutFlag, found, if_neg Bool.false_ne_true, found]
  | true =>
    obtain ⟨piece, others, absent, rfl⟩ := exists_eq_join staticFlag_ne_nil source
    rw [withoutFlag, if_pos found, substitute_join unbordered_staticFlag staticFlag_ne_nil absent,
      isStatic_eq_false_iff]
    intro inside
    exact not_infix_join (by decide) staticFlag_ne_nil absent (inside.trans (trim_isInfix _))

/-- Putting copies of the flag into a source, at least one and none of them inside a word: the
source is cut between its words, and a copy goes into each cut. -/
inductive Flags (source : Text) : Text → Prop
  | join (pieces : List Text) (whole : pieces.flatten = source) (several : 2 ≤ pieces.length)
    (between : BetweenWords pieces) : Flags source (join staticFlag pieces)

/-- The flag of a source is found and taken out, and what is read is what the source says. -/
structure ReadsAs (flagged source : Text) : Prop where
  found : isStatic flagged = true
  removed : isStatic (withoutFlag flagged) = false
  tokens : tokenize (withoutFlag flagged) = tokenize source
  parsed : ∀ anchor, parse (withoutFlag flagged) anchor = parse source anchor

theorem parse_congr {other : Text} (same : tokenize source = tokenize other) (anchor : Date) :
    parse source anchor = parse other anchor := by
  rw [parse, parse, same]

theorem Flags.readsAs (flags : Flags source flagged) (plain : isStatic source = false) :
    ReadsAs flagged source := by
  obtain ⟨pieces, whole, several, between⟩ := flags
  have absent (piece : Text) (member : piece ∈ pieces) : ¬ staticFlag <:+: piece := fun inside =>
    isStatic_eq_false_iff.mp plain
      (inside.trans (whole ▸ List.infix_of_mem_flatten member))
  obtain ⟨found, left⟩ := withoutFlag_join several absent
  have tokens : tokenize (withoutFlag (Text.join staticFlag pieces)) = tokenize source := by
    rw [tokenize, tokenize, left, words_trim, words_join, ← words_flatten between, whole]
  exact ⟨found, isStatic_withoutFlag _, tokens, parse_congr tokens⟩

/-- A source without the flag is read the same when copies of the flag are put between its words and
taken out again. Whatever a source holds, its flag is taken out at once: doing so again finds none
and changes nothing. -/
theorem flag_invisible :
    (∀ source flagged, isStatic source = false → Flags source flagged →
      ReadsAs flagged source) ∧
    ∀ source, isStatic (withoutFlag source) = false ∧
      withoutFlag (withoutFlag source) = withoutFlag source := by
  refine ⟨fun source flagged plain flags => flags.readsAs plain, fun source => ?_⟩
  have removed := isStatic_withoutFlag source
  exact ⟨removed, by rw [withoutFlag, removed, if_neg Bool.false_ne_true]⟩

/-- Copies side by side, at a hyphen in front of a word and at the end of a word that looks like the
beginning of the flag. -/
theorem flag_invisible_hyphens :
    isStatic "-list --s".text = false ∧
    Flags "-list --s".text "--static--static-list --s--static".text ∧
    ReadsAs "--static--static-list --s--static".text "-list --s".text := by
  have plain : isStatic "-list --s".text = false := by decide
  have flags : Flags "-list --s".text "--static--static-list --s--static".text :=
    .join [[], [], "-list --s".text, []] (by decide) (by decide) (by decide)
  exact ⟨plain, flags, flag_invisible.1 _ _ plain flags⟩

end Query

end TimeReports
