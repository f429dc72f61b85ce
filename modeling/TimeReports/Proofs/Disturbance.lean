import TimeReports.Proofs.Markup
import TimeReports.Proofs.Outcomes
import TimeReports.Proofs.QueryLines
import TimeReports.Proofs.Splices

set_option autoImplicit false

namespace TimeReports

namespace Document

open Text

variable {query markup text : Text} {anchor : Date} {parsed : Query} {texts items below : List Text}
  {block : Block}

theorem inert_of_isTagged_lines (text : Text) :
    ∀ line ∈ pieces feed text, (! isTagged line) = false → Inert queryLanguage line := by
  intro line _ tagged
  apply inert_of_isTagged
  simpa using tagged

theorem bareLines_frozenBlock (shows : Shows markup texts) :
    bareLines (frozenBlock query markup) =
      (innerLines (trim query) ++ texts.flatMap innerLines).map escape := by
  have edged := (shows_frozenBlock query shows).edged
  rw [edged.bare, List.flatMap_cons]

theorem inert_innerLines_of_parse (reads : Query.parse query anchor = .ok parsed) :
    ∀ line ∈ innerLines (trim query), Inert queryLanguage line := by
  intro line member
  have inside := List.mem_of_mem_tail (List.dropLast_subset _ member)
  exact Query.inert_of_parse reads line inside

theorem sameFences_map_escape (lines : List Text) :
    List.Forall₂ (SameFences queryLanguage) (lines.map escape) lines :=
  List.forall₂_map_left_iff.mpr (List.forall₂_same.mpr fun line _ => sameFences_escape line)

/-- A frozen block closes the fences that the lines inside the texts that it shows close. -/
theorem closeAlike_frozenBlock (reads : Query.parse query anchor = .ok parsed)
    (shows : Shows markup texts) :
    CloseAlike (pieces feed (frozenBlock query markup)) (texts.flatMap innerLines) := by
  have same : (pieces feed (frozenBlock query markup)).filter (! isTagged ·) =
      (innerLines (trim query) ++ texts.flatMap innerLines).map escape :=
    bareLines_frozenBlock shows
  have bare := closeAlike_filter (inert_of_isTagged_lines (frozenBlock query markup))
  rw [same] at bare
  intro fence isFence
  calc Closable fence (pieces feed (frozenBlock query markup))
    _ ↔ Closable fence ((innerLines (trim query) ++ texts.flatMap innerLines).map escape) :=
      bare fence isFence
    _ ↔ Closable fence (innerLines (trim query) ++ texts.flatMap innerLines) :=
      closeAlike_of_forall₂ (sameFences_map_escape _) fence isFence
    _ ↔ Closable fence (texts.flatMap innerLines) :=
      closeAlike_of_inert (inert_innerLines_of_parse reads) fence isFence

/-- A frozen block opens what the lines inside the texts that it shows open. -/
theorem quiet_frozenBlock (reads : Query.parse query anchor = .ok parsed)
    (shows : Shows markup texts) :
    Quiet queryLanguage (pieces feed (frozenBlock query markup)) below ↔
      Quiet queryLanguage (texts.flatMap innerLines) below := by
  have bare : (pieces feed (frozenBlock query markup)).filter (! isTagged ·) =
      (innerLines (trim query) ++ texts.flatMap innerLines).map escape :=
    bareLines_frozenBlock shows
  rw [quiet_filter (inert_of_isTagged_lines (frozenBlock query markup)), bare,
    quiet_congr (sameFences_map_escape _) (CloseAlike.refl below),
    quiet_of_inert (inert_innerLines_of_parse reads)]

theorem harmless_frozenBlock (reads : Query.parse query anchor = .ok parsed)
    (shows : Shows markup texts) :
    Harmless queryLanguage items block (pieces feed (frozenBlock query markup)) ↔
      Harmless queryLanguage items block (texts.flatMap innerLines) := by
  constructor
  · intro harmless
    exact ⟨(leavesOpen_congr (closeAlike_frozenBlock reads shows)).mp harmless.above,
      (quiet_frozenBlock reads shows).mp harmless.below⟩
  · intro harmless
    exact ⟨(leavesOpen_congr (closeAlike_frozenBlock reads shows)).mpr harmless.above,
      (quiet_frozenBlock reads shows).mpr harmless.below⟩

/-- Where no text that is shown has an inner line, nothing is disturbed. -/
theorem harmless_nil (language : Text) (items : List Text) (block : Block) :
    Harmless language items block [] where
  above := fun _ _ _ _ _ => closing?_eq_none_iff.mpr fun _ _ _ member => nomatch member
  below := quiet_nil language _

theorem two_le_frozenBlock (query markup : Text) :
    2 ≤ (pieces feed (frozenBlock query markup)).length := by
  obtain ⟨first, rest, split⟩ : ∃ first rest, frozenBlock query markup = first ++ feed :: rest := by
    rw [frozenBlock, join_cons_of_ne_nil _ _ (List.cons_ne_nil _ _), List.append_assoc]
    exact ⟨_, _, rfl⟩
  have some_first := List.length_pos_iff.mpr (pieces_ne_nil feed first)
  have some_rest := List.length_pos_iff.mpr (pieces_ne_nil feed rest)
  rw [split, pieces_append_mark, List.length_append]
  omega

theorem getLast?_frozenBlock (shows : Shows markup texts) :
    (pieces feed (frozenBlock query markup)).getLast? ≠ some [] := by
  obtain ⟨init, left, split, tagged⟩ := (shows_frozenBlock query shows).edged.last
  rw [split, List.getLast?_concat]
  intro empty
  rw [Option.some.inj empty] at tagged
  cases tagged

end Document

namespace Execution

open Document

variable {text document : Text} {block : Block} {fetch : SessionFetcher} {today : Date}
  {desk : Desk} {replies : List Harvest.Reply} {result : Result}

def placeOf (document : Text) (block : Block) : Location := ⟨document, block.first, block.last⟩

/-- The lines inside the names that a report shows. -/
def strays (query : Query) (entries : List TimeEntry) : List Text :=
  (Display.shownNames (Report.aggregate entries query.kind)).flatMap innerLines

/-- Freezing a block leaves the other blocks of its document, moved along, exactly when the lines
inside the names that the report shows are harmless to them. -/
theorem otherBlocks_of_frozen [Console] (holds : desk.vault.Holds document text)
    (member : block ∈ queryBlocks text)
    (returned : (executed block.source fetch (some (placeOf document block)) today desk
      replies).outcome = .returned result)
    (replaced : result.replaced = true) :
    ∃ query entries markup after, Reads block.source today query ∧
      (answered fetch query desk replies).outcome = .returned entries ∧
      result.state = .done ∧ result.markup = some markup ∧
      (executed block.source fetch (some (placeOf document block)) today desk
        replies).state.vault.Holds document after ∧
      after = Vault.splicedText text block.first block.last
        (frozenBlock (Query.withoutFlag block.source) markup) ∧
      (queryBlocks after = otherBlocks queryLanguage (Lines.ofText text).items block
          (Text.pieces Text.feed (frozenBlock (Query.withoutFlag block.source) markup)).length ↔
        Harmless queryLanguage (Lines.ofText text).items block (strays query entries)) := by
  have ending := ending_of_returned returned
  generalize executed block.source fetch (some (placeOf document block)) today desk replies = run
    at returned ending ⊢
  cases ending with
  | malformed | unfetched | live | kept =>
    cases returned
    cases replaced
  | frozen query entries markup place after reads found flag written placed replacing =>
    cases returned
    cases placed
    obtain ⟨nameable, calm, text', holds', inside, characters, rfl⟩ :=
      Vault.replaceLines_eq_ok_iff.mp replacing
    obtain rfl := holds.unique holds'
    refine ⟨query, entries, markup, _, reads, found, rfl, rfl, holds.holding characters, rfl, ?_⟩
    have shows := Display.shows_markup (Display.oneLineColors_render _) written
    have exactly := blocksOf_spliced (by decide) member
      (two_le_frozenBlock (Query.withoutFlag block.source) markup) (getLast?_frozenBlock shows)
    rw [harmless_frozenBlock reads shows, Display.innerLines_render] at exactly
    exact exactly

def smallBlock : Block := ⟨0, 2, "LIST TODAY --static".text⟩

theorem smallRun_undisturbed : ∃ after, (smallRun .none).state.vault.Holds "d.md".text after ∧
    queryBlocks after = [] := by
  have ends : endState? (smallRun .none) = some (.done, true) := by decide +kernel
  obtain ⟨result, returned, -, replaced⟩ := exists_of_endState? ends
  have holds : (smallDesk .none).vault.Holds "d.md".text smallText := by
    exact ⟨by decide +kernel, by decide +kernel, by decide +kernel, by decide +kernel⟩
  have member : smallBlock ∈ queryBlocks smallText := by decide +kernel
  have place : placeOf "d.md".text smallBlock = smallPlace := rfl
  have run : executed smallBlock.source noneFound (some (placeOf "d.md".text smallBlock)) someDay
      (smallDesk .none) [] = smallRun .none := by rw [place, smallRun, smallBlock]
  rw [← run] at returned ⊢
  obtain ⟨query, entries, markup, after, -, found, -, -, holds', -, exactly⟩ :=
    otherBlocks_of_frozen holds member returned replaced
  cases found
  have none : strays query [] = [] := rfl
  have single (count : Nat) :
      otherBlocks queryLanguage (Lines.ofText smallText).items smallBlock count = [] := by
    have only : (blocksFrom queryLanguage 0 0 (Lines.ofText smallText).items).filter
        (fun other => decide (other ≠ smallBlock)) = [] := by decide +kernel
    rw [otherBlocks, only, List.map_nil]
  rw [single, none] at exactly
  exact ⟨after, holds', exactly.mpr (harmless_nil _ _ _)⟩

/-- An entry of a project with a query block in its name. -/
def strayEntry : TimeEntry where
  id := 1
  spentDate := someDay
  hours := 1.5
  project := ⟨1, "A\n```harvest\nLIST TODAY\n```\nB".text⟩
  task := ⟨2, "t".text⟩
  client := none
  notes := none
  isRunning := false
  hours_nonneg := by decide

/-- The block of the small desk executed when this entry is found. -/
def strayRun : Run Desk Result :=
  executed "LIST TODAY --static".text (fun _ _ => .done [strayEntry]) (some smallPlace) someDay
    (smallDesk .none) []

/-- A block inside a project's name becomes a block of the document. -/
theorem strayRun_disturbed : endState? strayRun = some (.done, true) ∧
    queryBlocks smallText = [smallBlock] ∧
    ∃ after, strayRun.state.vault.Holds "d.md".text after ∧
      queryBlocks after = [⟨9, 11, "LIST TODAY".text⟩] := by
  have written : endState? strayRun = some (.done, true) ∧
      (strayRun.state.vault.read "d.md".text).toOption.map queryBlocks =
        some [⟨9, 11, "LIST TODAY".text⟩] := by decide +kernel
  obtain ⟨after, reads, blocks⟩ := Option.map_eq_some_iff.mp written.2
  have read : strayRun.state.vault.read "d.md".text = .ok after := by
    cases outcome : strayRun.state.vault.read "d.md".text with
    | ok text =>
      rw [outcome] at reads
      exact congrArg Except.ok (Option.some.inj reads)
    | error fault =>
      rw [outcome] at reads
      cases reads
  exact ⟨written.1, by decide +kernel, after, (Vault.read_eq_ok_iff.mp read).2.2, blocks⟩

end Execution

end TimeReports
