import Mathlib.Data.List.TakeDrop
import TimeReports.Proofs.Rereading

set_option autoImplicit false

namespace TimeReports.Document

open Text

variable {language text : Text} {items above middle middle' below : List Text} {block : Block}
  {lineEnd : LineEnd}

/-- Lines as a document is read: only a document whose lines end in both characters has lines in
front of an end that end with a carriage return. -/
structure Lines.Plain (lines : Lines) : Prop where
  some_line : lines.items ≠ []
  feeds : ∀ line ∈ lines.items, feed ∉ line
  whole : lines.lineEnd = .lineFeed → ∀ line ∈ lines.items.dropLast, withoutReturn line = line
  unended : lines.lineEnd = .lineFeed → lines.ended = false →
    lines.items.length = 1 ∨ lines.items.getLast? ≠ some []

theorem withoutReturn_of_returns {rows : List Text} (unreturned : returns rows = false) :
    ∀ row ∈ rows, withoutReturn row = row := by
  intro row member
  apply withoutReturn_of_ne
  have last := List.any_eq_false.mp unreturned row member
  exact fun same => last (decide_eq_true same)

theorem plain_read {rows : List Text} {ended : Bool} (some_line : items ≠ [])
    (clean : ∀ line ∈ items, feed ∉ line) (inside : items.dropLast ⊆ rows)
    (unended : ended = false → items.length = 1 ∨ items.getLast? ≠ some []) :
    (read rows items ended).Plain := by
  unfold read
  cases unreturned : returns rows with
  | true =>
    simp only [↓reduceIte]
    refine ⟨by simpa using some_line, ?_, ?_, ?_⟩
    · intro line member
      obtain ⟨row, within, rfl⟩ := List.mem_map.mp member
      exact feed_not_mem_withoutReturn (clean row within)
    all_goals exact fun single => nomatch single
  | false =>
    have same := withoutReturn_of_returns unreturned
    simp only [Bool.false_eq_true, ↓reduceIte]
    exact ⟨some_line, clean, fun _ line member => same line (inside member), fun _ => unended⟩

theorem plain_ofText (text : Text) : (Lines.ofText text).Plain := by
  obtain ⟨rows, tail, clean, clean', rfl⟩ := exists_rowed text
  by_cases unended : tail ≠ [] ∨ rows = []
  · have all : ∀ line ∈ rows ++ [tail], feed ∉ line := by
      simpa [or_imp, forall_and] using ⟨clean, clean'⟩
    rw [ofText_unended clean clean' unended]
    refine plain_read (by simp) all ?_ fun _ => ?_
    · rw [List.dropLast_concat]
      exact fun _ member => member
    · rcases unended with some_char | rfl
      · exact Or.inr (by simpa using some_char)
      · exact Or.inl rfl
  · obtain ⟨rfl, some_row⟩ : tail = [] ∧ rows ≠ [] := by simpa using unended
    rw [List.append_nil, ofText_ended clean some_row]
    exact plain_read some_row clean (List.dropLast_subset rows) fun isEnded => nomatch isEnded

theorem forall₂_sameFences (language : Text) (lines : List Text) :
    List.Forall₂ (SameFences language) lines lines :=
  List.forall₂_same.mpr fun line _ => SameFences.refl language line

theorem forall₂_withoutReturn (absent : back ∉ language) (lines : List Text) :
    List.Forall₂ (SameFences language) (lines.map withoutReturn) lines :=
  List.forall₂_map_left_iff.mpr
    (List.forall₂_same.mpr fun line _ => sameFences_withoutReturn absent line)

theorem sameBlocks_withoutReturn (absent : back ∉ language)
    (whole : ∀ line ∈ below.dropLast, withoutReturn line = line) :
    SameBlocks language (below.map withoutReturn) below := by
  rcases List.eq_nil_or_concat below with rfl | ⟨init, last, rfl⟩
  · exact SameBlocks.refl language []
  · rw [List.concat_eq_append] at whole ⊢
    rw [List.dropLast_concat] at whole
    rw [List.map_append, List.map_congr_left whole, List.map_id', List.map_singleton]
    exact sameBlocks_concat (sameFences_withoutReturn absent last) init

/-- However lines are read again, those above stay as they are, those in the middle keep their
fences, and those below keep their blocks. -/
theorem parts_of_reread (absent : back ∉ language) (some_line : middle ≠ [])
    (visible : middle.getLast? ≠ some [])
    (whole : lineEnd = .lineFeed → ∀ line ∈ above ++ below.dropLast, withoutReturn line = line)
    (reread : Reread lineEnd (above ++ (middle ++ below)) items) :
    ∃ middle' below', items = above ++ (middle' ++ below') ∧
      List.Forall₂ (SameFences language) middle' middle ∧ SameBlocks language below' below := by
  cases reread with
  | same => exact ⟨middle, below, rfl, forall₂_sameFences language middle, SameBlocks.refl _ _⟩
  | stripped single =>
    have all := whole single
    have first : above.map withoutReturn = above := by
      rw [List.map_congr_left fun line member => all line (List.mem_append_left _ member),
        List.map_id']
    refine ⟨middle.map withoutReturn, below.map withoutReturn, ?_,
      forall₂_withoutReturn absent middle, sameBlocks_withoutReturn absent fun line member =>
        all line (List.mem_append_right _ member)⟩
    rw [List.map_append, List.map_append, first]
  | last init last split =>
    have same := sameFences_withoutReturn absent last
    rcases List.eq_nil_or_concat below with rfl | ⟨rest, final, rfl⟩
    · obtain ⟨front, final, rfl⟩ : ∃ front final, middle = front ++ [final] :=
        ⟨_, _, (List.dropLast_concat_getLast some_line).symm⟩
      rw [List.append_nil, ← List.append_assoc] at split
      obtain ⟨rfl, ends⟩ := List.append_inj' split rfl
      obtain rfl := List.singleton_inj.mp ends
      refine ⟨front ++ [withoutReturn final], [], by simp, ?_, SameBlocks.refl language []⟩
      exact List.rel_append (forall₂_sameFences language front) (.cons same .nil)
    · rw [List.concat_eq_append, ← List.append_assoc, ← List.append_assoc] at split
      obtain ⟨rfl, ends⟩ := List.append_inj' split rfl
      obtain rfl := List.singleton_inj.mp ends
      refine ⟨middle, rest ++ [withoutReturn final], by simp,
        forall₂_sameFences language middle, ?_⟩
      rw [List.concat_eq_append]
      exact sameBlocks_concat same rest
  | dropped init split =>
    rcases List.eq_nil_or_concat below with rfl | ⟨rest, final, rfl⟩
    · have last := congrArg List.getLast? split
      rw [List.append_nil, List.getLast?_concat, List.getLast?_append_of_ne_nil _ some_line] at last
      exact absurd last visible
    · rw [List.concat_eq_append, ← List.append_assoc, ← List.append_assoc] at split
      obtain ⟨rfl, ends⟩ := List.append_inj' split rfl
      obtain rfl := List.singleton_inj.mp ends
      refine ⟨middle, rest, by simp, forall₂_sameFences language middle, ?_⟩
      rw [List.concat_eq_append]
      exact sameBlocks_dropLast (inert_nil language) rest

/-- A block in front of all others, with those behind it. -/
theorem blocksFrom_front {number : Nat} (member : block ∈ blocksFrom language number 0 items)
    (first : block.first = number) : blocksFrom language number 0 items =
      block :: blocksFrom language (block.last + 1) 0 (items.drop (block.last + 1 - number)) := by
  subst number
  cases items with
  | nil => simp at member
  | cons line rest =>
    cases decided : closing? language line rest with
    | none =>
      rw [blocksFrom_of_unclosed _ decided] at member
      have := (within_of_mem_blocksFrom member).1.first
      omega
    | some length =>
      rw [blocksFrom_of_closed _ decided, List.mem_cons] at member
      rcases member with is | member
      · have last : block.last = block.first + 1 + length := by
          rw [is]
          rfl
        have inside : block.last + 1 - block.first = length + 1 + 1 := by omega
        have next : block.first + 1 + (length + 1) = block.last + 1 := by omega
        rw [blocksFrom_of_closed _ decided, ← is, blocksFrom_inside, next, inside,
          List.drop_succ_cons]
      · have := (within_of_mem_blocksFrom member).1.first
        omega

/-- The blocks of lines around one of them, and when those above it stay with other lines in its
place and below. -/
structure Around (language : Text) (items : List Text) (block : Block) (found : List Block) :
    Prop where
  whole : blocksFrom language 0 0 items =
    found ++ block :: blocksFrom language (block.last + 1) 0 (items.drop (block.last + 1))
  above : ∀ upper ∈ found, upper.last < block.first
  leaves : LeavesOpen language 0 0 (items.take block.first) found (items.drop (block.last + 1))
  again : ∀ other later, (∀ lower ∈ later, block.first ≤ lower.first) →
    (blocksFrom language 0 0 (items.take block.first ++ other) = found ++ later ↔
      LeavesOpen language 0 0 (items.take block.first) found other ∧
        blocksFrom language block.first 0 other = later)

/-- No block reaches over the start of another one. -/
theorem uncut_of_mem (member : block ∈ blocksFrom language 0 0 items) :
    ∀ upper ∈ blocksFrom language 0 0 items, upper.first < block.first →
      upper.last < block.first := by
  intro upper inside above
  obtain ⟨before, behind, whole⟩ := List.append_of_mem member
  have apart := blocksFrom_pairwise language 0 0 items
  rw [whole, List.pairwise_append, List.pairwise_cons] at apart
  rw [whole, List.mem_append, List.mem_cons] at inside
  rcases inside with inside | rfl | inside
  · exact apart.2.2 upper inside block List.mem_cons_self
  · exact absurd above (Nat.lt_irrefl _)
  · have := apart.2.1.1 upper inside
    have := (within_of_mem_blocksFrom member).1.ordered
    omega

theorem drop_drop_of_le {first last : Nat} (ordered : first ≤ last) (items : List Text) :
    (items.drop first).drop (last - first) = items.drop last := by
  rw [List.drop_drop]
  congr 1
  omega

theorem exists_around (member : block ∈ blocksFrom language 0 0 items) :
    ∃ found, Around language items block found := by
  have within := (within_of_mem_blocksFrom member).1
  have ordered := within.ordered
  have last := within.last
  have height : 0 + (items.take block.first).length = block.first := by
    rw [List.length_take]
    omega
  have split : items.take block.first ++ items.drop block.first = items := List.take_append_drop _ _
  have drops : (items.drop block.first).drop (block.last + 1 - block.first) =
      items.drop (block.last + 1) := drop_drop_of_le (by omega) items
  have uncut : ∀ upper ∈ blocksFrom language 0 0 (items.take block.first ++ items.drop block.first),
      upper.first < 0 + (items.take block.first).length →
        upper.last < 0 + (items.take block.first).length := by
    rw [split, height]
    exact uncut_of_mem member
  obtain ⟨found, whole, bounds, leaves, again⟩ := exists_parted (Nat.zero_le _) uncut
  rw [height] at whole bounds again
  rw [split] at whole
  have inside : block ∈ blocksFrom language block.first 0 (items.drop block.first) := by
    rw [whole, List.mem_append] at member
    refine member.resolve_left fun inside => ?_
    have := (bounds block inside).2
    omega
  rw [blocksFrom_front inside rfl, drops] at whole
  rw [← List.take_append_drop (block.last + 1 - block.first) (items.drop block.first),
    leavesOpen_append, drops] at leaves
  exact ⟨found, whole, fun upper inside => (bounds upper inside).2, leaves.2, again⟩

/-- Where a block stands when as many lines took the place of another one. -/
def Block.moved (replaced : Block) (count : Nat) (other : Block) : Block :=
  if other.first < replaced.first then other
  else
    { other with
      first := other.first - (replaced.last + 1) + (replaced.first + count)
      last := other.last - (replaced.last + 1) + (replaced.first + count) }

/-- The blocks of lines when as many lines took the place of one of them. -/
def otherBlocks (language : Text) (items : List Text) (block : Block) (count : Nat) : List Block :=
  ((blocksFrom language 0 0 items).filter fun other => decide (other ≠ block)).map
    (block.moved count)

/-- Whether lines in the place of a block disturb no other one: they close no fence that was left
open above it, and open none that one of them or a line below it closes. -/
structure Harmless (language : Text) (items : List Text) (block : Block) (middle : List Text) :
    Prop where
  above : LeavesOpen language 0 0 (items.take block.first) (blocksFrom language 0 0 items) middle
  below : Quiet language middle (items.drop (block.last + 1))

theorem map_moved_below (ordered : block.first < block.last) (count : Nat) (lines : List Text) :
    (blocksFrom language (block.last + 1) 0 lines).map (block.moved count) =
      blocksFrom language (block.first + count) 0 lines := by
  have above := blocksFrom_down language (block.last + 1) 0 0 lines
  have moved := blocksFrom_down language (block.first + count) 0 0 lines
  rw [Nat.zero_add] at above moved
  rw [above, moved, List.map_map]
  refine List.map_congr_left fun other _ => ?_
  have behind : ¬ other.first + (block.last + 1) < block.first := by omega
  simp only [Function.comp_apply, Block.moved, Block.down, behind, ↓reduceIte, Block.mk.injEq,
    and_true]
  omega

theorem otherBlocks_eq {found : List Block} {count : Nat} (ordered : block.first < block.last)
    (whole : blocksFrom language 0 0 items =
      found ++ block :: blocksFrom language (block.last + 1) 0 below)
    (apart : ∀ upper ∈ found, upper.first < block.first) :
    otherBlocks language items block count =
      found ++ blocksFrom language (block.first + count) 0 below := by
  have others : (found.filter fun other => decide (other ≠ block)) = found := by
    refine List.filter_eq_self.mpr fun upper member => decide_eq_true ?_
    rintro rfl
    exact Nat.lt_irrefl _ (apart upper member)
  have others' : ((blocksFrom language (block.last + 1) 0 below).filter fun other =>
      decide (other ≠ block)) = blocksFrom language (block.last + 1) 0 below := by
    refine List.filter_eq_self.mpr fun lower member => decide_eq_true ?_
    rintro rfl
    have := (within_of_mem_blocksFrom member).1.first
    omega
  have still : ∀ upper ∈ found, block.moved count upper = upper :=
    fun upper member => if_pos (apart upper member)
  have unmoved : found.map (block.moved count) = found := by
    rw [List.map_congr_left still, List.map_id']
  rw [otherBlocks, whole, List.filter_append, List.filter_cons_of_neg (by simp), others, others',
    List.map_append, unmoved, map_moved_below ordered]

/-- Blocks below a place in which no line stands are none of those above it. -/
theorem leavesOpen_found {found later : List Block} {behind : List Text}
    (apart : ∀ lower ∈ later, above.length ≤ lower.first) :
    LeavesOpen language 0 0 above (found ++ later) behind ↔
      LeavesOpen language 0 0 above found behind := by
  constructor
  · intro leaves index line present inside outside
    refine leaves index line present inside fun other member covers => ?_
    have small := (List.getElem?_eq_some_iff.mp present).1
    rcases List.mem_append.mp member with member | member
    · exact outside other member covers
    · have := apart other member
      omega
  · intro leaves index line present inside outside
    exact leaves index line present inside fun other member =>
      outside other (List.mem_append_left _ member)

/-- The block and those below it are none of those that lines above it stand in. -/
theorem Around.leavesOpen {found : List Block} {behind : List Text}
    (around : Around language items block found) :
    LeavesOpen language 0 0 (items.take block.first) (blocksFrom language 0 0 items) behind ↔
      LeavesOpen language 0 0 (items.take block.first) found behind := by
  rw [around.whole]
  apply leavesOpen_found
  intro lower member
  have height := List.length_take_le block.first items
  rcases List.mem_cons.mp member with rfl | member
  · exact height
  · have := (within_of_mem_blocksFrom member).1.first
    have ordered : block.first < block.last := by
      have inside : block ∈ blocksFrom language 0 0 items := by
        rw [around.whole]
        simp
      exact (within_of_mem_blocksFrom inside).1.ordered
    omega

/-- Lines in the place of a block leave the other blocks exactly when they are harmless. -/
theorem blocksFrom_replaced (member : block ∈ blocksFrom language 0 0 items)
    (same : List.Forall₂ (SameFences language) middle' middle)
    (blocks : SameBlocks language below (items.drop (block.last + 1))) :
    blocksFrom language 0 0 (items.take block.first ++ (middle' ++ below)) =
        otherBlocks language items block middle.length ↔
      Harmless language items block middle := by
  obtain ⟨found, around⟩ := exists_around member
  have ordered := (within_of_mem_blocksFrom member).1.ordered
  have above : ∀ upper ∈ found, upper.first < block.first := by
    intro upper inside
    have upperIn : upper ∈ blocksFrom language 0 0 items := by
      rw [around.whole]
      exact List.mem_append_left _ inside
    exact Nat.lt_trans (within_of_mem_blocksFrom upperIn).1.ordered (around.above upper inside)
  have behind : ∀ lower ∈ blocksFrom language (block.first + middle.length) 0
      (items.drop (block.last + 1)), block.first ≤ lower.first := by
    intro lower inside
    exact Nat.le_trans (Nat.le_add_right _ _) (within_of_mem_blocksFrom inside).1.first
  have openAbove : LeavesOpen language 0 0 (items.take block.first) found (middle' ++ below) ↔
      LeavesOpen language 0 0 (items.take block.first) (blocksFrom language 0 0 items) middle := by
    rw [leavesOpen_append, around.leavesOpen, leavesOpen_congr (closeAlike_of_forall₂ same),
      leavesOpen_congr blocks.closes]
    exact and_iff_left around.leaves
  have quiet : blocksFrom language block.first 0 (middle' ++ below) =
      blocksFrom language (block.first + middle.length) 0 (items.drop (block.last + 1)) ↔
        Quiet language middle (items.drop (block.last + 1)) := by
    rw [← blocks.blocks, ← same.length_eq, blocksFrom_eq_iff_quiet, quiet_congr same blocks.closes]
  rw [otherBlocks_eq ordered around.whole above, around.again _ _ behind, openAbove, quiet]
  exact ⟨fun both => ⟨both.1, both.2⟩, fun harmless => ⟨harmless.above, harmless.below⟩⟩

theorem items_spliced (lines : Lines) (first last : Nat) (replacement : Text) :
    (Vault.spliced lines first last replacement).items =
      lines.items.take first ++ (pieces feed replacement ++ lines.items.drop (last + 1)) :=
  List.append_assoc _ _ _

theorem feed_not_mem_spliced {lines : Lines} (feeds : ∀ line ∈ lines.items, feed ∉ line)
    (first last : Nat) (replacement : Text) :
    ∀ line ∈ (Vault.spliced lines first last replacement).items, feed ∉ line := by
  intro line inside
  rw [items_spliced, List.mem_append, List.mem_append] at inside
  rcases inside with inside | inside | inside
  · exact feeds line (List.take_subset _ _ inside)
  · exact not_mem_of_mem_pieces inside
  · exact feeds line (List.drop_subset _ _ inside)

/-- The last line is not empty if neither the last line before nor that of the replacement is. -/
theorem getLast?_spliced {lines : Lines} {first last : Nat} {replacement : Text}
    (visible : (pieces feed replacement).getLast? ≠ some [])
    (visible' : lines.items.getLast? ≠ some []) :
    (Vault.spliced lines first last replacement).items.getLast? ≠ some [] := by
  rw [items_spliced]
  by_cases empty : lines.items.drop (last + 1) = []
  · rw [empty, List.append_nil, List.getLast?_append_of_ne_nil _ (pieces_ne_nil feed replacement)]
    exact visible
  · rw [← List.append_assoc, List.getLast?_append_of_ne_nil _ empty, List.getLast?_drop,
      if_neg (by simpa using empty)]
    exact visible'

theorem mem_dropLast_of_around {first last : Nat} (inside : first < items.length) :
    ∀ line ∈ items.take first ++ (items.drop (last + 1)).dropLast, line ∈ items.dropLast := by
  intro line member
  rcases List.mem_append.mp member with member | member
  · have front : items.take first = items.dropLast.take first := by
      rw [List.dropLast_eq_take, List.take_take, Nat.min_eq_left (by omega)]
    rw [front] at member
    exact List.take_subset _ _ member
  · rw [List.dropLast_drop_eq_drop_dropLast] at member
    exact List.drop_subset _ _ member

/-- The blocks of a document in which the lines of a text take the place of a block. -/
theorem blocksOf_spliced {replacement : Text} (absent : back ∉ language)
    (member : block ∈ blocksOf language text) (several : 2 ≤ (pieces feed replacement).length)
    (visible : (pieces feed replacement).getLast? ≠ some []) :
    blocksOf language
        (Vault.spliced (Lines.ofText text) block.first block.last replacement).toText =
        otherBlocks language (Lines.ofText text).items block (pieces feed replacement).length ↔
      Harmless language (Lines.ofText text).items block (pieces feed replacement) := by
  obtain ⟨some_line, feeds, whole, unended⟩ := plain_ofText text
  have within := (within_of_mem_blocksFrom member).1
  have ordered := within.ordered
  have last := within.last
  have parts := items_spliced (Lines.ofText text) block.first block.last replacement
  have several' : 2 ≤ (Vault.spliced (Lines.ofText text) block.first block.last
      replacement).items.length := by
    rw [parts, List.length_append, List.length_append]
    omega
  have reread := reread_ofText (List.ne_nil_of_length_pos (by omega))
    (feed_not_mem_spliced feeds block.first block.last replacement)
    (fun single isOpen => Or.inr (getLast?_spliced visible
      ((unended single isOpen).resolve_left (by omega)))) several'
  rw [parts] at reread
  obtain ⟨middle, below, seen, same, blocks⟩ :=
    parts_of_reread absent (pieces_ne_nil feed replacement) visible
      (fun single line inside =>
        whole single line (mem_dropLast_of_around (by omega) line inside)) reread
  unfold blocksOf
  rw [seen]
  exact blocksFrom_replaced member same blocks

end TimeReports.Document
