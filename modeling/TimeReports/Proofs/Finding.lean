import Mathlib.Data.List.Sort
import TimeReports.Proofs.Fences

set_option autoImplicit false

namespace TimeReports.Document

variable {language line fence : Text} {lines rest : List Text} {blocks others found : List Block}
  {block upper lower : Block} {number inside index length first last : Nat}

/-- Whether a line is the first one below another that, trimmed, is a fence. -/
structure EndsAt (lines : List Text) (fence : Text) (first last : Nat) : Prop where
  below : first < last
  closing : ∃ line, lines[last]? = some line ∧ Text.trim line = fence
  least : ∀ between line, first < between → between < last → lines[between]? = some line →
    Text.trim line ≠ fence

/-- Whether blocks are the ones of lines that are closed and stand in no other block. -/
structure FoundIn (language : Text) (lines : List Text) (blocks : List Block) : Prop where
  ordered : blocks.Pairwise fun upper lower => upper.last < lower.first
  inside : ∀ block ∈ blocks, block.first < block.last ∧ block.last < lines.length
  starts : ∀ number, (∃ block ∈ blocks, block.first = number) ↔
    (∀ upper ∈ blocks, upper.first < number → upper.last < number) ∧
      ∃ line fence, lines[number]? = some line ∧ IsOpening language line fence ∧
        ∃ later closing, number < later ∧ lines[later]? = some closing ∧ Text.trim closing = fence
  ends : ∀ block ∈ blocks, ∀ line fence, lines[block.first]? = some line →
    IsOpening language line fence → EndsAt lines fence block.first block.last
  source : ∀ block ∈ blocks, block.source =
    Text.join ['\n'] ((lines.drop (block.first + 1)).take (block.last - block.first - 1))

theorem FoundIn.sorted (foundIn : FoundIn language lines blocks) :
    blocks.Pairwise fun upper lower => upper.first < lower.first :=
  foundIn.ordered.imp_of_mem fun member _ below => (foundIn.inside _ member).1.trans below

theorem EndsAt.unique {other : Nat} (ends : EndsAt lines fence first last)
    (ends' : EndsAt lines fence first other) : last = other := by
  obtain ⟨line, present, closing⟩ := ends.closing
  obtain ⟨line', present', closing'⟩ := ends'.closing
  rcases Nat.lt_trichotomy last other with above | same | below
  · exact absurd closing (ends'.least last line ends.below above present)
  · exact same
  · exact absurd closing' (ends.least other line' ends'.below below present')

/-- Lists of blocks that agree above a line agree on the block that begins there. -/
theorem FoundIn.mem_of_above (foundIn : FoundIn language lines blocks)
    (foundIn' : FoundIn language lines others)
    (above : ∀ upper : Block, upper.first < block.first → (upper ∈ blocks ↔ upper ∈ others))
    (member : block ∈ blocks) : block ∈ others := by
  obtain ⟨apart, line, fence, present, opening, closed⟩ :=
    (foundIn.starts block.first).mp ⟨block, member, rfl⟩
  have apart' : ∀ upper ∈ others, upper.first < block.first → upper.last < block.first :=
    fun upper member' before => apart upper ((above upper before).mpr member') before
  obtain ⟨other, member', same⟩ :=
    (foundIn'.starts block.first).mpr ⟨apart', line, fence, present, opening, closed⟩
  have ends := foundIn.ends block member line fence present opening
  have ends' := foundIn'.ends other member' line fence (same ▸ present) opening
  have source := foundIn.source block member
  have source' := foundIn'.source other member'
  rw [same] at ends' source'
  have last := ends'.unique ends
  rw [last, ← source] at source'
  obtain rfl : other = block := by
    cases other
    cases block
    exact (Block.mk.injEq ..).mpr ⟨same, last, source'⟩
  exact member'

/-- No other blocks are found in the same lines. -/
theorem FoundIn.unique (foundIn : FoundIn language lines blocks)
    (foundIn' : FoundIn language lines others) : blocks = others := by
  have same (number : Nat) : ∀ block : Block, block.first = number →
      (block ∈ blocks ↔ block ∈ others) := by
    induction number using Nat.strongRecOn with
    | _ number ih =>
      rintro block rfl
      have above := fun upper before => ih _ before upper rfl
      exact ⟨foundIn.mem_of_above foundIn' above,
        foundIn'.mem_of_above foundIn fun upper before => (above upper before).symm⟩
  have irrefl : Std.Irrefl fun upper lower : Block => upper.first < lower.first :=
    ⟨fun block => Nat.lt_irrefl block.first⟩
  have antisymm : Std.Antisymm fun upper lower : Block => upper.first < lower.first :=
    ⟨fun _ _ above below => absurd above (Nat.lt_asymm below)⟩
  exact foundIn.sorted.eq_of_mem_iff foundIn'.sorted fun block => same block.first block rfl

/-- The scan of the lines below an opening stops at the first line that closes it. -/
theorem findIdx?_closes_eq_some_iff :
    (lines.drop (first + 1)).findIdx? (closes fence) = some length ↔
      EndsAt lines fence first (first + 1 + length) := by
  rw [List.findIdx?_eq_some_iff_getElem]
  constructor
  · rintro ⟨small, closing, least⟩
    refine ⟨by omega, ⟨_, ?_, eq_of_beq closing⟩, fun between line above below present => ?_⟩
    · rw [← List.getElem?_drop, List.getElem?_eq_getElem small]
    · obtain ⟨index, rfl⟩ := Nat.exists_eq_add_of_le (Nat.succ_le_of_lt above)
      rw [Nat.succ_eq_add_one, ← List.getElem?_drop] at present
      obtain ⟨inside, rfl⟩ := List.getElem?_eq_some_iff.mp present
      have open_still := least index (by omega)
      exact fun closes => open_still (beq_iff_eq.mpr closes)
  · intro ends
    obtain ⟨line, present, closing⟩ := ends.closing
    rw [← List.getElem?_drop] at present
    obtain ⟨small, rfl⟩ := List.getElem?_eq_some_iff.mp present
    refine ⟨small, beq_iff_eq.mpr closing, fun index above closes => ?_⟩
    refine ends.least (first + 1 + index) _ (by omega) (by omega) ?_ (eq_of_beq closes)
    rw [← List.getElem?_drop, List.getElem?_eq_getElem]

/-- Whether a block begins at a line, counted from the first one of lines: a line below closes what
it opens, and none of the blocks found above covers it. -/
def Begins (language : Text) (number : Nat) (lines : List Text) (found : List Block) (index : Nat)
    (block : Block) : Prop :=
  ∃ line length, lines[index]? = some line ∧
    closing? language line (lines.drop (index + 1)) = some length ∧
    block = blockAt (number + index) length (lines.drop (index + 1)) ∧
    ∀ upper ∈ found, upper.first < number + index → upper.last < number + index

theorem begins_succ : Begins language number (line :: rest) found (index + 1) block ↔
    Begins language (number + 1) rest found index block := by
  unfold Begins
  rw [List.getElem?_cons_succ, List.drop_succ_cons, Nat.add_right_comm number 1 index,
    Nat.add_assoc number index 1]

theorem begins_zero : Begins language number (line :: rest) found 0 block ↔
    ∃ length, closing? language line rest = some length ∧ block = blockAt number length rest ∧
      ∀ upper ∈ found, upper.first < number → upper.last < number := by
  simp only [Begins, List.getElem?_cons_zero, Option.some.injEq, List.drop_succ_cons,
    List.drop_zero, Nat.add_zero, exists_eq_left', exists_and_left]

theorem exists_begins_inside :
    (∃ index, inside + 1 ≤ index ∧ Begins language number (line :: rest) found index block) ↔
      ∃ index, inside ≤ index ∧ Begins language (number + 1) rest found index block := by
  constructor
  · rintro ⟨index, behind, begins⟩
    obtain ⟨index, rfl⟩ := Nat.exists_eq_add_one_of_ne_zero (Nat.ne_zero_of_lt behind)
    exact ⟨index, Nat.le_of_succ_le_succ behind, begins_succ.mp begins⟩
  · rintro ⟨index, behind, begins⟩
    exact ⟨index + 1, Nat.succ_le_succ behind, begins_succ.mpr begins⟩

/-- A block begins at the first line or at one below. -/
theorem exists_begins_cons :
    (∃ index, 0 ≤ index ∧ Begins language number (line :: rest) found index block) ↔
      (∃ length, closing? language line rest = some length ∧ block = blockAt number length rest ∧
        ∀ upper ∈ found, upper.first < number → upper.last < number) ∨
      ∃ index, Begins language (number + 1) rest found index block := by
  constructor
  · rintro ⟨index, -, begins⟩
    cases index with
    | zero => exact Or.inl (begins_zero.mp begins)
    | succ index => exact Or.inr ⟨index, begins_succ.mp begins⟩
  · rintro (begins | ⟨index, begins⟩)
    · exact ⟨0, Nat.le_refl 0, begins_zero.mpr begins⟩
    · exact ⟨index + 1, Nat.zero_le _, begins_succ.mpr begins⟩

/-- A block found at the line above covers the lines down to its end. -/
theorem begins_below (first : upper.first = number) (last : upper.last = number + 1 + length) :
    Begins language (number + 1) rest (upper :: found) index block ↔
      length + 1 ≤ index ∧ Begins language (number + 1) rest found index block := by
  unfold Begins
  simp only [List.forall_mem_cons]
  constructor
  · rintro ⟨line, closed, present, closes, is, covered, apart⟩
    have outside := covered (by omega)
    exact ⟨by omega, line, closed, present, closes, is, apart⟩
  · rintro ⟨outside, line, closed, present, closes, is, apart⟩
    exact ⟨line, closed, present, closes, is, fun _ => by omega, apart⟩

/-- The scan finds a block at each line that opens one, is closed below and stands in no block that
the scan found above, and at no other. -/
theorem mem_blocksFrom_iff : block ∈ blocksFrom language number inside lines ↔
    ∃ index, inside ≤ index ∧
      Begins language number lines (blocksFrom language number inside lines) index block := by
  -- The scan sees the blocks that are found from here on only; those before are what is left of
  -- the block that covers the next lines.
  induction lines generalizing number inside with
  | nil => simp [Begins]
  | cons line rest ih =>
    cases inside with
    | succ inside => rw [blocksFrom_succ, ih, exists_begins_inside]
    | zero =>
      rw [exists_begins_cons]
      cases decided : closing? language line rest with
      | none =>
        rw [blocksFrom_of_unclosed _ decided, ih]
        simp only [reduceCtorEq, false_and, exists_false, false_or, Nat.zero_le, true_and]
      | some length =>
        have below (index : Nat) : Begins language (number + 1) rest
            (blockAt number length rest :: blocksFrom language (number + 1) (length + 1) rest)
            index block ↔ length + 1 ≤ index ∧ Begins language (number + 1) rest
              (blocksFrom language (number + 1) (length + 1) rest) index block :=
          begins_below rfl rfl
        have uncovered : ∀ upper ∈
            blockAt number length rest :: blocksFrom language (number + 1) (length + 1) rest,
            upper.first < number → upper.last < number := by
          intro upper member above
          rcases List.mem_cons.mp member with rfl | member
          · exact absurd above (Nat.lt_irrefl number)
          · have := (within_of_mem_blocksFrom member).1.first
            omega
        rw [blocksFrom_of_closed _ decided, List.mem_cons, ih]
        simp only [Option.some.injEq, exists_eq_left', below, and_iff_left uncovered]

theorem exists_endsAt_iff : (∃ last, EndsAt lines fence first last) ↔
    ∃ later closing, first < later ∧ lines[later]? = some closing ∧ Text.trim closing = fence := by
  constructor
  · rintro ⟨last, ends⟩
    obtain ⟨line, present, closing⟩ := ends.closing
    exact ⟨last, line, ends.below, present, closing⟩
  · rintro ⟨later, closing, below, present, is⟩
    cases found : (lines.drop (first + 1)).findIdx? (closes fence) with
    | some length => exact ⟨_, findIdx?_closes_eq_some_iff.mp found⟩
    | none =>
      obtain ⟨index, rfl⟩ := Nat.exists_eq_add_of_le (Nat.succ_le_of_lt below)
      rw [Nat.succ_eq_add_one, ← List.getElem?_drop] at present
      have unclosed := List.findIdx?_eq_none_iff.mp found closing (List.mem_of_getElem? present)
      exact absurd (beq_iff_eq.mpr is) (Bool.eq_false_iff.mp unclosed)

section

variable (plain : ∀ mark, IsMark mark → language.head? ≠ some mark)

include plain

theorem closing?_drop_eq_some_iff : closing? language line (lines.drop (first + 1)) = some length ↔
    ∃ fence, IsOpening language line fence ∧ EndsAt lines fence first (first + 1 + length) := by
  unfold closing?
  simp only [Option.bind_eq_some_iff, openingFence?_eq_some_iff plain, findIdx?_closes_eq_some_iff]

theorem IsOpening.unique {other : Text} (opening : IsOpening language line fence)
    (opening' : IsOpening language line other) : fence = other := by
  rw [← openingFence?_eq_some_iff plain] at opening opening'
  exact Option.some.inj (opening.symm.trans opening')

/-- The scan finds the blocks that a document has. -/
theorem foundIn_blocksFrom (lines : List Text) :
    FoundIn language lines (blocksFrom language 0 0 lines) where
  ordered := blocksFrom_pairwise language 0 0 lines
  inside := fun block member => by
    have within := (within_of_mem_blocksFrom member).1
    have last := within.last
    exact ⟨within.ordered, by omega⟩
  starts := fun number => by
    constructor
    · rintro ⟨block, member, rfl⟩
      obtain ⟨index, -, line, length, present, closed, is, apart⟩ := mem_blocksFrom_iff.mp member
      obtain ⟨fence, opening, ends⟩ := (closing?_drop_eq_some_iff plain).mp closed
      have start : block.first = index := by rw [is, blockAt, Nat.zero_add]
      rw [Nat.zero_add] at apart
      rw [start]
      exact ⟨apart, line, fence, present, opening, exists_endsAt_iff.mp ⟨_, ends⟩⟩
    · rintro ⟨apart, line, fence, present, opening, closed⟩
      obtain ⟨last, ends⟩ := exists_endsAt_iff.mpr closed
      obtain ⟨length, rfl⟩ := Nat.exists_eq_add_of_le (Nat.succ_le_of_lt ends.below)
      have closed := (closing?_drop_eq_some_iff plain).mpr ⟨fence, opening, ends⟩
      refine ⟨blockAt number length (lines.drop (number + 1)), mem_blocksFrom_iff.mpr ?_, rfl⟩
      refine ⟨number, Nat.zero_le _, line, length, present, closed, by rw [Nat.zero_add], ?_⟩
      rw [Nat.zero_add]
      exact apart
  ends := fun block member line fence present opening => by
    obtain ⟨index, -, line', length, present', closed, is, -⟩ := mem_blocksFrom_iff.mp member
    obtain ⟨fence', opening', ends⟩ := (closing?_drop_eq_some_iff plain).mp closed
    rw [Nat.zero_add] at is
    subst is
    change lines[index]? = some line at present
    obtain rfl : line = line' := Option.some.inj (present.symm.trans present')
    obtain rfl := opening.unique plain opening'
    exact ends
  source := fun block member => (within_of_mem_blocksFrom member).1.source

/-- The blocks of a document are exactly its closed blocks that stand in no other one. -/
theorem blocksOf_eq_iff (text : Text) (blocks : List Block) :
    blocksOf language text = blocks ↔ FoundIn language (Lines.ofText text).items blocks := by
  have foundIn := foundIn_blocksFrom plain (Lines.ofText text).items
  constructor
  · rintro rfl
    exact foundIn
  · exact foundIn.unique

end

/-- A longer fence that nothing ends, an opening within a block and one on the last line. -/
theorem foundIn_between_unclosed : (∀ mark, IsMark mark → queryLanguage.head? ≠ some mark) ∧
    FoundIn queryLanguage
      (Lines.ofText "~~~~ harvest\n```harvest\n~~~harvest\n ```\t\n~~~\n```harvest".text).items
      [⟨1, 3, "~~~harvest".text⟩] := by
  have plain : ∀ mark, IsMark mark → queryLanguage.head? ≠ some mark := by
    rintro mark (rfl | rfl) <;> decide
  exact ⟨plain, (blocksOf_eq_iff plain _ _).mp (by decide)⟩

end TimeReports.Document
