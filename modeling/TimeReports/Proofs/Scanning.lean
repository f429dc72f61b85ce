import TimeReports.Document.Blocks

set_option autoImplicit false

namespace TimeReports.Document

variable {language line : Text} {lines above below rest : List Text} {number inside length : Nat}

/-- How many lines stand between a line that opens a block and the first of the lines behind it that
closes this block. -/
def closing? (language line : Text) (behind : List Text) : Option Nat :=
  (openingFence? language line).bind fun fence => behind.findIdx? (closes fence)

theorem closing?_eq_none_iff : closing? language line rest = none ↔
    ∀ fence, openingFence? language line = some fence →
      ∀ later ∈ rest, closes fence later = false := by
  unfold closing?
  cases openingFence? language line <;> simp

theorem closing?_append_eq_none_iff : closing? language line (above ++ below) = none ↔
    closing? language line above = none ∧ closing? language line below = none := by
  simp only [closing?_eq_none_iff, List.mem_append, or_imp, forall_and]

theorem closing?_append_of_some (found : closing? language line above = some length) :
    closing? language line (above ++ below) = some length := by
  unfold closing? at found ⊢
  obtain ⟨fence, opens, found⟩ := Option.bind_eq_some_iff.mp found
  rw [opens, Option.bind_some, List.findIdx?_append, found, Option.some_or]

theorem closing?_of_append (found : closing? language line (above ++ below) = some length)
    (small : length < above.length) : closing? language line above = some length := by
  unfold closing? at found ⊢
  obtain ⟨fence, opens, found⟩ := Option.bind_eq_some_iff.mp found
  rw [opens, Option.bind_some]
  cases split_eq : above.findIdx? (closes fence) with
  | some other =>
    rw [List.findIdx?_append, split_eq, Option.some_or] at found
    exact found
  | none =>
    rw [List.findIdx?_append, split_eq, Option.none_or] at found
    obtain ⟨index, -, same⟩ := Option.map_eq_some_iff.mp found
    omega

theorem closing?_lt (found : closing? language line rest = some length) : length < rest.length := by
  unfold closing? at found
  obtain ⟨fence, -, found⟩ := Option.bind_eq_some_iff.mp found
  exact (List.findIdx?_eq_some_iff_getElem.mp found).1

/-- The block from a line that opens one to the line that closes it. -/
def blockAt (number length : Nat) (rest : List Text) : Block :=
  ⟨number, number + 1 + length, Text.join ['\n'] (rest.take length)⟩

@[simp] theorem blocksFrom_nil (language : Text) (number inside : Nat) :
    blocksFrom language number inside [] = [] := by
  simp only [blocksFrom]

@[simp] theorem blocksFrom_succ (language line : Text) (number inside : Nat) (rest : List Text) :
    blocksFrom language number (inside + 1) (line :: rest) =
      blocksFrom language (number + 1) inside rest := by
  simp only [blocksFrom]

theorem blocksFrom_of_unclosed (number : Nat) (unclosed : closing? language line rest = none) :
    blocksFrom language number 0 (line :: rest) = blocksFrom language (number + 1) 0 rest := by
  unfold closing? at unclosed
  simp only [blocksFrom]
  cases opens : openingFence? language line with
  | none => rfl
  | some fence =>
    rw [opens, Option.bind_some] at unclosed
    simp only [unclosed]

theorem blocksFrom_of_closed (number : Nat) (closed : closing? language line rest = some length) :
    blocksFrom language number 0 (line :: rest) =
      blockAt number length rest :: blocksFrom language (number + 1) (length + 1) rest := by
  unfold closing? at closed
  obtain ⟨fence, opens, found⟩ := Option.bind_eq_some_iff.mp closed
  simp only [blocksFrom, opens, found, blockAt]

theorem blocksFrom_inside (language : Text) (number inside : Nat) (lines : List Text) :
    blocksFrom language number inside lines =
      blocksFrom language (number + inside) 0 (lines.drop inside) := by
  induction lines generalizing number inside with
  | nil => simp only [List.drop_nil, blocksFrom_nil]
  | cons line rest ih =>
    cases inside with
    | zero => rfl
    | succ inside =>
      rw [blocksFrom_succ, ih, List.drop_succ_cons, Nat.add_right_comm, Nat.add_assoc]

/-- A block as many lines further down. -/
def Block.down (count : Nat) (block : Block) : Block :=
  { block with first := block.first + count, last := block.last + count }

theorem blocksFrom_down (language : Text) (count number inside : Nat) (lines : List Text) :
    blocksFrom language (number + count) inside lines =
      (blocksFrom language number inside lines).map (Block.down count) := by
  induction lines generalizing number inside with
  | nil => rfl
  | cons line rest ih =>
    have next := ih (number + 1)
    rw [Nat.add_right_comm] at next
    cases inside with
    | succ inside => rw [blocksFrom_succ, blocksFrom_succ, next]
    | zero =>
      cases decided : closing? language line rest with
      | none => rw [blocksFrom_of_unclosed _ decided, blocksFrom_of_unclosed _ decided, next]
      | some length =>
        rw [blocksFrom_of_closed _ decided, blocksFrom_of_closed _ decided, next, List.map_cons]
        congr 1
        simp only [blockAt, Block.down, Block.mk.injEq, and_true, true_and]
        omega

/-- Where a block stands among the lines that are scanned. -/
structure Block.Within (number : Nat) (lines : List Text) (block : Block) : Prop where
  first : number ≤ block.first
  ordered : block.first < block.last
  last : block.last < number + lines.length
  source : block.source = Text.join ['\n']
    ((lines.drop (block.first + 1 - number)).take (block.last - block.first - 1))

theorem Block.Within.cons {block : Block} (within : block.Within (number + 1) rest) (line : Text) :
    block.Within number (line :: rest) where
  first := Nat.le_of_succ_le within.first
  ordered := within.ordered
  last := by
    have := within.last
    rw [List.length_cons]
    omega
  source := by
    have first := within.first
    rw [within.source, show block.first + 1 - number = block.first + 1 - (number + 1) + 1 by omega,
      List.drop_succ_cons]

theorem blockAt_within (line : Text) (small : length < rest.length) :
    (blockAt number length rest).Within number (line :: rest) where
  first := Nat.le_refl number
  ordered := by simp only [blockAt]; omega
  last := by simp only [blockAt, List.length_cons]; omega
  source := by
    simp only [blockAt, Nat.add_sub_cancel_left, List.drop_succ_cons, List.drop_zero]
    congr 2
    omega

theorem within_of_mem_blocksFrom {block : Block}
    (member : block ∈ blocksFrom language number inside lines) :
    block.Within number lines ∧ number + inside ≤ block.first := by
  induction lines generalizing number inside with
  | nil => simp at member
  | cons line rest ih =>
    cases inside with
    | succ inside =>
      rw [blocksFrom_succ] at member
      obtain ⟨within, behind⟩ := ih member
      exact ⟨within.cons line, by omega⟩
    | zero =>
      cases decided : closing? language line rest with
      | none =>
        rw [blocksFrom_of_unclosed _ decided] at member
        have within := (ih member).1.cons line
        exact ⟨within, within.first⟩
      | some length =>
        rw [blocksFrom_of_closed _ decided, List.mem_cons] at member
        rcases member with rfl | member
        · exact ⟨blockAt_within line (closing?_lt decided), Nat.le_refl _⟩
        · have within := (ih member).1.cons line
          exact ⟨within, within.first⟩

/-- Blocks stand one below the other. -/
theorem blocksFrom_pairwise (language : Text) (number inside : Nat) (lines : List Text) :
    (blocksFrom language number inside lines).Pairwise fun upper lower =>
      upper.last < lower.first := by
  induction lines generalizing number inside with
  | nil => simp
  | cons line rest ih =>
    cases inside with
    | succ inside => rw [blocksFrom_succ]; exact ih (number + 1) inside
    | zero =>
      cases decided : closing? language line rest with
      | none => rw [blocksFrom_of_unclosed _ decided]; exact ih (number + 1) 0
      | some length =>
        rw [blocksFrom_of_closed _ decided, List.pairwise_cons]
        refine ⟨fun lower member => ?_, ih (number + 1) (length + 1)⟩
        have behind := (within_of_mem_blocksFrom member).2
        simp only [blockAt]
        omega

/-- Whether every line above that stands in no block keeps its opening unclosed when lines follow.
-/
def LeavesOpen (language : Text) (number inside : Nat) (above : List Text) (found : List Block)
    (behind : List Text) : Prop :=
  ∀ index line, above[index]? = some line → inside ≤ index →
    (∀ block ∈ found, ¬ (block.first ≤ number + index ∧ number + index ≤ block.last)) →
    closing? language line behind = none

theorem leavesOpen_nil (language : Text) (number inside : Nat) (found : List Block)
    (behind : List Text) : LeavesOpen language number inside [] found behind := by
  intro index line present
  cases present

theorem leavesOpen_succ {found : List Block} {behind : List Text} :
    LeavesOpen language number (inside + 1) (line :: above) found behind ↔
      LeavesOpen language (number + 1) inside above found behind := by
  constructor
  · intro leaves index other present behind' outside
    refine leaves (index + 1) other present (by omega) fun block member covers => ?_
    exact outside block member (by omega)
  · intro leaves index other present behind' outside
    cases index with
    | zero => omega
    | succ index =>
      refine leaves index other present (by omega) fun block member covers => ?_
      exact outside block member (by omega)

/-- A line in no block, with the lines behind it. -/
theorem leavesOpen_cons {found : List Block} {behind : List Text}
    (below : ∀ block ∈ found, number + 1 ≤ block.first) :
    LeavesOpen language number 0 (line :: above) found behind ↔
      closing? language line behind = none ∧
        LeavesOpen language (number + 1) 0 above found behind := by
  constructor
  · intro leaves
    refine ⟨leaves 0 line rfl (Nat.le_refl 0) fun block member covers => ?_, ?_⟩
    · have := below block member
      omega
    · intro index other present _ outside
      refine leaves (index + 1) other present (by omega) fun block member covers => ?_
      exact outside block member (by omega)
  · rintro ⟨unclosed, leaves⟩ index other present _ outside
    cases index with
    | zero =>
      cases present
      exact unclosed
    | succ index =>
      refine leaves index other present (by omega) fun block member covers => ?_
      exact outside block member (by omega)

/-- The lines of a block that is found first are in a block. -/
theorem leavesOpen_block {found : List Block} {behind : List Text} {block : Block}
    (first : block.first = number) (last : block.last = number + 1 + length) :
    LeavesOpen language number 0 (line :: above) (block :: found) behind ↔
      LeavesOpen language (number + 1) (length + 1) above found behind := by
  constructor
  · intro leaves index other present inside outside
    refine leaves (index + 1) other present (by omega) fun upper member covers => ?_
    rcases List.mem_cons.mp member with rfl | member
    · omega
    · exact outside upper member (by omega)
  · intro leaves index other present _ outside
    have uncovered := outside block List.mem_cons_self
    cases index with
    | zero => omega
    | succ index =>
      refine leaves index other present (by omega) fun upper member covers => ?_
      exact outside upper (List.mem_cons_of_mem _ member) (by omega)

/-- The blocks of lines that no block cuts at a place: those found above it and those below, and
when the ones above stay with other lines below. -/
structure Parted (language : Text) (number inside : Nat) (above rest : List Text)
    (found : List Block) : Prop where
  whole : blocksFrom language number inside (above ++ rest) =
    found ++ blocksFrom language (number + above.length) 0 rest
  bounds : ∀ block ∈ found, number + inside ≤ block.first ∧ block.last < number + above.length
  leaves : LeavesOpen language number inside above found rest
  again : ∀ other later, (∀ block ∈ later, number + above.length ≤ block.first) →
    (blocksFrom language number inside (above ++ other) = found ++ later ↔
      LeavesOpen language number inside above found other ∧
        blocksFrom language (number + above.length) 0 other = later)

theorem length_cons_shift (number : Nat) (line : Text) (above : List Text) :
    number + (line :: above).length = number + 1 + above.length := by
  rw [List.length_cons]
  omega

theorem parted_nil (language : Text) (number : Nat) (rest : List Text) :
    Parted language number 0 [] rest [] where
  whole := rfl
  bounds := fun _ member => nomatch member
  leaves := leavesOpen_nil language number 0 [] rest
  again := fun other later _ => by
    simp only [List.nil_append, List.length_nil, Nat.add_zero, leavesOpen_nil, true_and]

variable {found : List Block}

/-- A line in a block that was found before. -/
theorem Parted.covered (parted : Parted language (number + 1) inside above rest found)
    (line : Text) : Parted language number (inside + 1) (line :: above) rest found where
  whole := by
    rw [length_cons_shift, List.cons_append, blocksFrom_succ]
    exact parted.whole
  bounds := by
    intro block member
    have bounds := parted.bounds block member
    rw [length_cons_shift]
    omega
  leaves := leavesOpen_succ.mpr parted.leaves
  again := by
    intro other later behind
    rw [length_cons_shift] at behind ⊢
    rw [List.cons_append, blocksFrom_succ, parted.again other later behind, leavesOpen_succ]

/-- A line that opens no block, or one that is not closed. -/
theorem Parted.unclosed (parted : Parted language (number + 1) 0 above rest found)
    (unclosed : closing? language line (above ++ rest) = none) :
    Parted language number 0 (line :: above) rest found := by
  have apart : ∀ block ∈ found, number + 1 ≤ block.first :=
    fun block member => (parted.bounds block member).1
  have both := closing?_append_eq_none_iff.mp unclosed
  refine ⟨?_, ?_, (leavesOpen_cons apart).mpr ⟨both.2, parted.leaves⟩, ?_⟩
  · rw [length_cons_shift, List.cons_append, blocksFrom_of_unclosed _ unclosed]
    exact parted.whole
  · intro block member
    have bounds := parted.bounds block member
    rw [length_cons_shift]
    omega
  · intro other later behind
    rw [length_cons_shift] at behind ⊢
    rw [leavesOpen_cons apart, and_assoc, ← parted.again other later behind, List.cons_append]
    cases next : closing? language line (above ++ other) with
    | none =>
      rw [blocksFrom_of_unclosed _ next]
      simp only [(closing?_append_eq_none_iff.mp next).2, true_and]
    | some length =>
      -- A block that starts here is neither above nor below.
      constructor
      · intro same
        have head : blockAt number length (above ++ other) ∈ found ++ later := by
          rw [← same, blocksFrom_of_closed _ next]
          exact List.mem_cons_self
        rcases List.mem_append.mp head with member | member
        · have := apart _ member
          simp only [blockAt] at this
          omega
        · have := behind _ member
          simp only [blockAt] at this
          omega
      · rintro ⟨leaves, -⟩
        rw [closing?_append_eq_none_iff.mpr ⟨both.1, leaves⟩] at next
        cases next

/-- A line that opens a block that is closed above the place. -/
theorem Parted.closed (parted : Parted language (number + 1) (length + 1) above rest found)
    (closed : closing? language line above = some length) :
    Parted language number 0 (line :: above) rest
      (blockAt number length (above ++ rest) :: found) := by
  have small := closing?_lt closed
  have block (other : List Text) :
      blockAt number length (above ++ other) = blockAt number length (above ++ rest) := by
    simp only [blockAt, List.take_append_of_le_length (Nat.le_of_lt small)]
  have covered (other : List Text) : LeavesOpen language number 0 (line :: above)
      (blockAt number length (above ++ rest) :: found) other ↔
        LeavesOpen language (number + 1) (length + 1) above found other :=
    leavesOpen_block rfl rfl
  refine ⟨?_, ?_, (covered rest).mpr parted.leaves, ?_⟩
  · rw [length_cons_shift, List.cons_append,
      blocksFrom_of_closed _ (closing?_append_of_some closed), parted.whole, List.cons_append]
  · intro block member
    rw [length_cons_shift]
    rcases List.mem_cons.mp member with rfl | member
    · simp only [blockAt]
      omega
    · have bounds := parted.bounds block member
      omega
  · intro other later behind
    rw [length_cons_shift] at behind ⊢
    rw [covered, ← parted.again other later behind, List.cons_append,
      blocksFrom_of_closed _ (closing?_append_of_some closed), block, List.cons_append,
      List.cons_inj_right]

/-- Lines are parted at every place at which no block is cut. -/
theorem exists_parted (within : inside ≤ above.length)
    (uncut : ∀ block ∈ blocksFrom language number inside (above ++ rest),
      block.first < number + above.length → block.last < number + above.length) :
    ∃ found, Parted language number inside above rest found := by
  induction above generalizing number inside with
  | nil =>
    obtain rfl : inside = 0 := Nat.le_zero.mp within
    exact ⟨[], parted_nil language number rest⟩
  | cons line above ih =>
    rw [length_cons_shift, List.cons_append] at uncut
    cases inside with
    | succ inside =>
      rw [blocksFrom_succ] at uncut
      obtain ⟨found, parted⟩ := ih (Nat.le_of_succ_le_succ within) uncut
      exact ⟨found, parted.covered line⟩
    | zero =>
      cases decided : closing? language line (above ++ rest) with
      | none =>
        rw [blocksFrom_of_unclosed _ decided] at uncut
        obtain ⟨found, parted⟩ := ih (Nat.zero_le _) uncut
        exact ⟨found, parted.unclosed decided⟩
      | some length =>
        rw [blocksFrom_of_closed _ decided] at uncut
        have small : length < above.length := by
          have := uncut _ List.mem_cons_self
          simp only [blockAt] at this
          omega
        obtain ⟨found, parted⟩ := ih (Nat.succ_le_of_lt small) fun block member =>
          uncut block (List.mem_cons_of_mem _ member)
        exact ⟨_, parted.closed (closing?_of_append decided small)⟩

/-- Whether no line among lines opens a block that a later one of them, or a line below, closes. -/
def Quiet (language : Text) (lines below : List Text) : Prop :=
  ∀ before line behind, lines = before ++ line :: behind →
    closing? language line (behind ++ below) = none

theorem quiet_nil (language : Text) (below : List Text) : Quiet language [] below := by
  intro before line behind split
  simp at split

theorem quiet_cons : Quiet language (line :: lines) below ↔
    closing? language line (lines ++ below) = none ∧ Quiet language lines below := by
  constructor
  · intro quiet
    refine ⟨quiet [] line lines rfl, fun before other behind split => ?_⟩
    exact quiet (line :: before) other behind (by rw [split, List.cons_append])
  · rintro ⟨unclosed, quiet⟩ before other behind split
    cases before with
    | nil =>
      obtain ⟨rfl, rfl⟩ := List.cons.inj split
      exact unclosed
    | cons first before => exact quiet before other behind (List.cons.inj split).2

/-- Lines hold no block of their own exactly when the blocks below them are all that is found. -/
theorem blocksFrom_eq_iff_quiet : blocksFrom language number 0 (lines ++ below) =
    blocksFrom language (number + lines.length) 0 below ↔ Quiet language lines below := by
  induction lines generalizing number with
  | nil => simp only [List.nil_append, List.length_nil, Nat.add_zero, quiet_nil]
  | cons line lines ih =>
    have shifted : number + (line :: lines).length = number + 1 + lines.length := by
      rw [List.length_cons]
      omega
    rw [shifted, quiet_cons, List.cons_append]
    cases decided : closing? language line (lines ++ below) with
    | none =>
      rw [blocksFrom_of_unclosed _ decided, ih]
      simp only [true_and]
    | some length =>
      simp only [reduceCtorEq, false_and, iff_false]
      intro same
      have head : blockAt number length (lines ++ below) ∈
          blocksFrom language (number + 1 + lines.length) 0 below := by
        rw [← same, blocksFrom_of_closed _ decided]
        exact List.mem_cons_self
      have := (within_of_mem_blocksFrom head).2
      simp only [blockAt] at this
      omega

end TimeReports.Document
