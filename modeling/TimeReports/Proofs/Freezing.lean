import TimeReports.Execution.Freeze
import TimeReports.Proofs.Console
import TimeReports.Proofs.Disturbance
import TimeReports.Proofs.Names
import TimeReports.Proofs.Substitution

set_option autoImplicit false

namespace TimeReports

namespace Execution

open Document Text Program

variable {document original current text : Text} {today : Date} {block : Block}
  {blocks : List Block} {query : Query} {entries : List TimeEntry} {markup : Text} {desk : Desk}
  {replies : List Harvest.Reply} {result : Result} {vault : Vault}

/-- Whether no name in an entry holds a carriage return. -/
def ReturnFree (entry : TimeEntry) : Prop := back ∉ entry.project.name ∧ back ∉ entry.task.name

instance (entry : TimeEntry) : Decidable (ReturnFree entry) := inferInstanceAs (Decidable (_ ∧ _))

theorem back_not_mem_frozenBlock {source : Text} (clean : back ∉ source)
    (named : ∀ entry ∈ entries, ReturnFree entry)
    (written : (report query entries).display.markup = .ok markup) :
    back ∉ frozenBlock (Query.withoutFlag source) markup := by
  have names : ∀ name ∈ Display.shownNames (Report.aggregate entries query.kind), back ∉ name := by
    intro name member
    obtain ⟨entry, inside, rfl | rfl⟩ := Report.mem_of_mem_shownNames member
    · exact (named entry inside).1
    · exact (named entry inside).2
  have plain : back ∉ trim (Query.withoutFlag source) := by
    intro member
    rcases Query.mem_of_mem_withoutFlag (trim_subset _ member) with isSpace | inside
    · cases isSpace
    · exact clean inside
  have shows := shows_frozenBlock (Query.withoutFlag source)
    (Display.shows_markup (Display.oneLineColors_render _) written)
  apply shows.back_not_mem
  intro text member
  rcases List.mem_cons.mp member with rfl | member
  · exact plain
  · exact Display.back_not_mem_shown names text member

/-- An execution of a block, with what it starts from. -/
structure Attempt where
  block : Block
  desk : Desk
  replies : List Harvest.Reply

/-- A static block without carriage returns. -/
structure Freezable (block : Block) : Prop where
  flag : Query.isStatic block.source = true
  clean : back ∉ block.source
  ordered : block.first < block.last

/-- What holds while a document is frozen: the blocks that are still to be executed, from below, are
where they were in the original document. -/
structure Underway (document original : Text) (blocks : List Block) (vault : Vault)
    (current : Text) : Prop where
  holds : vault.Holds document current
  sound : (Lines.ofText current).Sound
  joined : (Lines.ofText current).toText = current
  opens : ¬ vault.RefusesReading
  whole : ¬ vault.StopsWriting
  freezable : ∀ block ∈ blocks, Freezable block
  inside : ∀ block ∈ blocks, block.last < (Lines.ofText current).items.length
  unmoved : ∀ block ∈ blocks, (Lines.ofText current).items.take (block.last + 1) =
    (Lines.ofText original).items.take (block.last + 1)
  upward : blocks.Pairwise fun lower upper => upper.last < lower.first

theorem Underway.rest (underway : Underway document original (block :: blocks) vault current) :
    Underway document original blocks vault current where
  holds := underway.holds
  sound := underway.sound
  joined := underway.joined
  opens := underway.opens
  whole := underway.whole
  freezable := fun upper member => underway.freezable upper (List.mem_cons_of_mem _ member)
  inside := fun upper member => underway.inside upper (List.mem_cons_of_mem _ member)
  unmoved := fun upper member => underway.unmoved upper (List.mem_cons_of_mem _ member)
  upward := (List.pairwise_cons.mp underway.upward).2

theorem Underway.inRange (underway : Underway document original (block :: blocks) vault current) :
    Vault.InRange current block.first block.last := by
  have ordered := (underway.freezable block List.mem_cons_self).ordered
  have inside := underway.inside block List.mem_cons_self
  unfold Vault.InRange
  omega

/-- Storage can only refuse to write the blocks that are still to be replaced. -/
theorem Underway.refuses (underway : Underway document original (block :: blocks) vault current)
    (cannot : ¬ CanReplace vault (some (placeOf document block))) :
    ∃ reason, vault.trouble = .refusesWriting reason := by
  have replaceable : vault.Replaceable document block.first block.last :=
    ⟨current, underway.holds, underway.inRange⟩
  cases trouble : vault.trouble with
  | none => exact absurd ⟨_, rfl, replaceable, trouble⟩ cannot
  | refusesReading reason => exact absurd ⟨reason, trouble⟩ underway.opens
  | refusesWriting reason => exact ⟨reason, rfl⟩
  | stopsWriting kept reason => exact absurd ⟨kept, reason, trouble⟩ underway.whole

theorem Underway.ofText_spliced
    (underway : Underway document original (block :: blocks) vault current) (clean : back ∉ text)
    (several : 2 ≤ (pieces feed text).length) (visible : (pieces feed text).getLast? ≠ some []) :
    (Vault.spliced (Lines.ofText current) block.first block.last text).Sound ∧
      Lines.ofText (Vault.splicedText current block.first block.last text) =
        Vault.spliced (Lines.ofText current) block.first block.last text := by
  have ordered := (underway.freezable block List.mem_cons_self).ordered
  have inside := underway.inside block List.mem_cons_self
  have sound := underway.sound.spliced ordered inside clean several visible
  exact ⟨sound, ofText_toText sound⟩

/-- Replacing the lowest of the blocks leaves the others where they were. -/
theorem Underway.replace (underway : Underway document original (block :: blocks) vault current)
    (clean : back ∉ text) (several : 2 ≤ (pieces feed text).length)
    (visible : (pieces feed text).getLast? ≠ some [])
    (characters : ∀ c ∈ Vault.splicedText current block.first block.last text,
      c.isSurrogate = false) :
    Underway document original blocks
      (vault.holding (vault.pathOf document)
        (utf8 (Vault.splicedText current block.first block.last text)))
      (Vault.splicedText current block.first block.last text) := by
  obtain ⟨sound, reread⟩ := underway.ofText_spliced clean several visible
  have inside := underway.inside block List.mem_cons_self
  have ordered := (underway.freezable block List.mem_cons_self).ordered
  have upward := List.pairwise_cons.mp underway.upward
  have items : (Lines.ofText (Vault.splicedText current block.first block.last text)).items =
      (Replacement.mk block.first block.last (pieces feed text)).apply
        (Lines.ofText current).items := by
    rw [reread, items_spliced]
    rfl
  have kept (upper : Block) (member : upper ∈ blocks) :
      (Lines.ofText (Vault.splicedText current block.first block.last text)).items.take
        (upper.last + 1) = (Lines.ofText current).items.take (upper.last + 1) := by
    have above := upward.1 upper member
    rw [items]
    apply take_apply
    · exact above
    · exact Nat.le_of_lt (Nat.lt_trans ordered inside)
  have rest := underway.rest
  exact {
    holds := underway.holds.holding characters
    sound := by
      rw [reread]
      exact sound
    joined := by
      rw [reread]
      rfl
    opens := underway.opens
    whole := underway.whole
    freezable := rest.freezable
    inside := by
      intro upper member
      have above := upward.1 upper member
      have lengths := congrArg List.length (kept upper member)
      rw [List.length_take, List.length_take] at lengths
      omega
    unmoved := by
      intro upper member
      rw [kept upper member]
      exact rest.unmoved upper member
    upward := rest.upward }

theorem lines_unreplaced (lines : Lines) :
    lines = { lines with items := substituted [] lines.items } := by
  rw [substituted, substitutedFrom_none]

theorem lines_of_uniform (uniform : Uniform text) :
    (Lines.ofText text).Sound ∧ (Lines.ofText text).toText = text := by
  obtain ⟨lines, sound, is⟩ := uniform.exists_sound
  rw [← is, ofText_toText sound]
  exact ⟨sound, rfl⟩

/-- A document before its static blocks are executed. -/
theorem underway_staticBlocks (holds : vault.Holds document text) (uniform : Uniform text)
    (opens : ¬ vault.RefusesReading) (whole : ¬ vault.StopsWriting) :
    Underway document text (staticBlocks text).reverse vault text := by
  obtain ⟨sound, joined⟩ := lines_of_uniform uniform
  have within (block : Block) (member : block ∈ (staticBlocks text).reverse) :
      Query.isStatic block.source = true ∧ block.Within 0 (Lines.ofText text).items := by
    obtain ⟨inside, flag⟩ := List.mem_filter.mp (List.mem_reverse.mp member)
    exact ⟨flag, (within_of_mem_blocksFrom inside).1⟩
  exact {
    holds := holds
    sound := sound
    joined := joined
    opens := opens
    whole := whole
    freezable := by
      intro block member
      obtain ⟨flag, stands⟩ := within block member
      refine ⟨flag, fun inside => ?_, stands.ordered⟩
      rw [stands.source] at inside
      refine (forall_mem_join (· ≠ back) (by decide) _).mpr ?_ back inside rfl
      intro line member c present same
      exact sound.backs line (List.drop_subset _ _ (List.take_subset _ _ member)) (same ▸ present)
    inside := by
      intro block member
      have last := (within block member).2.last
      rwa [Nat.zero_add] at last
    unmoved := fun _ _ => rfl
    upward := by
      rw [List.pairwise_reverse]
      exact (blocksFrom_pairwise queryLanguage 0 0 _).filter _ }

theorem run_read (document : Text) (desk : Desk) (replies : List Harvest.Reply) :
    (Desk.read document).run desk replies =
      { outcome :=
          match desk.vault.read document with
          | .ok text => .returned text
          | .error fault => .failed (.ofVault fault)
        state := desk
        unused := replies
        events := [] } := by
  simp only [Desk.read, Program.get, bind_eq, Program.bind, Program.run]
  cases desk.vault.read document <;> rfl

section

variable [Console]

namespace Attempt

variable {attempt : Attempt}

def run (document : Text) (today : Date) (attempt : Attempt) : Run Desk Result :=
  executed attempt.block.source Session.fetchEntries (some (placeOf document attempt.block)) today
    attempt.desk attempt.replies

def replaced (document : Text) (today : Date) (attempt : Attempt) : Bool :=
  (attempt.run document today).value?.any (·.replaced)

/-- The replacement that an execution made: of its block by the lines of the frozen one. -/
def replacement? (document : Text) (today : Date) (attempt : Attempt) : Option Replacement :=
  match (attempt.run document today).value? with
  | none => none
  | some result =>
    if result.replaced then
      result.markup.map fun markup => ⟨attempt.block.first, attempt.block.last,
        pieces feed (frozenBlock (Query.withoutFlag attempt.block.source) markup)⟩
    else none

/-- A replacement is made where the block stood. -/
theorem place_of_replacement? {replacement : Replacement}
    (made : attempt.replacement? document today = some replacement) :
    replacement.first = attempt.block.first ∧ replacement.last = attempt.block.last := by
  unfold replacement? at made
  split at made
  · cases made
  · split at made
    · obtain ⟨markup, -, rfl⟩ := Option.map_eq_some_iff.mp made
      exact ⟨rfl, rfl⟩
    · cases made

/-- The entries that an execution fetches, if its query can be read and they can be fetched. -/
def entries? (today : Date) (attempt : Attempt) : Option (List TimeEntry) :=
  match Query.parse (Query.withoutFlag attempt.block.source) today with
  | .ok query => (answered Session.fetchEntries query attempt.desk attempt.replies).value?
  | .error _ => none

theorem entries?_of_returned (reads : Reads attempt.block.source today query)
    (returned : (answered Session.fetchEntries query attempt.desk attempt.replies).outcome =
      .returned entries) : attempt.entries? today = some entries := by
  unfold Reads at reads
  simp only [entries?, reads]
  exact Run.value?_eq_some_iff.mpr returned

end Attempt

/-- The executions of blocks one after another, each from where the one before it ended. -/
def attempts (document : Text) (today : Date) :
    List Block → Desk → List Harvest.Reply → List Attempt
  | [], _, _ => []
  | block :: rest, desk, replies =>
    let attempt : Attempt := ⟨block, desk, replies⟩
    attempt :: attempts document today rest (attempt.run document today).state
      (attempt.run document today).unused

theorem map_block_attempts (document : Text) (today : Date) (blocks : List Block) (desk : Desk)
    (replies : List Harvest.Reply) :
    (attempts document today blocks desk replies).map (·.block) = blocks := by
  induction blocks generalizing desk replies with
  | nil => rfl
  | cons block blocks ih => rw [attempts, List.map_cons, ih]

/-- The replacements of executions are made in the places of their blocks. -/
theorem exists_block_of_replacement {desk : Desk} {replies : List Harvest.Reply}
    {replacement : Replacement} (made : replacement ∈ (attempts document today blocks desk
      replies).filterMap (·.replacement? document today)) :
    ∃ block ∈ blocks, replacement.first = block.first ∧ replacement.last = block.last := by
  obtain ⟨attempt, member, made⟩ := List.mem_filterMap.mp made
  refine ⟨attempt.block, ?_, Attempt.place_of_replacement? made⟩
  rw [← map_block_attempts document today blocks desk replies]
  exact List.mem_map_of_mem member

/-- How the execution of a block of a document went: its lines were where they had been, and once
its entries were fetched it failed to replace them only where storage refused. -/
structure Attempt.Settled (document original : Text) (today : Date) (attempt : Attempt)
    (result : Result) : Prop where
  returned : (attempt.run document today).outcome = .returned result
  unmoved : ∃ current, attempt.desk.vault.Holds document current ∧
    Vault.InRange current attempt.block.first attempt.block.last ∧
    (Lines.ofText current).items.take (attempt.block.last + 1) =
      (Lines.ofText original).items.take (attempt.block.last + 1)
  done : result.state = .done ↔ result.replaced = true
  replaced : result.replaced = true → ∃ query entries markup,
    Reads attempt.block.source today query ∧
    (answered Session.fetchEntries query attempt.desk attempt.replies).outcome = .returned entries ∧
    (report query entries).display.markup = .ok markup ∧ result.markup = some markup
  fetched : (∃ query entries, Reads attempt.block.source today query ∧
    (answered Session.fetchEntries query attempt.desk attempt.replies).outcome =
      .returned entries) →
    result.replaced = true ∨ ∃ reason, attempt.desk.vault.trouble = .refusesWriting reason
  refused : result.state = .replaceFailed →
    ∃ reason, attempt.desk.vault.trouble = .refusesWriting reason

/-- What an execution that replaces nothing leaves. -/
theorem Underway.step_unreplaced {attempt : Attempt}
    (underway : Underway document original (block :: blocks) vault current)
    (returned : (attempt.run document today).outcome = .returned result)
    (unreplaced : result.replaced = false) :
    ∃ after, Underway document original blocks vault after ∧
      Lines.ofText after = { Lines.ofText current with
        items := substituted (attempt.replacement? document today).toList
          (Lines.ofText current).items } := by
  have none : attempt.replacement? document today = none := by
    simp only [Attempt.replacement?, Run.value?_eq_some_iff.mpr returned, unreplaced,
      Bool.false_eq_true, ↓reduceIte]
  refine ⟨current, underway.rest, ?_⟩
  rw [none]
  exact lines_unreplaced (Lines.ofText current)

theorem settled_of_unreplaced {attempt : Attempt}
    (underway : Underway document original (attempt.block :: blocks) attempt.desk.vault current)
    (returned : (attempt.run document today).outcome = .returned result)
    (undone : result.state ≠ .done) (unreplaced : result.replaced = false)
    (fetched : (∃ query entries, Reads attempt.block.source today query ∧
      (answered Session.fetchEntries query attempt.desk attempt.replies).outcome =
        .returned entries) → ∃ reason, attempt.desk.vault.trouble = .refusesWriting reason)
    (refused : result.state = .replaceFailed →
      ∃ reason, attempt.desk.vault.trouble = .refusesWriting reason) :
    attempt.Settled document original today result where
  returned := returned
  unmoved := ⟨current, underway.holds, underway.inRange,
    underway.unmoved attempt.block List.mem_cons_self⟩
  done := by simp only [undone, unreplaced, Bool.false_eq_true]
  replaced := fun replaced => by
    rw [unreplaced] at replaced
    cases replaced
  fetched := fun found => Or.inr (fetched found)
  refused := refused

theorem Underway.step_frozen {attempt : Attempt} {after : Vault}
    (underway : Underway document original (attempt.block :: blocks) attempt.desk.vault current)
    (named : ∀ entries ∈ attempt.entries? today, ∀ entry ∈ entries, ReturnFree entry)
    (returned : (attempt.run document today).outcome =
      .returned ((report query entries).frozen markup))
    (reads : Reads attempt.block.source today query)
    (found : (answered Session.fetchEntries query attempt.desk attempt.replies).outcome =
      .returned entries)
    (written : (report query entries).display.markup = .ok markup)
    (replaced : replacedAt attempt.desk.vault (placeOf document attempt.block)
      attempt.block.source markup = (after, .ok ())) :
    attempt.Settled document original today ((report query entries).frozen markup) ∧
      ∃ text, Underway document original blocks after text ∧
        Lines.ofText text = { Lines.ofText current with
          items := substituted (attempt.replacement? document today).toList
            (Lines.ofText current).items } := by
  obtain ⟨-, -, text, holds, -, characters, rfl⟩ := Vault.replaceLines_eq_ok_iff.mp replaced
  obtain rfl := underway.holds.unique holds
  have freezable := underway.freezable attempt.block List.mem_cons_self
  have inside := underway.inside attempt.block List.mem_cons_self
  have names := named entries (Attempt.entries?_of_returned reads found)
  have clean := back_not_mem_frozenBlock freezable.clean names written
  have several := two_le_frozenBlock (Query.withoutFlag attempt.block.source) markup
  have shows := Display.shows_markup (Display.oneLineColors_render _) written
  have visible : (pieces feed
      (frozenBlock (Query.withoutFlag attempt.block.source) markup)).getLast? ≠ some [] :=
    getLast?_frozenBlock shows
  have made : attempt.replacement? document today = some ⟨attempt.block.first, attempt.block.last,
      pieces feed (frozenBlock (Query.withoutFlag attempt.block.source) markup)⟩ := by
    simp only [Attempt.replacement?, Run.value?_eq_some_iff.mpr returned, Result.frozen,
      ↓reduceIte, Option.map_some]
  constructor
  · exact {
      returned := returned
      unmoved := ⟨current, underway.holds, underway.inRange,
        underway.unmoved attempt.block List.mem_cons_self⟩
      done := ⟨fun _ => rfl, fun _ => rfl⟩
      replaced := fun _ => ⟨query, entries, markup, reads, found, written, rfl⟩
      fetched := fun _ => Or.inl rfl
      refused := State.noConfusion }
  · refine ⟨_, underway.replace clean several visible characters, ?_⟩
    rw [(underway.ofText_spliced clean several visible).2, made]
    exact spliced_eq (Nat.le_of_lt freezable.ordered) inside _

/-- An execution settles its block: it replaces it in the lines that it finds, or leaves them. -/
theorem Underway.step {attempt : Attempt}
    (underway : Underway document original (attempt.block :: blocks) attempt.desk.vault current)
    (named : ∀ entries ∈ attempt.entries? today, ∀ entry ∈ entries, ReturnFree entry)
    (returned : (attempt.run document today).outcome = .returned result) :
    attempt.Settled document original today result ∧
      ∃ text, Underway document original blocks (attempt.run document today).state.vault text ∧
        Lines.ofText text = { Lines.ofText current with
          items := substituted (attempt.replacement? document today).toList
            (Lines.ofText current).items } := by
  have freezable := underway.freezable attempt.block List.mem_cons_self
  have ending : Ending attempt.block.source Session.fetchEntries
      (some (placeOf document attempt.block)) today attempt.desk attempt.replies
      (attempt.run document today) := ending_of_returned returned
  have outcome := returned
  generalize attempt.run document today = run at outcome ending ⊢
  cases ending with
  | malformed fault malformed =>
    cases outcome
    have unread := not_reads_of_error malformed
    refine ⟨settled_of_unreplaced underway returned State.noConfusion rfl ?_ State.noConfusion,
      underway.step_unreplaced returned rfl⟩
    rintro ⟨query, entries, reads, -⟩
    exact absurd ⟨query, reads⟩ unread
  | unfetched query failure reads failed =>
    cases outcome
    refine ⟨settled_of_unreplaced underway returned State.noConfusion rfl ?_ State.noConfusion,
      underway.step_unreplaced returned rfl⟩
    rintro ⟨other, entries, reads', found⟩
    exact absurd ⟨query, failure, reads, failed⟩ (not_unfetched_of_returned reads' found)
  | live query entries reads found live =>
    rw [freezable.flag] at live
    cases live
  | kept query entries markup fault after reads found flag written unreplaced =>
    cases outcome
    have refuses := underway.refuses (not_canReplace_of_unreplaced unreplaced)
    have same : after = attempt.desk.vault := by
      rcases unreplaced with ⟨-, same⟩ | ⟨place, -, failed⟩
      · exact same
      · rcases (Vault.replaceLines_eq_error failed).2 with same | ⟨stops, -⟩
        · exact same
        · exact absurd stops underway.whole
    subst same
    exact ⟨settled_of_unreplaced underway returned State.noConfusion rfl (fun _ => refuses)
      fun _ => refuses, underway.step_unreplaced returned rfl⟩
  | frozen query entries markup place after reads found flag written placed replaced =>
    cases outcome
    cases placed
    exact underway.step_frozen named returned reads found written replaced

theorem filterMap_cons_eq (attempt : Attempt) (rest : List Attempt) :
    (attempt :: rest).filterMap (·.replacement? document today) =
      (attempt.replacement? document today).toList ++
        rest.filterMap (·.replacement? document today) := by
  rw [List.filterMap_cons]
  cases attempt.replacement? document today <;> rfl

/-- The replacement that the first execution makes may be made before those of the others. -/
theorem Underway.substituted_attempts {attempt : Attempt} {desk : Desk}
    {replies : List Harvest.Reply}
    (underway : Underway document original (attempt.block :: blocks) vault current) :
    substituted ((attempt.replacement? document today).toList ++
        (attempts document today blocks desk replies).filterMap (·.replacement? document today))
        (Lines.ofText current).items =
      substituted ((attempts document today blocks desk replies).filterMap
          (·.replacement? document today))
        (substituted (attempt.replacement? document today).toList
          (Lines.ofText current).items) := by
  have upward := (List.pairwise_cons.mp underway.upward).1
  apply substituted_toList_append
  · intro replacement made
    obtain ⟨first, last⟩ := Attempt.place_of_replacement? made
    rw [first, last]
    exact Nat.le_of_lt (underway.freezable attempt.block List.mem_cons_self).ordered
  · intro replacement made
    rw [(Attempt.place_of_replacement? made).2]
    exact underway.inside attempt.block List.mem_cons_self
  · intro replacement made upper madeAbove
    obtain ⟨block, member, -, last⟩ := exists_block_of_replacement madeAbove
    rw [last, (Attempt.place_of_replacement? made).1]
    exact upward block member

def said (block : Block) (result : Result) : Program Desk Bool :=
  if result.replaced then do
    Program.say ("  Froze lines ".text ++ Text.natDigits block.first ++ "-".text
      ++ Text.natDigits block.last)
    return true
  else do
    let plain ← Program.ofExcept Fault.display result.display.plain
    Program.say ("  Lines ".text ++ Text.natDigits block.first ++ "-".text
      ++ Text.natDigits block.last ++ ": ".text ++ plain)
    return false

theorem freezeBlock_eq (document : Text) (today : Date) (block : Block) :
    freezeBlock document today block =
      (execute block.source (ofSession Session.fetchEntries) (some (placeOf document block)) today
        fun _ => return ()).bind (said block) := rfl

theorem said_returned {frozen : Bool}
    (returned : ((said block result).run desk replies).outcome = .returned frozen) :
    frozen = result.replaced ∧ ((said block result).run desk replies).state = desk ∧
      ((said block result).run desk replies).unused = replies := by
  unfold said at returned ⊢
  cases replaced : result.replaced with
  | true =>
    rw [replaced, if_pos rfl] at returned
    rw [if_pos rfl]
    have takes := takes_of_returned returned
    rw [say_of_takes takes] at returned ⊢
    cases returned
    exact ⟨rfl, rfl, rfl⟩
  | false =>
    rw [replaced, if_neg Bool.false_ne_true] at returned
    rw [if_neg Bool.false_ne_true]
    cases plain : result.display.plain with
    | error fault =>
      rw [plain] at returned
      cases returned
    | ok text =>
      rw [plain] at returned
      simp only [Program.ofExcept, bind_eq, Program.bind] at returned ⊢
      have takes := takes_of_returned returned
      rw [say_of_takes takes] at returned ⊢
      cases returned
      exact ⟨rfl, rfl, rfl⟩

theorem freezeBlock_returned {frozen : Bool}
    (returned : ((freezeBlock document today block).run desk replies).outcome = .returned frozen) :
    ∃ result, ((Attempt.mk block desk replies).run document today).outcome = .returned result ∧
      frozen = result.replaced ∧
      ((freezeBlock document today block).run desk replies).state =
        ((Attempt.mk block desk replies).run document today).state ∧
      ((freezeBlock document today block).run desk replies).unused =
        ((Attempt.mk block desk replies).run document today).unused := by
  have whole : (freezeBlock document today block).run desk replies =
      ((Attempt.mk block desk replies).run document today).andThen (said block) := by
    rw [freezeBlock_eq, run_bind]
    rfl
  rw [whole] at returned ⊢
  obtain ⟨result, first, next⟩ := Run.andThen_returned returned
  obtain ⟨rfl, state, unused⟩ := said_returned next
  rw [Run.andThen_of_returned _ first, Run.state_behind, Run.unused_behind]
  exact ⟨result, first, rfl, state, unused⟩

/-- The lines of a document in which all replacements of executions are made at once. -/
def frozenLines (document current : Text) (today : Date) (executions : List Attempt) : Lines :=
  { Lines.ofText current with
    items := substituted (executions.filterMap (·.replacement? document today))
      (Lines.ofText current).items }

/-- A document after its blocks were executed one after another: as if all replacements had been
made at once, and the blocks that were not replaced are counted. -/
structure FrozenAtOnce (document original current : Text) (today : Date)
    (executions : List Attempt) (vault : Vault) (failures : Nat) : Prop where
  settled : ∀ attempt ∈ executions, ∃ result, attempt.Settled document original today result
  holds : vault.Holds document (frozenLines document current today executions).toText
  lines : Lines.ofText (frozenLines document current today executions).toText =
    frozenLines document current today executions
  failures : failures = executions.countP (! ·.replaced document today)

theorem frozenAtOnce_nil (underway : Underway document original blocks vault current) :
    FrozenAtOnce document original current today [] vault 0 := by
  have unchanged : frozenLines document current today [] = Lines.ofText current :=
    (lines_unreplaced (Lines.ofText current)).symm
  exact {
    settled := fun _ member => nomatch member
    holds := by
      rw [unchanged, underway.joined]
      exact underway.holds
    lines := by rw [unchanged, underway.joined]
    failures := rfl }

/-- When a block was executed and then those above it, all replacements were made at once. -/
theorem FrozenAtOnce.cons {attempt : Attempt} {before : Vault} {after : Text} {failures : Nat}
    (later : FrozenAtOnce document original after today
      (attempts document today blocks desk replies) vault failures)
    (underway : Underway document original (attempt.block :: blocks) before current)
    (settled : attempt.Settled document original today result)
    (read : Lines.ofText after = { Lines.ofText current with
      items := substituted (attempt.replacement? document today).toList
        (Lines.ofText current).items }) :
    FrozenAtOnce document original current today
      (attempt :: attempts document today blocks desk replies) vault
      (failures + if result.replaced then 0 else 1) := by
  have together : frozenLines document current today
      (attempt :: attempts document today blocks desk replies) =
      frozenLines document after today (attempts document today blocks desk replies) := by
    rw [frozenLines, filterMap_cons_eq, underway.substituted_attempts, frozenLines, read]
  exact {
    settled := by
      intro other member
      rcases List.mem_cons.mp member with rfl | member
      · exact ⟨result, settled⟩
      · exact later.settled other member
    holds := by
      rw [together]
      exact later.holds
    lines := by
      rw [together]
      exact later.lines
    failures := by
      rw [List.countP_cons, ← later.failures, Attempt.replaced,
        Run.value?_eq_some_iff.mpr settled.returned, Option.any_some]
      cases result.replaced <;> rfl }

theorem freezeBlocks_cons_eq (document : Text) (today : Date) (block : Block)
    (blocks : List Block) :
    freezeBlocks document today (block :: blocks) = (freezeBlock document today block).bind
      fun frozen => (freezeBlocks document today blocks).bind fun failures =>
        done (failures + if frozen then 0 else 1) := rfl

theorem freezeBlocks_returned {failures : Nat}
    (underway : Underway document original blocks desk.vault current)
    (named : ∀ attempt ∈ attempts document today blocks desk replies,
      ∀ entries ∈ attempt.entries? today, ∀ entry ∈ entries, ReturnFree entry)
    (returned : ((freezeBlocks document today blocks).run desk replies).outcome =
      .returned failures) :
    FrozenAtOnce document original current today (attempts document today blocks desk replies)
      ((freezeBlocks document today blocks).run desk replies).state.vault failures := by
  induction blocks generalizing desk replies current failures with
  | nil =>
    cases returned
    exact frozenAtOnce_nil underway
  | cons block blocks ih =>
    rw [freezeBlocks_cons_eq, run_bind] at returned ⊢
    obtain ⟨frozen, first, next⟩ := Run.andThen_returned returned
    obtain ⟨result, gave, rfl, state, unused⟩ := freezeBlock_returned first
    rw [Run.andThen_of_returned _ first, Run.state_behind]
    rw [state, unused, run_bind] at next ⊢
    obtain ⟨others, rest, counted⟩ := Run.andThen_returned next
    cases counted
    rw [Run.andThen_of_returned _ rest, Run.state_behind]
    have here := named ⟨block, desk, replies⟩ List.mem_cons_self
    have above := fun attempt member => named attempt (List.mem_cons_of_mem _ member)
    -- What the blocks above are executed in is what the execution of this one has left.
    obtain ⟨settled, after, underway', read⟩ := Underway.step underway here gave
    exact (ih underway' above rest).cons underway settled read

/-- Freezing a document puts the reports of its static blocks in their places at once: all other
lines stay, in order and ended as they were, no block is missed because its lines have moved, and
what is given is the number of static blocks that were not replaced. -/
theorem frozenAtOnce_of_freezeDocument {failures : Nat} (holds : desk.vault.Holds document text)
    (uniform : Uniform text) (whole : ¬ desk.vault.StopsWriting)
    (named : ∀ attempt ∈ attempts document today (staticBlocks text).reverse desk replies,
      ∀ entries ∈ attempt.entries? today, ∀ entry ∈ entries, ReturnFree entry)
    (returned : ((freezeDocument document today).run desk replies).outcome = .returned failures) :
    (attempts document today (staticBlocks text).reverse desk replies).map (·.block) =
        (staticBlocks text).reverse ∧
      FrozenAtOnce document text text today
        (attempts document today (staticBlocks text).reverse desk replies)
        ((freezeDocument document today).run desk replies).state.vault failures := by
  refine ⟨map_block_attempts document today _ desk replies, ?_⟩
  unfold freezeDocument at returned ⊢
  rw [bind_eq, run_bind, run_read] at returned ⊢
  cases reading : desk.vault.read document with
  | error fault =>
    rw [reading] at returned
    cases returned
  | ok found =>
    obtain ⟨-, opens, holds'⟩ := Vault.read_eq_ok_iff.mp reading
    obtain rfl := holds.unique holds'
    rw [reading] at returned
    rw [Run.andThen_of_returned _ rfl] at returned ⊢
    dsimp only at returned ⊢
    have takes := takes_of_returned returned
    rw [say_of_takes takes] at returned ⊢
    exact freezeBlocks_returned (underway_staticBlocks holds uniform opens whole) named returned

end

def twoBlocks : Text :=
  "a\n```harvest\nLIST --static\n```\nb\n```harvest\nSUMMARY TODAY --static\n```\n".text

/-- A desk with this document, for a known user. -/
def twoBlocksDesk : Desk where
  session := .start ⟨"token".text, "account".text, 1⟩ (some 7)
  vault :=
    { root := ["vault".text]
      directories := [["vault".text]]
      files := [(["vault".text, "d.md".text], Text.utf8 twoBlocks)]
      trouble := .none }

def oneEntry : Harvest.Reply :=
  .answered ⟨200, "OK".text, Text.utf8
    ("\x7b\"time_entries\": [\x7b\"id\": 1, \"spent_date\": \"2025-01-15\", \"hours\": 1.5, ".text
      ++ "\"project\": \x7b\"id\": 1, \"name\": \"P\"\x7d, ".text
      ++ "\"task\": \x7b\"id\": 2, \"name\": \"T\"\x7d\x7d]\x7d".text)⟩

/-- The document frozen when there is an answer for the lower block only. -/
def twoBlocksRun : Run Desk Nat :=
  (freezeDocument "d.md".text someDay).run twoBlocksDesk [oneEntry]

theorem twoBlocksRun_frozenAtOnce : twoBlocksRun.outcome = .returned 1 ∧
    FrozenAtOnce "d.md".text twoBlocks twoBlocks someDay
      (attempts "d.md".text someDay (staticBlocks twoBlocks).reverse twoBlocksDesk [oneEntry])
      twoBlocksRun.state.vault 1 := by
  have ends : twoBlocksRun.value? = some 1 := by decide +kernel
  have returned := Run.value?_eq_some_iff.mp ends
  have holds : twoBlocksDesk.vault.Holds "d.md".text twoBlocks := by
    exact ⟨by decide +kernel, by decide +kernel, by decide +kernel, by decide +kernel⟩
  have uniform : Uniform twoBlocks := Or.inl (by decide +kernel)
  have whole : ¬ twoBlocksDesk.vault.StopsWriting := by
    rintro ⟨kept, reason, trouble⟩
    cases trouble
  have named : ∀ attempt ∈ attempts "d.md".text someDay (staticBlocks twoBlocks).reverse
      twoBlocksDesk [oneEntry], ∀ entries ∈ attempt.entries? someDay, ∀ entry ∈ entries,
        ReturnFree entry := by decide +kernel
  refine ⟨returned, ?_⟩
  unfold twoBlocksRun at returned ⊢
  exact (frozenAtOnce_of_freezeDocument holds uniform whole named returned).2

end Execution

end TimeReports
