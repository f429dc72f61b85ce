import Mathlib.Data.List.Forall2
import Mathlib.Data.List.TakeWhile
import TimeReports.Proofs.Entities
import TimeReports.Proofs.Lines
import TimeReports.Proofs.Scanning

set_option autoImplicit false

namespace TimeReports

namespace Text

variable {text first last : Text} {c : CodePoint}

theorem dropWhile_isBlank_append {blank : CodePoint} (isBlank : Text.isBlank blank = true)
    (text : Text) : (text ++ [blank]).dropWhile Text.isBlank =
      if text.dropWhile Text.isBlank = [] then [] else text.dropWhile Text.isBlank ++ [blank] := by
  induction text with
  | nil => simp [isBlank]
  | cons c text ih =>
    rw [List.cons_append, List.dropWhile_cons, List.dropWhile_cons]
    cases Text.isBlank c <;> simp [ih]

theorem trimRight_append {blank : CodePoint} (isBlank : Text.isBlank blank = true) (text : Text) :
    trimRight (text ++ [blank]) = trimRight text := by
  simp only [trimRight, trimRightBy, List.reverse_append, List.reverse_cons, List.reverse_nil,
    List.nil_append, List.cons_append, List.dropWhile_cons, isBlank, ↓reduceIte]

theorem trim_eq (text : Text) : trim text = trimRight (text.dropWhile isBlank) := rfl

theorem trim_append {blank : CodePoint} (isBlank : Text.isBlank blank = true) (text : Text) :
    trim (text ++ [blank]) = trim text := by
  rw [trim_eq, trim_eq, dropWhile_isBlank_append isBlank]
  split
  · next empty => rw [empty]
  · exact trimRight_append isBlank _

theorem exists_append_dropWhile (text : Text) : ∃ blanks, text = blanks ++ text.dropWhile isBlank ∧
    ∀ c ∈ blanks, isBlank c = true :=
  ⟨text.takeWhile isBlank, List.takeWhile_append_dropWhile.symm,
    fun _ member => List.mem_takeWhile_imp member⟩

theorem exists_trimRight_append (text : Text) : ∃ blanks, text = trimRight text ++ blanks ∧
    ∀ c ∈ blanks, isBlank c = true := by
  obtain ⟨blanks, split, isBlank⟩ := exists_append_dropWhile text.reverse
  refine ⟨blanks.reverse, ?_, fun c member => isBlank c (List.mem_reverse.mp member)⟩
  rw [trimRight, trimRightBy, ← List.reverse_append, ← split, List.reverse_reverse]

end Text

namespace Document

open Text

variable {language line fence : Text} {c : CodePoint} {lines below : List Text}

/-- The characters that fences are made of. -/
def IsMark (c : CodePoint) : Prop := c = .ofNat 96 ∨ c = .char '~'

/-- A fence: a run of one mark. -/
structure IsFence (fence : Text) : Prop where
  some_mark : fence ≠ []
  marks : ∃ mark, IsMark mark ∧ ∀ c ∈ fence, c = mark

theorem mark_not_blank (isMark : IsMark c) : isBlank c = false := by
  rcases isMark with rfl | rfl <;> decide

theorem IsFence.exists_cons (isFence : IsFence fence) :
    ∃ mark rest, fence = mark :: rest ∧ IsMark mark ∧ ∀ c ∈ fence, c = mark := by
  obtain ⟨some_mark, mark, isMark, marks⟩ := isFence
  obtain ⟨first, rest, rfl⟩ := List.exists_cons_of_ne_nil some_mark
  obtain rfl := marks first List.mem_cons_self
  exact ⟨first, rest, rfl, isMark, marks⟩

/-- A line that opens a block with a fence: a run of three or more of one mark and then the
language, with blanks around both. -/
structure IsOpening (language line fence : Text) : Prop where
  isFence : IsFence fence
  long : 3 ≤ fence.length
  parts : ∃ before between behind, line = before ++ (fence ++ (between ++ language ++ behind)) ∧
    ∀ c ∈ before ++ between ++ behind, isBlank c = true

theorem isTag_eq_true_iff {text : Text} : isTag language text = true ↔
    ∃ between behind, text = between ++ language ++ behind ∧
      ∀ c ∈ between ++ behind, isBlank c = true := by
  induction text with
  | nil =>
    rw [isTag, List.isEmpty_iff]
    constructor
    · rintro rfl
      exact ⟨[], [], rfl, nofun⟩
    · rintro ⟨between, behind, split, -⟩
      have none := (List.append_eq_nil_iff.mp split.symm).1
      exact (List.append_eq_nil_iff.mp none).2
  | cons first rest ih =>
    rw [isTag, Bool.or_eq_true, Bool.and_eq_true, Bool.and_eq_true, ih]
    constructor
    · rintro (⟨start, blanks⟩ | ⟨blank, between, behind, split, blanks⟩)
      · obtain ⟨behind, split⟩ := List.isPrefixOf_iff_prefix.mp start
        rw [← split, List.drop_left, List.all_eq_true] at blanks
        exact ⟨[], behind, split.symm, blanks⟩
      · refine ⟨first :: between, behind, by rw [split]; rfl, fun c member => ?_⟩
        rcases List.mem_cons.mp member with rfl | member
        · exact blank
        · exact blanks c member
    · rintro ⟨between, behind, split, blanks⟩
      cases between with
      | nil =>
        refine Or.inl ⟨List.isPrefixOf_iff_prefix.mpr ⟨behind, split.symm⟩, ?_⟩
        rw [split, List.nil_append, List.drop_left, List.all_eq_true]
        exact blanks
      | cons blank between =>
        obtain ⟨rfl, rfl⟩ := List.cons.inj split
        exact Or.inr ⟨blanks first List.mem_cons_self, between, behind, rfl,
          fun c member => blanks c (List.mem_cons_of_mem _ member)⟩

/-- A fence in front of a text is a part of its marks, and a tag stands behind it. -/
theorem fenceUpTo?_eq_some {text : Text} {length : Nat}
    (found : fenceUpTo? language text length = some fence) :
    ∃ count, 3 ≤ count ∧ count ≤ length ∧ fence = text.take count ∧
      isTag language (text.drop count) = true := by
  induction length with
  | zero => cases found
  | succ length ih =>
    unfold fenceUpTo? at found
    split at found
    · cases found
    · next long =>
      split at found
      · next tagged =>
        cases found
        exact ⟨length + 1, Nat.le_of_not_lt long, Nat.le_refl _, rfl, tagged⟩
      · obtain ⟨count, long, small, is, tagged⟩ := ih found
        exact ⟨count, long, Nat.le_succ_of_le small, is, tagged⟩

theorem isOpening_of_openingFence? (opens : openingFence? language line = some fence) :
    IsOpening language line fence := by
  unfold openingFence? at opens
  split at opens
  · cases opens
  · next mark rest visible =>
    split at opens
    · next isMark =>
      obtain ⟨count, long, small, is, tagged⟩ := fenceUpTo?_eq_some opens
      have fits := small.trans (List.takeWhile_sublist _).length_le
      have run : (mark :: rest).takeWhile (· = mark) ++ (mark :: rest).dropWhile (· = mark) =
          mark :: rest := List.takeWhile_append_dropWhile
      have marks : ∀ c ∈ fence, c = mark := by
        rw [is, ← run, List.take_append_of_le_length small]
        intro c member
        have inRun := List.mem_takeWhile_imp (List.take_subset _ _ member)
        exact of_decide_eq_true inRun
      have size : fence.length = count := by rw [is, List.length_take_of_le fits]
      obtain ⟨before, split, blankBefore⟩ := exists_append_dropWhile line
      obtain ⟨between, behind, tail, blanks⟩ := isTag_eq_true_iff.mp tagged
      refine ⟨⟨List.ne_nil_of_length_pos (by omega), mark, isMark, marks⟩, by omega,
        before, between, behind, ?_, fun c member => ?_⟩
      · rw [← tail, is, List.take_append_drop, ← visible]
        exact split
      · rw [List.append_assoc, List.mem_append] at member
        exact member.elim (blankBefore c) (blanks c)
    · cases opens

/-- A line that opens a block begins with its fence, blanks apart. -/
theorem IsOpening.visible (opening : IsOpening language line fence) : ∃ between behind,
    line.dropWhile isBlank = fence ++ (between ++ language ++ behind) ∧
      ∀ c ∈ between ++ behind, isBlank c = true := by
  obtain ⟨before, between, behind, split, blanks⟩ := opening.parts
  rw [List.append_assoc] at blanks
  have blankBefore := fun c member => blanks c (List.mem_append_left _ member)
  refine ⟨between, behind, ?_, fun c member => blanks c (List.mem_append_right _ member)⟩
  obtain ⟨mark, rest, rfl, isMark, -⟩ := opening.isFence.exists_cons
  rw [split, List.dropWhile_append_of_pos blankBefore, List.cons_append, List.dropWhile_cons,
    if_neg (by rw [mark_not_blank isMark]; exact Bool.false_ne_true)]

/-- Where the language does not begin with a mark, the fence of a line is the whole run of its
marks, so every line of this form opens a block and the fence is the only one. -/
theorem openingFence?_eq_some_iff (plain : ∀ mark, IsMark mark → language.head? ≠ some mark) :
    openingFence? language line = some fence ↔ IsOpening language line fence := by
  refine ⟨isOpening_of_openingFence?, fun opening => ?_⟩
  obtain ⟨between, behind, visible, blanks⟩ := opening.visible
  obtain ⟨mark, rest, rfl, isMark, marks⟩ := opening.isFence.exists_cons
  have long : ¬ rest.length + 1 < 3 := Nat.not_lt.mpr opening.long
  have other : (between ++ language ++ behind).takeWhile (· = mark) = [] := by
    have unmarked (c : CodePoint) (blank : isBlank c = true) : ¬ c = mark := by
      rintro rfl
      rw [mark_not_blank isMark] at blank
      cases blank
    cases between with
    | cons c between => simp [unmarked c (blanks c List.mem_cons_self)]
    | nil =>
      cases language with
      | cons c language =>
        have apart : ¬ c = mark := fun same => plain mark isMark (by rw [same, List.head?_cons])
        simp [apart]
      | nil =>
        cases behind with
        | nil => rfl
        | cons c behind => simp [unmarked c (blanks c List.mem_cons_self)]
  have run : (mark :: rest ++ (between ++ language ++ behind)).takeWhile (· = mark) =
      mark :: rest := by
    rw [List.takeWhile_append_of_pos fun c member => decide_eq_true (marks c member), other,
      List.append_nil]
  have tagged : isTag language (between ++ language ++ behind) = true :=
    isTag_eq_true_iff.mpr ⟨between, behind, rfl, blanks⟩
  have size : rest.length + 1 = (mark :: rest).length := rfl
  unfold openingFence?
  rw [visible]
  change (if _ then fenceUpTo? language (mark :: rest ++ _)
    ((mark :: rest ++ _).takeWhile (· = mark)).length else none) = _
  unfold IsMark at isMark
  rw [if_pos isMark, run, List.length_cons, fenceUpTo?, if_neg long, size, List.drop_left,
    if_pos tagged, List.take_left]

/-- A line that opens a block starts with a mark and holds nothing but marks, the language and
blanks. -/
theorem openingFence?_eq_some (opens : openingFence? language line = some fence) :
    ∃ mark rest, line.dropWhile isBlank = mark :: rest ∧ IsMark mark ∧
      ∀ c ∈ line, isBlank c = true ∨ c = mark ∨ c ∈ language := by
  have opening := isOpening_of_openingFence? opens
  obtain ⟨between, behind, visible, -⟩ := opening.visible
  obtain ⟨mark, rest, rfl, isMark, marks⟩ := opening.isFence.exists_cons
  refine ⟨mark, _, visible, isMark, fun c member => ?_⟩
  obtain ⟨before, between, behind, split, blanks⟩ := opening.parts
  simp only [List.mem_append] at blanks
  rw [split] at member
  simp only [List.mem_append] at member
  rcases member with member | member | (member | member) | member
  · exact Or.inl (blanks c (Or.inl (Or.inl member)))
  · exact Or.inr (Or.inl (marks c member))
  · exact Or.inl (blanks c (Or.inl (Or.inr member)))
  · exact Or.inr (Or.inr member)
  · exact Or.inl (blanks c (Or.inr member))

theorem isFence_of_openingFence? (opens : openingFence? language line = some fence) :
    IsFence fence :=
  (isOpening_of_openingFence? opens).isFence

/-- A line that closes a block starts with a mark and holds nothing but marks and blanks. -/
theorem closes_eq_true (isFence : IsFence fence) (closing : closes fence line = true) :
    ∃ mark rest, line.dropWhile isBlank = mark :: rest ∧ IsMark mark ∧
      ∀ c ∈ line, isBlank c = true ∨ c = mark := by
  obtain ⟨mark, rest, rfl, isMark, marks⟩ := isFence.exists_cons
  have is : trim line = mark :: rest := eq_of_beq closing
  rw [trim_eq] at is
  obtain ⟨after, split, allBlank⟩ := exists_trimRight_append (line.dropWhile isBlank)
  obtain ⟨before, split', allBlank'⟩ := exists_append_dropWhile line
  rw [is] at split
  refine ⟨mark, rest ++ after, split, isMark, fun c member => ?_⟩
  rw [split', split, List.mem_append, List.mem_append] at member
  rcases member with member | member | member
  · exact Or.inl (allBlank' c member)
  · exact Or.inr (marks c member)
  · exact Or.inl (allBlank c member)

/-- Whether a line neither opens nor closes a block. -/
structure Inert (language line : Text) : Prop where
  opens : openingFence? language line = none
  closes : ∀ fence, IsFence fence → Document.closes fence line = false

theorem inert_of_mem (member : c ∈ line) (visible : isBlank c = false) (other : ¬ IsMark c)
    (absent : c ∉ language) : Inert language line where
  opens := by
    cases opening : openingFence? language line with
    | none => rfl
    | some fence =>
      obtain ⟨mark, -, -, isMark, all⟩ := openingFence?_eq_some opening
      rcases all c member with blank | rfl | inside
      · rw [visible] at blank
        cases blank
      · exact absurd isMark other
      · exact absurd inside absent
  closes := fun fence isFence => by
    refine Bool.eq_false_iff.mpr fun closing => ?_
    obtain ⟨mark, -, -, isMark, all⟩ := closes_eq_true isFence closing
    rcases all c member with blank | rfl
    · rw [visible] at blank
      cases blank
    · exact other isMark

/-- A line whose first visible character is no mark is inert. -/
theorem inert_of_start (start : ∀ c rest, line.dropWhile isBlank = c :: rest → ¬ IsMark c) :
    Inert language line where
  opens := by
    cases opening : openingFence? language line with
    | none => rfl
    | some fence =>
      obtain ⟨mark, rest, visible, isMark, -⟩ := openingFence?_eq_some opening
      exact absurd isMark (start mark rest visible)
  closes := fun fence isFence => by
    refine Bool.eq_false_iff.mpr fun closing => ?_
    obtain ⟨mark, rest, visible, isMark, -⟩ := closes_eq_true isFence closing
    exact start mark rest visible isMark

/-- Whether two lines open and close the same blocks. -/
structure SameFences (language line other : Text) : Prop where
  opens : openingFence? language line = openingFence? language other
  closes : ∀ fence, IsFence fence → Document.closes fence line = Document.closes fence other

theorem SameFences.refl (language line : Text) : SameFences language line line :=
  ⟨rfl, fun _ _ => rfl⟩

theorem Inert.sameFences {other : Text} (inert : Inert language line)
    (inert' : Inert language other) : SameFences language line other where
  opens := inert.opens.trans inert'.opens.symm
  closes := fun fence isFence =>
    (inert.closes fence isFence).trans (inert'.closes fence isFence).symm

theorem isTag_append (isBlank : Text.isBlank c = true) (absent : c ∉ language) (text : Text) :
    isTag language (text ++ [c]) = isTag language text := by
  induction text with
  | nil =>
    cases language with
    | nil => simp [isTag, isBlank]
    | cons first language =>
      have apart : first ≠ c := fun same => absent (same ▸ List.mem_cons_self)
      simp [isTag, isBlank, apart, List.isPrefixOf]
  | cons first rest ih =>
    rw [List.cons_append, isTag, isTag, ih]
    congr 1
    rw [← List.cons_append]
    by_cases short : language.length ≤ (first :: rest).length
    · have same : language.isPrefixOf (first :: rest ++ [c]) =
          language.isPrefixOf (first :: rest) := by
        rw [Bool.eq_iff_iff, List.isPrefixOf_iff_prefix, List.isPrefixOf_iff_prefix]
        exact ⟨fun start => List.prefix_of_prefix_length_le start (List.prefix_append _ _) short,
          fun start => start.trans (List.prefix_append _ _)⟩
      rw [same, List.drop_append_of_le_length short, List.all_append]
      simp [isBlank]
    · have long : language.isPrefixOf (first :: rest) = false := by
        refine Bool.eq_false_iff.mpr fun start => short ?_
        exact (List.isPrefixOf_iff_prefix.mp start).length_le
      have long' : language.isPrefixOf (first :: rest ++ [c]) = false := by
        refine Bool.eq_false_iff.mpr fun start => absent ?_
        have whole := List.isPrefixOf_iff_prefix.mp start
        have same : language = first :: rest ++ [c] := by
          refine whole.eq_of_length_le ?_
          rw [List.length_append, List.length_singleton]
          omega
        rw [same]
        exact List.mem_append_right _ (List.mem_singleton_self c)
      rw [long, long', Bool.false_and, Bool.false_and]

theorem fenceUpTo?_append (isBlank : Text.isBlank c = true) (absent : c ∉ language) (text : Text)
    {length : Nat} (small : length ≤ text.length) :
    fenceUpTo? language (text ++ [c]) length = fenceUpTo? language text length := by
  induction length with
  | zero => rfl
  | succ length ih =>
    rw [fenceUpTo?, fenceUpTo?, List.drop_append_of_le_length small, isTag_append isBlank absent,
      List.take_append_of_le_length small, ih (Nat.le_of_succ_le small)]

/-- A blank at the end of a line changes nothing, if it is no part of the language. -/
theorem sameFences_append (isBlank : Text.isBlank c = true) (absent : c ∉ language) (line : Text) :
    SameFences language (line ++ [c]) line where
  opens := by
    unfold openingFence?
    rw [dropWhile_isBlank_append isBlank]
    cases visible : line.dropWhile Text.isBlank with
    | nil => rfl
    | cons mark rest =>
      rw [if_neg (List.cons_ne_nil mark rest)]
      simp only [List.cons_append]
      by_cases isMark : mark = .ofNat 96 ∨ mark = .char '~'
      · have apart : c ≠ mark := by
          rintro rfl
          rw [mark_not_blank isMark] at isBlank
          cases isBlank
        have run : ((mark :: (rest ++ [c])).takeWhile (· = mark)) =
            (mark :: rest).takeWhile (· = mark) := by
          rw [← List.cons_append, List.takeWhile_append]
          split
          · next full =>
            rw [(List.takeWhile_sublist _).eq_of_length full]
            simp [apart]
          · rfl
        rw [if_pos isMark, if_pos isMark, run, ← List.cons_append,
          fenceUpTo?_append isBlank absent _ (List.takeWhile_sublist _).length_le]
      · rw [if_neg isMark, if_neg isMark]
  closes := fun fence _ => by
    unfold Document.closes
    rw [trim_append isBlank]

theorem sameFences_withoutReturn (absent : back ∉ language) (line : Text) :
    SameFences language (withoutReturn line) line := by
  rw [withoutReturn_eq]
  split
  · next last =>
    obtain ⟨init, rfl⟩ := List.getLast?_eq_some_iff.mp last
    rw [List.dropLast_concat]
    have same := sameFences_append (show isBlank back = true by decide) absent init
    exact ⟨same.opens.symm, fun fence isFence => (same.closes fence isFence).symm⟩
  · exact SameFences.refl language line

/-- Lines of the query language that hold a character of markup are inert. -/
theorem inert_of_special (member : c ∈ line)
    (special : c ∈ ("&<>\"'".text : Text)) : Inert queryLanguage line := by
  have plain : ∀ c ∈ ("&<>\"'".text : Text),
      isBlank c = false ∧ ¬ (c = .ofNat 96 ∨ c = .char '~') ∧ c ∉ queryLanguage := by decide
  obtain ⟨visible, other, absent⟩ := plain c special
  exact inert_of_mem member visible other absent

theorem escapeChar_eq (c : CodePoint) : escapeChar c = [c] ∨
    c ∈ ("&<>\"'".text : Text) ∧ CodePoint.char '&' ∈ escapeChar c := by
  have special : ∀ entry ∈ entities,
      entry.2 ∈ ("&<>\"'".text : Text) ∧ CodePoint.char '&' ∈ entry.1 := by
    decide
  rcases escapeChar_cases c with coded | ⟨kept, -⟩
  · exact Or.inr (special _ coded)
  · exact Or.inl kept

/-- Escaping changes only lines that are inert, before and after. -/
theorem sameFences_escape (line : Text) : SameFences queryLanguage (escape line) line := by
  by_cases plain : ∀ c ∈ line, escapeChar c = [c]
  · have same : escape line = line := by
      unfold escape
      rw [List.flatMap_congr plain, List.flatMap_singleton']
    rw [same]
    exact SameFences.refl _ _
  · obtain ⟨c, member, changed⟩ : ∃ c ∈ line, escapeChar c ≠ [c] := by simpa using plain
    obtain ⟨special, ampersand⟩ := (escapeChar_eq c).resolve_left changed
    refine (inert_of_special ?_ (by decide : CodePoint.char '&' ∈ _)).sameFences
      (inert_of_special member special)
    exact List.mem_flatMap.mpr ⟨c, member, ampersand⟩

def Closable (fence : Text) (lines : List Text) : Prop := ∃ line ∈ lines, closes fence line = true

def CloseAlike (lines others : List Text) : Prop :=
  ∀ fence, IsFence fence → (Closable fence lines ↔ Closable fence others)

variable {other : Text} {rest rest' others below' above : List Text} {number inside : Nat}
  {found : List Block}

theorem closable_append {fence : Text} :
    Closable fence (lines ++ others) ↔ Closable fence lines ∨ Closable fence others := by
  simp only [Closable, List.mem_append, or_and_right, exists_or]

theorem CloseAlike.refl (lines : List Text) : CloseAlike lines lines := fun _ _ => Iff.rfl

theorem CloseAlike.append (front : CloseAlike lines others) (behind : CloseAlike below below') :
    CloseAlike (lines ++ below) (others ++ below') := by
  intro fence isFence
  rw [closable_append, closable_append, front fence isFence, behind fence isFence]

theorem closeAlike_of_forall₂ (same : List.Forall₂ (SameFences language) lines others) :
    CloseAlike lines others := by
  induction same with
  | nil => exact CloseAlike.refl []
  | cons head _ ih =>
    intro fence isFence
    have := ih fence isFence
    simp only [Closable, List.exists_mem_cons_iff] at this ⊢
    rw [this, head.closes fence isFence]

theorem closeAlike_filter {kept : Text → Bool}
    (inert : ∀ line ∈ lines, kept line = false → Inert language line) :
    CloseAlike lines (lines.filter kept) := by
  intro fence isFence
  constructor
  · rintro ⟨line, member, closing⟩
    cases keeps : kept line with
    | true => exact ⟨line, List.mem_filter.mpr ⟨member, keeps⟩, closing⟩
    | false =>
      rw [(inert line member keeps).closes fence isFence] at closing
      cases closing
  · rintro ⟨line, member, closing⟩
    exact ⟨line, (List.mem_filter.mp member).1, closing⟩

theorem closing?_congr (same : SameFences language line other) (alike : CloseAlike rest rest') :
    closing? language line rest = none ↔ closing? language other rest' = none := by
  have unclosable (lines : List Text) (line : Text) : closing? language line lines = none ↔
      ∀ fence, openingFence? language line = some fence → ¬ Closable fence lines := by
    simp only [closing?_eq_none_iff, Closable, not_exists, not_and, Bool.not_eq_true]
  rw [unclosable, unclosable, same.opens]
  refine forall_congr' fun fence => imp_congr_right fun opens => not_congr ?_
  exact alike fence (isFence_of_openingFence? opens)

theorem Inert.closing? (inert : Inert language line) (rest : List Text) :
    closing? language line rest = none := by
  rw [Document.closing?, inert.opens, Option.bind_none]

theorem leavesOpen_congr (alike : CloseAlike rest rest') :
    LeavesOpen language number inside above found rest ↔
      LeavesOpen language number inside above found rest' := by
  unfold LeavesOpen
  simp only [closing?_congr (SameFences.refl language _) alike]

theorem leavesOpen_append : LeavesOpen language number inside above found (rest ++ rest') ↔
    LeavesOpen language number inside above found rest ∧
      LeavesOpen language number inside above found rest' := by
  unfold LeavesOpen
  simp only [closing?_append_eq_none_iff, imp_and, forall_and]

theorem quiet_congr (same : List.Forall₂ (SameFences language) lines others)
    (alike : CloseAlike below below') :
    Quiet language lines below ↔ Quiet language others below' := by
  induction same with
  | nil => simp only [quiet_nil]
  | cons head tail ih =>
    rw [quiet_cons, quiet_cons, ih,
      closing?_congr head ((closeAlike_of_forall₂ tail).append alike)]

theorem quiet_filter {kept : Text → Bool}
    (inert : ∀ line ∈ lines, kept line = false → Inert language line) :
    Quiet language lines below ↔ Quiet language (lines.filter kept) below := by
  induction lines with
  | nil => rfl
  | cons line lines ih =>
    have later := fun other member => inert other (List.mem_cons_of_mem _ member)
    have alike := (closeAlike_filter later).append (CloseAlike.refl below)
    rw [quiet_cons, ih later, List.filter_cons]
    cases keeps : kept line with
    | true =>
      rw [if_pos rfl, quiet_cons, closing?_congr (SameFences.refl language line) alike]
    | false =>
      rw [if_neg Bool.false_ne_true]
      simp only [(inert line List.mem_cons_self keeps).closing?, true_and]

theorem quiet_of_inert (inert : ∀ line ∈ others, Inert language line) :
    Quiet language (others ++ lines) below ↔ Quiet language lines below := by
  induction others with
  | nil => rfl
  | cons line others ih =>
    rw [List.cons_append, quiet_cons,
      ih fun other member => inert other (List.mem_cons_of_mem _ member)]
    simp only [(inert line List.mem_cons_self).closing?, true_and]

theorem closeAlike_of_inert (inert : ∀ line ∈ others, Inert language line) :
    CloseAlike (others ++ lines) lines := by
  intro fence isFence
  rw [closable_append, or_iff_right]
  rintro ⟨line, member, closing⟩
  rw [(inert line member).closes fence isFence] at closing
  cases closing

end Document

end TimeReports
