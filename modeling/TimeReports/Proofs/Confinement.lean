import TimeReports.Proofs.Documents
import TimeReports.Proofs.Paths
import TimeReports.Proofs.Splitting

set_option autoImplicit false

namespace TimeReports.Vault

open Text.Unencodable (isLooseByte)

variable {vault after : Vault} {document text replacement : Text} {name : Text}
  {names : List Text} {path reached : Path} {bytes : Text.Bytes} {first last : Int}

/-- Whether a path can hold a text: its surrogates all stand for loose bytes. -/
def Spellable (text : Text) : Prop := ∀ c ∈ text, c.isSurrogate = true → isLooseByte c = true

instance (text : Text) : Decidable (Spellable text) :=
  inferInstanceAs (Decidable (∀ c ∈ text, c.isSurrogate = true → isLooseByte c = true))

/-- The root of a vault is the normal path of a directory. -/
structure Founded (vault : Vault) : Prop where
  normal : Normal vault.root
  spellable : ∀ name ∈ vault.root, Spellable name
  no_file : vault.bytesAt? vault.root = none

/-- Whether a path keeps to the limits of names and paths. -/
def WithinLimits (path : Path) : Prop :=
  (∀ name ∈ path, isLongName name = false) ∧ (Given.ofPath path).isLong = false

instance (path : Path) : Decidable (WithinLimits path) := inferInstanceAs (Decidable (_ ∧ _))

/-- A path is that of a file strictly below the root of the vault, with these bytes. -/
structure FileBelow (vault : Vault) (path : Path) (bytes : Text.Bytes) : Prop where
  inside : vault.root <+: path
  below : path ≠ vault.root
  file : vault.placeOf path = .file
  bytes : vault.bytesAt? path = some bytes

/-- Of a vault, at most the bytes at one path have changed, and they are those of a file strictly
below its root. No file has come or gone. -/
structure ChangesOnly (before after : Vault) (path : Path) : Prop where
  rest : after = { before with files := after.files }
  names : after.files.map (·.1) = before.files.map (·.1)
  others : ∀ other, other ≠ path → after.bytesAt? other = before.bytesAt? other
  below : after ≠ before → ∃ bytes, before.FileBelow path bytes

/-- Reading keeps to the bounds of the vault: it gives the text of one file strictly below the root,
or it is refused. -/
def ReadsWithin (vault : Vault) (document : Text) (path : Path) : Prop :=
  (∃ text, vault.read document = .ok text ∧ vault.FileBelow path (Text.utf8 text)) ∨
    ∃ fault, vault.read document = .error (.document fault)

/-- Replacing lines keeps to the bounds of the vault: it puts the new lines into one file strictly
below the root, or it is refused with everything as it was. -/
def ReplacesWithin (vault : Vault) (document : Text) (path : Path) (first last : Int)
    (replacement : Text) : Prop :=
  (∃ text, vault.FileBelow path (Text.utf8 text) ∧
    vault.replaceLines document first last replacement =
      (vault.holding path (Text.utf8 (splicedText text first last replacement)), .ok ())) ∨
    ∃ fault, vault.replaceLines document first last replacement =
      (vault, .error (.document fault))

def RefusesOutside (vault : Vault) (document : Text) (path : Path) (first last : Int)
    (replacement : Text) : Prop :=
  ¬ vault.root <+: path → vault.read document = .error (.document (.outside document)) ∧
    vault.replaceLines document first last replacement =
      (vault, .error (.document (.outside document)))

/-- Access to a document keeps to the bounds of the vault. -/
structure Confined (vault : Vault) (document : Text) (path : Path) (first last : Int)
    (replacement : Text) : Prop where
  reads : vault.ReadsWithin document path
  replaces : vault.ReplacesWithin document path first last replacement
  outside : vault.RefusesOutside document path first last replacement

/-- Lines of a document that storage opens are replaced, and the new text has characters that no
bytes stand for, or storage stops writing when not all of the old bytes are there again. -/
def BreaksOff (vault : Vault) (document : Text) (first last : Int) (replacement : Text) : Prop :=
  ∃ text, vault.Holds document text ∧ InRange text first last ∧ ¬ vault.RefusesReading ∧
    (¬ ∃ reason, vault.trouble = .refusesWriting reason) ∧
    ((∃ c ∈ splicedText text first last replacement, c.isSurrogate = true) ∨
      ∃ kept reason, vault.trouble = .stopsWriting kept reason ∧
        (Text.utf8 (splicedText text first last replacement)).take kept ≠ Text.utf8 text)

theorem forall_mem_joined (good : CodePoint → Prop) (slash : good '/') (names : List Text) :
    (∀ c ∈ joined names, good c) ↔ ∀ name ∈ names, ∀ c ∈ name, good c :=
  Text.forall_mem_join good (by simpa using slash) names

theorem spellable_rooted : Spellable (rooted path) ↔ ∀ name ∈ path, Spellable name := by
  have slash : (CodePoint.char '/').isSurrogate = true → isLooseByte '/' = true :=
    fun surrogate => Bool.noConfusion surrogate
  refine Iff.trans ?_ (forall_mem_joined _ slash path)
  rw [Spellable, rooted, List.forall_mem_cons]
  exact and_iff_right slash

theorem inPath?_eq_none_iff : Text.Unencodable.inPath? text = none ↔ Spellable text := by
  simp only [Text.Unencodable.inPath?, Text.Unencodable.find?, Option.map_eq_none_iff,
    List.head?_eq_none_iff, List.dropWhile_eq_nil_iff, Spellable, Bool.or_eq_true,
    Bool.not_eq_eq_eq_not, Bool.not_true, ← Bool.not_eq_true, imp_iff_not_or]

theorem spellable_step (reached_spellable : ∀ other ∈ reached, Spellable other) :
    (∀ other ∈ step reached name, Spellable other) ↔ Spellable name := by
  by_cases stays : StaysPut name
  · rw [step_of_staysPut reached stays]
    refine iff_of_true reached_spellable ?_
    rcases stays with rfl | rfl <;> decide
  · by_cases up : name = upwards
    · subst up
      rw [step_upwards]
      exact iff_of_true (fun other member => reached_spellable other
        (List.dropLast_subset reached member)) (by decide)
    · rw [step_of_leadsOn reached ⟨stays, up⟩]
      simp only [List.mem_append, List.mem_singleton, or_imp, forall_and, forall_eq,
        and_iff_right_iff_imp]
      exact fun _ => reached_spellable

/-- Names are followed to the end exactly if each can stand in a path. -/
theorem unnameable?_eq_none_iff (reached_spellable : ∀ other ∈ reached, Spellable other) :
    unnameable? reached names = none ↔
      ∀ name ∈ names, Spellable name ∧ CodePoint.char '\x00' ∉ name := by
  induction names generalizing reached with
  | nil => simp [unnameable?]
  | cons name rest ih =>
    have spelled : Text.Unencodable.inPath? (rooted (step reached name)) = none ↔
        Spellable name := by
      rw [inPath?_eq_none_iff, spellable_rooted, spellable_step reached_spellable]
    rw [List.forall_mem_cons, unnameable?]
    cases found : Text.Unencodable.inPath? (rooted (step reached name)) with
    | some unencodable =>
      have refused : ¬ Spellable name := fun h => by
        rw [spelled.mpr h] at found
        cases found
      simp [refused]
    | none =>
      have spellable := spelled.mp found
      have next := ih ((spellable_step reached_spellable).mpr spellable)
      by_cases zero : CodePoint.char '\x00' ∈ name
      · simp [zero]
      · simp [zero, spellable, next]

/-- The names of a document's path can be names exactly if a path can hold the document's name and
no character of it has code zero. -/
theorem nameable_iff (founded : vault.Founded) :
    vault.Nameable document ↔ Spellable document ∧ CodePoint.char '\x00' ∉ document := by
  have from_base : ∀ name ∈ base vault.root document, Spellable name := by
    unfold base
    split
    · exact fun _ member => absurd member List.not_mem_nil
    · exact founded.spellable
  rw [Nameable, unnameable?_eq_none_iff from_base]
  have whole : joined (Text.pieces '/' document) = document := Text.join_pieces '/' document
  have spelled := forall_mem_joined (fun c => c.isSurrogate = true → isLooseByte c = true)
    (fun surrogate => Bool.noConfusion surrogate) (Text.pieces '/' document)
  have zeros := forall_mem_joined (fun c => c ≠ CodePoint.char '\x00')
    (by decide) (Text.pieces '/' document)
  rw [whole] at spelled zeros
  have absent (text : Text) : CodePoint.char '\x00' ∉ text ↔ ∀ c ∈ text, c ≠ .char '\x00' :=
    ⟨fun out c member same => out (same ▸ member), fun all member => all _ member rfl⟩
  simp only [absent, Spellable, spelled, zeros, forall_and]

theorem walk_eq_file (normal : Normal names) (found : vault.walk reached names = .file) :
    (vault.bytesAt? (reached ++ names)).isSome := by
  induction names generalizing reached with
  | nil => cases found
  | cons name rest ih =>
    obtain ⟨leads, normal⟩ := List.forall_mem_cons.mp normal
    have ahead : name ≠ "..".text := leads.2
    simp only [walk, ahead, ↓reduceIte] at found
    split at found
    · cases found
    · split at found
      · next some_bytes =>
        split at found
        · next ended =>
          rw [List.isEmpty_iff.mp ended]
          exact some_bytes
        · cases found
      · split at found
        · have behind := ih normal found
          rwa [List.append_assoc, List.singleton_append] at behind
        · cases found

theorem walk_ne_tooLong (normal : Normal names) (short : ∀ name ∈ names, isLongName name = false) :
    vault.walk reached names ≠ .tooLong := by
  induction names generalizing reached with
  | nil => exact Place.noConfusion
  | cons name rest ih =>
    obtain ⟨leads, normal⟩ := List.forall_mem_cons.mp normal
    obtain ⟨fits, short⟩ := List.forall_mem_cons.mp short
    have ahead : name ≠ "..".text := leads.2
    simp only [walk, ahead, fits, Bool.false_eq_true, ↓reduceIte]
    split
    · split <;> exact Place.noConfusion
    · split
      · exact ih normal short
      · exact Place.noConfusion

theorem placeOf_eq_walk (short : (Given.ofPath path).isLong = false) :
    vault.placeOf path = vault.walk [] path := by
  rw [placeOf, placeFrom, if_neg (by simp [short])]
  simp [Given.ofPath, Given.base]

/-- A file inside the vault is strictly below its root. -/
theorem FileBelow.of_file (founded : vault.Founded) (normal : Normal path)
    (inside : vault.root <+: path) (file : vault.placeOf path = .file) :
    ∃ bytes, vault.FileBelow path bytes := by
  have short : (Given.ofPath path).isLong = false := by
    rw [placeOf, placeFrom] at file
    split at file
    · cases file
    · next short => exact Bool.eq_false_iff.mpr short
  rw [placeOf_eq_walk short] at file
  obtain ⟨bytes, found⟩ := Option.isSome_iff_exists.mp (walk_eq_file normal file)
  have below : path ≠ vault.root := by
    rintro rfl
    rw [List.nil_append, founded.no_file] at found
    cases found
  exact ⟨bytes, inside, below, (placeOf_eq_walk short).trans file, found⟩

theorem pathOf_eq (founded : vault.Founded)
    (normalizes : Normalizes (namesFrom vault.root document) path) :
    vault.pathOf document = path :=
  (normalizes_follow founded.normal document).unique normalizes

theorem Holds.fileBelow (holds : vault.Holds document text) (founded : vault.Founded)
    (normalizes : Normalizes (namesFrom vault.root document) path) :
    vault.FileBelow path (Text.utf8 text) := by
  have at_path := pathOf_eq founded normalizes
  obtain ⟨bytes, file⟩ := FileBelow.of_file founded normalizes.2 (at_path ▸ holds.inside)
    (at_path ▸ holds.file)
  have same : some bytes = some (Text.utf8 text) := file.bytes.symm.trans (at_path ▸ holds.bytes)
  rwa [Option.some.inj same] at file

/-- A document that is refused though its names can be names is refused as a document. -/
theorem resolve_refused {fault : Fault} (nameable : vault.Nameable document)
    (short : vault.placeOf (vault.pathOf document) ≠ .tooLong)
    (refused : vault.resolve document = .error fault) : ∃ reason, fault = .document reason := by
  unfold Nameable at nameable
  unfold resolve at refused
  rw [nameable] at refused
  dsimp only at refused
  split at refused
  · cases refused
    exact ⟨_, rfl⟩
  · unfold pathOf at short
    split at refused
    · cases refused
    · next long => exact absurd long short
    · cases refused
      exact ⟨_, rfl⟩

theorem read_refused {fault : Fault} (nameable : vault.Nameable document)
    (short : vault.placeOf (vault.pathOf document) ≠ .tooLong)
    (refused : vault.read document = .error fault) : ∃ reason, fault = .document reason := by
  cases resolved : vault.resolve document with
  | error other =>
    simp only [read, resolved, bind, Except.bind, Except.error.injEq] at refused
    exact refused ▸ resolve_refused nameable short resolved
  | ok found =>
    simp only [read, resolved, bind, Except.bind] at refused
    split at refused
    · cases refused
      exact ⟨_, rfl⟩
    · split at refused
      · cases refused
      · cases refused
        exact ⟨_, rfl⟩

theorem read_of_not_nameable (refused : ¬ vault.Nameable document) :
    ∃ fault, vault.read document = .error (.storage fault) := by
  obtain ⟨fault, named⟩ := Option.ne_none_iff_exists'.mp refused
  refine ⟨fault, ?_⟩
  simp only [read, resolve, named, bind, Except.bind]

theorem read_of_outside (nameable : vault.Nameable document)
    (outside : ¬ vault.root <+: vault.pathOf document) :
    vault.read document = .error (.document (.outside document)) := by
  unfold Nameable at nameable
  unfold pathOf at outside
  have passed : vault.root.isPrefixOf (follow vault.root document) = false :=
    Bool.eq_false_iff.mpr fun inside => outside (List.isPrefixOf_iff_prefix.mp inside)
  simp only [read, resolve, nameable, passed, Bool.not_false, ↓reduceIte, bind, Except.bind]

theorem write_of_surrogate (document : Text) (path : Path)
    (writable : ¬ ∃ reason, vault.trouble = .refusesWriting reason)
    (surrogate : ∃ c ∈ text, c.isSurrogate = true) :
    ∃ found, vault.write document path text =
      (vault.holding path [], .error (.storage (.unencodable found))) := by
  obtain ⟨c, member, loose⟩ := surrogate
  have refused : Text.Unencodable.inUtf8? text ≠ none := fun encodes => by
    rw [Text.inUtf8?_eq_none_iff.mp encodes c member] at loose
    cases loose
  obtain ⟨found, unencodable⟩ := Option.ne_none_iff_exists'.mp refused
  refine ⟨found, ?_⟩
  cases trouble : vault.trouble with
  | refusesWriting reason => exact absurd ⟨reason, trouble⟩ writable
  | _ => simp only [write, trouble, unencodable]

/-- A vault whose document is written with characters that all have bytes. -/
theorem write_of_characters (characters : ∀ c ∈ text, c.isSurrogate = false) :
    vault.write document path text =
      match vault.trouble with
      | .refusesWriting reason => (vault, .error (.document (.unwritable document reason)))
      | .stopsWriting kept reason =>
        (vault.holding path ((Text.utf8 text).take kept),
          .error (.document (.unwritable document reason)))
      | _ => (vault.holding path (Text.utf8 text), .ok ()) := by
  have encodes := Text.inUtf8?_eq_none_iff.mpr characters
  cases trouble : vault.trouble <;> simp only [write, trouble, encodes]

theorem write_changes (vault : Vault) (document : Text) (path : Path) (text : Text) :
    (vault.write document path text).1 = vault ∨
      ∃ bytes, (vault.write document path text).1 = vault.holding path bytes := by
  unfold write
  split
  · exact Or.inl rfl
  all_goals exact Or.inr ⟨_, rfl⟩

theorem replaceBytes_eq_self {files : List (Path × Text.Bytes)}
    (found : files.lookup path = some bytes) : replaceBytes path bytes files = files := by
  induction files with
  | nil => rfl
  | cons file rest ih =>
    obtain ⟨name, old⟩ := file
    by_cases same : name = path
    · subst same
      rw [List.lookup_cons_self] at found
      simp only [replaceBytes, ↓reduceIte, Option.some.inj found]
    · have different : (path == name) = false := beq_false_of_ne (Ne.symm same)
      rw [List.lookup_cons, different] at found
      simp only [replaceBytes, same, ↓reduceIte, ih found]

theorem holding_eq_self {old : Text.Bytes} (found : vault.bytesAt? path = some old) :
    vault.holding path bytes = vault ↔ bytes = old := by
  constructor
  · intro same
    have written : (vault.holding path bytes).bytesAt? path = some bytes :=
      bytesAt?_holding_same found
    rw [same, found] at written
    exact (Option.some.inj written).symm
  · rintro rfl
    simp only [holding, replaceBytes_eq_self found]

theorem ChangesOnly.refl (vault : Vault) (path : Path) : vault.ChangesOnly vault path where
  rest := rfl
  names := rfl
  others _ _ := rfl
  below changed := absurd rfl changed

theorem ChangesOnly.holding {old : Text.Bytes} (file : vault.FileBelow path old)
    (bytes : Text.Bytes) : vault.ChangesOnly (vault.holding path bytes) path where
  rest := rfl
  names := map_fst_replaceBytes path bytes vault.files
  others _ different := bytesAt?_holding_other different
  below _ := ⟨old, file⟩

/-- Replacing lines makes no file and changes none but the one strictly below the root that the
document's normal path leads to, whatever comes of it. -/
theorem changesOnly_of_replaceLines (founded : vault.Founded)
    (normalizes : Normalizes (namesFrom vault.root document) path) :
    vault.ChangesOnly (vault.replaceLines document first last replacement).1 path := by
  cases reads : vault.read document with
  | error fault =>
    rw [replaceLines_of_unread reads]
    exact .refl vault path
  | ok text =>
    by_cases inside : InRange text first last
    · have file := (read_eq_ok_iff.mp reads).2.2.fileBelow founded normalizes
      rw [replaceLines_of_read reads inside, pathOf_eq founded normalizes]
      rcases write_changes vault document path (splicedText text first last replacement) with
        same | ⟨bytes, written⟩
      · rw [same]
        exact .refl vault path
      · rw [written]
        exact .holding file bytes
    · rw [replaceLines_of_outside reads inside]
      exact .refl vault path

/-- Lines that are replaced without breaking off are replaced within the bounds of the vault. -/
theorem replacesWithin_of_read (founded : vault.Founded)
    (normalizes : Normalizes (namesFrom vault.root document) path)
    (reads : vault.read document = .ok text)
    (whole : ¬ vault.BreaksOff document first last replacement) :
    vault.ReplacesWithin document path first last replacement := by
  obtain ⟨-, opens, holds⟩ := read_eq_ok_iff.mp reads
  have file := holds.fileBelow founded normalizes
  by_cases inside : InRange text first last
  · by_cases writable : ∃ reason, vault.trouble = .refusesWriting reason
    · obtain ⟨reason, trouble⟩ := writable
      refine Or.inr ⟨.unwritable document reason, ?_⟩
      rw [replaceLines_of_read reads inside]
      simp only [write, trouble]
    · have characters : ∀ c ∈ splicedText text first last replacement, c.isSurrogate = false := by
        intro c member
        refine Bool.eq_false_iff.mpr fun surrogate => whole ?_
        exact ⟨text, holds, inside, opens, writable, Or.inl ⟨c, member, surrogate⟩⟩
      have written : vault.replaceLines document first last replacement = _ :=
        replaceLines_of_read reads inside
      rw [pathOf_eq founded normalizes, write_of_characters characters] at written
      cases trouble : vault.trouble with
      | none => exact Or.inl ⟨text, file, by simpa only [trouble] using written⟩
      | refusesReading reason => exact absurd ⟨reason, trouble⟩ opens
      | refusesWriting reason => exact absurd ⟨reason, trouble⟩ writable
      | stopsWriting kept reason =>
        have front : (Text.utf8 (splicedText text first last replacement)).take kept =
            Text.utf8 text := by
          by_contra different
          exact whole ⟨text, holds, inside, opens, writable,
            Or.inr ⟨kept, reason, trouble, different⟩⟩
        rw [trouble] at written
        dsimp only at written
        rw [(holding_eq_self file.bytes).mpr front] at written
        exact Or.inr ⟨_, written⟩
  · exact Or.inr ⟨_, replaceLines_of_outside reads inside⟩

/-- Lines whose replacement breaks off are not replaced within the bounds of the vault. -/
theorem not_replacesWithin_of_breaksOff (founded : vault.Founded)
    (normalizes : Normalizes (namesFrom vault.root document) path)
    (nameable : vault.Nameable document)
    (broken : vault.BreaksOff document first last replacement) :
    ¬ vault.ReplacesWithin document path first last replacement := by
  obtain ⟨text, holds, inside, opens, writable, broken⟩ := broken
  have written : vault.replaceLines document first last replacement = _ :=
    replaceLines_of_read (read_eq_ok_iff.mpr ⟨nameable, opens, holds⟩) inside
  rw [pathOf_eq founded normalizes] at written
  by_cases surrogate : ∃ c ∈ splicedText text first last replacement, c.isSurrogate = true
  · obtain ⟨found, stopped⟩ := write_of_surrogate document path writable surrogate
    rw [stopped] at written
    rintro (⟨_, -, replaced⟩ | ⟨_, replaced⟩) <;>
      cases congrArg Prod.snd (written.symm.trans replaced)
  · obtain ⟨kept, reason, trouble, different⟩ := broken.resolve_left surrogate
    have characters : ∀ c ∈ splicedText text first last replacement, c.isSurrogate = false :=
      fun c member => Bool.eq_false_iff.mpr fun loose => surrogate ⟨c, member, loose⟩
    rw [write_of_characters characters, trouble] at written
    rintro (⟨_, -, replaced⟩ | ⟨_, replaced⟩)
    · cases congrArg Prod.snd (written.symm.trans replaced)
    · rw [written, Prod.mk.injEq, holding_eq_self
        (holds.fileBelow founded normalizes).bytes] at replaced
      exact different replaced.1

/-- Access to a document changes at most the one file strictly below the vault's root that its
normal path leads to, and makes none. It keeps to the bounds of the vault exactly if a path can hold
the document's name and the writing does not break off. -/
theorem confined_iff (founded : vault.Founded) (no_zero : CodePoint.char '\x00' ∉ document)
    (normalizes : Normalizes (namesFrom vault.root document) path) (within : WithinLimits path) :
    vault.ChangesOnly (vault.replaceLines document first last replacement).1 path ∧
      (vault.Confined document path first last replacement ↔
        Spellable document ∧ ¬ vault.BreaksOff document first last replacement) := by
  refine ⟨changesOnly_of_replaceLines founded normalizes, ?_, ?_⟩
  · intro confined
    have nameable : vault.Nameable document := by
      by_contra refused
      obtain ⟨fault, unread⟩ := read_of_not_nameable refused
      rcases confined.reads with ⟨text, reads, -⟩ | ⟨reason, reads⟩ <;>
        rw [unread] at reads <;> cases reads
    exact ⟨((nameable_iff founded).mp nameable).1, fun broken =>
      not_replacesWithin_of_breaksOff founded normalizes nameable broken confined.replaces⟩
  · rintro ⟨spellable, whole⟩
    have nameable := (nameable_iff founded).mpr ⟨spellable, no_zero⟩
    have at_path := pathOf_eq founded normalizes
    have short : vault.placeOf (vault.pathOf document) ≠ .tooLong := by
      rw [at_path, placeOf_eq_walk within.2]
      exact walk_ne_tooLong normalizes.2 within.1
    have outside : vault.RefusesOutside document path first last replacement := by
      intro out
      have unread := read_of_outside nameable (at_path.symm ▸ out)
      exact ⟨unread, replaceLines_of_unread unread⟩
    cases reads : vault.read document with
    | ok text =>
      exact ⟨Or.inl ⟨text, reads, (read_eq_ok_iff.mp reads).2.2.fileBelow founded normalizes⟩,
        replacesWithin_of_read founded normalizes reads whole, outside⟩
    | error fault =>
      obtain ⟨reason, rfl⟩ := read_refused nameable short reads
      exact ⟨Or.inr ⟨reason, reads⟩, Or.inr ⟨reason, replaceLines_of_unread reads⟩, outside⟩

/-- A vault with one page, beside a directory whose name starts like its own. -/
def pageVault : Vault where
  root := ["vault".text]
  directories := []
  files := [(["vault".text, "d.md".text], Text.utf8 "a\nb".text),
    (["vaults".text, "d.md".text], Text.utf8 "c".text)]
  trouble := .none

def pagePath : Path := ["vault".text, "d.md".text]

theorem pageVault_founded : pageVault.Founded where
  normal name member := by
    rw [List.mem_singleton.mp member]
    exact ⟨by rintro (h | h) <;> exact absurd h (by decide), by decide⟩
  spellable := by decide
  no_file := by decide

/-- The page is changed within the bounds of the vault, though its name leads out of the vault first
and back into it then. -/
theorem pageVault_confined : pageVault.Founded ∧
    Normalizes (namesFrom pageVault.root "./x/../../vault//d.md".text) pagePath ∧
    WithinLimits pagePath ∧
    pageVault.Confined "./x/../../vault//d.md".text pagePath 0 0 "x".text := by
  have normalizes : Normalizes (namesFrom pageVault.root "./x/../../vault//d.md".text) pagePath :=
    normalizes_iff.mpr (by decide)
  have within : WithinLimits pagePath := by decide
  refine ⟨pageVault_founded, normalizes, within, ?_⟩
  refine (confined_iff pageVault_founded (by decide) normalizes within).2.mpr ⟨by decide, ?_⟩
  rintro ⟨text, holds, -, -, -, ⟨c, member, surrogate⟩ | ⟨kept, reason, trouble, -⟩⟩
  · have page : pageVault.Holds "./x/../../vault//d.md".text "a\nb".text :=
      (read_eq_ok_iff.mp (by decide)).2.2
    have characters : ∀ c ∈ splicedText "a\nb".text 0 0 "x".text, c.isSurrogate = false := by decide
    rw [holds.unique page] at member
    exact absurd surrogate (by simp [characters c member])
  · cases trouble

/-- The page is emptied when half of a pair of surrogates is put into it, and the name of a document
that holds one is not refused, though it leads out of the vault. -/
theorem pageVault_escapes :
    Normalizes (namesFrom pageVault.root "d.md".text) pagePath ∧ WithinLimits pagePath ∧
    pageVault.replaceLines "d.md".text 0 0 [.surrogate 61] = (pageVault.holding pagePath [],
      .error (.storage (.unencodable ⟨0, .surrogate 61, 1⟩))) ∧
    ¬ pageVault.Confined "d.md".text pagePath 0 0 [.surrogate 61] ∧
    Normalizes (namesFrom pageVault.root ("../".text ++ [.surrogate 0])) [[.surrogate 0]] ∧
    WithinLimits [[.surrogate 0]] ∧
    ¬ pageVault.Confined ("../".text ++ [.surrogate 0]) [[.surrogate 0]] 0 0 "x".text := by
  have emptied : pageVault.replaceLines "d.md".text 0 0 [.surrogate 61] =
      (pageVault.holding pagePath [], .error (.storage (.unencodable ⟨0, .surrogate 61, 1⟩))) := by
    decide
  refine ⟨normalizes_iff.mpr (by decide), by decide, emptied, fun confined => ?_,
    normalizes_iff.mpr (by decide), by decide, fun confined => ?_⟩
  · rcases confined.replaces with ⟨text, -, replaced⟩ | ⟨fault, replaced⟩ <;>
      cases congrArg Prod.snd (emptied.symm.trans replaced)
  · exact absurd (confined.outside (by decide)).1 (by decide)

end TimeReports.Vault
