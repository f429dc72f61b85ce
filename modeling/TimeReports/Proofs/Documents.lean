import TimeReports.Proofs.Utf8
import TimeReports.Vault.Basic

set_option autoImplicit false

namespace TimeReports.Vault

variable {vault after : Vault} {document text replacement : Text} {path other : Path}
  {bytes left : Text.Bytes} {first last : Int} {fault : Fault}

theorem lookup_replaceBytes_same (bytes : Text.Bytes) {files : List (Path × Text.Bytes)}
    {old : Text.Bytes} (found : files.lookup path = some old) :
    (replaceBytes path bytes files).lookup path = some bytes := by
  induction files with
  | nil => cases found
  | cons file rest ih =>
    obtain ⟨name, old⟩ := file
    by_cases same : name = path
    · simp only [replaceBytes, same, ↓reduceIte, List.lookup_cons_self]
    · have different : (path == name) = false := beq_false_of_ne (Ne.symm same)
      rw [List.lookup_cons, different] at found
      simp only [replaceBytes, same, ↓reduceIte, List.lookup_cons, different]
      exact ih found

theorem lookup_replaceBytes_other (bytes : Text.Bytes) (files : List (Path × Text.Bytes))
    (different : other ≠ path) :
    (replaceBytes path bytes files).lookup other = files.lookup other := by
  induction files with
  | nil => rfl
  | cons file rest ih =>
    obtain ⟨name, old⟩ := file
    by_cases same : name = path
    · have passed : (other == name) = false := beq_false_of_ne (same ▸ different)
      simp only [replaceBytes, same, ↓reduceIte, List.lookup_cons]
      rw [same] at passed
      simp only [passed]
    · simp only [replaceBytes, same, ↓reduceIte, List.lookup_cons, ih]

theorem map_fst_replaceBytes (path : Path) (bytes : Text.Bytes)
    (files : List (Path × Text.Bytes)) :
    (replaceBytes path bytes files).map (·.1) = files.map (·.1) := by
  induction files with
  | nil => rfl
  | cons file rest ih =>
    obtain ⟨name, old⟩ := file
    by_cases same : name = path
    · simp only [replaceBytes, same, ↓reduceIte, List.map_cons]
    · simp only [replaceBytes, same, ↓reduceIte, List.map_cons, ih]

theorem bytesAt?_holding_same {old : Text.Bytes} (found : vault.bytesAt? path = some old) :
    (vault.holding path bytes).bytesAt? path = some bytes :=
  lookup_replaceBytes_same bytes found

theorem bytesAt?_holding_other (different : other ≠ path) :
    (vault.holding path bytes).bytesAt? other = vault.bytesAt? other :=
  lookup_replaceBytes_other bytes vault.files different

theorem isSome_bytesAt?_holding (vault : Vault) (path other : Path) (bytes : Text.Bytes) :
    ((vault.holding path bytes).bytesAt? other).isSome = (vault.bytesAt? other).isSome := by
  by_cases same : other = path
  · subst same
    cases found : vault.bytesAt? other with
    | some old => rw [bytesAt?_holding_same found]; rfl
    | none =>
      have absent := List.lookup_eq_none_iff.mp found
      have still : (vault.holding other bytes).bytesAt? other = none := by
        refine List.lookup_eq_none_iff.mpr fun file member => ?_
        have kept : file.1 ∈ vault.files.map (·.1) := by
          rw [← map_fst_replaceBytes other bytes]
          exact List.mem_map_of_mem member
        obtain ⟨old, inside, same⟩ := List.mem_map.mp kept
        rw [← same]
        exact absent old inside
      rw [still]
  · rw [bytesAt?_holding_other same]

theorem isDirectory_holding (vault : Vault) (path other : Path) (bytes : Text.Bytes) :
    (vault.holding path bytes).isDirectory other = vault.isDirectory other := by
  have byNames (vault : Vault) : vault.isDirectory other =
      (other.isEmpty || vault.directories.any other.isPrefixOf ||
        (vault.files.map (·.1)).any fun file => other.isPrefixOf file && other != file) := by
    rw [isDirectory, List.any_map]
    rfl
  rw [byNames, byNames]
  congr 2
  exact map_fst_replaceBytes path bytes vault.files

theorem walk_holding (vault : Vault) (path reached : Path) (bytes : Text.Bytes)
    (names : List Text) :
    (vault.holding path bytes).walk reached names = vault.walk reached names := by
  induction names generalizing reached with
  | nil => rfl
  | cons name rest ih =>
    simp only [walk, ih, isSome_bytesAt?_holding, isDirectory_holding]

theorem placeOf_holding (vault : Vault) (path other : Path) (bytes : Text.Bytes) :
    (vault.holding path bytes).placeOf other = vault.placeOf other := by
  simp only [placeOf, placeFrom, walk_holding]

def pathOf (vault : Vault) (document : Text) : Path := follow vault.root document

/-- A document is a file inside the vault and holds a text. -/
structure Holds (vault : Vault) (document text : Text) : Prop where
  inside : vault.root <+: vault.pathOf document
  file : vault.placeOf (vault.pathOf document) = .file
  bytes : vault.bytesAt? (vault.pathOf document) = some (Text.utf8 text)
  characters : ∀ c ∈ text, c.isSurrogate = false

theorem Holds.unique {other : Text} (holds : vault.Holds document text)
    (holds' : vault.Holds document other) : text = other := by
  have same : Text.utf8 text = Text.utf8 other :=
    Option.some.inj (holds.bytes.symm.trans holds'.bytes)
  have read := Text.ofUtf8?_eq_some_iff.mpr ⟨rfl, holds.characters⟩
  rw [same, Text.ofUtf8?_eq_some_iff.mpr ⟨rfl, holds'.characters⟩] at read
  exact (Option.some.inj read).symm

/-- A document that is written anew holds what was written. -/
theorem Holds.holding (holds : vault.Holds document text)
    (characters : ∀ c ∈ replacement, c.isSurrogate = false) :
    (vault.holding (vault.pathOf document) (Text.utf8 replacement)).Holds document replacement where
  inside := holds.inside
  file := (placeOf_holding vault _ _ _).trans holds.file
  bytes := bytesAt?_holding_same holds.bytes
  characters := characters

def Nameable (vault : Vault) (document : Text) : Prop :=
  unnameable? (base vault.root document) (Text.pieces '/' document) = none

theorem resolve_eq_ok_iff : vault.resolve document = .ok path ↔
    vault.Nameable document ∧ vault.root <+: vault.pathOf document ∧
      vault.placeOf (vault.pathOf document) = .file ∧ vault.pathOf document = path := by
  unfold resolve Nameable pathOf
  split
  · next fault refused => simp [refused]
  · next nameable =>
    simp only [nameable, true_and]
    by_cases inside : vault.root <+: follow vault.root document
    · have inside' := List.isPrefixOf_iff_prefix.mpr inside
      simp only [inside', Bool.not_true, Bool.false_eq_true, ↓reduceIte, inside, true_and]
      cases vault.placeOf (follow vault.root document) <;> simp
    · have outside : vault.root.isPrefixOf (follow vault.root document) = false :=
        Bool.eq_false_iff.mpr fun h => inside (List.isPrefixOf_iff_prefix.mp h)
      simp only [outside, Bool.not_false, ↓reduceIte, inside, false_and, reduceCtorEq]

/-- Whether storage refuses to open documents for reading. -/
def RefusesReading (vault : Vault) : Prop := ∃ reason, vault.trouble = .refusesReading reason

theorem read_eq_ok_iff : vault.read document = .ok text ↔
    vault.Nameable document ∧ ¬ vault.RefusesReading ∧ vault.Holds document text := by
  have decoded : vault.Holds document text ↔ vault.root <+: vault.pathOf document ∧
      vault.placeOf (vault.pathOf document) = .file ∧
      (vault.bytesAt? (vault.pathOf document)).bind Text.ofUtf8? = some text := by
    rw [Option.bind_eq_some_iff]
    constructor
    · intro holds
      exact ⟨holds.inside, holds.file, _, holds.bytes,
        Text.ofUtf8?_eq_some_iff.mpr ⟨rfl, holds.characters⟩⟩
    · rintro ⟨inside, file, bytes, found, read⟩
      obtain ⟨rfl, characters⟩ := Text.ofUtf8?_eq_some_iff.mp read
      exact ⟨inside, file, found, characters⟩
  rw [decoded]
  unfold read
  cases resolved : vault.resolve document with
  | error fault =>
    constructor
    · intro impossible
      cases impossible
    · rintro ⟨nameable, -, inside, file, -⟩
      rw [resolve_eq_ok_iff.mpr ⟨nameable, inside, file, rfl⟩] at resolved
      cases resolved
  | ok path =>
    obtain ⟨nameable, inside, file, rfl⟩ := resolve_eq_ok_iff.mp resolved
    simp only [nameable, inside, file, true_and, RefusesReading, bind,
      Except.bind]
    cases vault.trouble with
    | refusesReading reason => simp
    | _ =>
      cases (vault.bytesAt? (vault.pathOf document)).bind Text.ofUtf8? <;> simp

inductive Unread (vault : Vault) (document : Text) : Fault → Prop
  | resolving {fault : Fault} (refused : vault.resolve document = .error fault) :
    Unread vault document fault
  | opening {path : Path} {reason : Text} (resolved : vault.resolve document = .ok path)
    (trouble : vault.trouble = .refusesReading reason) :
    Unread vault document (.document (.unreadable document reason))
  | decoding {path : Path} (resolved : vault.resolve document = .ok path)
    (opens : ¬ vault.RefusesReading) (undecoded : (vault.bytesAt? path).bind Text.ofUtf8? = none) :
    Unread vault document (.document (.notText document))

theorem read_eq_error_iff : vault.read document = .error fault ↔ vault.Unread document fault := by
  constructor
  · intro unread
    unfold read at unread
    cases resolved : vault.resolve document with
    | error refused =>
      rw [resolved] at unread
      cases unread
      exact .resolving resolved
    | ok path =>
      simp only [resolved, bind, Except.bind] at unread
      split at unread
      · next trouble =>
        cases unread
        exact .opening resolved trouble
      · next calm =>
        split at unread
        · cases unread
        · next undecoded =>
          cases unread
          exact .decoding resolved (fun ⟨reason, trouble⟩ => calm reason trouble) undecoded
  · intro unread
    cases unread with
    | resolving refused => simp only [read, refused, bind, Except.bind]
    | opening resolved trouble => simp only [read, resolved, trouble, bind, Except.bind]
    | decoding resolved opens undecoded =>
      simp only [read, resolved, undecoded, bind, Except.bind]
      split
      · next reason trouble => exact absurd ⟨reason, trouble⟩ opens
      · rfl

/-- Whether lines from one to another, both included, are lines of a text. -/
def InRange (text : Text) (first last : Int) : Prop :=
  0 ≤ first ∧ first ≤ last ∧ last < ((Document.Lines.ofText text).items.length : Int)

def splicedText (text : Text) (first last : Int) (replacement : Text) : Text :=
  (spliced (Document.Lines.ofText text) first.toNat last.toNat replacement).toText

/-- Whether a document is a file of the vault that holds a text with such lines. -/
def Replaceable (vault : Vault) (document : Text) (first last : Int) : Prop :=
  ∃ text, vault.Holds document text ∧ InRange text first last

theorem replaceLines_of_read (reads : vault.read document = .ok text)
    (inside : InRange text first last) : vault.replaceLines document first last replacement =
      vault.write document (vault.pathOf document) (splicedText text first last replacement) := by
  obtain ⟨nameable, -, holds⟩ := read_eq_ok_iff.mp reads
  have found := resolve_eq_ok_iff.mpr ⟨nameable, holds.inside, holds.file, rfl⟩
  have kept : ¬ (first < 0 ∨ last < first ∨
      ((Document.Lines.ofText text).items.length : Int) ≤ last) := by
    unfold InRange at inside
    omega
  simp only [replaceLines, reads, kept, ↓reduceIte, found, splicedText]

theorem replaceLines_of_outside (reads : vault.read document = .ok text)
    (outside : ¬ InRange text first last) : vault.replaceLines document first last replacement =
      (vault, .error (.document (.outOfRange document first last
        (Document.Lines.ofText text).items.length))) := by
  have refused : first < 0 ∨ last < first ∨
      ((Document.Lines.ofText text).items.length : Int) ≤ last := by
    unfold InRange at outside
    omega
  simp only [replaceLines, reads, refused, ↓reduceIte]

theorem replaceLines_of_unread (unread : vault.read document = .error fault) :
    vault.replaceLines document first last replacement = (vault, .error fault) := by
  simp only [replaceLines, unread]

/-- What a document that is open for writing holds when the writing of a text fails, and the fault:
nothing if the text cannot be encoded, and the front of it if storage stops in the middle. -/
inductive Leaves (vault : Vault) (document text : Text) : Text.Bytes → Fault → Prop
  | encoding {found : Text.Unencodable} (opens : ∀ reason, vault.trouble ≠ .refusesWriting reason)
    (refused : Text.Unencodable.inUtf8? text = some found) :
    Leaves vault document text [] (.storage (.unencodable found))
  | stopping {kept : Nat} {reason : Text} (trouble : vault.trouble = .stopsWriting kept reason)
    (encodes : Text.Unencodable.inUtf8? text = none) :
    Leaves vault document text ((Text.utf8 text).take kept)
      (.document (.unwritable document reason))

theorem Leaves.write_eq (leaves : vault.Leaves document text left fault) :
    vault.write document path text = (vault.holding path left, .error fault) := by
  cases leaves with
  | encoding opens refused =>
    cases trouble : vault.trouble with
    | refusesWriting reason => exact absurd trouble (opens reason)
    | _ => simp only [write, trouble, refused]
  | stopping trouble encodes => simp only [write, trouble, encodes]

/-- The points at which replacing lines fails, with the vault that is left and the fault. -/
inductive FailsAt (vault : Vault) (document : Text) (first last : Int) (replacement : Text) :
    Vault → Fault → Prop
  | reading {fault : Fault} (unread : vault.Unread document fault) :
    FailsAt vault document first last replacement vault fault
  | choosing {text : Text} (reads : vault.read document = .ok text)
    (outside : ¬ InRange text first last) :
    FailsAt vault document first last replacement vault
      (.document (.outOfRange document first last (Document.Lines.ofText text).items.length))
  | reopening {text reason : Text} (reads : vault.read document = .ok text)
    (inside : InRange text first last) (trouble : vault.trouble = .refusesWriting reason) :
    FailsAt vault document first last replacement vault (.document (.unwritable document reason))
  | writing {text : Text} {left : Text.Bytes} {fault : Fault}
    (reads : vault.read document = .ok text) (inside : InRange text first last)
    (leaves : vault.Leaves document (splicedText text first last replacement) left fault) :
    FailsAt vault document first last replacement
      (vault.holding (vault.pathOf document) left) fault

theorem replaceLines_eq_error_iff :
    vault.replaceLines document first last replacement = (after, .error fault) ↔
      vault.FailsAt document first last replacement after fault := by
  constructor
  · intro failed
    cases reads : vault.read document with
    | error unread =>
      rw [replaceLines_of_unread reads] at failed
      cases failed
      exact .reading (read_eq_error_iff.mp reads)
    | ok text =>
      by_cases inside : InRange text first last
      · rw [replaceLines_of_read reads inside] at failed
        unfold write at failed
        split at failed
        · next reason trouble =>
          cases failed
          exact .reopening reads inside trouble
        · next refused opens =>
          cases failed
          exact .writing reads inside (.encoding opens refused)
        · next trouble encodes =>
          cases failed
          exact .writing reads inside (.stopping trouble encodes)
        · cases failed
      · rw [replaceLines_of_outside reads inside] at failed
        cases failed
        exact .choosing reads inside
  · intro fails
    cases fails with
    | reading unread => exact replaceLines_of_unread (read_eq_error_iff.mpr unread)
    | choosing reads outside => exact replaceLines_of_outside reads outside
    | reopening reads inside trouble =>
      rw [replaceLines_of_read reads inside]
      simp only [write, trouble]
    | writing reads inside leaves => rw [replaceLines_of_read reads inside, leaves.write_eq]

/-- Lines are replaced exactly in a document of the vault that has them, when storage opens it and
the new text can be encoded. -/
theorem replaceLines_eq_ok_iff :
    vault.replaceLines document first last replacement = (after, .ok ()) ↔
      vault.Nameable document ∧ vault.trouble = .none ∧ ∃ text, vault.Holds document text ∧
        InRange text first last ∧
        (∀ c ∈ splicedText text first last replacement, c.isSurrogate = false) ∧
        after = vault.holding (vault.pathOf document)
          (Text.utf8 (splicedText text first last replacement)) := by
  constructor
  · intro replaced
    cases reads : vault.read document with
    | error fault =>
      rw [replaceLines_of_unread reads] at replaced
      cases replaced
    | ok text =>
      obtain ⟨nameable, -, holds⟩ := read_eq_ok_iff.mp reads
      by_cases inside : InRange text first last
      · rw [replaceLines_of_read reads inside] at replaced
        unfold write at replaced
        split at replaced
        · cases replaced
        · cases replaced
        · cases replaced
        · next encodes _ _ =>
          cases replaced
          refine ⟨nameable, ?_, text, holds, inside, Text.inUtf8?_eq_none_iff.mp encodes, rfl⟩
          cases trouble : vault.trouble with
          | none => rfl
          | refusesReading reason =>
            exact absurd ⟨reason, trouble⟩ (read_eq_ok_iff.mp reads).2.1
          | refusesWriting reason => simp_all
          | stopsWriting kept reason => simp_all
      · rw [replaceLines_of_outside reads inside] at replaced
        cases replaced
  · rintro ⟨nameable, calm, text, holds, inside, characters, rfl⟩
    have opens : ¬ vault.RefusesReading := by
      rintro ⟨reason, trouble⟩
      rw [calm] at trouble
      cases trouble
    rw [replaceLines_of_read (read_eq_ok_iff.mpr ⟨nameable, opens, holds⟩) inside]
    simp only [write, calm, Text.inUtf8?_eq_none_iff.mpr characters]

/-- Whether storage stops in the middle of writing a document. -/
def StopsWriting (vault : Vault) : Prop := ∃ kept reason, vault.trouble = .stopsWriting kept reason

/-- Lines are not replaced only where there are none to replace or storage makes trouble. The vault
is then as it was, unless storage stops in the middle of the document. -/
theorem replaceLines_eq_error {fault : DocumentFault}
    (failed : vault.replaceLines document first last replacement =
      (after, .error (.document fault))) :
    ¬ (vault.Replaceable document first last ∧ vault.trouble = .none) ∧
      (after = vault ∨ vault.StopsWriting ∧ vault.Replaceable document first last ∧
        ∀ path, path ≠ vault.pathOf document → after.bytesAt? path = vault.bytesAt? path) := by
  cases replaceLines_eq_error_iff.mp failed with
  | reading unread =>
    refine ⟨?_, Or.inl rfl⟩
    rintro ⟨⟨text, holds, -⟩, calm⟩
    have reads := read_eq_error_iff.mpr unread
    have refused : ¬ vault.Nameable document := by
      intro nameable
      rw [read_eq_ok_iff.mpr ⟨nameable, by simp [RefusesReading, calm], holds⟩] at reads
      cases reads
    unfold Nameable at refused
    obtain ⟨storage, named⟩ := Option.ne_none_iff_exists'.mp refused
    simp [read, resolve, named, bind, Except.bind] at reads
  | choosing reads outside =>
    refine ⟨?_, Or.inl rfl⟩
    rintro ⟨⟨other, holds, inside⟩, -⟩
    exact outside ((read_eq_ok_iff.mp reads).2.2.unique holds ▸ inside)
  | reopening reads inside trouble => exact ⟨by simp [trouble], Or.inl rfl⟩
  | writing reads inside leaves =>
    cases leaves with
    | stopping trouble encodes =>
      exact ⟨by simp [trouble], Or.inr ⟨⟨_, _, trouble⟩,
        ⟨_, (read_eq_ok_iff.mp reads).2.2, inside⟩,
        fun path different => bytesAt?_holding_other different⟩⟩

end TimeReports.Vault
