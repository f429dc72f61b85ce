import TimeReports.Document.Lines
import TimeReports.Text.Digit
import TimeReports.Vault.Storage

set_option autoImplicit false

namespace TimeReports

namespace Vault

/-- Why a document is not read or not changed. -/
inductive DocumentFault where
  | outside (document : Text)
  | notFound (document : Text)
  | notText (document : Text)
  | unreadable (document reason : Text)
  | unwritable (document reason : Text)
  | outOfRange (document : Text) (first last : Int) (count : Nat)
  | unknownLocation
  deriving DecidableEq, Repr

/-- What is said when a document is not read or not changed. -/
def DocumentFault.message : DocumentFault → Text
  | .outside document => "Document '".text ++ document ++ "' is outside the vault.".text
  | .notFound document => "Document '".text ++ document ++ "' not found.".text
  | .notText document => "Document '".text ++ document ++ "' is not valid UTF-8.".text
  | .unreadable document reason =>
    "Could not read '".text ++ document ++ "': ".text ++ reason
  | .unwritable document reason =>
    "Could not write '".text ++ document ++ "': ".text ++ reason
  | .outOfRange document first last count =>
    "Lines ".text ++ Text.intDigits first ++ .char '-' :: Text.intDigits last
      ++ " are out of range for '".text ++ document ++ "' (".text ++ Text.natDigits count
      ++ " lines).".text
  | .unknownLocation => "The block's document location is unknown.".text

/-- Why an operation on the vault fails. -/
inductive Fault where
  | document (fault : DocumentFault)
  | storage (fault : StorageFault)
  deriving DecidableEq, Repr

/-- What keeps names from being followed one after another, if one of them can be no name. -/
def unnameable? (reached : Path) : List Text → Option StorageFault
  | [] => none
  | name :: rest =>
    let next := step reached name
    match Text.Unencodable.inPath? (rooted next) with
    | some found => some (.unencodable found)
    | none => if name.contains '\x00' then some .zeroInPath else unnameable? next rest

/-- The path of a document that is a file inside the vault. -/
def resolve (vault : Vault) (document : Text) : Except Fault Path :=
  match unnameable? (base vault.root document) (Text.pieces '/' document) with
  | some fault => .error (.storage fault)
  | none =>
    let path := follow vault.root document
    if !vault.root.isPrefixOf path then .error (.document (.outside document))
    else
      match vault.placeOf path with
      | .file => .ok path
      | .tooLong => .error (.storage (.nameTooLong (rooted path)))
      | _ => .error (.document (.notFound document))

def read (vault : Vault) (document : Text) : Except Fault Text := do
  let path ← vault.resolve document
  match vault.trouble with
  | .refusesReading reason => .error (.document (.unreadable document reason))
  | _ =>
    match (vault.bytesAt? path).bind Text.ofUtf8? with
    | some text => .ok text
    | none => .error (.document (.notText document))

def holding (vault : Vault) (path : Path) (bytes : Text.Bytes) : Vault :=
  { vault with files := replaceBytes path bytes vault.files }

/-- Writes a document anew. Once it is open its old text is gone, also when the new one cannot be
encoded. -/
def write (vault : Vault) (document : Text) (path : Path) (text : Text) :
    Vault × Except Fault Unit :=
  match vault.trouble, Text.Unencodable.inUtf8? text with
  | .refusesWriting reason, _ => (vault, .error (.document (.unwritable document reason)))
  | _, some found => (vault.holding path [], .error (.storage (.unencodable found)))
  | .stopsWriting kept reason, none =>
    (vault.holding path ((Text.utf8 text).take kept),
      .error (.document (.unwritable document reason)))
  | _, none => (vault.holding path (Text.utf8 text), .ok ())

def spliced (lines : Document.Lines) (first last : Nat) (replacement : Text) : Document.Lines :=
  { lines with
    items := lines.items.take first ++ Text.pieces '\n' replacement
      ++ lines.items.drop (last + 1) }

/-- Replaces the lines of a document from `first` to `last`, both included. -/
def replaceLines (vault : Vault) (document : Text) (first last : Int) (replacement : Text) :
    Vault × Except Fault Unit :=
  match vault.read document with
  | .error fault => (vault, .error fault)
  | .ok text =>
    let lines := Document.Lines.ofText text
    if first < 0 ∨ last < first ∨ (lines.items.length : Int) ≤ last then
      (vault, .error (.document (.outOfRange document first last lines.items.length)))
    else
      match vault.resolve document with
      | .error fault => (vault, .error fault)
      | .ok path =>
        vault.write document path (spliced lines first.toNat last.toNat replacement).toText

end Vault
end TimeReports
