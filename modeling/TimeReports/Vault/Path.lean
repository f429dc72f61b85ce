import TimeReports.Text.Encoding

set_option autoImplicit false

namespace TimeReports.Vault

/-- The names that lead to a file or directory. -/
abbrev Path := List Text

/-- The path one step further: upwards for two dots, nowhere for one or for nothing. -/
def step (path : Path) (name : Text) : Path :=
  if name = [] ∨ name = [.char '.'] then path
  else if name = [.char '.', .char '.'] then path.dropLast
  else path ++ [name]

/-- The directory that a text starts at, seen from a directory. -/
def base (directory : Path) (text : Text) : Path :=
  if text.head? = some '/' then [] else directory

def follow (directory : Path) (text : Text) : Path :=
  (Text.pieces '/' text).foldl step (base directory text)

/-- The names with slashes between them. -/
def joined (path : Path) : Text := Text.join ['/'] path

def rooted (path : Path) : Text := '/' :: joined path

def nameLimit : Nat := 255

def pathLimit : Nat := 4095

/-- Whether a name has too many bytes. -/
def isLongName (name : Text) : Bool := nameLimit < (Text.utf8 name).length

/-- A path as it is given: the slashes in front, none if it starts at a directory, and the names
behind them, the last one first. -/
structure Given where
  slashes : Text
  reversed : List Text
  deriving DecidableEq, Repr

namespace Given

/-- The path that a text gives. Empty names and single dots are left out; two slashes in front stay
two, any other number becomes one. -/
def ofText (text : Text) : Given :=
  let slashes := text.takeWhile (· = .char '/')
  let names := (Text.pieces '/' text).filter fun name => name ≠ [] ∧ name ≠ [.char '.']
  ⟨if slashes.length = 2 then slashes else slashes.take 1, names.reverse⟩

def toText (path : Given) : Text :=
  match path.slashes ++ joined path.reversed.reverse with
  | [] => ['.']
  | text => text

/-- A path from the root of the file system on. -/
def ofPath (path : Path) : Given := ⟨[.char '/'], path.reverse⟩

/-- Whether a given path has too many bytes. -/
def isLong (path : Given) : Bool := pathLimit < (Text.utf8 path.toText).length

/-- The given path without its last name. -/
def outer (path : Given) : Given := { path with reversed := path.reversed.drop 1 }

/-- The directory that a given path starts at, seen from a directory. -/
def base (path : Given) (directory : Path) : Path :=
  if path.slashes.isEmpty then directory else []

def seenFrom (path : Given) (directory : Path) : Path :=
  path.reversed.foldr (fun name reached => step reached name) (path.base directory)

end Given
end TimeReports.Vault
