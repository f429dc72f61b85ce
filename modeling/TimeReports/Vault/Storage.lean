import TimeReports.Text.Unencodable
import TimeReports.Vault.Path

set_option autoImplicit false

namespace TimeReports

/-- What storage does when a document is opened. -/
inductive Vault.Trouble where
  | none
  | refusesReading (reason : Text)
  | refusesWriting (reason : Text)
  /-- Writing stops after `kept` bytes. -/
  | stopsWriting (kept : Nat) (reason : Text)
  deriving DecidableEq, Repr

/-- Files by their paths, directories that are there whether or not they hold files, and the
directory that documents are looked up from. -/
structure Vault where
  root : Vault.Path
  directories : List Vault.Path
  files : List (Vault.Path × Text.Bytes)
  trouble : Vault.Trouble
  deriving DecidableEq, Repr

namespace Vault

/-- Why storage does not do what it is asked for. -/
inductive StorageFault where
  | nameTooLong (path : Text)
  | isDirectory (path : Text)
  | fileExists (path : Text)
  | notDirectory (path : Text)
  /-- A path cannot hold the character with code zero. -/
  | zeroInPath
  /-- A text holds surrogates, which have no bytes. -/
  | unencodable (found : Text.Unencodable)
  deriving DecidableEq, Repr

/-- What is said when storage does not do what it is asked for. -/
def StorageFault.message : StorageFault → Text
  | .nameTooLong path => "[Errno 36] File name too long: ".text ++ Text.quoted path
  | .isDirectory path => "[Errno 21] Is a directory: ".text ++ Text.quoted path
  | .fileExists path => "[Errno 17] File exists: ".text ++ Text.quoted path
  | .notDirectory path => "[Errno 20] Not a directory: ".text ++ Text.quoted path
  | .zeroInPath => "embedded null byte".text
  | .unencodable found => found.message

def bytesAt? (vault : Vault) (path : Path) : Option Text.Bytes := vault.files.lookup path

/-- Whether a path leads to a directory: one that is there, or that holds a file or directory. -/
def isDirectory (vault : Vault) (path : Path) : Bool :=
  path.isEmpty || vault.directories.any path.isPrefixOf
    || vault.files.any fun (file, _) => path.isPrefixOf file && path != file

/-- The paths of directories and files below a directory whose last name has an ending. -/
def pathsBelow (vault : Vault) (directory : Path) (ending : Text) : List Path :=
  (vault.directories ++ vault.files.map (·.1)).filter fun path =>
    directory.isPrefixOf path && ending.isSuffixOf (path.getLast?.getD [])

inductive Place where
  | file
  | directory
  /-- A name on the way leads nowhere. -/
  | nothing
  /-- A name on the way leads to a file. -/
  | behindFile
  /-- A name on the way has too many bytes, or the path has. -/
  | tooLong
  deriving DecidableEq, Repr

/-- What names lead to, from a directory that is there. Two dots lead out of the directory that is
reached. -/
def walk (vault : Vault) (reached : Path) : List Text → Place
  | [] => .directory
  | name :: rest =>
    if name = "..".text then vault.walk reached.dropLast rest
    else
      let next := reached ++ [name]
      if isLongName name then .tooLong
      else if (vault.bytesAt? next).isSome then (if rest.isEmpty then .file else .behindFile)
      else if vault.isDirectory next then vault.walk next rest
      else .nothing

/-- What a given path leads to, seen from a directory that is there. -/
def placeFrom (vault : Vault) (start : Path) (given : Given) : Place :=
  if given.isLong then .tooLong
  else vault.walk (given.base start) given.reversed.reverse

def placeOf (vault : Vault) (path : Path) : Place := vault.placeFrom [] (.ofPath path)

def replaceBytes (path : Path) (bytes : Text.Bytes) :
    List (Path × Text.Bytes) → List (Path × Text.Bytes)
  | [] => []
  | (other, old) :: rest =>
    if other = path then (other, bytes) :: rest else (other, old) :: replaceBytes path bytes rest

/-- The fault of making a directory where a path leads. -/
def directoryFault? (given : Given) : Place → Option StorageFault
  | .file => some (.fileExists given.toText)
  | .behindFile => some (.notDirectory given.toText)
  | .tooLong => some (.nameTooLong given.toText)
  | .directory => none
  | .nothing => none

/-- Makes a directory, given the names of its path with the last one first, and before it those on
its way. What is made stays made when a later one fails. -/
def makeDirectory (vault : Vault) (start : Path) (slashes : Text) :
    List Text → Vault × Except StorageFault Unit
  | [] => (vault, .ok ())
  | name :: outer =>
    let given : Given := ⟨slashes, name :: outer⟩
    match vault.placeFrom start given with
    | .nothing =>
      match vault.makeDirectory start slashes outer with
      | (made, .error fault) => (made, .error fault)
      | (made, .ok ()) =>
        match made.placeFrom start given with
        | .nothing =>
          ({ made with directories := made.directories ++ [given.seenFrom start] }, .ok ())
        | place => (made, (directoryFault? given place).elim (.ok ()) .error)
    | place => (vault, (directoryFault? given place).elim (.ok ()) .error)

/-- Makes a file with nothing in it at a path that is given from a directory, in a directory that is
there. -/
def openFile (vault : Vault) (start : Path) (given : Given) : Vault × Except StorageFault Unit :=
  let path := given.seenFrom start
  if given.toText.contains '\x00' then (vault, .error .zeroInPath)
  else
    match vault.placeFrom start given with
    | .directory => (vault, .error (.isDirectory given.toText))
    | .tooLong => (vault, .error (.nameTooLong given.toText))
    | .behindFile => (vault, .error (.notDirectory given.toText))
    | .file => ({ vault with files := replaceBytes path [] vault.files }, .ok ())
    | .nothing => ({ vault with files := vault.files ++ [(path, [])] }, .ok ())

/-- Makes a file with nothing in it, and before it the directories on its way. -/
def makeFile (vault : Vault) (start : Path) (given : Given) : Vault × Except StorageFault Unit :=
  if given.outer.toText.contains '\x00' then (vault, .error .zeroInPath)
  else
    match vault.makeDirectory start given.slashes given.outer.reversed with
    | (made, .error fault) => (made, .error fault)
    | (made, .ok ()) => made.openFile start given

end Vault
end TimeReports
