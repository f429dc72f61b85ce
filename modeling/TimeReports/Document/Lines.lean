import TimeReports.Text.Basic

set_option autoImplicit false

namespace TimeReports.Document

inductive LineEnd where
  | lineFeed
  | both
  deriving DecidableEq, Repr

def LineEnd.text : LineEnd → Text
  | .lineFeed => ['\n']
  | .both => ['\r', '\n']

structure Lines where
  items : List Text
  lineEnd : LineEnd
  /-- Whether the last line is ended, too. -/
  ended : Bool
  deriving DecidableEq, Repr

def withoutReturn (line : Text) : Text :=
  if line.getLast? = some '\r' then line.dropLast else line

def Lines.ofText (text : Text) : Lines :=
  let lineEnd : LineEnd := if Text.occurs ['\r', '\n'] text then .both else .lineFeed
  let ended := text.getLast? == some '\n'
  let items := Text.pieces '\n' (if ended then text.dropLast else text)
  match lineEnd with
  | .lineFeed => ⟨items, .lineFeed, ended⟩
  | .both => ⟨items.map withoutReturn, .both, ended⟩

def Lines.toText (lines : Lines) : Text :=
  Text.join lines.lineEnd.text lines.items ++ (if lines.ended then lines.lineEnd.text else [])

end TimeReports.Document
