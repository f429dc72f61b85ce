import TimeReports.Calendar.Iso
import TimeReports.Number.Written

set_option autoImplicit false

namespace TimeReports.Workbook

inductive Content where
  | text (value : Text)
  | formula (value : Text)
  | error (value : Text)
  | number (value : Float)
  | date (value : Date)

/-- A cell, in a row and column counted from one. -/
structure Cell where
  row : Nat
  column : Nat
  content : Content
  format : Text
  bold : Bool
  /-- The colour of its ground, as hexadecimal digits. -/
  fill : Option Text

/-- A sheet: its cells row by row, and how many of its columns are widened. -/
structure Sheet where
  title : Text
  cells : List Cell
  wideColumns : Nat

def errorNames : List Text :=
  ["#NULL!".text, "#DIV/0!".text, "#VALUE!".text, "#REF!".text, "#NAME?".text,
    "#NUM!".text, "#N/A".text]

/-- Characters that a sheet cannot hold. -/
def isIllegal (c : CodePoint) : Bool := c.toNat < 32 && c != '\t' && c != '\n' && c != '\r'

/-- The most characters that a cell holds. -/
def cellLength : Nat := 32767

/-- The most rows of a sheet. -/
def rowLimit : Nat := 1048576

def rowMessage (row : Nat) : Text :=
  "Row numbers must be between 1 and ".text ++ Text.natDigits rowLimit
    ++ ". Row number supplied was ".text ++ Text.natDigits row

/-- The content of a cell that is given a text. Refuses characters that a sheet cannot hold. -/
def contentOf (text : Text) : Except Text Content :=
  let kept := text.take cellLength
  if kept.any isIllegal then .error kept
  else if 1 < kept.length ∧ kept.head? = some '=' then .ok (.formula kept)
  else if errorNames.contains kept then .ok (.error kept)
  else .ok (.text kept)

/-- The letter of a column, up to the twenty-sixth. -/
def columnLetter (column : Nat) : CodePoint := CodePoint.ofNat (64 + column)

/-- The place of a cell: the letter of its column and the number of its row. -/
def Cell.place (cell : Cell) : Text := columnLetter cell.column :: Text.natDigits cell.row

def Content.shown : Content → Text
  | .text value => value
  | .formula value => value
  | .error value => value
  | .number value => Number.shortest value
  | .date value => value.iso

/-- A cell as a line of text: its place and what it holds. -/
def Cell.line (cell : Cell) : Text := cell.place ++ .char '\t' :: cell.content.shown

def columnWidth : Float := 20

end TimeReports.Workbook
