import TimeReports.Query.Range
import TimeReports.Text.Blank
import TimeReports.Text.UpperCase

set_option autoImplicit false

namespace TimeReports

inductive ReportKind where
  | list
  | summary
  deriving DecidableEq, Repr

def ReportKind.keyword : ReportKind → Text
  | .list => "LIST".text
  | .summary => "SUMMARY".text

def ReportKind.of? (word : Text) : Option ReportKind :=
  if word = ReportKind.list.keyword then some .list
  else if word = ReportKind.summary.keyword then some .summary
  else none

/-- What is asked for: a kind of report on a range of days. -/
structure Query where
  kind : ReportKind
  range : DateRange
  deriving DecidableEq

namespace Query

/-- A query for the days from one to another, which must be in order. -/
def of (kind : ReportKind) (first last : Date) : Except QueryFault Query :=
  match DateRange.of? first last with
  | some range => .ok ⟨kind, range⟩
  | none => .error (.inverted first last)

/-- The words of a query in capital letters. -/
def tokenize (source : Text) : List Text := (Text.words source).map Text.upper

/-- The flag of a query whose report is to be frozen. -/
def staticFlag : Text := "--static".text

def isStatic (source : Text) : Bool := Text.occurs staticFlag source

def withoutFlag (source : Text) : Text :=
  if isStatic source then Text.trim (Text.substitute staticFlag [' '] source) else source

/-- Reads a query, with ranges as seen from an anchor day. -/
def parse (source : Text) (anchor : Date) : Except ParseFault Query :=
  match tokenize source with
  | [] => .error (.malformed .empty)
  | [_] => .error (.malformed .tooShort)
  | first :: keyword :: words =>
    match ReportKind.of? first with
    | none => .error (.malformed (.unknownKind first))
    | some kind => (resolveRange keyword words anchor).map fun range => ⟨kind, range⟩

end Query
end TimeReports
