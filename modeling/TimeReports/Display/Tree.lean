import TimeReports.Text.Basic

set_option autoImplicit false

namespace TimeReports.Display

structure Segment where
  label : Text
  hours : Float
  percentage : Float
  color : Text
  title : Text

structure LegendItem where
  label : Text
  color : Text
  deriving DecidableEq, Repr

inductive Node where
  | heading (text : Text) (level : Int)
  | paragraph (text : Text) (strong : Bool) (style : Option Text)
  | table (headers : List Text) (rows : List (List Text)) (style : Text)
  | barChart (segments : List Segment)
  | legend (items : List LegendItem)
  | foreign (kind : Text)

structure Tree where
  children : List Node
  style : Text

/-- Why something cannot be shown. -/
inductive Fault where
  | unsupportedView (kind : Text)
  | unsupportedNode (kind : Text)
  /-- A row has more cells than the table has headers. -/
  | rowTooLong
  | undefinedBar
  | infiniteBar
  /-- A bar has more characters than can be counted. -/
  | uncountableBar
  /-- A bar has more characters than can be kept. -/
  | hugeBar
  deriving DecidableEq, Repr

/-- What is said when something cannot be shown. -/
def Fault.message : Fault → Text
  | .unsupportedView kind => "Unsupported report view: ".text ++ kind
  | .unsupportedNode kind => "Unsupported display node: ".text ++ kind
  | .rowTooLong => "list index out of range".text
  | .undefinedBar => "cannot convert float NaN to integer".text
  | .infiniteBar => "cannot convert float infinity to integer".text
  | .uncountableBar => "cannot fit 'int' into an index-sized integer".text
  | .hugeBar => []

def reportStyle : Text := "harvest-report".text

def tableStyle : Text := "harvest-table".text

def Tree.message (text : Text) (style : String) : Tree where
  children := [.paragraph text false (some style.text)]
  style := reportStyle

end TimeReports.Display
