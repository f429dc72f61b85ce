import TimeReports.Display.Tree
import TimeReports.Json.Value

set_option autoImplicit false

namespace TimeReports.Display

def fields (members : List (String × Json)) : Json :=
  .object (members.map fun (name, value) => (name.text, value))

def texts (items : List Text) : Json := .array (items.map .string)

def Segment.toJson (segment : Segment) : Json :=
  fields [("label", .string segment.label), ("hours", .float segment.hours),
    ("percentage", .float segment.percentage), ("color", .string segment.color),
    ("title", .string segment.title)]

def LegendItem.toJson (item : LegendItem) : Json :=
  fields [("label", .string item.label), ("color", .string item.color)]

def Node.toJson : Node → Json
  | .heading text level =>
    fields [("kind", .string "heading".text), ("text", .string text), ("level", .int level)]
  | .paragraph text strong style =>
    fields [("kind", .string "paragraph".text), ("text", .string text), ("strong", .bool strong),
      ("css_class", style.elim .null .string)]
  | .table headers rows style =>
    fields [("kind", .string "table".text), ("headers", texts headers),
      ("rows", .array (rows.map texts)), ("css_class", .string style)]
  | .barChart segments =>
    fields [("kind", .string "bar_chart".text),
      ("segments", .array (segments.map Segment.toJson))]
  | .legend items =>
    fields [("kind", .string "legend".text), ("items", .array (items.map LegendItem.toJson))]
  | .foreign _ => .object []

def Tree.toJson (tree : Tree) : Json :=
  fields [("children", .array (tree.children.map Node.toJson)),
    ("css_class", .string tree.style)]

end TimeReports.Display
