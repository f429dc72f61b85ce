import TimeReports.Text.Blank
import TimeReports.Text.Escape

set_option autoImplicit false

namespace TimeReports.Document

/-- A report together with the query that it answers. -/
def frozenBlock (query markup : Text) : Text :=
  Text.join ['\n'] [
    "<details class=\"harvest-frozen-query\">".text,
    "<summary>Harvest query</summary>".text,
    "<pre>".text ++ Text.escape (Text.trim query) ++ "</pre>".text,
    "</details>".text,
    markup]

end TimeReports.Document
