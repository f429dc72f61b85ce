import TimeReports.Text.Basic

set_option autoImplicit false

namespace TimeReports.Text

/-- How a character is written inside markup. -/
def escapeChar (c : CodePoint) : Text :=
  if c = '&' then "&amp;".text
  else if c = '<' then "&lt;".text
  else if c = '>' then "&gt;".text
  else if c = '"' then "&quot;".text
  else if c = '\'' then "&#x27;".text
  else [c]

/-- A text written inside markup. -/
def escape (text : Text) : Text := text.flatMap escapeChar

end TimeReports.Text
