import TimeReports.Text.Basic
import TimeReports.Text.CaseTable

set_option autoImplicit false

namespace TimeReports.Text

/-- The capital form of a character, the character itself when it has none. -/
def upperChar (c : CodePoint) : Text :=
  if c.toNat < 128 then
    [if 'a' ≤ c ∧ c ≤ 'z' then CodePoint.ofNat (c.toNat - 32) else c]
  else
    match CaseTable.upperExpansions.lookup c.toNat with
    | some codes => codes.map CodePoint.ofNat
    | none =>
      [((CaseTable.runs CaseTable.upperRows).findSome? (·.shift? c.toNat)).elim c CodePoint.ofNat]

def upper (text : Text) : Text := text.flatMap upperChar

end TimeReports.Text
