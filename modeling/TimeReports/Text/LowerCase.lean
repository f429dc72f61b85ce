import TimeReports.Text.Basic
import TimeReports.Text.CaseTable

set_option autoImplicit false

namespace TimeReports.Text

/-- The small form of a character wherever it stands, the character itself when it has none. -/
def lowerChar (c : CodePoint) : Text :=
  if c.toNat < 128 then
    [if 'A' ≤ c ∧ c ≤ 'Z' then CodePoint.ofNat (c.toNat + 32) else c]
  else
    match CaseTable.lowerExpansions.lookup c.toNat with
    | some codes => codes.map CodePoint.ofNat
    | none =>
      [((CaseTable.runs CaseTable.lowerRows).findSome? (·.shift? c.toNat)).elim c CodePoint.ofNat]

/-- Whether the nearest character that is not hidden by marks has case. -/
def meetsCased : Text → Bool
  | [] => false
  | c :: rest =>
    if inRanges CaseTable.hiddenRanges c then meetsCased rest
    else inRanges CaseTable.casedRanges c

/-- Small letters of a text, given what stands before it, nearest character first. -/
def lowerAfter : Text → Text → Text
  | _, [] => []
  | before, c :: rest =>
    (if c = 'Σ' then [if meetsCased before && !meetsCased rest then .char 'ς' else .char 'σ']
      else lowerChar c) ++ lowerAfter (c :: before) rest

def lower (text : Text) : Text := lowerAfter [] text

end TimeReports.Text
