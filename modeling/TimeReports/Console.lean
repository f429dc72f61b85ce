import TimeReports.Text.Unencodable

set_option autoImplicit false

namespace TimeReports

/-- Where lines are written to, in UTF-8. That has no bytes for surrogates: a line with one is
refused, unless the console writes the surrogate in some other way. -/
class Console where
  passes : CodePoint → Bool

namespace Console

/-- The console that refuses every surrogate. -/
@[reducible] def strict : Console := ⟨fun _ => false⟩

/-- The console that takes every text. -/
@[reducible] def replacing : Console := ⟨fun _ => true⟩

/-- Lines go to a console that refuses surrogates, unless another one is meant. -/
instance : Console := .strict

variable [Console]

/-- What keeps a line from being written. -/
def refusal? (text : Text) : Option Text.Unencodable :=
  Text.Unencodable.find? CodePoint.isSurrogate Console.passes text

def Takes (text : Text) : Prop := refusal? text = none

instance (text : Text) : Decidable (Takes text) := inferInstanceAs (Decidable (_ = _))

theorem not_takes_of_refusal {text : Text} {found : Text.Unencodable}
    (refused : refusal? text = some found) : ¬ Takes text :=
  fun takes => nomatch refused.symm.trans (show refusal? text = none from takes)

end Console
end TimeReports
