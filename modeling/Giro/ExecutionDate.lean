import Giro.Calendar.Day
import Giro.Text.Quoted

/-!
Dates as they are written in an instruction. A date is four, two and two digits with hyphens
between them, its month and its day in range; the lengths of months are not looked at.
-/

namespace Giro.ExecutionDate

/-- The day that a valid date names. -/
def parse? (token : String) : Option Day :=
  (Day.ofDigits? token.toList).filter Day.inRange

def valid? (token : String) : Option String :=
  if (parse? token).isSome then some token else none

/-- A token that has not the form of a date. -/
structure ShapeFault where
  token : String
  deriving DecidableEq

def ShapeFault.message (fault : ShapeFault) : String :=
  "Not a YYYY-MM-DD date: " ++ Text.quoted fault.token

/-- Whether the day written lies after `today`; only the form is asked of the token. -/
def isAfter (token : String) (today : Day) : Except ShapeFault Bool :=
  match Day.ofDigits? token.toList with
  | some day => .ok (today.before day)
  | none => .error ⟨token⟩

end Giro.ExecutionDate
