import Giro.Json.Basic
import Giro.Text.Surrogate

/-!
Values that JSON has a text for. A double that is not a finite number and a surrogate without its
partner have none. Members whose names begin like those of an object mapper are left out of a
report, and of members with one name the last one counts.
-/

namespace Giro.Http

def isShown (name : String) : Bool :=
  !"_sa".toList.isPrefixOf name.toList

mutual

/-- Whether every double that a report of the value shows is finite and every text whole. -/
def canShow (marks : Nat) : Json → Bool
  | .float (.finite _ _) => true
  | .float _ => false
  | .str text => Text.isWhole marks text
  | .arr items => canShowItems marks items
  | .obj members => canShowMembers marks members
  | _ => true

def canShowItems (marks : Nat) : List Json → Bool
  | [] => true
  | item :: more => canShow marks item && canShowItems marks more

/-- A member counts if it is shown and no later one has its name. -/
def canShowMembers (marks : Nat) : List (String × Json) → Bool
  | [] => true
  | (name, value) :: more =>
      (!isShown name || more.any (·.1 = name) ||
        Text.isWhole marks name && canShow marks value) && canShowMembers marks more

end
end Giro.Http
