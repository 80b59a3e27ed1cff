import Giro.Binary64.Basic

/-!
JSON values. Whole numbers and doubles are kept apart, as their texts keep them apart, and an
object is the list of its members in order; a name that occurs twice means its last member.
-/

namespace Giro

inductive Json where
  | null
  | bool (value : Bool)
  | int (value : Int)
  | float (value : Binary64)
  | str (value : String)
  | arr (items : List Json)
  | obj (members : List (String × Json))

namespace Json

instance : Inhabited Json := ⟨.null⟩

def lastBinding? (name : String) : List (String × Json) → Option Json
  | [] => none
  | (key, value) :: rest =>
      match lastBinding? name rest with
      | some later => some later
      | none => if key = name then some value else none

def ofOption (encode : α → Json) : Option α → Json
  | none => .null
  | some x => encode x

end Json
end Giro
