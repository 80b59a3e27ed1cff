import Giro.Json.Basic

/-!
Equality of JSON values is decided by going through both values together.
-/

namespace Giro.Json

mutual

def same : Json → Json → Bool
  | .null, .null => true
  | .bool x, .bool y => x == y
  | .int n, .int m => n == m
  | .float x, .float y => x == y
  | .str s, .str t => s == t
  | .arr items, .arr others => sameItems items others
  | .obj members, .obj others => sameMembers members others
  | _, _ => false

def sameItems : List Json → List Json → Bool
  | [], [] => true
  | item :: more, other :: others => same item other && sameItems more others
  | _, _ => false

def sameMembers : List (String × Json) → List (String × Json) → Bool
  | [], [] => true
  | (name, value) :: more, (name', other) :: others =>
      name == name' && same value other && sameMembers more others
  | _, _ => false

end

mutual

theorem same_iff : (value other : Json) → (same value other = true ↔ value = other)
  | .null, other | .bool _, other | .int _, other | .float _, other | .str _, other => by
      cases other <;> simp [same]
  | .arr items, other => by
      cases other with
      | arr others => simp [same, sameItems_iff items others]
      | _ => simp [same]
  | .obj members, other => by
      cases other with
      | obj others => simp [same, sameMembers_iff members others]
      | _ => simp [same]

theorem sameItems_iff :
    (items others : List Json) → (sameItems items others = true ↔ items = others)
  | [], others => by cases others <;> simp [sameItems]
  | item :: more, others => by
      cases others with
      | nil => simp [sameItems]
      | cons other rest => simp [sameItems, same_iff item other, sameItems_iff more rest]

theorem sameMembers_iff :
    (members others : List (String × Json)) → (sameMembers members others = true ↔ members = others)
  | [], others => by cases others <;> simp [sameMembers]
  | (name, value) :: more, others => by
      cases others with
      | nil => simp [sameMembers]
      | cons other rest =>
          obtain ⟨name', value'⟩ := other
          simp [sameMembers, same_iff value value', sameMembers_iff more rest, and_assoc]

end

instance : DecidableEq Json :=
  fun value other => decidable_of_iff (same value other = true) (same_iff value other)

end Giro.Json
