import Giro.Proofs.Json.Depth
import Giro.Proofs.Json.Printing

/-!
Bounds on what stands anywhere in a value: on the digits of its whole numbers, on how deep it is
nested and on whether there are doubles in it. Such bounds pass to every value in it.
-/

namespace Giro

namespace Json

theorem places_le_iff {n : Int} {digits : Nat} (positive : 0 < digits) :
    places n ≤ digits ↔ n.natAbs < 10 ^ digits :=
  Nat.length_toDigits_le_iff (by decide) positive

/-- A sum has at most one digit more. -/
theorem places_add_le {m n : Int} {digits : Nat} (positive : 0 < digits)
    (first : places m ≤ digits) (second : places n ≤ digits) : places (m + n) ≤ digits + 1 := by
  rw [places_le_iff positive] at first second
  rw [places_le_iff (Nat.succ_pos digits), Nat.pow_succ]
  have sum := Int.natAbs_add_le m n
  omega

theorem mem_leavesOfItems {items : List Json} {leaf : Json} :
    leaf ∈ leavesOfItems items ↔ ∃ item ∈ items, leaf ∈ item.leaves := by
  induction items with
  | nil => simp [leavesOfItems]
  | cons first rest ih => simp [leavesOfItems, ih]

theorem mem_leavesOfMembers {members : List (String × Json)} {leaf : Json} :
    leaf ∈ leavesOfMembers members ↔ ∃ member ∈ members, leaf ∈ member.2.leaves := by
  induction members with
  | nil => simp [leavesOfMembers]
  | cons first rest ih => simp [leavesOfMembers, ih, or_and_right, exists_or]

theorem depthItems_le_iff {items : List Json} {limit : Nat} :
    depthItems items ≤ limit ↔ ∀ item ∈ items, item.depth ≤ limit := by
  induction items with
  | nil => simp [depthItems]
  | cons first rest ih => rw [depthItems, Nat.max_le, ih, List.forall_mem_cons]

theorem depthMembers_le_iff {members : List (String × Json)} {limit : Nat} :
    depthMembers members ≤ limit ↔ ∀ member ∈ members, member.2.depth ≤ limit := by
  induction members with
  | nil => simp [depthMembers]
  | cons first rest ih => rw [depthMembers, Nat.max_le, ih, List.forall_mem_cons]

/-- A value that stands somewhere in another one. -/
inductive Occurs (part : Json) : Json → Prop
  | here : Occurs part part
  | item {items : List Json} {item : Json} (listed : item ∈ items) (inside : Occurs part item) :
      Occurs part (.arr items)
  | member {members : List (String × Json)} {member : String × Json} (listed : member ∈ members)
      (inside : Occurs part member.2) : Occurs part (.obj members)

/-- The value has no whole number with more digits in it and no deeper nesting, and it has no double
in it unless these are allowed. -/
structure Within (doubles : Prop) (digits depth : Nat) (value : Json) : Prop where
  exact : ¬ doubles → NoFloat value.leaves
  short : ∀ n, .int n ∈ value.leaves → places n ≤ digits
  shallow : value.depth ≤ depth

section
variable {doubles : Prop} {digits depth : Nat}

theorem Within.mono {value : Json} (h : value.Within doubles digits depth) {deeper : Nat}
    (le : depth ≤ deeper) : value.Within doubles digits deeper :=
  { h with shallow := Nat.le_trans h.shallow le }

theorem within_null : Within doubles digits depth .null :=
  ⟨fun _ => by simp [NoFloat, leaves], by simp [leaves], Nat.zero_le depth⟩

theorem within_str (s : String) : Within doubles digits depth (.str s) :=
  ⟨fun _ => by simp [NoFloat, leaves], by simp [leaves], Nat.zero_le depth⟩

theorem within_int {n : Int} (h : places n ≤ digits) : Within doubles digits depth (.int n) :=
  ⟨fun _ => by simp [NoFloat, leaves], by simpa [leaves] using h, Nat.zero_le depth⟩

theorem within_float {x : Binary64} (allowed : doubles) : Within doubles digits depth (.float x) :=
  ⟨fun none => absurd allowed none, by simp [leaves], Nat.zero_le depth⟩

theorem within_ofOption {α : Type} {encode : α → Json} {x : Option α}
    (h : ∀ y ∈ x, Within doubles digits depth (encode y)) :
    Within doubles digits depth (ofOption encode x) := by
  cases x with
  | none => exact within_null
  | some y => exact h y rfl

theorem within_arr {items : List Json} (h : ∀ item ∈ items, Within doubles digits depth item) :
    Within doubles digits (depth + 1) (.arr items) where
  exact none x member := by
    obtain ⟨item, listed, inside⟩ := mem_leavesOfItems.mp member
    exact (h item listed).exact none x inside
  short n member := by
    obtain ⟨item, listed, inside⟩ := mem_leavesOfItems.mp member
    exact (h item listed).short n inside
  shallow := Nat.succ_le_succ (depthItems_le_iff.mpr fun item listed => (h item listed).shallow)

theorem within_obj {members : List (String × Json)}
    (h : ∀ member ∈ members, Within doubles digits depth member.2) :
    Within doubles digits (depth + 1) (.obj members) where
  exact none x inside := by
    obtain ⟨member, listed, leaf⟩ := mem_leavesOfMembers.mp inside
    exact (h member listed).exact none x leaf
  short n inside := by
    obtain ⟨member, listed, leaf⟩ := mem_leavesOfMembers.mp inside
    exact (h member listed).short n leaf
  shallow :=
    Nat.succ_le_succ (depthMembers_le_iff.mpr fun member listed => (h member listed).shallow)

theorem Within.item {items : List Json} (h : (arr items).Within doubles digits depth) {item : Json}
    (listed : item ∈ items) : item.Within doubles digits depth where
  exact none x inside := h.exact none x (mem_leavesOfItems.mpr ⟨item, listed, inside⟩)
  short n inside := h.short n (mem_leavesOfItems.mpr ⟨item, listed, inside⟩)
  shallow :=
    Nat.le_trans (depthItems_le_iff.mp (Nat.le_refl _) item listed) (Nat.le_of_lt h.shallow)

theorem Within.member {members : List (String × Json)}
    (h : (obj members).Within doubles digits depth) {member : String × Json}
    (listed : member ∈ members) : member.2.Within doubles digits depth where
  exact none x inside := h.exact none x (mem_leavesOfMembers.mpr ⟨member, listed, inside⟩)
  short n inside := h.short n (mem_leavesOfMembers.mpr ⟨member, listed, inside⟩)
  shallow :=
    Nat.le_trans (depthMembers_le_iff.mp (Nat.le_refl _) member listed) (Nat.le_of_lt h.shallow)

/-- What a value is within is what everything in it is within. -/
theorem Within.of_occurs {part value : Json} (h : value.Within doubles digits depth)
    (occurs : part.Occurs value) : part.Within doubles digits depth := by
  induction occurs with
  | here => exact h
  | item listed _ ih => exact ih (h.item listed)
  | member listed _ ih => exact ih (h.member listed)

end
end Json
end Giro
