import Mathlib.Order.WithBot
import Giro.Balance
import Giro.Proofs.Binary64.Value

/-!
The order of doubles on the line with both infinities. A rounded number lies on the same side of
every double as the exact one, whatever was rounded and also where it left the range. So a sum of a
double and something that does not change the side is kept within the same bounds. Balances of both
kinds are compared with an amount by their places.
-/

namespace Giro

/-- The rational numbers with an infinity at each end. -/
abbrev Line : Type := WithBot (WithTop ℚ)

/-- The place of a rational number on the line. -/
def Line.of (exact : ℚ) : Line := ((exact : WithTop ℚ) : WithBot (WithTop ℚ))

theorem Line.of_le_of_iff {p q : ℚ} : Line.of p ≤ Line.of q ↔ p ≤ q := by
  rw [Line.of, Line.of, WithBot.coe_le_coe, WithTop.coe_le_coe]

namespace Binary64

/-- The place on the line; what is not a number has none. -/
def place? : Binary64 → Option Line
  | .nan => none
  | .infinite true => some ⊥
  | .infinite false => some ⊤
  | .finite negative m => some (.of (signed negative m.units / unitsPerOne))

theorem place?_of_value? {x : Binary64} {exact : ℚ} (h : x.value? = some exact) :
    x.place? = some (.of exact) := by
  obtain ⟨units, isUnits, rfl⟩ := value?_eq_some_iff.mp h
  obtain ⟨negative, m, rfl, rfl⟩ := units?_eq_some_iff.mp isUnits
  rfl

theorem isDouble_zero : IsDouble 0 := by
  rw [← Nat.cast_zero]
  exact isDouble_natCast (Nat.zero_le _)

section
variable {x : Binary64} {value exact bound : ℚ}

theorem Nearest.le_of_le (h : Nearest x value exact) (double : IsDouble bound)
    (le : exact ≤ bound) : value ≤ bound := by
  by_contra above
  have nearer := h.least bound double
  rw [abs_of_nonneg (sub_nonneg.mpr le), abs_of_nonneg (by linarith)] at nearer
  linarith

theorem Nearest.ge_of_ge (h : Nearest x value exact) (double : IsDouble bound)
    (ge : bound ≤ exact) : bound ≤ value := by
  by_contra below
  have nearer := h.least bound double
  rw [abs_of_nonpos (sub_nonpos.mpr ge), abs_of_nonpos (by linarith)] at nearer
  linarith

/-- A rounded number is on no other side of a double than the exact one. -/
structure Keeps (place : Line) (exact : ℚ) : Prop where
  le : ∀ bound, IsDouble bound → exact ≤ bound → place ≤ .of bound
  ge : ∀ bound, IsDouble bound → bound ≤ exact → .of bound ≤ place

theorem Rounds.exists_place (h : x.Rounds exact) :
    ∃ place, x.place? = some place ∧ Keeps place exact := by
  obtain ⟨value, nearest⟩ | ⟨beyond, rfl⟩ := h
  · exact ⟨.of value, place?_of_value? nearest.value_eq,
      fun _ double le => Line.of_le_of_iff.mpr (nearest.le_of_le double le),
      fun _ double ge => Line.of_le_of_iff.mpr (nearest.ge_of_ge double ge)⟩
  · rcases lt_or_ge exact 0 with negative | nonneg
    · -- All doubles are above a negative number beyond the range.
      refine ⟨⊥, by simp [negative, place?], fun _ _ _ => bot_le, fun bound double ge => ?_⟩
      have inRange := abs_lt.mp (abs_lt_wholeLimit_of_isDouble double)
      rw [abs_of_neg negative] at beyond
      linarith
    · refine ⟨⊤, by simp [not_lt.mpr nonneg, place?], fun bound double le => ?_, fun _ _ _ => le_top⟩
      have inRange := abs_lt.mp (abs_lt_wholeLimit_of_isDouble double)
      rw [abs_of_nonneg nonneg] at beyond
      linarith

theorem atLeast_iff_place (x : Binary64) (n : Int) :
    x.atLeast n = true ↔ ∃ place, x.place? = some place ∧ .of n ≤ place := by
  match x with
  | .nan => simp [atLeast, place?]
  | .infinite true => simp [atLeast, place?, Line.of]
  | .infinite false => simp [atLeast, place?]
  | .finite negative m =>
      have value := value?_eq_div_iff.mpr (units?_finite negative m)
      rw [atLeast_iff value, place?_of_value? value]
      simp only [Option.some.injEq, exists_eq_left', Line.of_le_of_iff]

/-- A finite summand leaves an infinity and what is not a number as they are. -/
theorem add_of_value?_eq_none {step : Binary64} {moved : ℚ} (h : x.value? = none)
    (finite : step.value? = some moved) : x.add step = x := by
  obtain ⟨units, isUnits, -⟩ := value?_eq_some_iff.mp finite
  obtain ⟨negative, m, rfl, -⟩ := units?_eq_some_iff.mp isUnits
  cases x with
  | nan => rfl
  | infinite => rfl
  | finite negative m =>
      rw [value?_eq_div_iff.mpr (units?_finite negative m)] at h
      contradiction

end

end Binary64

namespace Balance

/-- The place on the line; what is not a number has none. -/
def place? : Balance → Option Line
  | .whole value => some (.of value)
  | .float value => value.place?

theorem covers_iff_place (balance : Balance) (amount : Int) :
    balance.covers amount = true ↔ ∃ place, balance.place? = some place ∧ .of amount ≤ place := by
  cases balance with
  | whole value => simp [covers, place?, Line.of_le_of_iff]
  | float value => exact Binary64.atLeast_iff_place value amount

theorem covers_natCast_iff_place (balance : Balance) (amount : Nat) :
    balance.covers amount = true ↔ ∃ place, balance.place? = some place ∧ .of amount ≤ place := by
  rw [covers_iff_place, Int.cast_natCast]

end Balance
end Giro
