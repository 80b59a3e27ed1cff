/-!
Rounding to 53 significant bits. Magnitudes are counted in units of the least positive double,
2 ^ -1074, so that every double is a whole number of units and every sum of doubles is exact
before it is rounded. Nothing here knows the largest double: the range is checked by the caller.
-/

namespace Giro.Binary64

attribute [local instance (high)] instPowNat

/-- The distance between neighbouring doubles at this magnitude. -/
def spacing (units : Nat) : Nat :=
  2 ^ (units.log2 - 52)

/-- At most 53 significant bits. -/
def Representable (units : Nat) : Prop :=
  spacing units ∣ units

instance (units : Nat) : Decidable (Representable units) :=
  inferInstanceAs (Decidable (spacing units ∣ units))

/-- The whole number nearest to `num / den`; a half goes to the even neighbour. -/
def halfEven (num den : Nat) : Nat :=
  let floor := num / den
  let rest := num % den
  if 2 * rest < den then floor
  else if den < 2 * rest then floor + 1
  else floor + floor % 2

/-- The representable magnitude nearest to `num / den` units, ties to the even one. -/
def roundQuotient (num den : Nat) : Nat :=
  let ulp := spacing (num / den)
  halfEven num (den * ulp) * ulp

def roundUnits (units : Nat) : Nat :=
  roundQuotient units 1

theorem spacing_pos (units : Nat) : 0 < spacing units :=
  Nat.two_pow_pos _

theorem spacing_dvd_two_pow {units e : Nat} (h : units < 2 ^ (53 + e)) : spacing units ∣ 2 ^ e := by
  apply Nat.pow_dvd_pow
  by_cases zero : units = 0
  · simp [zero]
  · have := (Nat.log2_lt zero).mpr h
    omega

theorem lt_two_pow_spacing (units : Nat) : units < 2 ^ (53 + (units.log2 - 52)) :=
  Nat.lt_of_lt_of_le Nat.lt_log2_self (Nat.pow_le_pow_right (by decide) (by omega))

theorem representable_two_pow (e : Nat) : Representable (2 ^ e) := by
  unfold Representable spacing
  rw [Nat.log2_two_pow]
  exact Nat.pow_dvd_pow 2 (by omega)

theorem representable_zero : Representable 0 :=
  Nat.dvd_zero _

theorem halfEven_le (num den : Nat) : halfEven num den ≤ num / den + 1 := by
  unfold halfEven
  have := Nat.mod_lt (num / den) (show 0 < 2 by decide)
  simp only
  split
  · omega
  · split <;> omega

theorem halfEven_mul_right {den : Nat} (h : 0 < den) (k : Nat) : halfEven (k * den) den = k := by
  simp [halfEven, Nat.mul_div_cancel _ h, h]

theorem representable_roundQuotient (num den : Nat) : Representable (roundQuotient num den) := by
  have small : num / den / spacing (num / den) < 2 ^ 53 := by
    apply Nat.div_lt_of_lt_mul
    have := lt_two_pow_spacing (num / den)
    rwa [Nat.pow_add, Nat.mul_comm] at this
  have le := halfEven_le num (den * spacing (num / den))
  rw [← Nat.div_div_eq_div_mul] at le
  show Representable (halfEven num (den * spacing (num / den)) * spacing (num / den))
  generalize halfEven num (den * spacing (num / den)) = k at le
  have bound : k ≤ 2 ^ 53 := by omega
  unfold spacing at *
  generalize (num / den).log2 - 52 = e at *
  rcases Nat.lt_or_ge k (2 ^ 53) with lt | ge
  · have below : k * 2 ^ e < 2 ^ (53 + e) := by
      rw [Nat.pow_add]
      exact Nat.mul_lt_mul_of_pos_right lt (Nat.two_pow_pos e)
    exact Nat.dvd_trans (spacing_dvd_two_pow below) (Nat.dvd_mul_left _ _)
  · have eq : k = 2 ^ 53 := by omega
    rw [eq, ← Nat.pow_add]
    exact representable_two_pow _

theorem roundUnits_eq_self {units : Nat} (h : Representable units) : roundUnits units = units := by
  obtain ⟨k, eq⟩ := h
  unfold roundUnits roundQuotient
  simp only [Nat.div_one, Nat.one_mul]
  conv => lhs; arg 1; arg 1; rw [eq, Nat.mul_comm]
  rw [halfEven_mul_right (spacing_pos units), Nat.mul_comm, ← eq]

end Giro.Binary64
