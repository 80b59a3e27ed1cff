import Mathlib.Tactic.Common
import Giro.Proofs.Binary64.Rounding

/-!
A rounded magnitude is a nearest representable one, and of two nearest ones it is the even one.
Between neighbouring multiples of the spacing nothing is representable, so that every other
representable magnitude is at least as far as one of these two. A difference of magnitudes is
representable where both are multiples of a spacing that is small enough, and only there.
-/

namespace Giro.Binary64

attribute [local instance (high)] instPowNat

section
variable {units other : Nat}

theorem halfEven_cases (num den : Nat) :
    (halfEven num den = num / den ∧ 2 * (num % den) ≤ den) ∨
      (halfEven num den = num / den + 1 ∧ den ≤ 2 * (num % den)) := by
  simp only [halfEven]
  split
  · left
    omega
  · split
    · right
      omega
    · omega

theorem spacing_dvd_spacing (h : units ≤ other) : spacing units ∣ spacing other := by
  apply Nat.pow_dvd_pow
  by_cases zero : units = 0
  · simp [zero]
  · have exponents : units.log2 ≤ other.log2 := by
      rw [Nat.le_log2 (by omega)]
      exact Nat.le_trans (Nat.log2_self_le zero) h
    omega

theorem spacing_dvd_two_pow_log2 (units : Nat) : spacing units ∣ 2 ^ units.log2 :=
  Nat.pow_dvd_pow 2 (by omega)

/-- The largest multiple of the spacing up to a magnitude. -/
def floorUnits (units : Nat) : Nat :=
  units / spacing units * spacing units

theorem floorUnits_add_mod (units : Nat) : floorUnits units + units % spacing units = units := by
  rw [floorUnits, Nat.mul_comm]
  exact Nat.div_add_mod units (spacing units)

theorem mod_spacing_lt (units : Nat) : units % spacing units < spacing units :=
  Nat.mod_lt units (spacing_pos units)

theorem le_floorUnits_of_dvd (grid : spacing units ∣ other) (h : other ≤ units) :
    other ≤ floorUnits units := by
  obtain ⟨k, rfl⟩ := grid
  rw [floorUnits, Nat.mul_comm]
  apply Nat.mul_le_mul_right
  rwa [Nat.le_div_iff_mul_le (spacing_pos units), Nat.mul_comm]

theorem floorUnits_add_le_of_dvd (grid : spacing units ∣ other) (h : units < other) :
    floorUnits units + spacing units ≤ other := by
  obtain ⟨k, rfl⟩ := grid
  have quotient : units / spacing units < k := by
    rwa [Nat.div_lt_iff_lt_mul (spacing_pos units), Nat.mul_comm]
  calc floorUnits units + spacing units = (units / spacing units + 1) * spacing units := by
        rw [floorUnits, Nat.succ_mul]
    _ ≤ k * spacing units := Nat.mul_le_mul_right _ quotient
    _ = spacing units * k := Nat.mul_comm _ _

/-- No representable magnitude lies between two neighbouring multiples of the spacing. -/
theorem le_floorUnits_or_ge (units : Nat) (representable : Representable other) :
    other ≤ floorUnits units ∨ floorUnits units + spacing units ≤ other := by
  rcases Nat.lt_or_ge units other with above | below
  · right
    exact floorUnits_add_le_of_dvd
      (Nat.dvd_trans (spacing_dvd_spacing (Nat.le_of_lt above)) representable) above
  · left
    by_cases zero : units = 0
    · omega
    -- What lies between has the exponent of the magnitude, and so it is a multiple of its spacing.
    have power : 2 ^ units.log2 ≤ floorUnits units :=
      le_floorUnits_of_dvd (spacing_dvd_two_pow_log2 units) (Nat.log2_self_le zero)
    by_contra between
    have nonzero : other ≠ 0 := by omega
    have exponents : units.log2 ≤ other.log2 := (Nat.le_log2 nonzero).mpr (by omega)
    have grid : spacing units ∣ other :=
      Nat.dvd_trans (Nat.pow_dvd_pow 2 (by omega)) representable
    exact between (le_floorUnits_of_dvd grid below)

theorem roundUnits_cases (units : Nat) :
    (roundUnits units = floorUnits units ∧ 2 * (units % spacing units) ≤ spacing units) ∨
      (roundUnits units = floorUnits units + spacing units ∧
        spacing units ≤ 2 * (units % spacing units)) := by
  simp only [roundUnits, roundQuotient, Nat.div_one, Nat.one_mul]
  obtain ⟨quotient, rest⟩ | ⟨quotient, rest⟩ := halfEven_cases units (spacing units)
  · exact .inl ⟨by rw [quotient, floorUnits], rest⟩
  · exact .inr ⟨by rw [quotient, floorUnits, Nat.succ_mul], rest⟩

/-- No representable magnitude is nearer than the rounded one. -/
theorem roundUnits_nearest (units : Nat) (representable : Representable other) :
    ((roundUnits units : Int) - units).natAbs ≤ ((other : Int) - units).natAbs := by
  have whole := floorUnits_add_mod units
  have short := mod_spacing_lt units
  have gap := le_floorUnits_or_ge units representable
  obtain ⟨rounded, half⟩ | ⟨rounded, half⟩ := roundUnits_cases units
  · omega
  · omega

theorem log2_le_log2_roundUnits (units : Nat) : units.log2 ≤ (roundUnits units).log2 := by
  by_cases zero : units = 0
  · simp [zero]
  have low := two_pow_log2_le_roundUnits zero
  have rounded : roundUnits units ≠ 0 := by
    have power := Nat.two_pow_pos units.log2
    omega
  exact (Nat.le_log2 rounded).mpr low

/-- The last of the significant bits is zero. -/
def EvenLast (units : Nat) : Prop :=
  2 * spacing units ∣ units

theorem evenLast_two_pow (e : Nat) : EvenLast (2 ^ (e + 1)) := by
  rw [EvenLast, spacing, Nat.log2_two_pow, ← Nat.pow_succ']
  exact Nat.pow_dvd_pow 2 (by omega)

theorem evenLast_roundUnits_of_half (half : 2 * (units % spacing units) = spacing units) :
    EvenLast (roundUnits units) := by
  have positive := spacing_pos units
  have even : 2 * spacing units ∣ roundUnits units := by
    have quotient : halfEven units (spacing units) =
        units / spacing units + units / spacing units % 2 := by
      simp only [halfEven]
      rw [if_neg (by omega), if_neg (by omega)]
    simp only [roundUnits, roundQuotient, Nat.div_one, Nat.one_mul, quotient]
    exact Nat.mul_dvd_mul_right (by omega) _
  rcases Nat.lt_or_eq_of_le (roundUnits_le_two_pow_log2 units) with below | top
  · by_cases zero : roundUnits units = 0
    · rw [zero]
      exact Nat.dvd_zero _
    · have upper := (Nat.log2_lt zero).mpr below
      have lower := log2_le_log2_roundUnits units
      have same : (roundUnits units).log2 = units.log2 := by omega
      rwa [EvenLast, spacing, same]
  · rw [top]
    exact evenLast_two_pow _

/-- Where another representable magnitude is as near as the rounded one, the rounded one is even. -/
theorem evenLast_of_tie (representable : Representable other) (differ : other ≠ roundUnits units)
    (tie : ((roundUnits units : Int) - units).natAbs = ((other : Int) - units).natAbs) :
    EvenLast (roundUnits units) := by
  have whole := floorUnits_add_mod units
  have short := mod_spacing_lt units
  have gap := le_floorUnits_or_ge units representable
  apply evenLast_roundUnits_of_half
  obtain ⟨rounded, half⟩ | ⟨rounded, half⟩ := roundUnits_cases units
  · omega
  · omega

theorem representable_sub_of_dvd (representable : Representable units)
    (grid : spacing units ∣ other) : Representable (units - other) :=
  Nat.dvd_trans (spacing_dvd_spacing (Nat.sub_le units other)) (Nat.dvd_sub representable grid)

theorem representable_mul_two_pow {n e : Nat} (small : n ≤ 2 ^ (53 : Nat)) :
    Representable (n * 2 ^ e) := by
  rcases Nat.lt_or_eq_of_le small with below | top
  · have bounded : n * 2 ^ e < 2 ^ (53 + e) := by
      rw [Nat.pow_add]
      exact Nat.mul_lt_mul_of_pos_right below (Nat.two_pow_pos e)
    exact Nat.dvd_trans (spacing_dvd_two_pow bounded) (Nat.dvd_mul_left _ _)
  · rw [top, ← Nat.pow_add]
    exact representable_two_pow _

theorem mul_two_pow_lt_two_pow {n e t : Nat} (small : n ≤ 2 ^ (53 : Nat)) (h : 53 + e < t) :
    n * 2 ^ e < 2 ^ t :=
  calc n * 2 ^ e ≤ 2 ^ (53 : Nat) * 2 ^ e := Nat.mul_le_mul_right _ small
    _ = 2 ^ (53 + e) := (Nat.pow_add 2 53 e).symm
    _ < 2 ^ t := Nat.pow_lt_pow_right (by decide) h

/-- Whole numbers of few bits are representable and in range. -/
theorem representable_mul_unitsPerOne {n : Nat} (small : n ≤ 2 ^ (53 : Nat)) :
    Representable (n * unitsPerOne) ∧ n * unitsPerOne < limit := by
  unfold unitsPerOne limit
  exact ⟨@representable_mul_two_pow n 1074 small,
    @mul_two_pow_lt_two_pow n 1074 2098 small (by decide)⟩

theorem spacing_dvd_two_pow_of_lt_mul {e : Nat} (h : units < 2 ^ (53 : Nat) * 2 ^ e) :
    spacing units ∣ 2 ^ e := by
  rw [← Nat.pow_add] at h
  exact spacing_dvd_two_pow h

theorem spacing_dvd_unitsPerOne (h : units < 2 ^ (53 : Nat) * unitsPerOne) :
    spacing units ∣ unitsPerOne := by
  unfold unitsPerOne at *
  exact @spacing_dvd_two_pow_of_lt_mul units 1074 h

theorem spacing_dvd_roundUnits (units : Nat) : spacing units ∣ roundUnits units := by
  simp only [roundUnits, roundQuotient, Nat.div_one]
  exact Nat.dvd_mul_left _ _

/-- A magnitude that is a multiple of the spacing of its rounded value was representable. -/
theorem eq_roundUnits_of_dvd (grid : spacing (roundUnits units) ∣ units) :
    roundUnits units = units := by
  apply roundUnits_eq_self
  apply Nat.dvd_trans _ grid
  apply Nat.pow_dvd_pow
  have exponents := log2_le_log2_roundUnits units
  omega

theorem roundUnits_le_of_representable (representable : Representable units) (le : other ≤ units) :
    roundUnits other ≤ units := by
  have order := roundUnits_mono le
  rwa [roundUnits_eq_self representable] at order

/-- Taking the rounded value of an amount from a representable magnitude leaves the exact rest only
where the amount did not have to be rounded. -/
theorem representable_of_roundUnits_sub (representable : Representable units)
    (le : other ≤ units) (exact : roundUnits (units - roundUnits other) = units - other) :
    Representable other := by
  by_contra rounded
  have bounded := roundUnits_le_of_representable representable le
  have grid : spacing other ∣ units := Nat.dvd_trans (spacing_dvd_spacing le) representable
  -- The rest is no multiple of the spacing of the amount, so its own spacing is smaller.
  have coarse : ¬ spacing other ∣ units - other := by
    intro rest
    exact rounded ((Nat.dvd_sub_iff_right le grid).mp rest)
  have rest : Representable (units - other) := by
    rw [← exact]
    exact representable_roundQuotient _ _
  have fine : spacing (units - other) ∣ spacing other := by
    apply Nat.pow_dvd_pow
    by_contra larger
    exact coarse (Nat.dvd_trans (Nat.pow_dvd_pow 2 (by omega)) rest)
  have difference : spacing (units - other) ∣ units - roundUnits other :=
    Nat.dvd_trans fine (Nat.dvd_sub grid (spacing_dvd_roundUnits other))
  rw [← exact] at difference
  have unchanged := eq_roundUnits_of_dvd difference
  have same : roundUnits other = other := by omega
  exact rounded (same ▸ representable_roundQuotient other 1)

end

end Giro.Binary64
