import Giro.Binary64.Basic

/-!
Rounding to 53 significant bits keeps the order of magnitudes. A magnitude between two multiples of
its spacing stays between them when it is rounded, and the powers of two around it are such
multiples, so that rounding never carries it past the next power. From this the least magnitude that
is rounded up to a power of two is found, and with it the least whole number that has no double near
it.
-/

namespace Giro.Binary64

attribute [local instance (high)] instPowNat

/-- The first whole number that has no double near it. -/
@[irreducible] def wholeLimit : Nat := 2 ^ (1024 : Nat) - 2 ^ (970 : Nat)

theorem unitsPerOne_pos : 0 < unitsPerOne := by
  unfold unitsPerOne
  exact Nat.two_pow_pos 1074

theorem le_halfEven (num den : Nat) : num / den ≤ halfEven num den := by
  simp only [halfEven]
  split
  · exact Nat.le_refl _
  · split <;> omega

theorem halfEven_mono {num num' : Nat} (den : Nat) (h : num ≤ num') :
    halfEven num den ≤ halfEven num' den := by
  have floors : num / den ≤ num' / den := Nat.div_le_div_right h
  rcases Nat.lt_or_eq_of_le floors with less | same
  · calc halfEven num den ≤ num / den + 1 := halfEven_le num den
      _ ≤ num' / den := less
      _ ≤ halfEven num' den := le_halfEven num' den
  · -- With one floor the larger number has the larger rest, and half of `den` is passed once.
    have split := Nat.div_add_mod num den
    have split' := Nat.div_add_mod num' den
    rw [← same] at split'
    simp only [halfEven, ← same]
    generalize den * (num / den) = base at split split'
    generalize num % den = rest at *
    generalize num' % den = rest' at *
    generalize num / den = floor
    split
    · split
      · exact Nat.le_refl _
      · split <;> omega
    · split
      · refine Nat.le_of_eq ?_
        rw [if_neg (by omega), if_pos (by omega)]
      · rw [if_neg (by omega)]
        split <;> omega

/-- A multiple of the spacing that is not above a magnitude is not above the rounded one. -/
theorem le_roundUnits_of_dvd {units multiple : Nat} (grid : spacing units ∣ multiple)
    (h : multiple ≤ units) : multiple ≤ roundUnits units := by
  obtain ⟨k, rfl⟩ := grid
  have quotient := halfEven_mono (spacing units) h
  rw [Nat.mul_comm, halfEven_mul_right (spacing_pos units)] at quotient
  simp only [roundUnits, roundQuotient, Nat.div_one, Nat.one_mul]
  rw [Nat.mul_comm]
  exact Nat.mul_le_mul_right _ quotient

theorem roundUnits_le_of_dvd {units multiple : Nat} (grid : spacing units ∣ multiple)
    (h : units ≤ multiple) : roundUnits units ≤ multiple := by
  obtain ⟨k, rfl⟩ := grid
  have quotient := halfEven_mono (spacing units) h
  rw [Nat.mul_comm, halfEven_mul_right (spacing_pos units)] at quotient
  simp only [roundUnits, roundQuotient, Nat.div_one, Nat.one_mul]
  rw [Nat.mul_comm _ k]
  exact Nat.mul_le_mul_right _ quotient

theorem two_pow_log2_le_roundUnits {units : Nat} (nonzero : units ≠ 0) :
    2 ^ units.log2 ≤ roundUnits units :=
  le_roundUnits_of_dvd (Nat.pow_dvd_pow 2 (by omega)) (Nat.log2_self_le nonzero)

theorem roundUnits_le_two_pow_log2 (units : Nat) : roundUnits units ≤ 2 ^ (units.log2 + 1) :=
  roundUnits_le_of_dvd (Nat.pow_dvd_pow 2 (by omega)) (Nat.le_of_lt Nat.lt_log2_self)

theorem roundUnits_mono {units units' : Nat} (h : units ≤ units') :
    roundUnits units ≤ roundUnits units' := by
  by_cases zero : units = 0
  · rw [zero, roundUnits_eq_self representable_zero]
    exact Nat.zero_le _
  have nonzero : units' ≠ 0 := by omega
  have exponents : units.log2 ≤ units'.log2 := by
    rw [Nat.le_log2 nonzero]
    exact Nat.le_trans (Nat.log2_self_le zero) h
  rcases Nat.lt_or_eq_of_le exponents with less | same
  · calc roundUnits units ≤ 2 ^ (units.log2 + 1) := roundUnits_le_two_pow_log2 units
      _ ≤ 2 ^ units'.log2 := Nat.pow_le_pow_right (by decide) less
      _ ≤ roundUnits units' := two_pow_log2_le_roundUnits nonzero
  · have spacings : spacing units = spacing units' := by rw [spacing, same, spacing]
    simp only [roundUnits, roundQuotient, Nat.div_one, Nat.one_mul, spacings]
    exact Nat.mul_le_mul_right _ (halfEven_mono _ h)

theorem spacing_eq_two_pow {units k : Nat} (lower : 2 ^ (52 + k) ≤ units)
    (upper : units < 2 ^ (53 + k)) : spacing units = 2 ^ k := by
  have nonzero : units ≠ 0 := by
    have := Nat.two_pow_pos (52 + k)
    omega
  have exponent : units.log2 = 52 + k := by
    have low := (Nat.le_log2 nonzero).mpr lower
    have high := (Nat.log2_lt nonzero).mpr upper
    omega
  rw [spacing, exponent, Nat.add_sub_cancel_left]

theorem halfEven_add {den rest : Nat} (floor : Nat) (h : rest < den) :
    halfEven (floor * den + rest) den =
      if 2 * rest < den then floor
      else if den < 2 * rest then floor + 1
      else floor + floor % 2 := by
  have positive : 0 < den := by omega
  have quotient : (floor * den + rest) / den = floor := by
    rw [Nat.add_comm, Nat.add_mul_div_right _ _ positive, Nat.div_eq_of_lt h, Nat.zero_add]
  have remainder : (floor * den + rest) % den = rest := by
    rw [Nat.add_comm, Nat.add_mul_mod_self_right, Nat.mod_eq_of_lt h]
  simp only [halfEven, quotient, remainder]

theorem roundUnits_add {k floor rest : Nat} (lower : 2 ^ (52 : Nat) ≤ floor)
    (upper : floor < 2 ^ (53 : Nat)) (h : rest < 2 ^ k) :
    roundUnits (floor * 2 ^ k + rest) = halfEven (floor * 2 ^ k + rest) (2 ^ k) * 2 ^ k := by
  have low : 2 ^ (52 + k) ≤ floor * 2 ^ k + rest := by
    rw [Nat.pow_add]
    exact Nat.le_trans (Nat.mul_le_mul_right _ lower) (Nat.le_add_right _ _)
  have high : floor * 2 ^ k + rest < 2 ^ (53 + k) := by
    rw [Nat.pow_add]
    calc floor * 2 ^ k + rest < floor * 2 ^ k + 2 ^ k := Nat.add_lt_add_left h _
      _ = (floor + 1) * 2 ^ k := (Nat.succ_mul _ _).symm
      _ ≤ 2 ^ 53 * 2 ^ k := Nat.mul_le_mul_right _ upper
  simp only [roundUnits, roundQuotient, Nat.div_one, Nat.one_mul, spacing_eq_two_pow low high]

/-- The least magnitude that is rounded up to a power of two lies half a spacing below it: there the
tie goes up, since the last multiple before the power is an odd one. -/
theorem two_pow_le_roundUnits_iff {k units : Nat} :
    2 ^ (54 + k) ≤ roundUnits units ↔ 2 ^ (54 + k) - 2 ^ k ≤ units := by
  have positive := Nat.two_pow_pos k
  have double : 2 ^ (k + 1) = 2 * 2 ^ k := by rw [Nat.pow_succ, Nat.mul_comm]
  have whole : 2 ^ (54 + k) = 2 ^ 53 * 2 ^ (k + 1) := by
    rw [← Nat.pow_add]
    exact congrArg (2 ^ ·) (by omega)
  have less := @roundUnits_add (k + 1) (2 ^ 53 - 1) (2 ^ k - 1) (by decide) (by decide) (by omega)
  have tie := @roundUnits_add (k + 1) (2 ^ 53 - 1) (2 ^ k) (by decide) (by decide) (by omega)
  rw [halfEven_add _ (by omega), if_pos (by omega)] at less
  rw [halfEven_add _ (by omega), if_neg (by omega), if_neg (by omega)] at tie
  rw [whole]
  constructor
  · intro reaches
    apply Nat.le_of_not_lt
    intro below
    have order : units ≤ (2 ^ 53 - 1) * 2 ^ (k + 1) + (2 ^ k - 1) := by omega
    have rounded := roundUnits_mono order
    omega
  · intro above
    have order : (2 ^ 53 - 1) * 2 ^ (k + 1) + 2 ^ k ≤ units := by omega
    have rounded := roundUnits_mono order
    rw [tie] at rounded
    exact rounded

theorem ofQuotient_eq_infinite_iff {negative : Bool} {num den : Nat} :
    (∃ sign, ofQuotient negative num den = .infinite sign) ↔ limit ≤ roundQuotient num den := by
  rw [← Nat.not_lt, ofQuotient]
  by_cases inRange : roundQuotient num den < limit <;> simp [inRange]

theorem ofInt?_eq_none_iff_limit_le {n : Int} :
    ofInt? n = none ↔ limit ≤ roundUnits (n.natAbs * unitsPerOne) := by
  have infinite : ofInt? n = none ↔ ∃ sign, ofUnits (n * unitsPerOne) = .infinite sign := by
    rw [ofInt?]
    cases ofUnits (n * unitsPerOne) <;> simp
  have magnitude : (n * (unitsPerOne : Int)).natAbs = n.natAbs * unitsPerOne := by
    rw [Int.natAbs_mul, Int.natAbs_natCast]
  rw [infinite, ofUnits, ofQuotient_eq_infinite_iff, magnitude, roundUnits]

theorem two_pow_le_roundUnits_iff_mul_le {t e k j : Nat} (bits : e = 54 + k) (place : t = e + j)
    (units : Nat) : 2 ^ t ≤ roundUnits units ↔ (2 ^ e - 2 ^ k) * 2 ^ j ≤ units := by
  have top : t = 54 + (k + j) := by omega
  have scaled : 2 ^ (54 + (k + j)) - 2 ^ (k + j) = (2 ^ e - 2 ^ k) * 2 ^ j := by
    rw [Nat.sub_mul, ← Nat.pow_add, ← Nat.pow_add, ← place, top]
  rw [top, two_pow_le_roundUnits_iff, scaled]

/-- The magnitudes that are rounded beyond the largest double. -/
theorem limit_le_roundUnits_iff (units : Nat) :
    limit ≤ roundUnits units ↔ wholeLimit * unitsPerOne ≤ units := by
  unfold limit unitsPerOne wholeLimit
  exact @two_pow_le_roundUnits_iff_mul_le 2098 1024 970 1074 rfl rfl units

/-- Whole numbers have doubles near them up to half a spacing below the first power of two that is
no double. -/
theorem ofInt?_eq_none_iff {n : Int} : ofInt? n = none ↔ wholeLimit ≤ n.natAbs := by
  rw [ofInt?_eq_none_iff_limit_le, limit_le_roundUnits_iff]
  exact Nat.mul_le_mul_right_iff unitsPerOne_pos

example : ofInt? wholeLimit = none ∧ ofInt? (wholeLimit - 1) ≠ none := by
  decide +kernel

end Giro.Binary64
