import Mathlib.Algebra.Order.Field.Basic
import Mathlib.Data.Rat.Cast.Order
import Mathlib.Tactic.Linarith
import Giro.Proofs.Binary64.Nearest

/-!
Doubles as rational numbers. A sum and a whole number are rounded to a nearest double, of two
nearest ones to the even one, and to an infinity where they lie beyond the range. So the rounded
number is the exact one where that has a double at all.
-/

namespace Giro.Binary64

attribute [local instance (high)] instPowNat

/-- The exact value, of finite numbers only. -/
def value? (x : Binary64) : Option ℚ :=
  x.units?.map fun units : Int => (units : ℚ) / unitsPerOne

def IsDouble (exact : ℚ) : Prop :=
  ∃ x : Binary64, x.value? = some exact

def Even : Binary64 → Prop
  | .finite _ m => EvenLast m.units
  | _ => False

/-- A double in range of which no other is nearer to an exact number, and which is even where
another is as near. -/
structure Nearest (x : Binary64) (value exact : ℚ) : Prop where
  value_eq : x.value? = some value
  inRange : |exact| < wholeLimit
  least : ∀ other, IsDouble other → |value - exact| ≤ |other - exact|
  even : ∀ other, IsDouble other → other ≠ value → |other - exact| = |value - exact| → x.Even

/-- An exact number rounded once. -/
def Rounds (x : Binary64) (exact : ℚ) : Prop :=
  (∃ value, Nearest x value exact) ∨ (wholeLimit ≤ |exact| ∧ x = .infinite (exact < 0))

/-- A magnitude with a sign. -/
def signed (negative : Bool) (units : Nat) : Int :=
  if negative then -units else units

theorem natAbs_signed (negative : Bool) (units : Nat) : (signed negative units).natAbs = units := by
  cases negative <;> simp [signed]

theorem signed_of_neg {units : Int} (negative : units < 0) (magnitude : Nat) :
    signed (units < 0) magnitude = -magnitude := by
  simp [signed, negative]

theorem signed_of_nonneg {units : Int} (nonneg : 0 ≤ units) (magnitude : Nat) :
    signed (units < 0) magnitude = magnitude := by
  simp [signed, Int.not_lt.mpr nonneg]

theorem signed_natAbs (units : Int) : signed (units < 0) units.natAbs = units := by
  rcases lt_or_ge units 0 with negative | nonneg
  · rw [signed_of_neg negative]
    omega
  · rw [signed_of_nonneg nonneg]
    omega

theorem units?_finite (negative : Bool) (m : Magnitude) :
    (finite negative m).units? = some (signed negative m.units) := by
  cases negative <;> rfl

theorem units?_eq_some_iff {x : Binary64} {units : Int} :
    x.units? = some units ↔
      ∃ negative m, x = .finite negative m ∧ signed negative m.units = units := by
  cases x with
  | nan => simp [units?]
  | infinite negative => simp [units?]
  | finite negative m => simp [units?_finite]

theorem unitsPerOne_pos_rat : (0 : ℚ) < unitsPerOne :=
  Nat.cast_pos.mpr unitsPerOne_pos

theorem div_unitsPerOne_inj {a b : Int} : (a : ℚ) / unitsPerOne = b / unitsPerOne ↔ a = b := by
  rw [div_left_inj' (ne_of_gt unitsPerOne_pos_rat), Int.cast_inj]

theorem mul_unitsPerOne_div (n : Int) : ((n * unitsPerOne : Int) : ℚ) / unitsPerOne = n := by
  rw [Int.cast_mul, Int.cast_natCast, mul_div_cancel_right₀ _ (ne_of_gt unitsPerOne_pos_rat)]

theorem natCast_eq_div (n : Nat) :
    (n : ℚ) = ((n * unitsPerOne : Nat) : Int) / unitsPerOne := by
  rw [Nat.cast_mul, mul_unitsPerOne_div, Int.cast_natCast]

theorem value?_eq_some_iff {x : Binary64} {exact : ℚ} :
    x.value? = some exact ↔ ∃ units : Int, x.units? = some units ∧ units / unitsPerOne = exact := by
  rw [value?, Option.map_eq_some_iff]

theorem value?_eq_div_iff {x : Binary64} {units : Int} :
    x.value? = some ((units : ℚ) / unitsPerOne) ↔ x.units? = some units := by
  rw [value?_eq_some_iff]
  constructor
  · rintro ⟨units', eq, same⟩
    rwa [← div_unitsPerOne_inj.mp same]
  · intro eq
    exact ⟨units, eq, rfl⟩

theorem value?_of_units? {x : Binary64} {n : Int} (h : x.units? = some (n * unitsPerOne)) :
    x.value? = some (n : ℚ) := by
  rw [← mul_unitsPerOne_div n, value?_eq_div_iff, h]

/-- The distance of two whole numbers of units. -/
theorem abs_div_sub_div (a b : Int) :
    |(a : ℚ) / unitsPerOne - b / unitsPerOne| = ((a - b).natAbs : ℚ) / unitsPerOne := by
  rw [← sub_div, abs_div, abs_of_pos unitsPerOne_pos_rat, ← Int.cast_sub, Nat.cast_natAbs,
    Int.cast_abs]

theorem abs_div_lt_wholeLimit_iff {units : Int} :
    |(units : ℚ) / unitsPerOne| < wholeLimit ↔ units.natAbs < wholeLimit * unitsPerOne := by
  have distance := abs_div_sub_div units 0
  rw [Int.cast_zero, zero_div, sub_zero, Int.sub_zero] at distance
  rw [distance, div_lt_iff₀ unitsPerOne_pos_rat]
  norm_cast

/-- A rational number has a double where it is a whole number of units with few significant bits
and not too large. -/
theorem isDouble_iff {units : Int} :
    IsDouble ((units : ℚ) / unitsPerOne) ↔ Representable units.natAbs ∧ units.natAbs < limit := by
  constructor
  · rintro ⟨x, h⟩
    obtain ⟨negative, m, -, rfl⟩ := units?_eq_some_iff.mp (value?_eq_div_iff.mp h)
    rw [natAbs_signed]
    exact ⟨m.representable, m.lt_limit⟩
  · rintro ⟨representable, inRange⟩
    refine ⟨.finite (units < 0) ⟨units.natAbs, representable, inRange⟩, ?_⟩
    rw [value?_eq_div_iff, units?_eq_some_iff]
    exact ⟨_, _, rfl, signed_natAbs units⟩

theorem IsDouble.exists_units {exact : ℚ} (h : IsDouble exact) :
    ∃ units : Int, exact = units / unitsPerOne ∧ Representable units.natAbs ∧
      units.natAbs < limit := by
  obtain ⟨x, eq⟩ := h
  obtain ⟨units, -, rfl⟩ := value?_eq_some_iff.mp eq
  exact ⟨units, rfl, isDouble_iff.mp ⟨x, eq⟩⟩

theorem IsDouble.neg {exact : ℚ} (h : IsDouble exact) : IsDouble (-exact) := by
  obtain ⟨units, rfl, representable, inRange⟩ := h.exists_units
  rw [← neg_div, ← Int.cast_neg, isDouble_iff, Int.natAbs_neg]
  exact ⟨representable, inRange⟩

theorem abs_lt_wholeLimit_of_isDouble {exact : ℚ} (h : IsDouble exact) : |exact| < wholeLimit := by
  obtain ⟨units, rfl, representable, inRange⟩ := h.exists_units
  rw [abs_div_lt_wholeLimit_iff, ← Nat.not_le, ← limit_le_roundUnits_iff,
    roundUnits_eq_self representable, Nat.not_le]
  exact inRange

/-- A number of units, rounded without regard to the range. -/
def roundSigned (units : Int) : Int :=
  signed (units < 0) (roundUnits units.natAbs)

theorem roundSigned_natCast (units : Nat) : roundSigned units = roundUnits units := by
  rw [roundSigned, signed_of_nonneg (Int.natCast_nonneg units), Int.natAbs_natCast]

theorem roundSigned_neg_natCast (units : Nat) : roundSigned (-units) = -roundUnits units := by
  by_cases zero : units = 0
  · subst zero
    decide
  · rw [roundSigned, signed_of_neg (by omega), Int.natAbs_neg, Int.natAbs_natCast]

section
variable {units other : Int}

theorem roundSigned_nearest (representable : Representable other.natAbs) :
    (roundSigned units - units).natAbs ≤ (other - units).natAbs := by
  -- A number of the other sign is no nearer than zero.
  have near := roundUnits_nearest units.natAbs representable
  have toZero := roundUnits_nearest units.natAbs representable_zero
  rcases lt_or_ge units 0 with negative | nonneg
  · rw [roundSigned, signed_of_neg negative]
    omega
  · rw [roundSigned, signed_of_nonneg nonneg]
    omega

theorem evenLast_of_signed_tie (representable : Representable other.natAbs)
    (differ : other ≠ roundSigned units)
    (tie : (other - units).natAbs = (roundSigned units - units).natAbs) :
    EvenLast (roundUnits units.natAbs) := by
  have toZero := roundUnits_nearest units.natAbs representable_zero
  rcases lt_or_ge units 0 with negative | nonneg
  · rw [roundSigned, signed_of_neg negative] at differ tie
    exact evenLast_of_tie representable (by omega) (by omega)
  · rw [roundSigned, signed_of_nonneg nonneg] at differ tie
    exact evenLast_of_tie representable (by omega) (by omega)

end

theorem ofUnits_of_lt {units : Int} (inRange : roundUnits units.natAbs < limit) :
    (ofUnits units).units? = some (roundSigned units) ∧
      ∃ m, ofUnits units = .finite (units < 0) m ∧ m.units = roundUnits units.natAbs := by
  have eq : ofUnits units = .finite (units < 0) ⟨_, representable_roundQuotient _ 1, inRange⟩ :=
    dif_pos inRange
  rw [eq]
  exact ⟨units?_finite _ _, _, rfl, rfl⟩

theorem ofUnits_of_le {units : Int} (beyond : limit ≤ roundUnits units.natAbs) :
    ofUnits units = .infinite (units < 0) :=
  dif_neg (Nat.not_lt.mpr beyond)

theorem eq_roundSigned_of_ofUnits {units rounded : Int}
    (h : (ofUnits units).units? = some rounded) : rounded = roundSigned units := by
  rcases Nat.lt_or_ge (roundUnits units.natAbs) limit with inRange | beyond
  · rw [(ofUnits_of_lt inRange).1] at h
    exact (Option.some.inj h).symm
  · rw [ofUnits_of_le beyond] at h
    cases h

/-- A whole number of units is rounded once. -/
theorem ofUnits_rounds (units : Int) : (ofUnits units).Rounds (units / unitsPerOne) := by
  rcases Nat.lt_or_ge (roundUnits units.natAbs) limit with inRange | beyond
  · obtain ⟨value, m, eq, magnitude⟩ := ofUnits_of_lt inRange
    left
    refine ⟨roundSigned units / unitsPerOne, value?_eq_div_iff.mpr value, ?range, ?least, ?even⟩
    case range =>
      rw [abs_div_lt_wholeLimit_iff, ← Nat.not_le, ← limit_le_roundUnits_iff, Nat.not_le]
      exact inRange
    case least =>
      intro other double
      obtain ⟨units', rfl, representable, -⟩ := double.exists_units
      rw [abs_div_sub_div, abs_div_sub_div]
      apply div_le_div_of_nonneg_right _ (le_of_lt unitsPerOne_pos_rat)
      exact Nat.cast_le.mpr (roundSigned_nearest representable)
    case even =>
      intro other double differ tie
      obtain ⟨units', rfl, representable, -⟩ := double.exists_units
      rw [abs_div_sub_div, abs_div_sub_div, div_left_inj' (ne_of_gt unitsPerOne_pos_rat),
        Nat.cast_inj] at tie
      have even := evenLast_of_signed_tie representable (fun same => differ (by rw [same])) tie
      rw [eq]
      rwa [← magnitude] at even
  · right
    constructor
    · rw [← not_lt, abs_div_lt_wholeLimit_iff, Nat.not_lt, ← limit_le_roundUnits_iff]
      exact beyond
    · rw [ofUnits_of_le beyond]
      congr 1
      rw [decide_eq_decide, div_lt_iff₀ unitsPerOne_pos_rat, zero_mul, Int.cast_lt_zero]

theorem Nearest.of_value {x : Binary64} {value : ℚ} (h : x.value? = some value) :
    Nearest x value value := by
  refine ⟨h, abs_lt_wholeLimit_of_isDouble ⟨x, h⟩, ?least, ?even⟩
  case least =>
    intro other _
    rw [sub_self, abs_zero]
    exact abs_nonneg _
  case even =>
    intro other _ differ tie
    rw [sub_self, abs_zero, abs_eq_zero, sub_eq_zero] at tie
    exact absurd tie differ

/-- A sum is rounded in units, or it is a sum of two zeros. -/
theorem add_cases {x y : Binary64} {a b : Int} (hx : x.units? = some a) (hy : y.units? = some b) :
    x.add y = ofUnits (a + b) ∨ (a + b = 0 ∧ (x.add y).units? = some 0) := by
  obtain ⟨s, m, rfl, rfl⟩ := units?_eq_some_iff.mp hx
  obtain ⟨t, n, rfl, rfl⟩ := units?_eq_some_iff.mp hy
  simp only [add]
  split
  case isTrue zeros =>
    obtain ⟨noUnits, noUnits', -⟩ := zeros
    right
    simp [noUnits, noUnits', signed, zero, units?]
  case isFalse =>
    left
    rfl

theorem eq_roundSigned_of_add {x y : Binary64} {a b sum : Int} (hx : x.units? = some a)
    (hy : y.units? = some b) (h : (x.add y).units? = some sum) : sum = roundSigned (a + b) := by
  obtain eq | ⟨none, eq⟩ := add_cases hx hy
  · rw [eq] at h
    exact eq_roundSigned_of_ofUnits h
  · rw [none, ← Option.some.inj (eq.symm.trans h)]
    decide

/-- A sum is the exact sum, rounded once. -/
theorem add_rounds {x y : Binary64} {p q : ℚ} (hx : x.value? = some p) (hy : y.value? = some q) :
    (x.add y).Rounds (p + q) := by
  obtain ⟨a, isUnits, rfl⟩ := value?_eq_some_iff.mp hx
  obtain ⟨b, isUnits', rfl⟩ := value?_eq_some_iff.mp hy
  rw [← add_div, ← Int.cast_add]
  obtain eq | ⟨none, eq⟩ := add_cases isUnits isUnits'
  · rw [eq]
    exact ofUnits_rounds _
  · rw [none]
    exact .inl ⟨_, .of_value (value?_eq_div_iff.mpr eq)⟩

theorem ofUnits_of_ofInt? {n : Int} {x : Binary64} (h : ofInt? n = some x) :
    x = ofUnits (n * unitsPerOne) ∧ ∀ negative, x ≠ .infinite negative := by
  rw [ofInt?] at h
  split at h
  case h_1 => contradiction
  case h_2 finite =>
    obtain rfl := Option.some.inj h
    exact ⟨rfl, finite⟩

theorem exists_nearest_of_ofInt? {n : Int} {x : Binary64} (h : ofInt? n = some x) :
    ∃ value, Nearest x value n := by
  have rounded := ofUnits_rounds (n * unitsPerOne)
  obtain ⟨eq, finite⟩ := ofUnits_of_ofInt? h
  rw [mul_unitsPerOne_div, ← eq] at rounded
  obtain nearest | ⟨-, infinite⟩ := rounded
  · exact nearest
  · exact absurd infinite (finite _)

theorem Nearest.eq_of_isDouble {x : Binary64} {value exact : ℚ} (h : Nearest x value exact)
    (double : IsDouble exact) : value = exact := by
  have distance := h.least exact double
  rw [sub_self, abs_zero] at distance
  exact sub_eq_zero.mp (abs_eq_zero.mp (le_antisymm distance (abs_nonneg _)))

/-- A rounded number is the exact one where that has a double. -/
theorem Rounds.value?_eq_iff {x : Binary64} {exact : ℚ} (h : x.Rounds exact) :
    x.value? = some exact ↔ IsDouble exact := by
  constructor
  · intro eq
    exact ⟨x, eq⟩
  · intro double
    obtain ⟨value, nearest⟩ | ⟨beyond, -⟩ := h
    · rw [nearest.value_eq, nearest.eq_of_isDouble double]
    · exact absurd (abs_lt_wholeLimit_of_isDouble double) (not_lt.mpr beyond)

theorem atLeast_iff {x : Binary64} {exact : ℚ} (h : x.value? = some exact) (n : Int) :
    x.atLeast n = true ↔ (n : ℚ) ≤ exact := by
  obtain ⟨units, isUnits, rfl⟩ := value?_eq_some_iff.mp h
  obtain ⟨negative, m, rfl, rfl⟩ := units?_eq_some_iff.mp isUnits
  rw [le_div_iff₀ unitsPerOne_pos_rat, ← Int.cast_natCast unitsPerOne, ← Int.cast_mul, Int.cast_le]
  simp only [atLeast, decide_eq_true_eq]
  rfl

theorem isDouble_natCast_iff {n : Nat} :
    IsDouble n ↔ Representable (n * unitsPerOne) ∧ n * unitsPerOne < limit := by
  rw [natCast_eq_div, isDouble_iff, Int.natAbs_natCast]

theorem isDouble_natCast {n : Nat} (small : n ≤ 2 ^ (53 : Nat)) : IsDouble n :=
  isDouble_natCast_iff.mpr (representable_mul_unitsPerOne small)

/-- A number that covers a whole number is a magnitude in units. -/
theorem exists_magnitude_of_natCast_le {x : Binary64} {exact : ℚ} {n : Nat}
    (h : x.value? = some exact) (le : n ≤ exact) :
    ∃ m : Magnitude, x.units? = some (m.units : Int) ∧ exact = (m.units : Int) / unitsPerOne ∧
      n * unitsPerOne ≤ m.units := by
  obtain ⟨units, isUnits, rfl⟩ := value?_eq_some_iff.mp h
  obtain ⟨negative, m, rfl, rfl⟩ := units?_eq_some_iff.mp isUnits
  rw [le_div_iff₀ unitsPerOne_pos_rat, ← Nat.cast_mul, ← Int.cast_natCast, Int.cast_le] at le
  have magnitude := natAbs_signed negative m.units
  have same : signed negative m.units = m.units := by omega
  rw [same] at isUnits le ⊢
  exact ⟨m, isUnits, rfl, Int.ofNat_le.mp le⟩

/-- Below the first whole number without a double every covered whole number can be taken away
exactly. -/
theorem isDouble_sub_natCast {exact : ℚ} {n : Nat} (double : IsDouble exact) (le : n ≤ exact)
    (small : exact < (2 ^ (53 : Nat) : Nat)) : IsDouble (exact - n) := by
  obtain ⟨x, h⟩ := double
  obtain ⟨m, -, rfl, covered⟩ := exists_magnitude_of_natCast_le h le
  have below : m.units < 2 ^ (53 : Nat) * unitsPerOne := by
    rwa [div_lt_iff₀ unitsPerOne_pos_rat, Int.cast_natCast, ← Nat.cast_mul, Nat.cast_lt] at small
  have grid : spacing m.units ∣ n * unitsPerOne :=
    Nat.dvd_trans (spacing_dvd_unitsPerOne below) (Nat.dvd_mul_left _ _)
  rw [natCast_eq_div n, ← sub_div, ← Int.cast_sub, ← Int.ofNat_sub covered, isDouble_iff,
    Int.natAbs_natCast]
  exact ⟨representable_sub_of_dvd m.representable grid,
    Nat.lt_of_le_of_lt (Nat.sub_le _ _) m.lt_limit⟩

/-- A covered whole number that is rounded before it is taken away leaves the exact rest only where
it has a double itself. -/
theorem isDouble_of_value?_add {x moved : Binary64} {exact : ℚ} {n : Nat}
    (h : x.value? = some exact) (le : n ≤ exact) (step : ofInt? (-n) = some moved)
    (rest : (x.add moved).value? = some (exact - n)) : IsDouble n := by
  obtain ⟨m, isUnits, rfl, covered⟩ := exists_magnitude_of_natCast_le h le
  obtain ⟨eq, finite⟩ := ofUnits_of_ofInt? step
  rw [natCast_eq_div n, ← sub_div, ← Int.cast_sub, ← Int.ofNat_sub covered, value?_eq_div_iff]
    at rest
  have amount : moved.units? = some (-roundUnits (n * unitsPerOne) : Int) := by
    rw [eq] at finite ⊢
    rw [Int.neg_mul, ← Int.natCast_mul] at finite ⊢
    rcases Nat.lt_or_ge (roundUnits (-(n * unitsPerOne : Nat) : Int).natAbs) limit with
      inRange | beyond
    · rw [(ofUnits_of_lt inRange).1, roundSigned_neg_natCast]
    · exact absurd (ofUnits_of_le beyond) (finite _)
  have rounded := eq_roundSigned_of_add isUnits amount rest
  have bounded := roundUnits_le_of_representable m.representable covered
  rw [← Int.sub_eq_add_neg, ← Int.ofNat_sub bounded, roundSigned_natCast] at rounded
  rw [isDouble_natCast_iff]
  exact ⟨representable_of_roundUnits_sub m.representable covered (Int.ofNat_inj.mp rounded).symm,
    Nat.lt_of_le_of_lt covered m.lt_limit⟩

end Giro.Binary64
