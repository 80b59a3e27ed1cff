import Giro.Binary64.Rounding

/-!
Double precision numbers as exact values: not a number, an infinity, or a sign and a magnitude in
units of 2 ^ -1074. Sums round once, to nearest with ties to even; comparison with a whole number
is exact and rounds nothing.
-/

namespace Giro

attribute [local instance (high)] instPowNat

namespace Binary64

def unitsPerOne : Nat := 2 ^ (1074 : Nat)

/-- The first magnitude beyond the largest double, in units. -/
@[irreducible] def limit : Nat := 2 ^ (2098 : Nat)

theorem limit_pos : 0 < limit := by
  unfold limit
  exact Nat.two_pow_pos 2098

end Binary64

/-- The magnitude of a finite double, in units. -/
structure Magnitude where
  units : Nat
  representable : Binary64.Representable units
  lt_limit : units < Binary64.limit
  deriving DecidableEq

inductive Binary64 where
  | nan
  | infinite (negative : Bool)
  | finite (negative : Bool) (magnitude : Magnitude)
  deriving DecidableEq

namespace Binary64

def zero (negative : Bool) : Binary64 :=
  .finite negative ⟨0, representable_zero, limit_pos⟩

instance : Inhabited Binary64 := ⟨zero false⟩

/-- The double nearest to `num / den` units; a magnitude that rounds beyond the largest double
becomes an infinity. -/
def ofQuotient (negative : Bool) (num den : Nat) : Binary64 :=
  if h : roundQuotient num den < limit then
    .finite negative ⟨roundQuotient num den, representable_roundQuotient num den, h⟩
  else .infinite negative

/-- The double nearest to an exact number of units; no units give the positive zero. -/
def ofUnits (units : Int) : Binary64 :=
  ofQuotient (units < 0) units.natAbs 1

/-- The exact value in units, of finite numbers only. -/
def units? : Binary64 → Option Int
  | .finite negative magnitude => some (if negative then -magnitude.units else magnitude.units)
  | _ => none

/-- The rounded sum. Two zeros of one sign keep it, and every other sum that is exactly zero is
the positive zero. -/
def add : Binary64 → Binary64 → Binary64
  | .nan, _ | _, .nan => .nan
  | .infinite s, .infinite t => if s = t then .infinite s else .nan
  | .infinite s, .finite _ _ | .finite _ _, .infinite s => .infinite s
  | .finite s m, .finite t n =>
      if m.units = 0 ∧ n.units = 0 ∧ s = t then zero s
      else ofUnits
        ((if s then -(m.units : Int) else m.units) + (if t then -(n.units : Int) else n.units))

/-- The double nearest to a whole number, where one is in range. -/
def ofInt? (n : Int) : Option Binary64 :=
  match ofUnits (n * unitsPerOne) with
  | .infinite _ => none
  | x => some x

/-- Whether the number is at least the whole number, exactly; never so for one that is not a
number. -/
def atLeast (x : Binary64) (n : Int) : Bool :=
  match x with
  | .nan => false
  | .infinite negative => !negative
  | .finite negative m => n * unitsPerOne ≤ (if negative then -(m.units : Int) else m.units)

/-- Codes of one exponent in the interchange format. -/
def codesPerExponent : Nat := 2 ^ (52 : Nat)

def signBit (negative : Bool) : Nat :=
  if negative then 2048 * codesPerExponent else 0

/-- The 64 bits of the interchange format: sign, exponent, fraction. -/
def bits : Binary64 → Nat
  | .nan => 2047 * codesPerExponent + codesPerExponent / 2
  | .infinite negative => signBit negative + 2047 * codesPerExponent
  | .finite negative m =>
      signBit negative + (m.units.log2 - 52) * codesPerExponent + m.units / spacing m.units

end Binary64
end Giro
