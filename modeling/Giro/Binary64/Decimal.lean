import Giro.Binary64.Basic

/-!
Doubles and decimal notation: the double nearest to a decimal, and the decimal with the fewest
digits that reads back as a given double.
-/

namespace Giro.Binary64

attribute [local instance (high)] instPowNat

structure Scientific where
  digits : Nat
  exponent : Int
  deriving DecidableEq

def decimalLength (n : Nat) : Nat :=
  (Nat.toDigits 10 n).length

/-- The double nearest to a decimal. A decimal with its first digit beyond 10 ^ 310 is infinite
and one wholly below 10 ^ -330 is zero, whatever the digits, so no large power is computed. -/
def ofScientific (negative : Bool) (decimal : Scientific) : Binary64 :=
  let top := decimalLength decimal.digits + decimal.exponent
  if decimal.digits = 0 ∨ top < -330 then zero negative
  else if 310 < top then .infinite negative
  else ofQuotient negative
    (decimal.digits * 10 ^ decimal.exponent.toNat * unitsPerOne) (10 ^ (-decimal.exponent).toNat)

/-- Without trailing zeros among the digits. -/
def Scientific.normalize (decimal : Scientific) : Nat → Scientific
  | 0 => decimal
  | fuel + 1 =>
      if decimal.digits ≠ 0 ∧ decimal.digits % 10 = 0 then
        Scientific.normalize ⟨decimal.digits / 10, decimal.exponent + 1⟩ fuel
      else decimal

/-- The value is below ten to this power, and at least a tenth of it. -/
def decimalTop (m : Magnitude) : Int :=
  (decimalLength (m.units * 10 ^ (400 : Nat) / unitsPerOne) : Int) - 400

/-- The decimals with a given last place just below and just above a magnitude, the nearer first;
at the same distance the even one is first. -/
def neighbours (m : Magnitude) (place : Int) : List Scientific :=
  let num := m.units * 10 ^ (-place).toNat
  let den := unitsPerOne * 10 ^ place.toNat
  let floor := num / den
  let rest := num % den
  let below : Scientific := ⟨floor, place⟩
  let above : Scientific := ⟨floor + 1, place⟩
  if 2 * rest < den ∨ (2 * rest = den ∧ floor % 2 = 0) then [below, above] else [above, below]

/-- The first decimal that reads back as the magnitude, with `count` digits or more. -/
def shortestFrom (m : Magnitude) (count : Nat) : Nat → Option Scientific
  | 0 => none
  | fuel + 1 =>
      match (neighbours m (decimalTop m - count)).find? fun decimal =>
          ofScientific false decimal = .finite false m with
      | some decimal => some decimal
      | none => shortestFrom m (count + 1) fuel

/-- The decimal of fewest digits that reads back as the magnitude, and of those the nearest. -/
def shortest (m : Magnitude) : Scientific :=
  if m.units = 0 then ⟨0, 0⟩
  else match shortestFrom m 1 17 with
    | some decimal => decimal.normalize 20
    | none => ⟨m.units, 0⟩

end Giro.Binary64
