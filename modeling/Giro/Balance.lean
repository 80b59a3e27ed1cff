import Giro.Binary64.Basic

/-!
Balances: whole numbers of any size, or doubles. A comparison with an amount is exact. A change
of a whole balance is exact too; a double is changed by the double nearest to the amount, and that
needs the amount to be in range.
-/

namespace Giro

inductive Balance where
  | whole (value : Int)
  | float (value : Binary64)
  deriving DecidableEq

namespace Balance

def covers : Balance → Int → Bool
  | .whole value, amount => amount ≤ value
  | .float value, amount => value.atLeast amount

/-- The balance changed by an amount, unless that has no double near it. -/
def change? : Balance → Int → Option Balance
  | .whole value, delta => some (.whole (value + delta))
  | .float value, delta => (Binary64.ofInt? delta).map fun change => .float (value.add change)

def isFloat : Balance → Bool
  | .whole _ => false
  | .float _ => true

end Balance
end Giro
