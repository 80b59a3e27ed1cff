import Giro.Text.Number

/-!
Amounts as they are written. A token is read as a whole number, and it is an amount if the number is
above zero and its own text is the token again. So of the many ways to write a number one is taken,
without a sign, leading zeros, separators and blanks.
-/

namespace Giro.Amount

def maxDigits : Nat := 4300

/-- The number that a token is the text of. The number is written to be compared with the token,
which could fail for one that has too many digits. -/
def check : Option String → Except Text.TooLong (Option Nat)
  | none => .ok none
  | some token =>
      if token.toList.isEmpty || token.toList.contains '-' || token.toList.contains '.' then
        .ok none
      else match Text.readWhole? maxDigits token.toList with
        | none => .ok none
        | some value =>
            if value ≤ 0 then .ok none
            else (Text.writeWhole maxDigits value.toNat).map fun text =>
              if text = token then some value.toNat else none

/-- The number of a token that is an amount. -/
def parse? (token : String) : Option Nat :=
  (check (some token)).toOption.join

end Giro.Amount
