import Giro.Text.Blank
import Giro.Text.Case
import Giro.Text.Cut

/-!
Currency codes. Codes are compared in capital letters, and a configured list is read from a text
with commas. A set of codes is a list whose order and repetitions do not count; it is shown sorted
and without them.
-/

namespace Giro.Currency

def sameCode (left right : String) : Bool :=
  capital left = capital right

def supported (codes : List String) (code : String) : Bool :=
  codes.contains (capital code)

/-- The pieces between the commas, trimmed and in capital letters, without the blank ones. -/
def listed (text : String) : List String :=
  let pieces := (Text.splitAt ',' text.toList).map Text.trim
  (pieces.filter fun piece => !piece.isEmpty).map fun piece => .ofList (Text.upper piece)

def insert (code : String) : List String → List String
  | [] => [code]
  | first :: rest =>
      if code < first then code :: first :: rest
      else if code = first then first :: rest
      else first :: insert code rest

/-- The codes in the order of their code points, each once. -/
def sorted (codes : List String) : List String :=
  codes.foldr insert []

end Giro.Currency
