import Giro.Text.CaseTable
import Giro.Text.CaseContext

/-!
Small and capital forms of whole texts, by the full mappings: a letter may become several
characters, and a capital sigma that ends its word takes the final form.
-/

namespace Giro.Text

/-- One character by a table: its listed expansion, or else the span that covers it. -/
def mapCase (expansions : List (Nat × List Nat)) (spans : List CaseSpan) (c : Char) : List Char :=
  match expansions.lookup c.toNat with
  | some codes => codes.map Char.ofNat
  | none => [Char.ofNat (moveBy spans c.toNat)]

/-- The small form of a character on its own; a sigma takes the form inside a word. -/
def lowerChar (c : Char) : List Char :=
  mapCase lowerExpansions lowerSpans c

def upperChar (c : Char) : List Char :=
  mapCase upperExpansions upperSpans c

/-- The small form of what follows a text; `afterCased` says whether the last character of that
text that is not ignorable is cased. -/
def lowerFrom (afterCased : Bool) : List Char → List Char
  | [] => []
  | c :: rest =>
      let small :=
        if c = 'Σ' then [if afterCased && !startsCased rest then 'ς' else 'σ'] else lowerChar c
      let afterCased :=
        match caseRole c with
        | .cased => true
        | .ignorable => afterCased
        | .neither => false
      small ++ lowerFrom afterCased rest

def lower (text : List Char) : List Char :=
  lowerFrom false text

def upper (text : List Char) : List Char :=
  text.flatMap upperChar

end Giro.Text

namespace Giro

def small (text : String) : String :=
  .ofList (Text.lower text.toList)

def capital (text : String) : String :=
  .ofList (Text.upper text.toList)

end Giro
