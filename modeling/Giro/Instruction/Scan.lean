import Giro.Instruction.Grammar
import Giro.StatusCode
import Giro.Text.Blank
import Giro.Text.Case
import Giro.Text.Cut

/-!
Taking an instruction apart. The text is put into small letters and trimmed, the first grammar
whose verb begins it is chosen, and the fields are what lies around the first occurrences of the
anchors. The fields are texts: what they mean is judged later.
-/

namespace Giro

structure Instruction where
  form : Form
  amount : String
  currency : String
  debitAccount : String
  creditAccount : String
  executeBy : Option String
  deriving DecidableEq

inductive ScanFault where
  | missingKeywords
  | keywordOrder
  | malformed
  deriving DecidableEq, Repr

def ScanFault.code : ScanFault → StatusCode
  | .missingKeywords => .missingKeywords
  | .keywordOrder => .invalidKeywordOrder
  | .malformed => .malformedInstruction

namespace Instruction

/-- The form in which a text is compared with the phrases. -/
def normalize (text : String) : List Char :=
  Text.trim (Text.lower text.toList)

/-- The account and the date in what follows the second anchor; an empty date is no date. -/
def splitDate (tail : List Char) : List Char × Option (List Char) :=
  match Text.cut? Grammar.dateAnchor.toList tail with
  | none => (Text.trim tail, none)
  | some (account, date) =>
      let date := Text.trim date
      (Text.trim account, if date.isEmpty then none else some date)

end Instruction

/-- The fields around the anchors, in a normal text that the verb begins. A slice that would end
before it begins is empty. -/
def Grammar.fields (g : Grammar) (text : List Char) : Except ScanFault Instruction :=
  match Text.cut? g.firstAnchor.toList text, Text.cut? g.secondAnchor.toList text with
  | some (beforeFirst, _), some (beforeSecond, tail) =>
      if beforeFirst.isEmpty || beforeSecond.length ≤ beforeFirst.length then .error .keywordOrder
      else match Text.words (beforeFirst.drop g.verb.length) with
        | amount :: currency :: _ =>
            let first := Text.trim (beforeSecond.drop (beforeFirst.length + g.firstAnchor.length))
            let (second, date) := Instruction.splitDate tail
            .ok
              { form := g.form
                amount := .ofList amount
                currency := .ofList (Text.upper currency)
                debitAccount := .ofList (if g.debitFirst then first else second)
                creditAccount := .ofList (if g.debitFirst then second else first)
                executeBy := date.map String.ofList }
        | _ => .error .malformed
  | _, _ => .error .missingKeywords

namespace Instruction

/-- The fields of an instruction in the first grammar whose verb begins it. -/
def scan (grammars : List Grammar) (text : String) : Except ScanFault Instruction :=
  let text := normalize text
  match grammars.find? fun g => g.verb.toList.isPrefixOf text with
  | none => .error .malformed
  | some g => g.fields text

end Instruction
end Giro
