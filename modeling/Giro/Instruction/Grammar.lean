/-!
The shapes of an instruction. A grammar is a verb at the beginning, two anchor phrases that the
instruction holds in this order, and the side of the account named between them. A date, where
there is one, follows the second account after its own phrase.
-/

namespace Giro

/-- The side an instruction is written from. -/
inductive Form where
  | debit
  | credit
  deriving DecidableEq, Repr

def Form.text : Form → String
  | .debit => "DEBIT"
  | .credit => "CREDIT"

structure Grammar where
  form : Form
  verb : String
  firstAnchor : String
  secondAnchor : String
  /-- Whether the account between the anchors is the one to debit. -/
  debitFirst : Bool
  deriving DecidableEq

namespace Grammar

def dateAnchor : String := " on "

def debit : Grammar where
  form := .debit
  verb := "debit"
  firstAnchor := "from account"
  secondAnchor := "for credit to account"
  debitFirst := true

def credit : Grammar where
  form := .credit
  verb := "credit"
  firstAnchor := "to account"
  secondAnchor := "for debit from account"
  debitFirst := false

def standard : List Grammar := [debit, credit]

end Grammar
end Giro
