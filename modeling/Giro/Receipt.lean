import Giro.Account
import Giro.Instruction.Scan

/-!
The result of one instruction: what was read, what became of it and the accounts it names.
-/

namespace Giro

structure Receipt where
  form : Option Form
  amount : Option Nat
  currency : Option String
  debitAccount : Option String
  creditAccount : Option String
  executeBy : Option String
  status : Status
  statusReason : String
  statusCode : StatusCode
  accounts : List AccountView
  deriving DecidableEq

namespace Receipt

/-- The result for an instruction that could not be taken apart. -/
def unread (fault : ScanFault) : Receipt where
  form := none
  amount := none
  currency := none
  debitAccount := none
  creditAccount := none
  executeBy := none
  status := fault.code.status
  statusReason := fault.code.reason
  statusCode := fault.code
  accounts := []

def of (ins : Instruction) (amount : Option Nat) (code : StatusCode) (views : List AccountView) :
    Receipt where
  form := some ins.form
  amount := amount
  currency := some ins.currency
  debitAccount := some ins.debitAccount
  creditAccount := some ins.creditAccount
  executeBy := ins.executeBy
  status := code.status
  statusReason := code.reason
  statusCode := code
  accounts := views

end Receipt
end Giro
