import Giro.Amount
import Giro.Calendar.Clock
import Giro.Currency
import Giro.ExecutionDate
import Giro.Receipt

/-!
Settling an instruction. The rules are asked in a fixed order and the first one that is broken
gives the code; an instruction that breaks none is scheduled, when its date is still to come, or
executed. The clock is read only for a valid date, and the funds are looked at only for an
instruction that is due.
-/

namespace Giro

/-- What instructions are settled by: the currencies in use, in capital letters, and the day that
the clock shows. -/
structure Terms where
  currencies : List String
  today : Except ClockFault Day

inductive Fault where
  | clock (fault : ClockFault)
  | amountTooLarge
  deriving DecidableEq

def Fault.message : Fault → String
  | .clock (.unknownZone name) => "No time zone found with key " ++ name
  | .clock (.other message) => message
  | .amountTooLarge => "int too large to convert to float"

structure Request where
  accounts : List Account
  instruction : String
  deriving DecidableEq

/-- What the rules say about an instruction. -/
inductive Verdict where
  | rejected (code : StatusCode)
  | scheduled
  | executed (amount : Nat)
  deriving DecidableEq

def Verdict.code : Verdict → StatusCode
  | .rejected code => code
  | .scheduled => .scheduled
  | .executed _ => .executed

namespace Terms

/-- Terms with these currencies, which may be written in any case. -/
def of (currencies : List String) (today : Except ClockFault Day) : Terms where
  currencies := currencies.map capital
  today := today

/-- The rules after the date: an instruction with a date to come waits, and one that is due needs
funds. -/
def dueVerdict (debit : Account) (amount : Nat) (pending : Bool) : Verdict :=
  if pending then .scheduled
  else if debit.balance.covers amount then .executed amount
  else .rejected .insufficientFunds

/-- The rules about the date and what follows them. -/
def dateVerdict (terms : Terms) (debit : Account) (amount : Nat) :
    Option String → Except ClockFault Verdict
  | none => .ok (dueVerdict debit amount false)
  | some token =>
      match ExecutionDate.parse? token with
      | none => .ok (.rejected .malformedInstruction)
      | some day =>
          match terms.today with
          | .error fault => .error fault
          | .ok today => .ok (dueVerdict debit amount (today.before day))

/-- The first broken rule, or what is to be done. -/
def verdict (terms : Terms) (accounts : List Account) (ins : Instruction) :
    Except ClockFault Verdict :=
  match Amount.parse? ins.amount with
  | none => .ok (.rejected .invalidAmount)
  | some amount =>
      if !Currency.supported terms.currencies ins.currency then
        .ok (.rejected .unsupportedCurrency)
      else match Account.find? accounts ins.debitAccount,
          Account.find? accounts ins.creditAccount with
        | some debit, some credit =>
            if debit.id = credit.id then .ok (.rejected .sameAccount)
            else if !Currency.sameCode debit.currency credit.currency then
              .ok (.rejected .currencyMismatch)
            else if !Currency.sameCode ins.currency debit.currency then
              .ok (.rejected .currencyMismatch)
            else terms.dateVerdict debit amount ins.executeBy
        | _, _ => .ok (.rejected .accountNotFound)

end Terms

/-- One view after the transfer: every account with the debit id pays and every one with the
credit id receives. -/
def AccountView.transfer? (debit credit : String) (amount : Nat) (view : AccountView) :
    Option AccountView :=
  if view.id = debit then
    (view.balanceBefore.change? (-amount)).map fun balance => { view with balance }
  else if view.id = credit then
    (view.balanceBefore.change? amount).map fun balance => { view with balance }
  else some view

/-- The views after the transfer, unless the amount is too large for one of the balances. -/
def Account.transfer? (accounts : List Account) (debit credit : String) (amount : Nat) :
    Option (List AccountView) :=
  (Account.views accounts [debit, credit]).mapM (AccountView.transfer? debit credit amount)

namespace Terms

def settle (terms : Terms) (accounts : List Account) (ins : Instruction) : Except Fault Receipt :=
  match terms.verdict accounts ins with
  | .error fault => .error (.clock fault)
  | .ok (.executed amount) =>
      match Account.transfer? accounts ins.debitAccount ins.creditAccount amount with
      | some views => .ok (.of ins (some amount) .executed views)
      | none => .error .amountTooLarge
  | .ok verdict =>
      .ok (.of ins (Amount.parse? ins.amount) verdict.code
        (Account.views accounts [ins.debitAccount, ins.creditAccount]))

/-- The outcome of a request whose instruction is written in one of these grammars. -/
def outcomeIn (terms : Terms) (grammars : List Grammar) (request : Request) :
    Except Fault Receipt :=
  match Instruction.scan grammars request.instruction with
  | .error fault => .ok (.unread fault)
  | .ok ins => terms.settle request.accounts ins

def outcome (terms : Terms) (request : Request) : Except Fault Receipt :=
  terms.outcomeIn Grammar.standard request

end Terms
end Giro
