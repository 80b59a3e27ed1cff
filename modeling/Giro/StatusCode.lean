import Giro.Text.Quoted

/-!
The outcomes of an instruction: eleven codes, each with its text, its reason and the status it
gives the transaction.
-/

namespace Giro

inductive Status where
  | failed
  | pending
  | successful
  deriving DecidableEq, Repr

def Status.text : Status → String
  | .failed => "failed"
  | .pending => "pending"
  | .successful => "successful"

inductive StatusCode where
  | missingKeywords
  | invalidKeywordOrder
  | malformedInstruction
  | invalidAmount
  | currencyMismatch
  | unsupportedCurrency
  | insufficientFunds
  | sameAccount
  | accountNotFound
  | executed
  | scheduled
  deriving DecidableEq, Repr

namespace StatusCode

def all : List StatusCode :=
  [.missingKeywords, .invalidKeywordOrder, .malformedInstruction, .invalidAmount,
   .currencyMismatch, .unsupportedCurrency, .insufficientFunds, .sameAccount, .accountNotFound,
   .executed, .scheduled]

def text : StatusCode → String
  | .missingKeywords => "SY01"
  | .invalidKeywordOrder => "SY02"
  | .malformedInstruction => "SY03"
  | .invalidAmount => "AM01"
  | .currencyMismatch => "CU01"
  | .unsupportedCurrency => "CU02"
  | .insufficientFunds => "AC01"
  | .sameAccount => "AC02"
  | .accountNotFound => "AC03"
  | .executed => "AP00"
  | .scheduled => "AP01"

def reason : StatusCode → String
  | .missingKeywords => "Missing required keywords"
  | .invalidKeywordOrder => "Invalid keyword order"
  | .malformedInstruction => "Malformed instruction: unable to parse keywords"
  | .invalidAmount => "Invalid amount. Amount must be a positive integer"
  | .currencyMismatch => "Account currency mismatch. Both accounts must have the same currency"
  | .unsupportedCurrency => "Unsupported currency. Only NGN, USD, GBP, and GHS are supported"
  | .insufficientFunds => "Insufficient funds in debit account"
  | .sameAccount => "Debit and credit accounts cannot be the same"
  | .accountNotFound => "Account not found"
  | .executed => "Transaction executed successfully"
  | .scheduled => "Transaction scheduled for future execution"

def status : StatusCode → Status
  | .executed => .successful
  | .scheduled => .pending
  | _ => .failed

def ofText? (text : String) : Option StatusCode :=
  all.find? (·.text = text)

def unknownMessage (text : String) : String :=
  Text.quoted text ++ " is not a valid StatusCode"

end StatusCode
end Giro
