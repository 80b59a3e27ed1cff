import Giro.Journal
import Giro.Text.Surrogate

/-!
Results as JSON values. A published balance that is not a finite number is `null`. A result with a
surrogate that has no partner is not published.
-/

namespace Giro

def Balance.toJson : Balance → Json
  | .whole value => .int value
  | .float value => .float value

def Balance.publish : Balance → Json
  | .whole value => .int value
  | .float (.finite negative magnitude) => .float (.finite negative magnitude)
  | .float _ => .null

def AccountView.toJson (balance : Balance → Json) (view : AccountView) : Json :=
  .obj
    [("id", .str view.id), ("balance", balance view.balance),
     ("balance_before", balance view.balanceBefore), ("currency", .str view.currency)]

/-- The members of a result in their order, with balances written in the given way. -/
def Receipt.toJson (balance : Balance → Json) (receipt : Receipt) : Json :=
  .obj
    [("type", .ofOption (fun form => .str form.text) receipt.form),
     ("amount", .ofOption (fun amount => .int (Int.ofNat amount)) receipt.amount),
     ("currency", .ofOption .str receipt.currency),
     ("debit_account", .ofOption .str receipt.debitAccount),
     ("credit_account", .ofOption .str receipt.creditAccount),
     ("execute_by", .ofOption .str receipt.executeBy),
     ("status", .str receipt.status.text),
     ("status_reason", .str receipt.statusReason),
     ("status_code", .str receipt.statusCode.text),
     ("accounts", .arr (receipt.accounts.map (AccountView.toJson balance)))]

def Receipt.texts (receipt : Receipt) : List String :=
  receipt.currency.toList ++ receipt.debitAccount.toList ++ receipt.creditAccount.toList ++
    receipt.executeBy.toList ++ receipt.accounts.flatMap fun view => [view.id, view.currency]

/-- Whether no text of a result has a surrogate without its partner; the request was read with
so many marks for each. -/
def Receipt.isWhole (marks : Nat) (receipt : Receipt) : Bool :=
  receipt.texts.all (Text.isWhole marks)

def Receipt.publish (receipt : Receipt) : Json :=
  receipt.toJson Balance.publish

end Giro
