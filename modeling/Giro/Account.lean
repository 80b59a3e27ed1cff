import Giro.Balance
import Giro.Text.Case

/-!
Accounts as a caller shows them, and what is shown of them with a result. Ids need not be unique:
a look-up finds the first account with an id, a view list shows every one.
-/

namespace Giro

structure Account where
  id : String
  balance : Balance
  currency : String
  deriving DecidableEq

/-- An account beside its balance before the instruction. -/
structure AccountView where
  id : String
  balance : Balance
  balanceBefore : Balance
  currency : String
  deriving DecidableEq

namespace Account

def find? (accounts : List Account) (id : String) : Option Account :=
  List.find? (·.id = id) accounts

/-- The account as it is, with its currency in capital letters. -/
def view (account : Account) : AccountView where
  id := account.id
  balance := account.balance
  balanceBefore := account.balance
  currency := capital account.currency

/-- Views of the accounts with these ids, in the order of the accounts. -/
def views (accounts : List Account) (ids : List String) : List AccountView :=
  (accounts.filter fun account => ids.contains account.id).map view

end Account
end Giro
