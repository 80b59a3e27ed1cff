import Giro.Journal

/-!
A ledger: instructions settled one after the other, each against the balances that the ones before
it have left. After a result every account it shows takes the balance of its view.
-/

namespace Giro.Ledger

structure Step where
  terms : Terms
  instruction : String

/-- The accounts with the balances of the views, which are in the order of the accounts they
show. -/
def post : List Account → List AccountView → List Account
  | [], _ => []
  | accounts, [] => accounts
  | account :: rest, view :: views =>
      if account.id = view.id then { account with balance := view.balance } :: post rest views
      else account :: post rest (view :: views)

/-- The outcome of one step and the accounts after it. -/
def step (accounts : List Account) (s : Step) : Except Fault Receipt × List Account :=
  match (s.terms.process ⟨accounts, s.instruction⟩).outcome with
  | .ok receipt => (.ok receipt, post accounts receipt.accounts)
  | .error fault => (.error fault, accounts)

/-- The outcomes of all steps, each with the accounts after it. -/
def run (accounts : List Account) : List Step → List (Except Fault Receipt × List Account)
  | [] => []
  | s :: rest => step accounts s :: run (step accounts s).2 rest

def final (accounts : List Account) (steps : List Step) : List Account :=
  steps.foldl (fun accounts s => (step accounts s).2) accounts

end Giro.Ledger
