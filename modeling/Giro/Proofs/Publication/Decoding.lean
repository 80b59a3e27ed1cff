import Giro.Publication

/-!
A published result tells the result: its fields and views are found again under their names. Only
which of the numbers that are not finite a balance was is lost.
-/

namespace Giro

namespace Json

/-- A member of an object, taken in the way that is asked for. -/
def member? {α : Type} (name : String) (take : Json → Option α) : Json → Option α
  | .obj members => (lastBinding? name members).bind take
  | _ => none

def string? : Json → Option String
  | .str s => some s
  | _ => none

@[simp] theorem string?_str (s : String) : string? (.str s) = some s := rfl

/-- The last member with the name counts. -/
@[simp] theorem member?_obj {α : Type} (name : String) (take : Json → Option α)
    (members : List (String × Json)) :
    member? name take (.obj members) = (lastBinding? name members).bind take := rfl

def natural? : Json → Option Nat
  | .int (.ofNat n) => some n
  | _ => none

def items? {α : Type} (take : Json → Option α) : Json → Option (List α)
  | .arr items => items.mapM take
  | _ => none

/-- What may be absent, which `null` stands for. -/
def absent? {α : Type} (take : Json → Option α) : Json → Option (Option α)
  | .null => some none
  | value => (take value).map some

/-- Where `null` is not the form of anything, what may be absent is found again. -/
theorem absent?_ofOption {α : Type} {encode : α → Json} {take : Json → Option α}
    (there : ∀ x, encode x ≠ .null) (taken : ∀ x, take (encode x) = some x) (x : Option α) :
    absent? take (ofOption encode x) = some x := by
  cases x with
  | none => rfl
  | some x =>
      rw [ofOption, absent?, taken]
      · rfl
      · exact there x

theorem items?_map {α β : Type} {encode : α → Json} {take : Json → Option β} {f : α → β}
    (taken : ∀ x, take (encode x) = some (f x)) (items : List α) :
    items? take (.arr (items.map encode)) = some (items.map f) := by
  rw [items?]
  induction items with
  | nil => rfl
  | cons first rest ih => simp [taken, ih]

end Json

def Form.ofText? (text : String) : Option Form :=
  [Form.debit, .credit].find? (·.text = text)

def Status.ofText? (text : String) : Option Status :=
  [Status.failed, .pending, .successful].find? (·.text = text)

@[simp] theorem Form.ofText?_text (form : Form) : ofText? form.text = some form := by
  cases form <;> decide

@[simp] theorem Status.ofText?_text (status : Status) : ofText? status.text = some status := by
  cases status <;> decide

@[simp] theorem StatusCode.ofText?_text (code : StatusCode) : ofText? code.text = some code := by
  cases code <;> decide

namespace Balance

/-- What a published balance still tells: all numbers that are not finite look the same. -/
def published : Balance → Balance
  | .float (.infinite _) => .float .nan
  | balance => balance

def ofJson? : Json → Option Balance
  | .int n => some (.whole n)
  | .float x => some (.float x)
  | .null => some (.float .nan)
  | _ => none

@[simp] theorem ofJson?_publish (balance : Balance) :
    ofJson? balance.publish = some balance.published := by
  cases balance with
  | whole n => rfl
  | float x => cases x <;> rfl

end Balance

namespace AccountView

def published (view : AccountView) : AccountView :=
  { view with
    balance := view.balance.published
    balanceBefore := view.balanceBefore.published }

def ofJson? (value : Json) : Option AccountView := do
  let id ← value.member? "id" Json.string?
  let balance ← value.member? "balance" Balance.ofJson?
  let balanceBefore ← value.member? "balance_before" Balance.ofJson?
  let currency ← value.member? "currency" Json.string?
  some { id, balance, balanceBefore, currency }

theorem ofJson?_toJson (view : AccountView) :
    ofJson? (view.toJson Balance.publish) = some view.published := by
  simp [ofJson?, toJson, Json.lastBinding?, published]

end AccountView

namespace Receipt

def published (receipt : Receipt) : Receipt :=
  { receipt with accounts := receipt.accounts.map AccountView.published }

def ofJson? (value : Json) : Option Receipt := do
  let form ← value.member? "type" (Json.absent? fun form => form.string?.bind Form.ofText?)
  let amount ← value.member? "amount" (Json.absent? Json.natural?)
  let currency ← value.member? "currency" (Json.absent? Json.string?)
  let debitAccount ← value.member? "debit_account" (Json.absent? Json.string?)
  let creditAccount ← value.member? "credit_account" (Json.absent? Json.string?)
  let executeBy ← value.member? "execute_by" (Json.absent? Json.string?)
  let status ← value.member? "status" fun status => status.string?.bind Status.ofText?
  let statusReason ← value.member? "status_reason" Json.string?
  let statusCode ← value.member? "status_code" fun code => code.string?.bind StatusCode.ofText?
  let accounts ← value.member? "accounts" (Json.items? AccountView.ofJson?)
  some
    { form, amount, currency, debitAccount, creditAccount, executeBy, status, statusReason,
      statusCode, accounts }

end Receipt

/-- Every member of the published result gives the field that it was made of. -/
theorem Receipt.ofJson?_publish (receipt : Receipt) :
    ofJson? receipt.publish = some receipt.published := by
  have form : receipt.publish.member? "type"
      (Json.absent? fun form => form.string?.bind Form.ofText?) = some receipt.form :=
    Json.absent?_ofOption (by simp) Form.ofText?_text receipt.form
  have amount : receipt.publish.member? "amount" (Json.absent? Json.natural?) =
      some receipt.amount :=
    Json.absent?_ofOption (by simp) (by simp [Json.natural?]) receipt.amount
  have currency : receipt.publish.member? "currency" (Json.absent? Json.string?) =
      some receipt.currency :=
    Json.absent?_ofOption (by simp) Json.string?_str receipt.currency
  have debitAccount : receipt.publish.member? "debit_account" (Json.absent? Json.string?) =
      some receipt.debitAccount :=
    Json.absent?_ofOption (by simp) Json.string?_str receipt.debitAccount
  have creditAccount : receipt.publish.member? "credit_account" (Json.absent? Json.string?) =
      some receipt.creditAccount :=
    Json.absent?_ofOption (by simp) Json.string?_str receipt.creditAccount
  have executeBy : receipt.publish.member? "execute_by" (Json.absent? Json.string?) =
      some receipt.executeBy :=
    Json.absent?_ofOption (by simp) Json.string?_str receipt.executeBy
  have status : (receipt.publish.member? "status" fun status =>
      status.string?.bind Status.ofText?) = some receipt.status :=
    Status.ofText?_text receipt.status
  have statusReason : receipt.publish.member? "status_reason" Json.string? =
      some receipt.statusReason := rfl
  have statusCode : (receipt.publish.member? "status_code" fun code =>
      code.string?.bind StatusCode.ofText?) = some receipt.statusCode :=
    StatusCode.ofText?_text receipt.statusCode
  have accounts : receipt.publish.member? "accounts" (Json.items? AccountView.ofJson?) =
      some receipt.published.accounts :=
    Json.items?_map AccountView.ofJson?_toJson receipt.accounts
  rw [ofJson?, form, amount, currency, debitAccount, creditAccount, executeBy, status,
    statusReason, statusCode, accounts]
  rfl

end Giro
