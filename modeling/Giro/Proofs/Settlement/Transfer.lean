import Mathlib.Algebra.BigOperators.Group.List.Basic
import Mathlib.Data.List.Count
import Mathlib.Tactic.Ring
import Giro.Proofs.Amount
import Giro.Proofs.Settlement.Outcome

/-!
What a transfer does to whole balances. Every view of the debit id pays the amount and every view
of the credit id receives it, so the first account with each id, which is the one that was
checked, is the only one to change exactly when no other account has its id.
-/

namespace Giro

namespace Balance

/-- A whole balance after a change; a double stays. -/
def shift : Balance → Int → Balance
  | .whole value, change => .whole (value + change)
  | .float value, _ => .float value

def whole? : Balance → Option Int
  | .whole value => some value
  | .float _ => none

def total (balances : List Balance) : Int :=
  (balances.filterMap whole?).sum

theorem total_cons_whole (value : Int) (rest : List Balance) :
    total (.whole value :: rest) = value + total rest := by
  simp [total, whole?]

theorem shift_whole (value change : Int) : (whole value).shift change = .whole (value + change) :=
  rfl

@[simp] theorem shift_zero (balance : Balance) : balance.shift 0 = balance := by
  cases balance <;> simp [shift]

@[simp] theorem shift_shift (balance : Balance) (x y : Int) :
    (balance.shift x).shift y = balance.shift (x + y) := by
  cases balance <;> simp [shift, Int.add_assoc]

@[simp] theorem isFloat_shift (balance : Balance) (change : Int) :
    (balance.shift change).isFloat = balance.isFloat := by
  cases balance <;> rfl

theorem change?_of_whole {balance : Balance} (whole : balance.isFloat = false) (change : Int) :
    balance.change? change = some (balance.shift change) := by
  cases balance with
  | whole value => rfl
  | float value => simp [isFloat] at whole

theorem shift_ne_self {balance : Balance} (whole : balance.isFloat = false) {change : Int}
    (h : change ≠ 0) : balance.shift change ≠ balance := by
  cases balance with
  | whole value => simpa [shift] using h
  | float value => simp [isFloat] at whole

theorem covers_shift {balance : Balance} (whole : balance.isFloat = false) (change bound : Int) :
    (balance.shift change).covers bound = balance.covers (bound - change) := by
  cases balance with
  | whole value =>
      simp only [shift, covers, decide_eq_decide]
      omega
  | float value => simp [isFloat] at whole

theorem covers_mono {balance : Balance} (whole : balance.isFloat = false) {low high : Int}
    (le : low ≤ high) (h : balance.covers high = true) : balance.covers low = true := by
  cases balance with
  | whole value =>
      simp only [covers, decide_eq_true_eq] at h ⊢
      omega
  | float value => simp [isFloat] at whole

/-- Changes of whole balances change their sum by the sum of the changes. -/
theorem total_map_shift {α : Type} (items : List α) (balance : α → Balance) (change : α → Int)
    (whole : ∀ item ∈ items, (balance item).isFloat = false) :
    total (items.map fun item => (balance item).shift (change item)) =
      total (items.map balance) + (items.map change).sum := by
  induction items with
  | nil => rfl
  | cons item rest ih =>
      have tail := ih fun other h => whole other (List.mem_cons_of_mem item h)
      cases hb : balance item with
      | whole value =>
          rw [List.map_cons, List.map_cons, List.map_cons, hb, shift_whole, total_cons_whole,
            total_cons_whole, List.sum_cons, tail]
          ring
      | float value => simp [hb, isFloat] at whole

end Balance

namespace Account

/-- What a transfer adds to the balance of an account with this id. -/
def gain (debit credit : String) (amount : Nat) (id : String) : Int :=
  if id = debit then -amount else if id = credit then amount else 0

theorem gain_of_not_mem {debit credit id : String} (h : id ∉ [debit, credit]) (amount : Nat) :
    gain debit credit amount id = 0 := by
  simp only [List.mem_cons, List.not_mem_nil, or_false, not_or] at h
  simp [gain, h.1, h.2]

theorem sum_gain {debit credit : String} (distinct : debit ≠ credit) (amount : Nat)
    (ids : List String) :
    (ids.map (gain debit credit amount)).sum =
      amount * (ids.count credit : Int) - amount * (ids.count debit : Int) := by
  induction ids with
  | nil => simp
  | cons id rest ih =>
      rw [List.map_cons, List.sum_cons, ih]
      by_cases hd : id = debit
      · subst hd
        simp only [gain, if_true, List.count_cons_self, List.count_cons_of_ne distinct]
        push_cast
        ring
      · by_cases hc : id = credit
        · subst hc
          simp only [gain, hd, if_false, if_true, List.count_cons_self,
            List.count_cons_of_ne (Ne.symm distinct)]
          push_cast
          ring
        · simp [gain, hd, hc, List.count_cons_of_ne hd, List.count_cons_of_ne hc]

def viewAfter (debit credit : String) (amount : Nat) (account : Account) : AccountView :=
  { account.view with balance := account.balance.shift (gain debit credit amount account.id) }

section
variable (debit credit : String) (amount : Nat) (account : Account)

@[simp] theorem id_viewAfter : (viewAfter debit credit amount account).id = account.id := rfl

@[simp] theorem balanceBefore_viewAfter :
    (viewAfter debit credit amount account).balanceBefore = account.balance := rfl

@[simp] theorem balance_viewAfter : (viewAfter debit credit amount account).balance =
    account.balance.shift (gain debit credit amount account.id) := rfl

end

theorem transfer?_view {debit credit : String} {account : Account}
    (whole : account.balance.isFloat = false) (amount : Nat) :
    account.view.transfer? debit credit amount = some (viewAfter debit credit amount account) := by
  simp only [AccountView.transfer?, viewAfter, gain, view, Balance.change?_of_whole whole]
  split
  · rfl
  · split <;> simp

/-- A transfer between whole balances always succeeds and changes every view by what it adds to
its id. -/
theorem transfer?_of_whole {accounts : List Account}
    (whole : ∀ account ∈ accounts, account.balance.isFloat = false)
    (debit credit : String) (amount : Nat) :
    transfer? accounts debit credit amount =
      some ((named accounts [debit, credit]).map (viewAfter debit credit amount)) := by
  have selected : ∀ account ∈ named accounts [debit, credit], account.balance.isFloat = false :=
    fun account h => whole account (mem_named.mp h).1
  rw [transfer?, views_eq_map_named]
  generalize named accounts [debit, credit] = shown at selected
  induction shown with
  | nil => rfl
  | cons account rest ih =>
      have tail := ih fun other h => selected other (List.mem_cons_of_mem account h)
      rw [List.map_cons, List.mapM_cons, transfer?_view (selected account List.mem_cons_self), tail]
      rfl

theorem count_id_named (accounts : List Account) {ids : List String} {id : String}
    (h : id ∈ ids) :
    ((named accounts ids).map Account.id).count id = (accounts.map Account.id).count id := by
  rw [map_id_named, List.count_filter (by simpa using h)]

end Account

namespace AccountView

/-- Of the views only two have changed: the first one with the debit id has paid the amount, and
the first one with the credit id has received it. -/
structure OnlyFirstChanged (views : List AccountView) (debit credit : String) (amount : Nat) :
    Prop where
  pays : ∃ before view after, views = before ++ view :: after ∧ view.id = debit ∧
    (∀ other ∈ before, other.id ≠ debit) ∧ view.balance = view.balanceBefore.shift (-amount)
  receives : ∃ before view after, views = before ++ view :: after ∧ view.id = credit ∧
    (∀ other ∈ before, other.id ≠ credit) ∧ view.balance = view.balanceBefore.shift amount
  keeps : ∀ before view after, views = before ++ view :: after →
    (view.id = debit → ∃ other ∈ before, other.id = debit) →
    (view.id = credit → ∃ other ∈ before, other.id = credit) →
    view.balance = view.balanceBefore

/-- An id occurs once when it occurs and no view with it follows another one. -/
theorem count_id_eq_one_iff {views : List AccountView} {id : String} :
    (views.map AccountView.id).count id = 1 ↔
      (∃ view ∈ views, view.id = id) ∧
      ∀ before view after, views = before ++ view :: after → view.id = id →
        ∀ other ∈ before, other.id ≠ id := by
  constructor
  · intro once
    have occurs : id ∈ views.map AccountView.id := List.count_pos_iff.mp (by omega)
    refine ⟨List.mem_map.mp occurs, ?_⟩
    rintro before view after rfl same other member eq
    have earlier : 0 < (before.map AccountView.id).count id :=
      List.count_pos_iff.mpr (List.mem_map.mpr ⟨other, member, eq⟩)
    rw [List.map_append, List.map_cons, same, List.count_append, List.count_cons_self] at once
    omega
  · rintro ⟨⟨view, member, same⟩, single⟩
    obtain ⟨before, after, rfl⟩ := List.append_of_mem member
    have front : (before.map AccountView.id).count id = 0 := by
      rw [List.count_eq_zero]
      simpa using single before view after rfl same
    have back : (after.map AccountView.id).count id = 0 := by
      rw [List.count_eq_zero]
      intro later
      obtain ⟨next, member, eq⟩ := List.mem_map.mp later
      obtain ⟨middle, rest, rfl⟩ := List.append_of_mem member
      exact single (before ++ view :: middle) next rest (by simp) eq view (by simp) same
    rw [List.map_append, List.map_cons, same, List.count_append, List.count_cons_self, front, back]

/-- Where every view has changed by what the transfer adds to its id, only the first ones have
changed when no id occurs again. -/
theorem onlyFirstChanged_iff {views : List AccountView} {debit credit : String} {amount : Nat}
    (distinct : debit ≠ credit) (positive : 0 < amount)
    (known : ∀ view ∈ views, view.id ∈ [debit, credit])
    (whole : ∀ view ∈ views, view.balanceBefore.isFloat = false)
    (changed : ∀ view ∈ views,
      view.balance = view.balanceBefore.shift (Account.gain debit credit amount view.id)) :
    OnlyFirstChanged views debit credit amount ↔
      (views.map AccountView.id).count debit = 1 ∧ (views.map AccountView.id).count credit = 1 := by
  have pays : Account.gain debit credit amount debit = -amount := by simp [Account.gain]
  have receives : Account.gain debit credit amount credit = amount := by
    simp [Account.gain, Ne.symm distinct]
  have moved : ∀ view ∈ views, view.balance ≠ view.balanceBefore := by
    intro view member
    rw [changed view member]
    apply Balance.shift_ne_self (whole view member)
    obtain same | same := List.mem_pair.mp (known view member)
    · rw [same, pays]
      omega
    · rw [same, receives]
      omega
  rw [count_id_eq_one_iff, count_id_eq_one_iff]
  constructor
  · intro only
    obtain ⟨_, payer, _, split, isPayer, -⟩ := only.pays
    obtain ⟨_, receiver, _, split', isReceiver, -⟩ := only.receives
    refine ⟨⟨⟨payer, by simp [split], isPayer⟩, ?_⟩, ⟨receiver, by simp [split'], isReceiver⟩, ?_⟩
    -- A second view of either id has changed, although it is not the first.
    · intro before view after eq same other member again
      exact moved view (by simp [eq]) (only.keeps before view after eq
        (fun _ => ⟨other, member, again⟩) fun same' => absurd (same.symm.trans same') distinct)
    · intro before view after eq same other member again
      exact moved view (by simp [eq]) (only.keeps before view after eq
        (fun same' => absurd (same'.symm.trans same) distinct) fun _ => ⟨other, member, again⟩)
  · rintro ⟨⟨⟨payer, isMember, isPayer⟩, onePayer⟩, ⟨receiver, isMember', isReceiver⟩, oneReceiver⟩
    refine ⟨?_, ?_, ?_⟩
    · obtain ⟨before, after, eq⟩ := List.append_of_mem isMember
      refine ⟨before, payer, after, eq, isPayer, onePayer before payer after eq isPayer, ?_⟩
      rw [changed payer isMember, isPayer, pays]
    · obtain ⟨before, after, eq⟩ := List.append_of_mem isMember'
      refine ⟨before, receiver, after, eq, isReceiver,
        oneReceiver before receiver after eq isReceiver, ?_⟩
      rw [changed receiver isMember', isReceiver, receives]
    · intro before view after eq repeatsPayer repeatsReceiver
      obtain same | same := List.mem_pair.mp (known view (by simp [eq]))
      · obtain ⟨other, member, again⟩ := repeatsPayer same
        exact absurd again (onePayer before view after eq same other member)
      · obtain ⟨other, member, again⟩ := repeatsReceiver same
        exact absurd again (oneReceiver before view after eq same other member)

end AccountView

namespace Account

section
variable {debit credit : String} {shown : List Account}

theorem onlyFirstChanged_viewAfter_iff {amount : Nat} (distinct : debit ≠ credit)
    (positive : 0 < amount) (known : ∀ account ∈ shown, account.id ∈ [debit, credit])
    (whole : ∀ account ∈ shown, account.balance.isFloat = false) :
    AccountView.OnlyFirstChanged (shown.map (viewAfter debit credit amount)) debit credit amount ↔
      (shown.map id).count debit = 1 ∧ (shown.map id).count credit = 1 := by
  have ids : (shown.map (viewAfter debit credit amount)).map AccountView.id = shown.map id := by
    rw [List.map_map]
    rfl
  rw [← ids]
  refine AccountView.onlyFirstChanged_iff distinct positive ?_ ?_ ?_
  · simpa using known
  · simpa using whole
  · simp

theorem total_viewAfter (distinct : debit ≠ credit) (amount : Nat)
    (whole : ∀ account ∈ shown, account.balance.isFloat = false) :
    Balance.total ((shown.map (viewAfter debit credit amount)).map AccountView.balance) =
      Balance.total ((shown.map (viewAfter debit credit amount)).map AccountView.balanceBefore) +
        (amount * (shown.map id).count credit - amount * (shown.map id).count debit : Int) := by
  rw [← sum_gain distinct amount, List.map_map, List.map_map, List.map_map]
  exact Balance.total_map_shift shown Account.balance
    (fun account => gain debit credit amount account.id) whole

end

end Account

namespace Terms

/-- What a successful result says of a transfer between whole balances. -/
structure Transfers (request : Request) (receipt : Receipt) (debit credit : String)
    (amount : Nat) : Prop where
  debitAccount : receipt.debitAccount = some debit
  creditAccount : receipt.creditAccount = some credit
  amount_eq : receipt.amount = some amount
  positive : 0 < amount
  accounts : receipt.accounts =
    (Account.named request.accounts [debit, credit]).map (Account.viewAfter debit credit amount)
  onlyFirst_iff : AccountView.OnlyFirstChanged receipt.accounts debit credit amount ↔
    (request.accounts.map Account.id).count debit = 1 ∧
    (request.accounts.map Account.id).count credit = 1
  total_eq : Balance.total (receipt.accounts.map AccountView.balance) =
    Balance.total (receipt.accounts.map AccountView.balanceBefore) +
      (amount * (request.accounts.map Account.id).count credit -
        amount * (request.accounts.map Account.id).count debit : Int)

/-- After a successful transfer between whole balances only the first account with each of the two
ids has changed exactly when no other account has its id. The sum of the balances grows by the
amount for each account that receives and shrinks by it for each one that pays. -/
theorem exists_transfers_of_successful {terms : Terms} {request : Request} {receipt : Receipt}
    (whole : ∀ account ∈ request.accounts, account.balance.isFloat = false)
    (h : terms.outcome request = .ok receipt) (success : receipt.status = .successful) :
    ∃ debit credit amount, Transfers request receipt debit credit amount := by
  obtain ⟨ins, amount, debit, credit, views, checked, covers, hviews, rfl⟩ :=
    transfer_of_successful h success
  rw [Account.transfer?_of_whole whole, Option.some.injEq] at hviews
  have distinct := checked.ids_ne
  have positive := (Amount.parse?_eq_some_iff.mp checked.readsAmount).positive
  have debits := Account.count_id_named request.accounts
    (show ins.debitAccount ∈ [ins.debitAccount, ins.creditAccount] by simp)
  have credits := Account.count_id_named request.accounts
    (show ins.creditAccount ∈ [ins.debitAccount, ins.creditAccount] by simp)
  have known : ∀ account ∈ Account.named request.accounts [ins.debitAccount, ins.creditAccount],
      account.id ∈ [ins.debitAccount, ins.creditAccount] :=
    fun account member => (Account.mem_named.mp member).2
  have wholeShown : ∀ account ∈
      Account.named request.accounts [ins.debitAccount, ins.creditAccount],
      account.balance.isFloat = false :=
    fun account member => whole account (Account.mem_named.mp member).1
  refine ⟨ins.debitAccount, ins.creditAccount, amount, rfl, rfl, rfl, positive, hviews.symm, ?_, ?_⟩
  · rw [Receipt.accounts_of, ← hviews, ← debits, ← credits]
    exact Account.onlyFirstChanged_viewAfter_iff distinct positive known wholeShown
  · rw [Receipt.accounts_of, ← hviews, ← debits, ← credits]
    exact Account.total_viewAfter distinct amount wholeShown

theorem exists_transfers_of_three_payers :
    ∃ receipt, (Terms.of ["ngn"] (.ok ⟨2025, 6, 15⟩)).outcome
        ⟨[⟨"a2", .whole 1, "ngn"⟩, ⟨"a1", .whole 100, "NGN"⟩, ⟨"z", .whole 9, "NGN"⟩,
          ⟨"a1", .whole 3, "USD"⟩, ⟨"a1", .whole 50, "NGN"⟩],
          "credit 100 NGN to account a2 for debit from account a1 on 2025-06-15"⟩ = .ok receipt ∧
      receipt.status = .successful ∧
      ∃ debit credit amount, Transfers
        ⟨[⟨"a2", .whole 1, "ngn"⟩, ⟨"a1", .whole 100, "NGN"⟩, ⟨"z", .whole 9, "NGN"⟩,
          ⟨"a1", .whole 3, "USD"⟩, ⟨"a1", .whole 50, "NGN"⟩],
          "credit 100 NGN to account a2 for debit from account a1 on 2025-06-15"⟩
        receipt debit credit amount := by
  have executed : (Terms.of ["ngn"] (.ok ⟨2025, 6, 15⟩)).outcome
      ⟨[⟨"a2", .whole 1, "ngn"⟩, ⟨"a1", .whole 100, "NGN"⟩, ⟨"z", .whole 9, "NGN"⟩,
        ⟨"a1", .whole 3, "USD"⟩, ⟨"a1", .whole 50, "NGN"⟩],
        "credit 100 NGN to account a2 for debit from account a1 on 2025-06-15"⟩ =
      .ok ⟨some .credit, some 100, some "NGN", some "a1", some "a2", some "2025-06-15",
        .successful, StatusCode.executed.reason, .executed,
        [⟨"a2", .whole 101, .whole 1, "NGN"⟩, ⟨"a1", .whole 0, .whole 100, "NGN"⟩,
          ⟨"a1", .whole (-97), .whole 3, "USD"⟩, ⟨"a1", .whole (-50), .whole 50, "NGN"⟩]⟩ := by
    decide +kernel
  exact ⟨_, executed, rfl, exists_transfers_of_successful (by decide) executed rfl⟩

/-- An account with the id of one that has been checked pays or receives as well. -/
theorem successful_changes_second_account :
    ∃ receipt, (Terms.of ["USD"] (.ok ⟨2025, 6, 15⟩)).outcome
        ⟨[⟨"a", .whole 100, "USD"⟩, ⟨"b", .whole 0, "USD"⟩, ⟨"b", .whole 0, "USD"⟩],
          "debit 10 USD from account a for credit to account b"⟩ = .ok receipt ∧
      receipt.status = .successful ∧
      ¬ AccountView.OnlyFirstChanged receipt.accounts "a" "b" 10 := by
  refine ⟨⟨some .debit, some 10, some "USD", some "a", some "b", none, .successful,
    StatusCode.executed.reason, .executed,
    [⟨"a", .whole 90, .whole 100, "USD"⟩, ⟨"b", .whole 10, .whole 0, "USD"⟩,
      ⟨"b", .whole 10, .whole 0, "USD"⟩]⟩, by decide +kernel, rfl, ?_⟩
  intro only
  have kept := only.keeps [_, _] _ [] rfl (by decide) (by decide)
  simp at kept

end Terms
end Giro
