import Mathlib.Data.List.Forall2
import Giro.Journal
import Giro.Proofs.Settlement.Outcome

/-!
What a result shows of the accounts. The views stand for the accounts with one of the two ids, one
view for each of them and in their order, and tell the id, the balance before and the currency of
the account they stand for. Only a transfer changes the other balance, and it keeps its kind.
-/

namespace Giro

section
variable {α β : Type} {f : α → Option β}

theorem mapM_eq_some_iff {items : List α} {results : List β} :
    items.mapM f = some results ↔
      List.Forall₂ (fun item result => f item = some result) items results := by
  induction items generalizing results with
  | nil => simp [eq_comm]
  | cons item rest ih =>
      rw [List.mapM_cons, List.forall₂_cons_left_iff]
      cases f item with
      | none => simp
      | some first =>
          cases tail : rest.mapM f with
          | none => simp [← ih, tail]
          | some others => simp [← ih, tail, eq_comm]

theorem mapM_eq_none_iff {items : List α} : items.mapM f = none ↔ ∃ item ∈ items, f item = none := by
  induction items with
  | nil => simp
  | cons item rest ih =>
      rw [List.mapM_cons, List.exists_mem_cons_iff, ← ih]
      cases f item with
      | none => simp
      | some first => cases rest.mapM f <;> simp

end

theorem forall_mem_of_forall₂ {α β : Type} {r : α → β → Prop} {items : List α} {results : List β}
    (related : List.Forall₂ r items results) {p : β → Prop}
    (h : ∀ item result, r item result → p result) : ∀ result ∈ results, p result := by
  induction related with
  | nil => simp
  | cons first _ ih => exact List.forall_mem_cons.mpr ⟨h _ _ first, ih⟩

theorem Balance.isFloat_of_change? {balance changed : Balance} {change : Int}
    (h : balance.change? change = some changed) : changed.isFloat = balance.isFloat := by
  cases balance with
  | whole value =>
      obtain rfl := Option.some.inj h
      rfl
  | float value =>
      obtain ⟨_, -, rfl⟩ := Option.map_eq_some_iff.mp h
      rfl

namespace Account

/-- The account as a view tells it, with its currency in capital letters. -/
def capitalized (account : Account) : Account :=
  { account with currency := capital account.currency }

end Account

namespace AccountView

/-- The account that a view stands for, as it was before the instruction. -/
def origin (view : AccountView) : Account where
  id := view.id
  balance := view.balanceBefore
  currency := view.currency

theorem origin_view (account : Account) : account.view.origin = account.capitalized := rfl

section
variable {debit credit : String} {amount : Nat} {view after : AccountView}

/-- A transfer changes a view in its balance only, which is the old one changed by the amount. -/
theorem transfer?_eq_some (h : view.transfer? debit credit amount = some after) :
    after = view ∨ ∃ balance change, change.natAbs = amount ∧
      view.balanceBefore.change? change = some balance ∧ after = { view with balance } := by
  simp only [transfer?] at h
  split at h
  · obtain ⟨balance, changed, rfl⟩ := Option.map_eq_some_iff.mp h
    exact .inr ⟨balance, _, by omega, changed, rfl⟩
  · split at h
    · obtain ⟨balance, changed, rfl⟩ := Option.map_eq_some_iff.mp h
      exact .inr ⟨balance, _, by omega, changed, rfl⟩
    · exact .inl (Option.some.inj h).symm

theorem origin_of_transfer? (h : view.transfer? debit credit amount = some after) :
    after.origin = view.origin := by
  obtain rfl | ⟨_, _, -, -, rfl⟩ := transfer?_eq_some h <;> rfl

theorem isFloat_of_transfer? {account : Account}
    (h : account.view.transfer? debit credit amount = some after) :
    after.balance.isFloat = after.balanceBefore.isFloat := by
  obtain rfl | ⟨_, _, -, changed, rfl⟩ := transfer?_eq_some h
  · rfl
  · exact Balance.isFloat_of_change? changed

end
end AccountView

namespace Account

section
variable {accounts : List Account} {debit credit : String} {amount : Nat}

theorem transfer?_eq_some_iff {views : List AccountView} :
    transfer? accounts debit credit amount = some views ↔
      List.Forall₂ (fun account view => account.view.transfer? debit credit amount = some view)
        (named accounts [debit, credit]) views := by
  rw [transfer?, views_eq_map_named, mapM_eq_some_iff, List.forall₂_map_left_iff]

theorem transfer?_eq_none_iff :
    transfer? accounts debit credit amount = none ↔
      ∃ account ∈ named accounts [debit, credit],
        account.view.transfer? debit credit amount = none := by
  rw [transfer?, views_eq_map_named, mapM_eq_none_iff]
  simp

theorem map_origin_of_transfer? {views : List AccountView}
    (h : transfer? accounts debit credit amount = some views) :
    views.map AccountView.origin = (named accounts [debit, credit]).map capitalized := by
  symm
  rw [← List.forall₂_eq_eq_eq, List.forall₂_map_left_iff, List.forall₂_map_right_iff]
  exact (transfer?_eq_some_iff.mp h).imp fun account view changed =>
    (AccountView.origin_of_transfer? changed).symm

end

theorem map_origin_views (accounts : List Account) (ids : List String) :
    (views accounts ids).map AccountView.origin = (named accounts ids).map capitalized := by
  rw [views_eq_map_named, List.map_map]
  exact List.map_congr_left fun account _ => AccountView.origin_view account

theorem named_pair (accounts : List Account) (debit credit : String) :
    named accounts [debit, credit] =
      accounts.filter fun account => account.id = debit ∨ account.id = credit := by
  simp [named]

end Account

/-- Where the views stand for the accounts with some ids, an id that is found has a view. -/
theorem AccountView.exists_of_first {views : List AccountView} {accounts : List Account}
    {ids : List String}
    (origins : views.map origin = (Account.named accounts ids).map Account.capitalized)
    {id : String} {account : Account} (first : Account.First accounts id account)
    (listed : id ∈ ids) : ∃ view ∈ views, view.id = id := by
  have member : account ∈ Account.named accounts ids :=
    Account.mem_named.mpr ⟨first.mem, first.id_eq ▸ listed⟩
  have shown : account.capitalized ∈ views.map origin := origins ▸ List.mem_map_of_mem member
  obtain ⟨view, isView, same⟩ := List.mem_map.mp shown
  exact ⟨view, isView, (congrArg Account.id same).trans first.id_eq⟩

/-- What a result shows of these accounts beside an instruction. -/
structure Receipt.Shows (receipt : Receipt) (accounts : List Account) (ins : Instruction) :
    Prop where
  /-- There is a view for each account with one of the two ids, in the order of the accounts. -/
  origins : receipt.accounts.map AccountView.origin =
    (accounts.filter fun account =>
      account.id = ins.debitAccount ∨ account.id = ins.creditAccount).map Account.capitalized
  unchanged : receipt.status ≠ .successful →
    ∀ view ∈ receipt.accounts, view.balance = view.balanceBefore
  sameKind : receipt.status = .successful →
    ∀ view ∈ receipt.accounts, view.balance.isFloat = view.balanceBefore.isFloat
  bothSides : receipt.status = .successful →
    (∃ view ∈ receipt.accounts, view.id = ins.debitAccount) ∧
      ∃ view ∈ receipt.accounts, view.id = ins.creditAccount

namespace Terms

@[simp] theorem outcome_process (terms : Terms) (request : Request) :
    (terms.process request).outcome = terms.outcome request := by
  simp only [process]
  cases terms.outcome request <;> rfl

theorem shows_of_settle {terms : Terms} {accounts : List Account} {ins : Instruction}
    {receipt : Receipt} (h : terms.settle accounts ins = .ok receipt) :
    receipt.Shows accounts ins := by
  obtain ⟨amount, debit, credit, views, checked, -, transferred, rfl⟩ | ⟨code, other, rfl⟩ :=
    settle_eq_ok h
  · have origins := Account.map_origin_of_transfer? transferred
    have showsDebit := AccountView.exists_of_first origins checked.findsDebit (by simp)
    have showsCredit := AccountView.exists_of_first origins checked.findsCredit (by simp)
    rw [Account.named_pair] at origins
    refine ⟨origins, fun failed => absurd rfl failed, fun _ => ?_, fun _ => ⟨showsDebit, showsCredit⟩⟩
    exact forall_mem_of_forall₂ (Account.transfer?_eq_some_iff.mp transferred)
      fun account view changed => AccountView.isFloat_of_transfer? changed
  · have origins := Account.map_origin_views accounts [ins.debitAccount, ins.creditAccount]
    rw [Account.named_pair] at origins
    refine ⟨origins, fun _ => ?_, fun success => absurd success other,
      fun success => absurd success other⟩
    rw [Receipt.accounts_of, Account.views_eq_map_named, List.forall_mem_map]
    exact fun account _ => rfl

/-- A result shows no account where the instruction was not read, and otherwise those with one of
its two ids. -/
theorem shows_of_process {terms : Terms} {request : Request} {receipt : Receipt}
    (h : (terms.process request).outcome = .ok receipt) :
    (∀ fault, Instruction.scan Grammar.standard request.instruction = .error fault →
      receipt.accounts = []) ∧
    ∀ ins, Instruction.scan Grammar.standard request.instruction = .ok ins →
      receipt.Shows request.accounts ins := by
  rw [outcome_process] at h
  obtain ⟨fault, unread, rfl⟩ | ⟨ins, read, settled⟩ := outcome_eq_ok h
  · exact ⟨fun _ _ => rfl, fun ins read => by simp [unread] at read⟩
  · refine ⟨fun fault unread => by simp [read] at unread, fun other again => ?_⟩
    obtain rfl := Except.ok.inj (read.symm.trans again)
    exact shows_of_settle settled

/-- A second payer of another currency and kind is shown where it stands, and neither an infinity
nor what is not a number becomes something else. -/
theorem shows_of_process_of_infinite_payer :
    ∃ receipt, ((Terms.of ["usd"] (.ok ⟨2025, 6, 15⟩)).process
        ⟨[⟨"b", .float .nan, "usd"⟩, ⟨"a", .float (.infinite false), "USD"⟩, ⟨"z", .whole 1, "usd"⟩,
          ⟨"a", .whole 3, "gbp"⟩], "debit 10 usd from account a for credit to account b"⟩).outcome =
        .ok receipt ∧
      receipt.status = .successful ∧
      receipt.Shows
        [⟨"b", .float .nan, "usd"⟩, ⟨"a", .float (.infinite false), "USD"⟩, ⟨"z", .whole 1, "usd"⟩,
          ⟨"a", .whole 3, "gbp"⟩] ⟨.debit, "10", "USD", "a", "b", none⟩ := by
  have executed : ((Terms.of ["usd"] (.ok ⟨2025, 6, 15⟩)).process
      ⟨[⟨"b", .float .nan, "usd"⟩, ⟨"a", .float (.infinite false), "USD"⟩, ⟨"z", .whole 1, "usd"⟩,
        ⟨"a", .whole 3, "gbp"⟩], "debit 10 usd from account a for credit to account b"⟩).outcome =
      .ok ⟨some .debit, some 10, some "USD", some "a", some "b", none, .successful,
        StatusCode.executed.reason, .executed,
        [⟨"b", .float .nan, .float .nan, "USD"⟩,
          ⟨"a", .float (.infinite false), .float (.infinite false), "USD"⟩,
          ⟨"a", .whole (-7), .whole 3, "GBP"⟩]⟩ := by
    decide +kernel
  have read : Instruction.scan Grammar.standard
      "debit 10 usd from account a for credit to account b" =
      .ok ⟨.debit, "10", "USD", "a", "b", none⟩ := by
    decide +kernel
  exact ⟨_, executed, rfl, (shows_of_process executed).2 _ read⟩

end Terms
end Giro
