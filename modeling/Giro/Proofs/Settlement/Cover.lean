import Giro.Proofs.Binary64.Order
import Giro.Proofs.Settlement.Exactness
import Giro.Proofs.Settlement.Locality

/-!
No overdraft. The amount is compared with the funds exactly, while a double changes by a rounded
amount and is rounded again. Both roundings stay on their side of the doubles that they are compared
with, which are zero and the balance itself, and an infinity stays what it is. So what is paid is
there, of whatever kind the balance is, and who receives never has less.
-/

namespace Giro

namespace Balance

/-- A change of a balance by a whole number. It is rounded for a double, and an infinity and what is
not a number stay. -/
inductive Updated (change : Int) : Balance → Balance → Prop
  | finite {before after : Balance} (h : Changed change before after) : Updated change before after
  | still {value : Binary64} (h : value.value? = none) :
      Updated change (.float value) (.float value)

section
variable {before after : Balance} {amount : Nat} {place : Line}

theorem place?_of_value? {value : ℚ} (h : before.value? = some value) :
    before.place? = some (.of value) := by
  cases before with
  | whole start => exact congrArg _ (congrArg _ (Option.some.inj h))
  | float start => exact Binary64.place?_of_value? h

theorem updated_of_change? {change : Int} (h : before.change? change = some after) :
    Updated change before after := by
  cases finite : before.value? with
  | some value => exact .finite (changed_of_change? finite h)
  | none =>
      cases before with
      | whole => contradiction
      | float start =>
          obtain ⟨step, near, rfl⟩ := Option.map_eq_some_iff.mp h
          obtain ⟨moved, nearest⟩ := Binary64.exists_nearest_of_ofInt? near
          rw [Binary64.add_of_value?_eq_none finite nearest.value_eq]
          exact .still finite

/-- A covered amount is taken without a fall below zero, and the balance does not grow. -/
theorem Changed.pays {value : ℚ} (h : Changed (-amount) before after)
    (finite : before.value? = some value) (covered : amount ≤ value) :
    ∃ place, after.place? = some place ∧ .of 0 ≤ place ∧ place ≤ .of value := by
  have nonneg : (0 : ℚ) ≤ amount := Nat.cast_nonneg amount
  cases h with
  | whole start =>
      obtain rfl := Option.some.inj finite
      refine ⟨_, rfl, Line.of_le_of_iff.mpr ?_, Line.of_le_of_iff.mpr ?_⟩
      · push_cast
        linarith
      · push_cast
        linarith
  | @float start _ _ _ moved own nearest rounds =>
      obtain rfl := Option.some.inj (own.symm.trans finite)
      have double : Binary64.IsDouble _ := ⟨start, own⟩
      rw [Int.cast_neg, Int.cast_natCast] at nearest
      -- The rounded amount is still covered, and it is not less than zero.
      have most := nearest.ge_of_ge double.neg (neg_le_neg covered)
      have least := nearest.le_of_le Binary64.isDouble_zero (neg_nonpos.mpr nonneg)
      obtain ⟨place, isPlace, keeps⟩ := rounds.exists_place
      exact ⟨place, isPlace, keeps.ge 0 Binary64.isDouble_zero (by linarith),
        keeps.le _ double (by linarith)⟩

theorem Changed.receives {value : ℚ} (h : Changed amount before after)
    (finite : before.value? = some value) :
    ∃ place, after.place? = some place ∧ .of value ≤ place := by
  have nonneg : (0 : ℚ) ≤ amount := Nat.cast_nonneg amount
  cases h with
  | whole start =>
      obtain rfl := Option.some.inj finite
      refine ⟨_, rfl, Line.of_le_of_iff.mpr ?_⟩
      push_cast
      linarith
  | @float start _ _ _ moved own nearest rounds =>
      obtain rfl := Option.some.inj (own.symm.trans finite)
      rw [Int.cast_natCast] at nearest
      have least := nearest.ge_of_ge Binary64.isDouble_zero nonneg
      obtain ⟨place, isPlace, keeps⟩ := rounds.exists_place
      exact ⟨place, isPlace, keeps.ge _ ⟨start, own⟩ (by linarith)⟩

theorem Changed.exists_value {change : Int} (h : Changed change before after) :
    ∃ value, before.value? = some value := by
  cases h with
  | whole start => exact ⟨start, rfl⟩
  | float finite nearest rounds => exact ⟨_, finite⟩

/-- Whatever covers an amount has a place from it on, and pays without a fall below zero. -/
theorem Updated.pays (h : Updated (-amount) before after) (covers : before.covers amount = true) :
    ∃ place place', before.place? = some place ∧ .of amount ≤ place ∧
      after.place? = some place' ∧ .of 0 ≤ place' ∧ place' ≤ place := by
  obtain ⟨place, isPlace, covered⟩ := (covers_natCast_iff_place before amount).mp covers
  cases h with
  | finite changed =>
      obtain ⟨value, finite⟩ := changed.exists_value
      obtain rfl := Option.some.inj ((place?_of_value? finite).symm.trans isPlace)
      obtain ⟨place', isPlace', nonneg, le⟩ := changed.pays finite (Line.of_le_of_iff.mp covered)
      exact ⟨_, place', isPlace, covered, isPlace', nonneg, le⟩
  | still infinite =>
      have nonneg : Line.of 0 ≤ Line.of amount := Line.of_le_of_iff.mpr (Nat.cast_nonneg amount)
      exact ⟨place, place, isPlace, covered, isPlace, nonneg.trans covered, le_rfl⟩

theorem Updated.receives (h : Updated amount before after) (isPlace : before.place? = some place) :
    ∃ place', after.place? = some place' ∧ place ≤ place' := by
  cases h with
  | finite changed =>
      obtain ⟨value, finite⟩ := changed.exists_value
      obtain rfl := Option.some.inj ((place?_of_value? finite).symm.trans isPlace)
      exact changed.receives finite
  | still infinite => exact ⟨place, isPlace, le_rfl⟩

end
end Balance

namespace AccountView

/-- The view is the first one with this id. -/
def First (views : List AccountView) (id : String) (view : AccountView) : Prop :=
  ∃ before after, views = before ++ view :: after ∧ view.id = id ∧ ∀ other ∈ before, other.id ≠ id

/-- Where views stand for accounts one by one, the first account with an id has the first view. -/
theorem exists_first {r : Account → AccountView → Prop} {accounts : List Account}
    {views : List AccountView} (related : List.Forall₂ r accounts views)
    (keepsId : ∀ account view, r account view → view.id = account.id) {id : String}
    {account : Account} (first : Account.First accounts id account) :
    ∃ view, First views id view ∧ r account view := by
  obtain ⟨before, after, rfl, same, others⟩ := first
  induction before generalizing views with
  | nil =>
      cases related with
      | @cons _ view _ rest own _ =>
          exact ⟨view, ⟨[], rest, rfl, (keepsId _ _ own).trans same, by simp⟩, own⟩
  | cons other before ih =>
      cases related with
      | @cons _ head _ _ own tail =>
          obtain ⟨different, others⟩ := List.forall_mem_cons.mp others
          obtain ⟨view, ⟨earlier, later, rfl, isFirst, apart⟩, mine⟩ := ih tail others
          refine ⟨view, ⟨head :: earlier, later, rfl, isFirst, ?_⟩, mine⟩
          exact List.forall_mem_cons.mpr ⟨keepsId _ _ own ▸ different, apart⟩

end AccountView

theorem Account.First.named {accounts : List Account} {id : String} {account : Account}
    {ids : List String} (h : First accounts id account) (listed : id ∈ ids) :
    First (named accounts ids) id account := by
  rw [← find?_eq_some_iff, find?_named listed, find?_eq_some_iff]
  exact h

/-- After a transfer the first account with each id has the first view with it. -/
theorem Account.exists_first_view {accounts : List Account} {debit credit : String} {amount : Nat}
    {views : List AccountView} (h : transfer? accounts debit credit amount = some views)
    {id : String} {account : Account} (first : First accounts id account)
    (listed : id ∈ [debit, credit]) :
    ∃ view, AccountView.First views id view ∧
      account.view.transfer? debit credit amount = some view :=
  AccountView.exists_first (transfer?_eq_some_iff.mp h)
    (fun _ _ changed => congrArg Account.id (AccountView.origin_of_transfer? changed))
    (first.named listed)

namespace Terms

/-- What a successful result says of the first accounts with its two ids and of their views. -/
structure Guards (accounts : List Account) (receipt : Receipt) (amount : Nat)
    (debit credit : Account) (payer receiver : AccountView) : Prop where
  amount_eq : receipt.amount = some amount
  positive : 0 < amount
  debitAccount : receipt.debitAccount = some debit.id
  creditAccount : receipt.creditAccount = some credit.id
  debit_first : Account.First accounts debit.id debit
  credit_first : Account.First accounts credit.id credit
  payer_first : AccountView.First receipt.accounts debit.id payer
  receiver_first : AccountView.First receipt.accounts credit.id receiver
  payer_before : payer.balanceBefore = debit.balance
  receiver_before : receiver.balanceBefore = credit.balance
  pays : Balance.Updated (-amount) debit.balance payer.balance
  receives : Balance.Updated amount credit.balance receiver.balance
  covered : ∃ place place', debit.balance.place? = some place ∧ .of amount ≤ place ∧
    payer.balance.place? = some place' ∧ .of 0 ≤ place' ∧ place' ≤ place
  grows : ∀ place, credit.balance.place? = some place →
    ∃ place', receiver.balance.place? = some place' ∧ place ≤ place'

/-- No overdraft. In a successful result the first account with the debit id has what it pays,
exactly compared, and its new balance is from zero to the one before. The first account with the
credit id has no less than before, unless its balance is not a number. -/
theorem guards_of_successful {terms : Terms} {grammars : List Grammar} {request : Request}
    {receipt : Receipt} (h : terms.outcomeIn grammars request = .ok receipt)
    (success : receipt.status = .successful) :
    ∃ amount debit credit payer receiver,
      Guards request.accounts receipt amount debit credit payer receiver := by
  obtain ⟨ins, amount, debit, credit, views, checked, covers, transferred, rfl⟩ :=
    transfer_of_outcomeIn h success
  have debitId := checked.findsDebit.id_eq
  have creditId := checked.findsCredit.id_eq
  obtain ⟨payer, isPayer, paid⟩ :=
    Account.exists_first_view transferred checked.findsDebit (by simp)
  obtain ⟨receiver, isReceiver, received⟩ :=
    Account.exists_first_view transferred checked.findsCredit (by simp)
  obtain ⟨rest, taken, rfl⟩ := AccountView.transfer?_of_payer debitId paid
  obtain ⟨sum, added, rfl⟩ := AccountView.transfer?_of_receiver checked.ids_ne creditId received
  have pays := Balance.updated_of_change? taken
  have receives := Balance.updated_of_change? added
  rw [← debitId] at isPayer
  rw [← creditId] at isReceiver
  exact ⟨amount, debit, credit, _, _, {
    amount_eq := rfl
    positive := (Amount.parse?_eq_some_iff.mp checked.readsAmount).positive
    debitAccount := congrArg some debitId.symm
    creditAccount := congrArg some creditId.symm
    debit_first := debitId ▸ checked.findsDebit
    credit_first := creditId ▸ checked.findsCredit
    payer_first := isPayer
    receiver_first := isReceiver
    payer_before := rfl
    receiver_before := rfl
    pays := pays
    receives := receives
    covered := pays.pays covers
    grows := fun _ isPlace => receives.receives isPlace }⟩

/-- What is taken is rounded down by one, and an infinite debt stays. The second account with the
debit id is not asked for funds. -/
theorem guards_of_rounded_payment :
    ∃ receipt, (Terms.of ["usd"] (.ok ⟨2025, 6, 15⟩)).outcomeIn Grammar.standard
        ⟨[⟨"b", .float (.infinite true), "usd"⟩,
          ⟨"a", .float (.ofUnits (9007199254740994 * Binary64.unitsPerOne)), "USD"⟩,
          ⟨"a", .whole 3, "usd"⟩],
          "debit 9007199254740993 usd from account a for credit to account b"⟩ = .ok receipt ∧
      receipt.status = .successful ∧
      (∃ view ∈ receipt.accounts, view.id = "a" ∧ view.balance = .whole (-9007199254740990)) ∧
      ∃ amount debit credit payer receiver, Guards
        [⟨"b", .float (.infinite true), "usd"⟩,
          ⟨"a", .float (.ofUnits (9007199254740994 * Binary64.unitsPerOne)), "USD"⟩,
          ⟨"a", .whole 3, "usd"⟩] receipt amount debit credit payer receiver := by
  have executed : (Terms.of ["usd"] (.ok ⟨2025, 6, 15⟩)).outcomeIn Grammar.standard
      ⟨[⟨"b", .float (.infinite true), "usd"⟩,
        ⟨"a", .float (.ofUnits (9007199254740994 * Binary64.unitsPerOne)), "USD"⟩,
        ⟨"a", .whole 3, "usd"⟩],
        "debit 9007199254740993 usd from account a for credit to account b"⟩ =
      .ok ⟨some .debit, some 9007199254740993, some "USD", some "a", some "b", none, .successful,
        StatusCode.executed.reason, .executed,
        [⟨"b", .float (.infinite true), .float (.infinite true), "USD"⟩,
          ⟨"a", .float (.ofUnits (2 * Binary64.unitsPerOne)),
            .float (.ofUnits (9007199254740994 * Binary64.unitsPerOne)), "USD"⟩,
          ⟨"a", .whole (-9007199254740990), .whole 3, "USD"⟩]⟩ := by
    decide +kernel
  exact ⟨_, executed, rfl, ⟨_, .tail _ (.tail _ (.head _)), rfl, rfl⟩,
    guards_of_successful executed rfl⟩

end Terms
end Giro
