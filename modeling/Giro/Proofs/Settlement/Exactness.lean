import Mathlib.Algebra.BigOperators.Group.List.Basic
import Mathlib.Data.List.Nodup
import Mathlib.Data.List.Perm.Basic
import Mathlib.Tactic.Ring
import Giro.Proofs.Binary64.Value
import Giro.Proofs.Amount
import Giro.Proofs.Settlement.Views

/-!
How exact a transfer is. The funds are compared with the amount exactly, but a double changes by the
double next to the amount, and the new balance is rounded once more. So a transfer between two
accounts is exact where both balances are whole, and beside that where the amount and the new
balances have doubles.
-/

namespace Giro

open Binary64 (IsDouble)

namespace Balance

/-- The exact value of a balance, where it is finite. -/
def value? : Balance → Option ℚ
  | .whole value => some value
  | .float value => value.value?

/-- The sum of the exact values. -/
def exactTotal (balances : List Balance) : ℚ :=
  (balances.filterMap value?).sum

/-- A change of a balance by a whole number, which is exact for a whole balance. For a double it is
rounded before it is added, and the sum is rounded. -/
inductive Changed (change : Int) : Balance → Balance → Prop
  | whole (value : Int) : Changed change (.whole value) (.whole (value + change))
  | float {before after step : Binary64} {value moved : ℚ} (finite : before.value? = some value)
      (nearest : step.Nearest moved change) (rounds : after.Rounds (value + moved)) :
      Changed change (.float before) (.float after)

section
variable {before after : Balance} {value : ℚ}

theorem covers_iff (finite : before.value? = some value) (amount : Int) :
    before.covers amount = true ↔ (amount : ℚ) ≤ value := by
  cases before with
  | whole start =>
      obtain rfl := Option.some.inj finite
      rw [covers, decide_eq_true_eq, Int.cast_le]
  | float start => exact Binary64.atLeast_iff finite amount

theorem changed_of_change? {change : Int} (finite : before.value? = some value)
    (h : before.change? change = some after) : Changed change before after := by
  cases before with
  | whole start =>
      obtain rfl := Option.some.inj h
      exact .whole start
  | float start =>
      obtain ⟨step, near, rfl⟩ := Option.map_eq_some_iff.mp h
      obtain ⟨moved, nearest⟩ := Binary64.exists_nearest_of_ofInt? near
      exact .float finite nearest (Binary64.add_rounds finite nearest.value_eq)

theorem Changed.value?_of_whole {change : Int} (h : Changed change before after)
    (finite : before.value? = some value) (whole : before.isFloat = false) :
    after.value? = some (value + change) := by
  cases h with
  | whole start =>
      obtain rfl := Option.some.inj finite
      rw [value?, Int.cast_add]
  | float => contradiction

/-- A change that has a double is exact where the new balance has one. -/
theorem Changed.value?_eq_iff {change : Int} (h : Changed change before after)
    (finite : before.value? = some value) (double : IsDouble change) :
    after.value? = some (value + change) ↔
      before.isFloat = false ∨ IsDouble (value + change) := by
  cases h with
  | whole start => simpa [isFloat] using (Changed.whole start).value?_of_whole finite rfl
  | float start nearest rounds =>
      obtain rfl := Option.some.inj (start.symm.trans finite)
      rw [nearest.eq_of_isDouble double] at rounds
      rw [isFloat, or_iff_right Bool.noConfusion]
      exact rounds.value?_eq_iff

/-- What takes a covered amount from a double is exact only where the amount has a double. -/
theorem change?_neg_exact_iff {amount : Nat} (finite : before.value? = some value)
    (covered : amount ≤ value) (h : before.change? (-amount) = some after) :
    after.value? = some (value - amount) ↔
      before.isFloat = false ∨ IsDouble amount ∧ IsDouble (value - amount) := by
  have changed := changed_of_change? finite h
  have opposite : ((-amount : Int) : ℚ) = -amount := by rw [Int.cast_neg, Int.cast_natCast]
  have exact_iff := changed.value?_eq_iff finite
  have exact_of_whole := changed.value?_of_whole finite
  rw [opposite, ← sub_eq_add_neg] at exact_iff exact_of_whole
  constructor
  · intro exactly
    cases before with
    | whole start => exact .inl rfl
    | float start =>
        obtain ⟨step, near, rfl⟩ := Option.map_eq_some_iff.mp h
        have double := Binary64.isDouble_of_value?_add finite covered near exactly
        exact ((exact_iff double.neg).mp exactly).imp_right fun rest => ⟨double, rest⟩
  · rintro (whole | ⟨double, rest⟩)
    · exact exact_of_whole whole
    · exact (exact_iff double.neg).mpr (.inr rest)

/-- Below the first whole number without a double every covered amount is taken exactly. -/
theorem change?_neg_exact_of_lt {amount : Nat} (finite : before.value? = some value)
    (covered : amount ≤ value) (small : value < (2 ^ (53 : Nat) : Nat))
    (h : before.change? (-amount) = some after) : after.value? = some (value - amount) := by
  rw [change?_neg_exact_iff finite covered h]
  cases before with
  | whole start => exact .inl rfl
  | float start =>
      have fewBits : amount < 2 ^ (53 : Nat) := Nat.cast_lt.mp (lt_of_le_of_lt covered small)
      exact .inr ⟨Binary64.isDouble_natCast (Nat.le_of_lt fewBits),
        Binary64.isDouble_sub_natCast ⟨start, finite⟩ covered small⟩

theorem exactTotal_of_perm {balances others : List Balance} (h : balances.Perm others) :
    exactTotal balances = exactTotal others :=
  (h.filterMap value?).sum_eq

theorem exactTotal_pair {other : Balance} {value' : ℚ} (h : before.value? = some value)
    (h' : other.value? = some value') : exactTotal [before, other] = value + value' := by
  simp [exactTotal, h, h']

end
end Balance

namespace AccountView

section
variable {debit credit : String} {amount : Nat} {view after : AccountView}

theorem transfer?_of_payer (payer : view.id = debit)
    (h : view.transfer? debit credit amount = some after) :
    ∃ balance, view.balanceBefore.change? (-amount) = some balance ∧
      after = { view with balance } := by
  rw [transfer?, if_pos payer] at h
  obtain ⟨balance, changed, eq⟩ := Option.map_eq_some_iff.mp h
  exact ⟨balance, changed, eq.symm⟩

theorem transfer?_of_receiver (distinct : debit ≠ credit) (receiver : view.id = credit)
    (h : view.transfer? debit credit amount = some after) :
    ∃ balance, view.balanceBefore.change? amount = some balance ∧
      after = { view with balance } := by
  have other : view.id ≠ debit := fun same => distinct (same.symm.trans receiver)
  rw [transfer?, if_neg other, if_pos receiver] at h
  obtain ⟨balance, changed, eq⟩ := Option.map_eq_some_iff.mp h
  exact ⟨balance, changed, eq.symm⟩

/-- Where one of two views pays exactly and the other receives exactly, nothing is lost. -/
theorem exactTotal_of_exact {views : List AccountView} {payer receiver : AccountView}
    {funds held moved : ℚ} (perm : views.Perm [payer, receiver])
    (hasFunds : payer.balanceBefore.value? = some funds)
    (holds : receiver.balanceBefore.value? = some held)
    (pays : payer.balance.value? = some (funds - moved))
    (receives : receiver.balance.value? = some (held + moved)) :
    Balance.exactTotal (views.map balance) = Balance.exactTotal (views.map balanceBefore) := by
  rw [Balance.exactTotal_of_perm (perm.map balance),
    Balance.exactTotal_of_perm (perm.map balanceBefore)]
  simp only [List.map_cons, List.map_nil]
  rw [Balance.exactTotal_pair pays receives, Balance.exactTotal_pair hasFunds holds]
  ring

end
end AccountView

namespace Account

section
variable {accounts : List Account} {debit credit : Account}

/-- Where no id occurs twice, two accounts are all that is found with their ids. -/
theorem named_perm_pair (ids : (accounts.map Account.id).Nodup) (hasDebit : debit ∈ accounts)
    (hasCredit : credit ∈ accounts) (distinct : debit.id ≠ credit.id) :
    [debit, credit].Perm (named accounts [debit.id, credit.id]) := by
  have pair : [debit, credit].Nodup := by
    simpa using fun same : debit = credit => distinct (congrArg Account.id same)
  have shown : (named accounts [debit.id, credit.id]).Nodup := (List.Nodup.of_map _ ids).filter _
  rw [List.perm_ext_iff_of_nodup pair shown]
  intro account
  simp only [mem_named, List.mem_cons, List.not_mem_nil, or_false]
  constructor
  · rintro (rfl | rfl)
    · exact ⟨hasDebit, .inl rfl⟩
    · exact ⟨hasCredit, .inr rfl⟩
  · rintro ⟨member, same | same⟩
    · exact .inl (List.inj_on_of_nodup_map ids member hasDebit same)
    · exact .inr (List.inj_on_of_nodup_map ids member hasCredit same)

theorem exists_pair_of_transfer? {amount : Nat} {views : List AccountView}
    (ids : (accounts.map Account.id).Nodup) (hasDebit : debit ∈ accounts)
    (hasCredit : credit ∈ accounts) (distinct : debit.id ≠ credit.id)
    (h : transfer? accounts debit.id credit.id amount = some views) :
    ∃ payer receiver, views.Perm [payer, receiver] ∧
      debit.view.transfer? debit.id credit.id amount = some payer ∧
      credit.view.transfer? debit.id credit.id amount = some receiver := by
  obtain ⟨pair, moved, perm⟩ := List.perm_comp_forall₂
    (named_perm_pair ids hasDebit hasCredit distinct) (transfer?_eq_some_iff.mp h)
  cases moved with
  | cons pays rest =>
      cases rest with
      | cons receives rest =>
          cases rest
          exact ⟨_, _, perm.symm, pays, receives⟩

end
end Account

namespace Terms

/-- What a successful result says of the two accounts of a transfer, with these balances before. -/
structure Settles (receipt : Receipt) (amount : Nat) (payer receiver : AccountView)
    (funds held : ℚ) : Prop where
  debitAccount : receipt.debitAccount = some payer.id
  creditAccount : receipt.creditAccount = some receiver.id
  amount_eq : receipt.amount = some amount
  views : receipt.accounts.Perm [payer, receiver]
  funds_eq : payer.balanceBefore.value? = some funds
  held_eq : receiver.balanceBefore.value? = some held
  positive : 0 < amount
  covered : amount ≤ funds
  pays : Balance.Changed (-amount) payer.balanceBefore payer.balance
  receives : Balance.Changed amount receiver.balanceBefore receiver.balance
  pays_exactly_iff : payer.balance.value? = some (funds - amount) ↔
    payer.balanceBefore.isFloat = false ∨ IsDouble amount ∧ IsDouble (funds - amount)
  pays_exactly_of_lt : funds < (2 ^ (53 : Nat) : Nat) →
    payer.balance.value? = some (funds - amount)
  receives_exactly_iff : IsDouble amount → (receiver.balance.value? = some (held + amount) ↔
    receiver.balanceBefore.isFloat = false ∨ IsDouble (held + amount))
  conserved : payer.balance.value? = some (funds - amount) →
    receiver.balance.value? = some (held + amount) →
    Balance.exactTotal (receipt.accounts.map AccountView.balance) =
      Balance.exactTotal (receipt.accounts.map AccountView.balanceBefore)

/-- A successful transfer between finite balances of accounts with different ids is exact for a
whole payer, and for any other where the amount and the rest have doubles. The same condition
decides for the receiver where the amount has a double, and the sum of the balances is kept where
both sides are exact. -/
theorem settles_of_successful {terms : Terms} {request : Request} {receipt : Receipt}
    (ids : (request.accounts.map Account.id).Nodup)
    (finite : ∀ account ∈ request.accounts, account.balance.value?.isSome)
    (h : terms.outcome request = .ok receipt) (success : receipt.status = .successful) :
    ∃ amount payer receiver funds held, Settles receipt amount payer receiver funds held := by
  obtain ⟨ins, amount, debit, credit, views, checked, covers, transferred, rfl⟩ :=
    transfer_of_successful h success
  obtain ⟨funds, hasFunds⟩ := Option.isSome_iff_exists.mp (finite debit checked.findsDebit.mem)
  obtain ⟨held, holds⟩ := Option.isSome_iff_exists.mp (finite credit checked.findsCredit.mem)
  have covered : (amount : ℚ) ≤ funds := by
    simpa using (Balance.covers_iff hasFunds amount).mp covers
  rw [← checked.findsDebit.id_eq, ← checked.findsCredit.id_eq] at transferred
  obtain ⟨payer, receiver, perm, paid, received⟩ := Account.exists_pair_of_transfer? ids
    checked.findsDebit.mem checked.findsCredit.mem checked.distinct transferred
  obtain ⟨rest, pays, rfl⟩ := AccountView.transfer?_of_payer rfl paid
  obtain ⟨sum, receives, rfl⟩ := AccountView.transfer?_of_receiver checked.distinct rfl received
  have pays_iff := Balance.change?_neg_exact_iff hasFunds covered pays
  refine ⟨amount, _, _, funds, held, ?debitAccount, ?creditAccount, rfl, perm, hasFunds, holds,
    (Amount.parse?_eq_some_iff.mp checked.readsAmount).positive, covered,
    Balance.changed_of_change? hasFunds pays, Balance.changed_of_change? holds receives, pays_iff,
    ?small, ?receiver, ?conserved⟩
  case debitAccount => exact congrArg some checked.findsDebit.id_eq.symm
  case creditAccount => exact congrArg some checked.findsCredit.id_eq.symm
  case small => exact fun small => Balance.change?_neg_exact_of_lt hasFunds covered small pays
  case receiver =>
    intro double
    have receives_iff := (Balance.changed_of_change? holds receives).value?_eq_iff holds
      (by rwa [Int.cast_natCast])
    rwa [Int.cast_natCast] at receives_iff
  case conserved => exact AccountView.exactTotal_of_exact perm hasFunds holds

theorem settles_of_fractional_payer :
    ∃ receipt, (Terms.of ["usd"] (.ok ⟨2025, 6, 15⟩)).outcome
        ⟨[⟨"b", .whole (10 ^ 30), "usd"⟩, ⟨"z", .whole 1, "usd"⟩,
          ⟨"a", .float (.ofUnits (5 * Binary64.unitsPerOne / 2)), "usd"⟩],
          "debit 2 usd from account a for credit to account b"⟩ = .ok receipt ∧
      receipt.status = .successful ∧
      ∃ amount payer receiver funds held, Settles receipt amount payer receiver funds held := by
  have executed : (Terms.of ["usd"] (.ok ⟨2025, 6, 15⟩)).outcome
      ⟨[⟨"b", .whole (10 ^ 30), "usd"⟩, ⟨"z", .whole 1, "usd"⟩,
        ⟨"a", .float (.ofUnits (5 * Binary64.unitsPerOne / 2)), "usd"⟩],
        "debit 2 usd from account a for credit to account b"⟩ =
      .ok ⟨some .debit, some 2, some "USD", some "a", some "b", none, .successful,
        StatusCode.executed.reason, .executed,
        [⟨"b", .whole (10 ^ 30 + 2), .whole (10 ^ 30), "USD"⟩,
          ⟨"a", .float (.ofUnits (Binary64.unitsPerOne / 2)),
            .float (.ofUnits (5 * Binary64.unitsPerOne / 2)), "USD"⟩]⟩ := by
    decide +kernel
  exact ⟨_, executed, rfl, settles_of_successful (by decide) (by decide +kernel) executed rfl⟩

/-- The payer's balance has a double and so has the rest, but the amount has none, and less is taken
from the payer than the receiver gets. -/
theorem successful_takes_too_little :
    ∃ receipt, (Terms.of ["USD"] (.ok ⟨2025, 6, 15⟩)).outcome
        ⟨[⟨"a", .float (.ofUnits (9007199254740994 * Binary64.unitsPerOne)), "USD"⟩,
          ⟨"b", .whole 0, "USD"⟩],
          "debit 9007199254740993 USD from account a for credit to account b"⟩ = .ok receipt ∧
      receipt.status = .successful ∧
      ∃ payer receiver, receipt.accounts = [payer, receiver] ∧
        payer.balanceBefore.value? = some 9007199254740994 ∧
        payer.balance.value? = some 2 ∧ IsDouble (9007199254740994 - 9007199254740993) ∧
        receiver.balanceBefore.value? = some 0 ∧
        receiver.balance.value? = some 9007199254740993 ∧
        Balance.exactTotal (receipt.accounts.map AccountView.balance) =
          Balance.exactTotal (receipt.accounts.map AccountView.balanceBefore) + 1 := by
  have executed : (Terms.of ["USD"] (.ok ⟨2025, 6, 15⟩)).outcome
      ⟨[⟨"a", .float (.ofUnits (9007199254740994 * Binary64.unitsPerOne)), "USD"⟩,
        ⟨"b", .whole 0, "USD"⟩],
        "debit 9007199254740993 USD from account a for credit to account b"⟩ =
      .ok ⟨some .debit, some 9007199254740993, some "USD", some "a", some "b", none, .successful,
        StatusCode.executed.reason, .executed,
        [⟨"a", .float (.ofUnits (2 * Binary64.unitsPerOne)),
            .float (.ofUnits (9007199254740994 * Binary64.unitsPerOne)), "USD"⟩,
          ⟨"b", .whole 9007199254740993, .whole 0, "USD"⟩]⟩ := by
    decide +kernel
  have funds : (Balance.float (.ofUnits (9007199254740994 * Binary64.unitsPerOne))).value? =
      some 9007199254740994 := by
    rw [Balance.value?, Binary64.value?_of_units? (n := 9007199254740994) (by decide +kernel)]
    norm_num
  have rest : (Balance.float (.ofUnits (2 * Binary64.unitsPerOne))).value? = some 2 := by
    rw [Balance.value?, Binary64.value?_of_units? (n := 2) (by decide +kernel)]
    norm_num
  have one : IsDouble (1 : Nat) := Binary64.isDouble_natCast (by decide)
  have held : (Balance.whole 0).value? = some 0 := by norm_num [Balance.value?]
  have sum : (Balance.whole 9007199254740993).value? = some 9007199254740993 := by
    norm_num [Balance.value?]
  refine ⟨_, executed, rfl, _, _, rfl, funds, rest, ?one, held, sum, ?total⟩
  case one =>
    norm_num at one ⊢
    exact one
  case total =>
    simp only [List.map_cons, List.map_nil]
    rw [Balance.exactTotal_pair rest sum, Balance.exactTotal_pair funds held]
    norm_num

end Terms
end Giro
