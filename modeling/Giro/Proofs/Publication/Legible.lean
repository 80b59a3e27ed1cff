import Giro.Proofs.Amount
import Giro.Proofs.Json.Within
import Giro.Proofs.Settlement.Faults
import Giro.Publication

/-!
What the numbers of a result can be. Where the whole numbers among the balances of a request are not
too long, neither are those of its result: a transfer adds at most one digit. Where there are no
finite doubles among them, there are none in the result, as what is not finite stays so. The published
result is three levels deep at most.
-/

namespace Giro

namespace Binary64

theorem units?_add_eq_none {x : Binary64} (h : x.units? = none) (y : Binary64) :
    (x.add y).units? = none := by
  cases x with
  | finite negative magnitude => simp [units?] at h
  | nan => rfl
  | infinite negative =>
      cases y with
      | nan => rfl
      | finite other magnitude => rfl
      | infinite other =>
          rw [add]
          split <;> rfl

/-- The number of digits of the first whole number that has no double near it. -/
def wholeDigits : Nat := 309

theorem wholeLimit_le : wholeLimit ≤ 10 ^ wholeDigits := by
  unfold wholeLimit
  decide +kernel

end Binary64

namespace Balance

/-- The balance is a whole number with at most so many digits, or it is not a finite number. -/
def Legible (digits : Nat) : Balance → Prop
  | .whole n => Json.places n ≤ digits
  | .float x => x.units? = none

/-- A whole number has at most so many digits, and a double is no finite one unless these are
allowed. -/
def Within (doubles : Prop) (digits : Nat) : Balance → Prop
  | .whole n => Json.places n ≤ digits
  | .float x => ¬ doubles → x.units? = none

theorem Legible.within {balance : Balance} {digits : Nat} (h : balance.Legible digits) :
    balance.Within False digits := by
  cases balance with
  | whole n => exact h
  | float x => exact fun _ => h

section
variable {balance changed : Balance} {doubles : Prop} {digits : Nat}
  (h : balance.Within doubles digits)
include h

theorem Within.mono {more : Nat} (le : digits ≤ more) : balance.Within doubles more := by
  cases balance with
  | whole n => exact Nat.le_trans h le
  | float x => exact h

theorem Within.change? (positive : 0 < digits) {change : Int} (short : Json.places change ≤ digits)
    (after : balance.change? change = some changed) : changed.Within doubles (digits + 1) := by
  cases balance with
  | whole n =>
      obtain rfl := Option.some.inj after
      exact Json.places_add_le positive h short
  | float x =>
      obtain ⟨y, -, rfl⟩ := Option.map_eq_some_iff.mp after
      exact fun none => Binary64.units?_add_eq_none (h none) y

theorem Within.publish {depth : Nat} : balance.publish.Within doubles digits depth := by
  cases balance with
  | whole n => exact Json.within_int h
  | float x =>
      cases x with
      | nan => exact Json.within_null
      | infinite negative => exact Json.within_null
      | finite negative magnitude =>
          refine Json.within_float (Classical.not_not.mp fun none => ?_)
          exact absurd (h none) (by simp [Binary64.units?])

end
end Balance

namespace AccountView

def Within (doubles : Prop) (digits : Nat) (view : AccountView) : Prop :=
  view.balance.Within doubles digits ∧ view.balanceBefore.Within doubles digits

section
variable {doubles : Prop} {digits : Nat}

theorem Within.mono {more : Nat} {view : AccountView} (h : view.Within doubles digits)
    (le : digits ≤ more) : view.Within doubles more :=
  ⟨h.1.mono le, h.2.mono le⟩

theorem Within.publish {view : AccountView} (h : view.Within doubles digits) :
    (view.toJson Balance.publish).Within doubles digits 1 := by
  refine Json.within_obj ?_
  simp only [List.forall_mem_cons]
  exact ⟨Json.within_str _, h.1.publish, h.2.publish, Json.within_str _, by simp⟩

variable {account : Account} (h : account.balance.Within doubles digits)
include h

theorem within_view : account.view.Within doubles digits :=
  ⟨h, h⟩

theorem within_of_transfer? (positive : 0 < digits) {debit credit : String} {amount : Nat}
    (short : Json.places amount ≤ digits) {after : AccountView}
    (transferred : account.view.transfer? debit credit amount = some after) :
    after.Within doubles (digits + 1) := by
  have before := h.mono (Nat.le_succ digits)
  obtain rfl | ⟨balance, change, size, changed, rfl⟩ := transfer?_eq_some transferred
  · exact ⟨before, before⟩
  · rw [Json.places, Int.natAbs_natCast, ← size] at short
    exact ⟨h.change? positive short changed, before⟩

end
end AccountView

/-- The whole numbers of the result have at most so many digits, and there are no finite doubles
unless these are allowed. -/
structure Receipt.Within (doubles : Prop) (digits : Nat) (receipt : Receipt) : Prop where
  amount : ∀ n ∈ receipt.amount, Json.places n ≤ digits
  accounts : ∀ view ∈ receipt.accounts, view.Within doubles digits

theorem Receipt.Within.publish {doubles : Prop} {digits : Nat} {receipt : Receipt}
    (h : receipt.Within doubles digits) : receipt.publish.Within doubles digits 3 := by
  have text (s : Option String) : Json.Within doubles digits 2 (.ofOption .str s) :=
    Json.within_ofOption fun s _ => Json.within_str s
  have views : Json.Within doubles digits 2
      (.arr (receipt.accounts.map (AccountView.toJson Balance.publish))) := by
    refine Json.within_arr (List.forall_mem_map.mpr ?_)
    exact fun view member => (h.accounts view member).publish
  refine Json.within_obj ?_
  simp only [List.forall_mem_cons]
  exact ⟨Json.within_ofOption fun form _ => Json.within_str _,
    Json.within_ofOption fun n there => Json.within_int (h.amount n there), text _, text _, text _,
    text _, Json.within_str _, Json.within_str _, Json.within_str _, views, by simp⟩

theorem Receipt.within_unread (doubles : Prop) (digits : Nat) (fault : ScanFault) :
    (Receipt.unread fault).Within doubles digits :=
  ⟨nofun, nofun⟩

section
variable {doubles : Prop} {digits : Nat} (room : Binary64.wholeDigits ≤ digits)
include room

/-- An amount that is covered has no more digits than the balances: a whole one is at least as
large, and a double could not change by one that is too large. -/
theorem Account.places_le_of_transfer? {accounts : List Account} {debit credit : String}
    {payer : Account} {amount : Nat} {views : List AccountView} (first : First accounts debit payer)
    (within : payer.balance.Within doubles digits) (covers : payer.balance.covers amount = true)
    (transferred : transfer? accounts debit credit amount = some views) :
    Json.places amount ≤ digits := by
  have positive : 0 < digits := Nat.lt_of_lt_of_le (by decide) room
  rw [Json.places_le_iff positive, Int.natAbs_natCast]
  cases balance : payer.balance with
  | whole n =>
      rw [balance, Balance.covers, decide_eq_true_eq] at covers
      rw [balance, Balance.Within, Json.places_le_iff positive] at within
      omega
  | float x =>
      by_contra large
      have powers := Nat.pow_le_pow_right (show 0 < 10 by decide) room
      have beyond : Binary64.wholeLimit ≤ amount :=
        Nat.le_trans Binary64.wholeLimit_le (Nat.le_trans powers (Nat.le_of_not_lt large))
      have impossible : transfer? accounts debit credit amount = none :=
        transfer?_eq_none_iff_wholeLimit_le.mpr
          ⟨beyond, payer, first.mem, .inl first.id_eq, by rw [balance, Balance.isFloat]⟩
      rw [transferred] at impossible
      contradiction

namespace Terms

section
variable {terms : Terms} {receipt : Receipt} {most : Nat} (more : digits < most)
  (amounts : Amount.maxDigits ≤ most)
include more amounts

theorem within_of_settle {accounts : List Account} {ins : Instruction}
    (within : ∀ account ∈ accounts, account.balance.Within doubles digits)
    (settled : terms.settle accounts ins = .ok receipt) : receipt.Within doubles most := by
  have amount : ∀ n ∈ Amount.parse? ins.amount, Json.places n ≤ most := by
    intro n read
    have writes := Amount.parse?_eq_some_iff.mp read
    have short := (Text.length_toDigits_le_iff writes.positive _).mpr writes.lt_limit
    exact Nat.le_trans short amounts
  have named : ∀ account ∈ Account.named accounts [ins.debitAccount, ins.creditAccount],
      account.balance.Within doubles digits :=
    fun account member => within account (Account.mem_named.mp member).1
  obtain ⟨paid, debit, credit, views, checked, covers, transferred, rfl⟩ | ⟨code, -, rfl⟩ :=
    settle_eq_ok settled
  · have short := Account.places_le_of_transfer? room checked.findsDebit
      (within debit checked.findsDebit.mem) covers transferred
    refine ⟨fun n there => amount n (checked.readsAmount ▸ there), ?_⟩
    refine forall_mem_of_forall₂
      ((List.forall₂_and_left _ _).mpr ⟨named, Account.transfer?_eq_some_iff.mp transferred⟩) ?_
    rintro account view ⟨before, changed⟩
    have positive : 0 < digits := Nat.lt_of_lt_of_le (by decide) room
    exact (AccountView.within_of_transfer? before positive short changed).mono more
  · refine ⟨amount, ?_⟩
    rw [Receipt.accounts_of, Account.views_eq_map_named, List.forall_mem_map]
    exact fun account member => AccountView.within_view ((named account member).mono (by omega))

/-- What the balances are within is what the result is within, where amounts are so and a sum has room
for one more digit. -/
theorem within_of_outcome {request : Request}
    (within : ∀ account ∈ request.accounts, account.balance.Within doubles digits)
    (returned : terms.outcome request = .ok receipt) : receipt.Within doubles most := by
  obtain ⟨fault, -, rfl⟩ | ⟨ins, -, settled⟩ := outcome_eq_ok returned
  · exact Receipt.within_unread doubles most fault
  · exact within_of_settle room more amounts within settled

end
end Terms
end
end Giro
