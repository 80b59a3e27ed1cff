import Mathlib.Data.List.Forall2
import Mathlib.Data.List.Nodup
import Giro.Ledger
import Giro.Proofs.Settlement.Transfer

/-!
Accounts of a ledger over whole runs. Where ids are distinct and balances whole, a step leaves the
accounts or moves an amount that the paying account covers, so after any number of steps every
balance is the first one with what its account has received and without what it has spent.
-/

namespace Giro

def Account.shift (account : Account) (change : Int) : Account :=
  { account with balance := account.balance.shift change }

namespace Account

section
variable (account : Account) (change : Int)

@[simp] theorem id_shift : (account.shift change).id = account.id := rfl

@[simp] theorem balance_shift :
    (account.shift change).balance = account.balance.shift change := rfl

theorem shift_shift (x y : Int) : (account.shift x).shift y = account.shift (x + y) := by
  simp [shift]

@[simp] theorem shift_none : account.shift 0 = account := by
  simp [shift]

end

theorem count_id_of_first {accounts : List Account} {account : Account}
    (distinct : (accounts.map id).Nodup) (first : First accounts account.id account) :
    (accounts.map id).count account.id = 1 :=
  List.count_eq_one_of_mem distinct (List.mem_map_of_mem first.mem)

end Account

namespace Ledger

theorem post_nil (accounts : List Account) : post accounts [] = accounts := by
  cases accounts <;> rfl

/-- Views of the accounts with some ids are posted to these accounts. -/
theorem post_named (accounts : List Account) (ids : List String) {shown : Account → AccountView}
    (own : ∀ account, (shown account).id = account.id) :
    post accounts ((Account.named accounts ids).map shown) =
      accounts.map fun account =>
        if account.id ∈ ids then { account with balance := (shown account).balance }
        else account := by
  induction accounts with
  | nil => rfl
  | cons account rest ih =>
      by_cases member : account.id ∈ ids
      · have named : Account.named (account :: rest) ids = account :: Account.named rest ids := by
          simp [Account.named, member]
        rw [named, List.map_cons, List.map_cons, if_pos member, post, if_pos (own account).symm, ih]
      · have named : Account.named (account :: rest) ids = Account.named rest ids := by
          simp [Account.named, member]
        rw [named, List.map_cons, if_neg member, ← ih]
        cases views : Account.named rest ids with
        | nil => rw [List.map_nil, post_nil, post_nil]
        | cons first later =>
            have inIds := (Account.mem_named.mp (views ▸ List.mem_cons_self)).2
            have other : account.id ≠ (shown first).id := by
              intro same
              rw [own] at same
              exact member (same ▸ inIds)
            rw [List.map_cons, post, if_neg other]

theorem post_views (accounts : List Account) (ids : List String) :
    post accounts (Account.views accounts ids) = accounts := by
  rw [Account.views_eq_map_named, post_named accounts ids fun _ => rfl]
  calc accounts.map _ = accounts.map id := List.map_congr_left fun account _ => by
        split <;> rfl
    _ = accounts := List.map_id accounts

theorem post_viewAfter (accounts : List Account) (debit credit : String) (amount : Nat) :
    post accounts ((Account.named accounts [debit, credit]).map
        (Account.viewAfter debit credit amount)) =
      accounts.map fun account =>
        account.shift (Account.gain debit credit amount account.id) := by
  rw [post_named accounts _ fun _ => rfl]
  apply List.map_congr_left
  intro account _
  split
  · rfl
  · next other => rw [Account.gain_of_not_mem other, Account.shift_none]

/-- What a step does to the accounts: it leaves them, or it moves an amount from an account that
covers it to another one. -/
inductive Moves (accounts : List Account) : Except Fault Receipt → List Account → Prop
  | nothing {receipt : Receipt} (other : receipt.statusCode ≠ .executed) :
      Moves accounts (.ok receipt) accounts
  | amount {receipt : Receipt} {debit credit : Account} {amount : Nat}
      (executed : receipt.statusCode = .executed) (moved : receipt.amount = some amount)
      (paid : receipt.debitAccount = some debit.id) (gained : receipt.creditAccount = some credit.id)
      (pays : Account.First accounts debit.id debit)
      (gains : Account.First accounts credit.id credit) (distinct : debit.id ≠ credit.id)
      (covers : debit.balance.covers amount = true) :
      Moves accounts (.ok receipt)
        (accounts.map fun account =>
          account.shift (Account.gain debit.id credit.id amount account.id))

theorem step_of_outcome {accounts : List Account} {s : Step} {receipt : Receipt}
    (h : s.terms.outcome ⟨accounts, s.instruction⟩ = .ok receipt) :
    step accounts s = (.ok receipt, post accounts receipt.accounts) := by
  simp only [step, Terms.process, h]

theorem exists_outcome {accounts : List Account} {s : Step}
    (whole : ∀ account ∈ accounts, account.balance.isFloat = false)
    (clock : ∃ day, s.terms.today = .ok day) :
    ∃ receipt, s.terms.outcome ⟨accounts, s.instruction⟩ = .ok receipt := by
  cases outcome : s.terms.outcome ⟨accounts, s.instruction⟩ with
  | ok receipt => exact ⟨receipt, rfl⟩
  | error fault =>
      simp only [Terms.outcome, Terms.outcomeIn] at outcome
      split at outcome
      · contradiction
      · obtain ⟨day, today⟩ := clock
        obtain ⟨fault, late, -⟩ | ⟨amount, none, -⟩ := Terms.settle_eq_error outcome
        · rw [today] at late
          contradiction
        · rw [Account.transfer?_of_whole whole] at none
          contradiction

theorem step_moves {accounts : List Account} {s : Step}
    (whole : ∀ account ∈ accounts, account.balance.isFloat = false)
    (clock : ∃ day, s.terms.today = .ok day) :
    Moves accounts (step accounts s).1 (step accounts s).2 := by
  obtain ⟨receipt, outcome⟩ := exists_outcome whole clock
  rw [step_of_outcome outcome]
  obtain ⟨fault, -, rfl⟩ | ⟨ins, -, settled⟩ := Terms.outcome_eq_ok outcome
  · rw [show (Receipt.unread fault).accounts = [] from rfl, post_nil]
    exact .nothing (by cases fault <;> simp [Receipt.unread, ScanFault.code])
  · obtain ⟨amount, debit, credit, views, checked, covers, transferred, rfl⟩ | ⟨code, other, rfl⟩ :=
      Terms.settle_eq_ok settled
    · rw [Account.transfer?_of_whole whole, Option.some.injEq] at transferred
      rw [Receipt.accounts_of, ← transferred, post_viewAfter, ← checked.findsDebit.id_eq,
        ← checked.findsCredit.id_eq]
      refine .amount rfl rfl ?_ ?_ ?_ ?_ checked.distinct covers
      · rw [checked.findsDebit.id_eq]
        rfl
      · rw [checked.findsCredit.id_eq]
        rfl
      · rw [checked.findsDebit.id_eq]
        exact checked.findsDebit
      · rw [checked.findsCredit.id_eq]
        exact checked.findsCredit
    · rw [Receipt.accounts_of, post_views]
      refine .nothing ?_
      rw [Receipt.statusCode_of]
      rintro rfl
      exact other rfl

/-- What a successful outcome has moved for an account that one of its fields names. -/
def movedFor (field : Receipt → Option String) (id : String) : Except Fault Receipt → Nat
  | .ok receipt =>
      if receipt.statusCode = .executed ∧ field receipt = some id then receipt.amount.getD 0 else 0
  | .error _ => 0

def received (outcomes : List (Except Fault Receipt)) (id : String) : Nat :=
  (outcomes.map (movedFor Receipt.creditAccount id)).sum

def spent (outcomes : List (Except Fault Receipt)) (id : String) : Nat :=
  (outcomes.map (movedFor Receipt.debitAccount id)).sum

/-- What some outcomes have changed the balance of an account by. -/
def net (outcomes : List (Except Fault Receipt)) (id : String) : Int :=
  received outcomes id - spent outcomes id

theorem net_append (before after : List (Except Fault Receipt)) (id : String) :
    net (before ++ after) id = net before id + net after id := by
  simp only [net, received, spent, List.map_append, List.sum_append]
  omega

/-- No two accounts have one id, and all balances are whole. -/
structure Regular (accounts : List Account) : Prop where
  distinct : (accounts.map Account.id).Nodup
  whole : ∀ account ∈ accounts, account.balance.isFloat = false

/-- The accounts after some outcomes are the first ones, in their order, and only the balances have
changed: by what the account has received and spent, and not in their sum. -/
structure Accounted (start : List Account) (outcomes : List (Except Fault Receipt))
    (now : List Account) : Prop where
  accounts_eq : now = start.map fun account => account.shift (net outcomes account.id)
  total_eq : Balance.total (now.map Account.balance) = Balance.total (start.map Account.balance)

namespace Accounted

variable {start middle now : List Account} {before after : List (Except Fault Receipt)}

theorem append (h : Accounted start before middle) (h' : Accounted middle after now) :
    Accounted start (before ++ after) now := by
  refine ⟨?_, h'.total_eq.trans h.total_eq⟩
  rw [h'.accounts_eq, h.accounts_eq, List.map_map]
  apply List.map_congr_left
  intro account _
  rw [Function.comp_apply, Account.id_shift, Account.shift_shift, net_append]

theorem ids_eq (h : Accounted start before now) : now.map Account.id = start.map Account.id := by
  rw [h.accounts_eq, List.map_map]
  rfl

theorem regular (h : Accounted start before now) (regular : Regular start) : Regular now := by
  refine ⟨h.ids_eq ▸ regular.distinct, ?_⟩
  rw [h.accounts_eq]
  intro account member
  obtain ⟨first, isFirst, rfl⟩ := List.mem_map.mp member
  rw [Account.balance_shift, Balance.isFloat_shift]
  exact regular.whole first isFirst

end Accounted

/-- The accounts are the same ones, and one that is not overdrawn stays so. -/
def NoOverdraft (earlier later : List Account) : Prop :=
  List.Forall₂ (fun before after => before.id = after.id ∧
    (before.balance.covers 0 = true → after.balance.covers 0 = true)) earlier later

theorem NoOverdraft.refl (accounts : List Account) : NoOverdraft accounts accounts :=
  List.forall₂_same.mpr fun _ _ => ⟨rfl, id⟩

theorem NoOverdraft.trans {first second third : List Account} (h : NoOverdraft first second)
    (h' : NoOverdraft second third) : NoOverdraft first third := by
  induction h generalizing third with
  | nil => exact h'
  | cons head _ ih =>
      cases h' with
      | cons head' tail' =>
          refine .cons ⟨head.1.trans head'.1, ?_⟩ (ih tail')
          intro covered
          exact head'.2 (head.2 covered)

namespace Moves

variable {accounts next : List Account} {outcome : Except Fault Receipt}

theorem exists_receipt (h : Moves accounts outcome next) : ∃ receipt, outcome = .ok receipt := by
  cases h with
  | nothing other => exact ⟨_, rfl⟩
  | amount => exact ⟨_, rfl⟩

theorem net_eq_zero {receipt : Receipt} (other : receipt.statusCode ≠ .executed) (id : String) :
    net [.ok receipt] id = 0 := by
  simp [net, received, spent, movedFor, other]

theorem net_eq_gain {receipt : Receipt} {debit credit : String} {amount : Nat}
    (executed : receipt.statusCode = .executed) (moved : receipt.amount = some amount)
    (paid : receipt.debitAccount = some debit) (gained : receipt.creditAccount = some credit)
    (distinct : debit ≠ credit) (id : String) :
    net [.ok receipt] id = Account.gain debit credit amount id := by
  simp only [net, received, spent, List.map_cons, List.map_nil, List.sum_singleton, movedFor,
    executed, moved, paid, gained, true_and, Option.some.injEq, Option.getD_some, Account.gain]
  by_cases isDebit : id = debit
  · subst isDebit
    simp [Ne.symm distinct]
  · by_cases isCredit : id = credit
    · subst isCredit
      simp [distinct, isDebit]
    · simp [isDebit, isCredit, Ne.symm isDebit, Ne.symm isCredit]

theorem accounted (regular : Regular accounts) (h : Moves accounts outcome next) :
    Accounted accounts [outcome] next := by
  cases h with
  | nothing other =>
      refine ⟨?_, rfl⟩
      calc accounts = accounts.map id := (List.map_id accounts).symm
        _ = _ := List.map_congr_left fun account _ => by
          rw [net_eq_zero other, Account.shift_none]
          rfl
  | @amount receipt debit credit amount executed moved paid gained pays gains distinct covers =>
      refine ⟨?_, ?_⟩
      · apply List.map_congr_left
        intro account _
        rw [net_eq_gain executed moved paid gained distinct]
      · have total := Balance.total_map_shift accounts Account.balance
          (fun account => Account.gain debit.id credit.id amount account.id) regular.whole
        have gain := Account.sum_gain distinct amount (accounts.map Account.id)
        rw [Account.count_id_of_first regular.distinct pays,
          Account.count_id_of_first regular.distinct gains, sub_self, List.map_map] at gain
        have balanced : (accounts.map fun account =>
            Account.gain debit.id credit.id amount account.id).sum = 0 := gain
        rw [balanced, add_zero] at total
        rw [List.map_map]
        exact total

theorem noOverdraft (regular : Regular accounts) (h : Moves accounts outcome next) :
    NoOverdraft accounts next := by
  cases h with
  | nothing other => exact .refl accounts
  | @amount receipt debit credit amount executed moved paid gained pays gains distinct covers =>
      rw [NoOverdraft, List.forall₂_map_right_iff, List.forall₂_same]
      intro account member
      refine ⟨rfl, ?_⟩
      intro covered
      rw [Account.balance_shift, Balance.covers_shift (regular.whole account member)]
      by_cases isDebit : account.id = debit.id
      · have same := List.inj_on_of_nodup_map regular.distinct member pays.mem isDebit
        rw [same]
        simpa [Account.gain] using covers
      · by_cases isCredit : account.id = credit.id
        · apply Balance.covers_mono (regular.whole account member) _ covered
          simp [Account.gain, isCredit, Ne.symm distinct]
        · simpa [Account.gain, isDebit, isCredit] using covered

end Moves

theorem run_length (accounts : List Account) (steps : List Step) :
    (run accounts steps).length = steps.length := by
  induction steps generalizing accounts with
  | nil => rfl
  | cons s rest ih => rw [run, List.length_cons, ih, List.length_cons]

section
variable {accounts : List Account} {steps : List Step}

theorem run_entry (regular : Regular accounts)
    (clock : ∀ s ∈ steps, ∃ day, s.terms.today = .ok day)
    {before after : List (Except Fault Receipt × List Account)}
    {entry : Except Fault Receipt × List Account}
    (h : run accounts steps = before ++ entry :: after) :
    (∃ receipt, entry.1 = .ok receipt) ∧
      Accounted accounts ((before ++ [entry]).map Prod.fst) entry.2 := by
  induction steps generalizing accounts before with
  | nil => simp [run] at h
  | cons s rest ih =>
      have moves := step_moves regular.whole (clock s List.mem_cons_self)
      have accounted := moves.accounted regular
      rw [run] at h
      cases before with
      | nil =>
          obtain ⟨rfl, -⟩ := List.cons.inj h
          exact ⟨moves.exists_receipt, accounted⟩
      | cons first earlier =>
          obtain ⟨rfl, later⟩ := List.cons.inj h
          obtain ⟨receipt, others⟩ := ih (accounted.regular regular)
            (fun s' member => clock s' (List.mem_cons_of_mem s member)) later
          exact ⟨receipt, accounted.append others⟩

theorem run_noOverdraft (regular : Regular accounts)
    (clock : ∀ s ∈ steps, ∃ day, s.terms.today = .ok day) :
    List.Pairwise NoOverdraft (accounts :: (run accounts steps).map Prod.snd) := by
  induction steps generalizing accounts with
  | nil => exact List.pairwise_singleton NoOverdraft accounts
  | cons s rest ih =>
      have moves := step_moves regular.whole (clock s List.mem_cons_self)
      have later := ih ((moves.accounted regular).regular regular)
        fun s' member => clock s' (List.mem_cons_of_mem s member)
      rw [run, List.map_cons]
      refine .cons ?_ later
      intro moment member
      have first := moves.noOverdraft regular
      cases List.mem_cons.mp member with
      | inl same => exact same ▸ first
      | inr others => exact first.trans (List.rel_of_pairwise_cons later others)

/-- Over a run every instruction has a result, every balance after every step is accounted for, and
no account that is not overdrawn at some moment is overdrawn later. -/
theorem run_accounted (regular : Regular accounts)
    (clock : ∀ s ∈ steps, ∃ day, s.terms.today = .ok day) :
    (run accounts steps).length = steps.length ∧
    (∀ before entry after, run accounts steps = before ++ entry :: after →
      (∃ receipt, entry.1 = .ok receipt) ∧
        Accounted accounts ((before ++ [entry]).map Prod.fst) entry.2) ∧
    List.Pairwise NoOverdraft (accounts :: (run accounts steps).map Prod.snd) := by
  refine ⟨run_length accounts steps, ?_, run_noOverdraft regular clock⟩
  intro before entry after split
  exact run_entry regular clock split

end

theorem run_accounted_of_payment_back :
    ∃ there back,
      run [⟨"a", .whole 100, "usd"⟩, ⟨"b", .whole (-5), "USD"⟩]
          [⟨.of ["usd"] (.ok ⟨2025, 6, 15⟩), "debit 30 usd from account a for credit to account b"⟩,
           ⟨.of ["USD"] (.ok ⟨2025, 6, 16⟩),
            "credit 10 usd to account a for debit from account b on 2025-06-16"⟩] =
        [(.ok there, [⟨"a", .whole 70, "usd"⟩, ⟨"b", .whole 25, "USD"⟩]),
         (.ok back, [⟨"a", .whole 80, "usd"⟩, ⟨"b", .whole 15, "USD"⟩])] ∧
      Accounted [⟨"a", .whole 100, "usd"⟩, ⟨"b", .whole (-5), "USD"⟩] [.ok there, .ok back]
        [⟨"a", .whole 80, "usd"⟩, ⟨"b", .whole 15, "USD"⟩] := by
  have ran :
      run [⟨"a", .whole 100, "usd"⟩, ⟨"b", .whole (-5), "USD"⟩]
          [⟨.of ["usd"] (.ok ⟨2025, 6, 15⟩), "debit 30 usd from account a for credit to account b"⟩,
           ⟨.of ["USD"] (.ok ⟨2025, 6, 16⟩),
            "credit 10 usd to account a for debit from account b on 2025-06-16"⟩] =
        [(.ok ⟨some .debit, some 30, some "USD", some "a", some "b", none, .successful,
            StatusCode.executed.reason, .executed,
            [⟨"a", .whole 70, .whole 100, "USD"⟩, ⟨"b", .whole 25, .whole (-5), "USD"⟩]⟩,
          [⟨"a", .whole 70, "usd"⟩, ⟨"b", .whole 25, "USD"⟩]),
         (.ok ⟨some .credit, some 10, some "USD", some "b", some "a", some "2025-06-16",
            .successful, StatusCode.executed.reason, .executed,
            [⟨"a", .whole 80, .whole 70, "USD"⟩, ⟨"b", .whole 15, .whole 25, "USD"⟩]⟩,
          [⟨"a", .whole 80, "usd"⟩, ⟨"b", .whole 15, "USD"⟩])] := by
    decide +kernel
  exact ⟨_, _, ran, ((run_accounted ⟨by decide, by decide⟩ (by simp [Terms.of])).2.1 [_] _ [] ran).2⟩

end Ledger
end Giro
