import Mathlib.Data.List.Lattice
import Mathlib.Data.List.Pairwise
import Giro.Proofs.Ledger.Accounting
import Giro.Proofs.Settlement.Locality

/-!
Steps of a ledger that name no account in common. What a step comes to and what it does to an
account depends on the accounts it names alone, and it leaves all others, so that such steps have
the outcomes they would have alone and may be run in any order.
-/

namespace Giro

theorem Account.named_map {change : Account → Account} {ids : List String}
    (keepsId : ∀ account, (change account).id = account.id)
    (frame : ∀ account, account.id ∈ ids → change account = account) (accounts : List Account) :
    named (accounts.map change) ids = named accounts ids := by
  induction accounts with
  | nil => rfl
  | cons account rest ih =>
      rw [List.map_cons, named_cons, named_cons account rest, ih]
      by_cases member : account.id ∈ ids
      · rw [frame account member]
      · simp [named, keepsId, member]

namespace Ledger

/-- The ids that the instruction of a step names. -/
def Step.names (s : Step) : List String :=
  Instruction.names Grammar.standard s.instruction

/-- The steps name no account in common. -/
def Independent (s t : Step) : Prop :=
  s.names.Disjoint t.names

theorem Independent.symm {s t : Step} (h : Independent s t) : Independent t s :=
  List.Disjoint.symm h

instance : Std.Symm Independent := ⟨fun _ _ h => h.symm⟩

/-- Where the step finds these accounts under the ids it names, it has this outcome and changes
every account by itself, and only those with such an id. -/
structure Acts (s : Step) (found : List Account) (outcome : Except Fault Receipt)
    (change : Account → Account) : Prop where
  keepsId : ∀ account, (change account).id = account.id
  frame : ∀ account, account.id ∉ s.names → change account = account
  step_eq : ∀ accounts, Account.named accounts s.names = found →
    step accounts s = (outcome, accounts.map change)

section
variable {s t : Step}

theorem step_of_fault {accounts : List Account} {fault : Fault}
    (h : s.terms.outcome ⟨accounts, s.instruction⟩ = .error fault) :
    step accounts s = (.error fault, accounts) := by
  simp only [step, Terms.process, h]

theorem exists_acts (s : Step) (accounts : List Account) :
    ∃ change, Acts s (Account.named accounts s.names) (step accounts s).1 change := by
  have alike : ∀ others, Account.named others s.names = Account.named accounts s.names →
      s.terms.outcome ⟨others, s.instruction⟩ = s.terms.outcome ⟨accounts, s.instruction⟩ :=
    fun others same => Terms.outcomeIn_of_named_eq s.terms same
  cases outcome : s.terms.outcome ⟨accounts, s.instruction⟩ with
  | error fault =>
      refine ⟨id, fun _ => rfl, fun _ _ => rfl, fun others same => ?_⟩
      rw [step_of_fault outcome, step_of_fault ((alike others same).trans outcome), List.map_id]
  | ok receipt =>
      obtain ⟨shown, own, views⟩ := Terms.exists_shown s.terms outcome
      have ownId : ∀ account, (shown account).id = account.id :=
        fun account => congrArg Account.id (own account)
      refine ⟨fun account => if account.id ∈ s.names then
          { account with balance := (shown account).balance } else account, ?_, ?_, ?_⟩
      · intro account
        split <;> rfl
      · intro account foreign
        exact if_neg foreign
      · intro others same
        rw [step_of_outcome outcome, step_of_outcome ((alike others same).trans outcome), views]
        rw [show Instruction.names Grammar.standard s.instruction = s.names from rfl, ← same,
          post_named _ _ ownId]

/-- A step leaves the accounts that it does not name. -/
theorem named_step (h : Independent s t) (accounts : List Account) :
    Account.named (step accounts s).2 t.names = Account.named accounts t.names := by
  obtain ⟨change, acts⟩ := exists_acts s accounts
  rw [acts.step_eq accounts rfl]
  refine Account.named_map acts.keepsId ?_ accounts
  intro account member
  exact acts.frame account fun named => h named member

theorem outcome_step (h : Independent s t) (accounts : List Account) :
    (step (step accounts s).2 t).1 = (step accounts t).1 := by
  obtain ⟨change, acts⟩ := exists_acts t accounts
  rw [acts.step_eq _ (named_step h accounts)]

theorem step_comm (h : Independent s t) (accounts : List Account) :
    (step (step accounts s).2 t).2 = (step (step accounts t).2 s).2 := by
  obtain ⟨first, actsFirst⟩ := exists_acts s accounts
  obtain ⟨second, actsSecond⟩ := exists_acts t accounts
  rw [actsSecond.step_eq _ (named_step h accounts), actsFirst.step_eq _ (named_step h.symm accounts),
    actsFirst.step_eq accounts rfl, actsSecond.step_eq accounts rfl, List.map_map, List.map_map]
  apply List.map_congr_left
  intro account _
  -- One of the two steps leaves the account, before and after the other one.
  by_cases member : account.id ∈ s.names
  · have foreign : account.id ∉ t.names := fun named => h member named
    have foreign' : (first account).id ∉ t.names := by rwa [actsFirst.keepsId]
    rw [Function.comp_apply, Function.comp_apply, actsSecond.frame account foreign,
      actsSecond.frame _ foreign']
  · have foreign' : (second account).id ∉ s.names := by rwa [actsSecond.keepsId]
    rw [Function.comp_apply, Function.comp_apply, actsFirst.frame account member,
      actsFirst.frame _ foreign']

end

section
variable {steps other : List Step}

/-- Independent steps have the outcomes they would have alone. -/
theorem run_outcomes (independent : steps.Pairwise Independent) (accounts : List Account) :
    (run accounts steps).map Prod.fst = steps.map fun s => (step accounts s).1 := by
  induction steps generalizing accounts with
  | nil => rfl
  | cons s rest ih =>
      obtain ⟨first, others⟩ := List.pairwise_cons.mp independent
      have later : (rest.map fun t => (step (step accounts s).2 t).1) =
          rest.map fun t => (step accounts t).1 :=
        List.map_congr_left fun t member => outcome_step (first t member) accounts
      rw [run, List.map_cons, List.map_cons, ih others, later]

theorem final_perm (independent : steps.Pairwise Independent) (perm : steps.Perm other)
    (accounts : List Account) : final accounts steps = final accounts other := by
  apply perm.foldl_eq'
  intro s inSteps t inSteps' accounts
  rcases eq_or_ne s t with rfl | distinct
  · rfl
  · exact step_comm (independent.forall inSteps inSteps' distinct) accounts

/-- Steps that name no account in common may be run in any order: each has the outcome that it has
alone, and the accounts are the same in the end. -/
theorem run_perm (independent : steps.Pairwise Independent) (perm : steps.Perm other)
    (accounts : List Account) :
    (run accounts steps).map Prod.fst = steps.map (fun s => (step accounts s).1) ∧
    (run accounts other).map Prod.fst = other.map (fun s => (step accounts s).1) ∧
    final accounts other = final accounts steps := by
  have independent' := independent.perm perm fun h => h.symm
  exact ⟨run_outcomes independent accounts, run_outcomes independent' accounts,
    (final_perm independent perm accounts).symm⟩

end

/-- A step whose clock is at fault and a text that cannot be taken apart go before a payment or after
it. In the end the payment is made once and nothing else has changed. -/
theorem run_perm_of_payment_and_fault :
    let accounts : List Account :=
      [⟨"d", .whole 1, "eur"⟩, ⟨"a", .whole 100, "usd"⟩, ⟨"c", .float .nan, "eur"⟩,
        ⟨"b", .whole (-5), "USD"⟩]
    let payment : Step :=
      ⟨.of ["usd"] (.ok ⟨2025, 6, 15⟩), "debit 30 usd from account a for credit to account b"⟩
    let stopped : Step := ⟨.of ["eur"] (.error (.unknownZone "Mars")),
      "debit 1 eur from account d for credit to account c on 2025-06-15"⟩
    let unread : Step := ⟨.of ["usd"] (.ok ⟨2025, 6, 15⟩), "debit a b"⟩
    let after : List Account :=
      [⟨"d", .whole 1, "eur"⟩, ⟨"a", .whole 70, "usd"⟩, ⟨"c", .float .nan, "eur"⟩,
        ⟨"b", .whole 25, "USD"⟩]
    [payment, stopped, unread].Pairwise Independent ∧
    (run accounts [stopped, unread, payment]).map Prod.fst =
      [.error (.clock (.unknownZone "Mars")), .ok (.unread .missingKeywords),
       .ok ⟨some .debit, some 30, some "USD", some "a", some "b", none, .successful,
         StatusCode.executed.reason, .executed,
         [⟨"a", .whole 70, .whole 100, "USD"⟩, ⟨"b", .whole 25, .whole (-5), "USD"⟩]⟩] ∧
    final accounts [payment, stopped, unread] = after ∧
    final accounts [stopped, unread, payment] = after := by
  intro accounts payment stopped unread after
  have names : payment.names = ["a", "b"] ∧ stopped.names = ["d", "c"] ∧ unread.names = [] := by
    decide +kernel
  have independent : [payment, stopped, unread].Pairwise Independent := by
    simp [Independent, names]
  have paid : final accounts [payment, stopped, unread] = after := by decide +kernel
  obtain ⟨-, outcomes, same⟩ :=
    run_perm independent (.trans (.swap _ _ _) (.cons _ (.swap _ _ _))) accounts
  refine ⟨independent, outcomes.trans ?_, paid, same.trans paid⟩
  decide +kernel

end Ledger
end Giro
