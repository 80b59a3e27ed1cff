import Giro.Proofs.Binary64.Rounding
import Giro.Proofs.Settlement.Rules
import Giro.Proofs.Settlement.Views

/-!
When processing fails, and what it leaves in the journal. Only a checked instruction can be without
a result: its date is valid and the clock does not tell the day, or it is due, its amount is covered
and has no double near it, and some account with one of its two ids holds a double.
-/

namespace Giro

theorem Balance.change?_eq_none_iff {balance : Balance} {change : Int} :
    balance.change? change = none ↔
      balance.isFloat = true ∧ Binary64.wholeLimit ≤ change.natAbs := by
  cases balance with
  | whole value => simp [change?, isFloat]
  | float value => simp [change?, isFloat, Binary64.ofInt?_eq_none_iff]

theorem AccountView.transfer?_eq_none_iff {debit credit : String} {amount : Nat}
    {view : AccountView} :
    view.transfer? debit credit amount = none ↔ (view.id = debit ∨ view.id = credit) ∧
      view.balanceBefore.isFloat = true ∧ Binary64.wholeLimit ≤ amount := by
  have pays : view.balanceBefore.change? (-amount) = none ↔
      view.balanceBefore.isFloat = true ∧ Binary64.wholeLimit ≤ amount := by
    rw [Balance.change?_eq_none_iff, Int.natAbs_neg, Int.natAbs_natCast]
  have receives : view.balanceBefore.change? amount = none ↔
      view.balanceBefore.isFloat = true ∧ Binary64.wholeLimit ≤ amount := by
    rw [Balance.change?_eq_none_iff, Int.natAbs_natCast]
  simp only [transfer?]
  split
  · next isDebit => simp [isDebit, pays]
  · next notDebit =>
    split
    · next isCredit => simp [isCredit, receives]
    · next notCredit => simp [notDebit, notCredit]

/-- A transfer is not possible when a double is to change by an amount that has none near it. -/
theorem Account.transfer?_eq_none_iff_wholeLimit_le {accounts : List Account}
    {debit credit : String} {amount : Nat} :
    transfer? accounts debit credit amount = none ↔ Binary64.wholeLimit ≤ amount ∧
      ∃ account ∈ accounts, (account.id = debit ∨ account.id = credit) ∧
        account.balance.isFloat = true := by
  rw [transfer?_eq_none_iff, named_pair]
  simp only [List.mem_filter, decide_eq_true_eq, AccountView.transfer?_eq_none_iff]
  constructor
  · rintro ⟨account, ⟨member, known⟩, -, isFloat, large⟩
    exact ⟨large, account, member, known, isFloat⟩
  · rintro ⟨large, account, member, known, isFloat⟩
    exact ⟨account, ⟨member, known⟩, known, isFloat, large⟩

namespace Terms

/-- The instruction has no date, or the clock tells a day that its date is not after. -/
def Due (terms : Terms) (ins : Instruction) : Prop :=
  ins.executeBy = none ∨ ∃ today, terms.today = .ok today ∧ Rule.Due ins today

/-- What leaves a request without a result. -/
inductive Raises (terms : Terms) (request : Request) : Fault → Prop
  | clock {ins : Instruction} {amount : Nat} {debit credit : Account} {token : String} {day : Day}
      {fault : ClockFault}
      (read : Instruction.scan Grammar.standard request.instruction = .ok ins)
      (checked : terms.Checked request.accounts ins amount debit credit)
      (dated : ins.executeBy = some token) (valid : ExecutionDate.Writes token day)
      (unknown : terms.today = .error fault) : Raises terms request (.clock fault)
  | amountTooLarge {ins : Instruction} {amount : Nat} {debit credit account : Account}
      (read : Instruction.scan Grammar.standard request.instruction = .ok ins)
      (checked : terms.Checked request.accounts ins amount debit credit)
      (due : terms.Due ins) (covers : debit.balance.covers amount = true)
      (large : Binary64.wholeLimit ≤ amount) (member : account ∈ request.accounts)
      (known : account.id = ins.debitAccount ∨ account.id = ins.creditAccount)
      (float : account.balance.isFloat = true) : Raises terms request .amountTooLarge

section
variable {terms : Terms} {accounts : List Account} {ins : Instruction} {amount : Nat}
  {debit credit : Account} {clock : ClockFault}

theorem dueVerdict_eq_executed_iff {pending : Bool} {n : Nat} :
    dueVerdict debit amount pending = .executed n ↔
      pending = false ∧ debit.balance.covers amount = true ∧ amount = n := by
  simp only [dueVerdict]
  cases pending with
  | true => simp
  | false => cases debit.balance.covers amount <;> simp

theorem dateVerdict_eq_error_iff :
    terms.dateVerdict debit amount ins.executeBy = .error clock ↔
      (∃ token day, ins.executeBy = some token ∧ ExecutionDate.Writes token day) ∧
      terms.today = .error clock := by
  cases date : ins.executeBy with
  | none => simp [dateVerdict]
  | some token =>
      simp only [dateVerdict, ← ExecutionDate.parse?_eq_some_iff]
      cases read : ExecutionDate.parse? token with
      | none => simp [read]
      | some day => cases terms.today <;> simp [read]

theorem dateVerdict_eq_executed_iff {n : Nat} :
    terms.dateVerdict debit amount ins.executeBy = .ok (.executed n) ↔
      terms.Due ins ∧ debit.balance.covers amount = true ∧ amount = n := by
  cases date : ins.executeBy with
  | none => simp [dateVerdict, Due, date, dueVerdict_eq_executed_iff]
  | some token =>
      simp only [dateVerdict, Due, Rule.Due, date, Day.parts_lt_iff, Bool.not_eq_true,
        ← ExecutionDate.parse?_eq_some_iff]
      cases read : ExecutionDate.parse? token with
      | none => simp [read]
      | some day => cases terms.today <;> simp [read, dueVerdict_eq_executed_iff]

/-- A verdict other than a rejection is the one on the date and the funds of a checked
instruction. -/
theorem verdict_eq_iff_of_not_rejected {result : Except ClockFault Verdict}
    (other : ∀ code, result ≠ .ok (.rejected code)) :
    terms.verdict accounts ins = result ↔
      ∃ amount debit credit, terms.Checked accounts ins amount debit credit ∧
        terms.dateVerdict debit amount ins.executeBy = result := by
  constructor
  · rintro rfl
    obtain ⟨code, -, eq⟩ | ⟨amount, debit, credit, checked⟩ :=
      rejected_or_checked terms accounts ins
    · exact absurd eq (other code)
    · exact ⟨amount, debit, credit, checked, checked.verdict_eq.symm⟩
  · rintro ⟨amount, debit, credit, checked, rfl⟩
    exact checked.verdict_eq

theorem settle_eq_error_iff {fault : Fault} :
    terms.settle accounts ins = .error fault ↔
      (∃ clock, terms.verdict accounts ins = .error clock ∧ fault = .clock clock) ∨
      ∃ amount, terms.verdict accounts ins = .ok (.executed amount) ∧
        Account.transfer? accounts ins.debitAccount ins.creditAccount amount = none ∧
        fault = .amountTooLarge := by
  simp only [settle]
  cases terms.verdict accounts ins with
  | error clock => simp [eq_comm]
  | ok verdict =>
      cases verdict with
      | rejected code => simp
      | scheduled => simp
      | executed amount =>
          cases transferred :
            Account.transfer? accounts ins.debitAccount ins.creditAccount amount with
          | none => simp [transferred, eq_comm]
          | some views => simp [transferred]

theorem outcome_eq_error_iff {request : Request} {fault : Fault} :
    terms.outcome request = .error fault ↔
      ∃ ins, Instruction.scan Grammar.standard request.instruction = .ok ins ∧
        terms.settle request.accounts ins = .error fault := by
  simp only [outcome, outcomeIn]
  cases Instruction.scan Grammar.standard request.instruction <;> simp

theorem outcome_eq_error_iff_raises {request : Request} {fault : Fault} :
    terms.outcome request = .error fault ↔ terms.Raises request fault := by
  rw [outcome_eq_error_iff]
  constructor
  · rintro ⟨ins, read, failed⟩
    obtain ⟨clock, verdict, rfl⟩ | ⟨n, verdict, stuck, rfl⟩ := settle_eq_error_iff.mp failed
    · rw [verdict_eq_iff_of_not_rejected (by simp)] at verdict
      obtain ⟨amount, debit, credit, checked, verdict⟩ := verdict
      obtain ⟨⟨token, day, dated, valid⟩, unknown⟩ := dateVerdict_eq_error_iff.mp verdict
      exact .clock read checked dated valid unknown
    · rw [verdict_eq_iff_of_not_rejected (by simp)] at verdict
      obtain ⟨amount, debit, credit, checked, verdict⟩ := verdict
      obtain ⟨due, covers, rfl⟩ := dateVerdict_eq_executed_iff.mp verdict
      obtain ⟨large, account, member, known, float⟩ :=
        Account.transfer?_eq_none_iff_wholeLimit_le.mp stuck
      exact .amountTooLarge read checked due covers large member known float
  · intro raises
    cases raises with
    | clock read checked dated valid unknown =>
        refine ⟨_, read, settle_eq_error_iff.mpr (.inl ⟨_, ?_, rfl⟩)⟩
        rw [checked.verdict_eq]
        exact dateVerdict_eq_error_iff.mpr ⟨⟨_, _, dated, valid⟩, unknown⟩
    | amountTooLarge read checked due covers large member known float =>
        have stuck := Account.transfer?_eq_none_iff_wholeLimit_le.mpr
          ⟨large, _, member, known, float⟩
        refine ⟨_, read, settle_eq_error_iff.mpr (.inr ⟨_, ?_, stuck, rfl⟩)⟩
        rw [checked.verdict_eq]
        exact dateVerdict_eq_executed_iff.mpr ⟨due, covers, rfl⟩

end

/-- What processing a request comes to, and the one record that it leaves. -/
structure Concludes (terms : Terms) (request : Request) (run : Run) : Prop where
  raises_iff : ∀ fault, run.outcome = .error fault ↔ terms.Raises request fault
  returns : (¬ ∃ fault, terms.Raises request fault) → ∃ receipt, run.outcome = .ok receipt
  recordsFault : ∀ fault, run.outcome = .error fault →
    run.journal.map JournalEntry.record =
      [{ level := .error
         event := "parse_instruction_error"
         fields := [("instruction", .str request.instruction), ("exc_info", .bool true)] }]
  recordsResult : ∀ receipt, run.outcome = .ok receipt →
    run.journal.map JournalEntry.record =
      [{ level := .debug
         event := "instruction_processed"
         fields :=
           [("status", .str receipt.status.text), ("status_code", .str receipt.statusCode.text),
            ("type", .ofOption (fun form => .str form.text) receipt.form)] }]

/-- Processing fails on a clock that a valid date needs or on a large amount for a double, and on
nothing else. A failure leaves one record with the instruction, and a result one with its status. -/
theorem process_concludes (terms : Terms) (request : Request) :
    terms.Concludes request (terms.process request) where
  raises_iff fault := by
    rw [outcome_process]
    exact outcome_eq_error_iff_raises
  returns none := by
    rw [outcome_process]
    cases outcome : terms.outcome request with
    | ok receipt => exact ⟨receipt, rfl⟩
    | error fault => exact absurd ⟨fault, outcome_eq_error_iff_raises.mp outcome⟩ none
  recordsFault fault failed := by
    rw [outcome_process] at failed
    simp only [process, failed]
    rfl
  recordsResult receipt returned := by
    rw [outcome_process] at returned
    simp only [process, returned]
    rfl

/-- A clock is at fault before the funds are looked at, which are too low here. -/
theorem process_concludes_of_unknown_zone :
    ((Terms.of ["usd"] (.error (.unknownZone "Mars"))).process
        ⟨[⟨"a", .whole 1, "usd"⟩, ⟨"b", .float .nan, "usd"⟩],
          "debit 10 usd from account a for credit to account b on 2025-06-15"⟩).outcome =
      .error (.clock (.unknownZone "Mars")) ∧
    (Terms.of ["usd"] (.error (.unknownZone "Mars"))).Raises
      ⟨[⟨"a", .whole 1, "usd"⟩, ⟨"b", .float .nan, "usd"⟩],
        "debit 10 usd from account a for credit to account b on 2025-06-15"⟩
      (.clock (.unknownZone "Mars")) := by
  have failed : ((Terms.of ["usd"] (.error (.unknownZone "Mars"))).process
      ⟨[⟨"a", .whole 1, "usd"⟩, ⟨"b", .float .nan, "usd"⟩],
        "debit 10 usd from account a for credit to account b on 2025-06-15"⟩).outcome =
      .error (.clock (.unknownZone "Mars")) := by
    decide +kernel
  exact ⟨failed, ((process_concludes _ _).raises_iff _).mp failed⟩

end Terms
end Giro
