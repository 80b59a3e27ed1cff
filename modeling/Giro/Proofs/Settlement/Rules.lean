import Giro.Proofs.Amount
import Giro.Proofs.Binary64.Order
import Giro.Proofs.ExecutionDate
import Giro.Proofs.Instruction.Pieces
import Giro.Proofs.Settlement.Outcome

/-!
The rules as a table. Each rule is a code and a condition on the instruction, the accounts, the
currencies in use and the day, none of which mentions another rule or what was found before it.
The code of a result is that of the first rule broken, and a result is missing only where no rule
is broken and nothing is left to wait for.
-/

namespace Giro

/-- The numbers of a day, the largest part first. -/
def Day.parts (day : Day) : List Int :=
  [day.year, day.month, day.day]

theorem Day.parts_lt_iff {day other : Day} :
    day.parts < other.parts ↔ day.before other = true := by
  simp [parts, before, List.cons_lt_cons_iff]

/-- A code and what breaks the rule that gives it. -/
structure Rule where
  code : StatusCode
  broken : Prop

namespace Rule

/-- The rules decide the code of the first one broken, or an accepted one where none is. -/
inductive Decide (accepted : StatusCode → Prop) : List Rule → StatusCode → Prop
  | broken {rule : Rule} {rest : List Rule} (h : rule.broken) :
      Decide accepted (rule :: rest) rule.code
  | kept {rule : Rule} {rest : List Rule} {code : StatusCode} (h : ¬ rule.broken)
      (next : Decide accepted rest code) : Decide accepted (rule :: rest) code
  | none {code : StatusCode} (h : accepted code) : Decide accepted [] code

theorem Decide.unique {accepted : StatusCode → Prop} {rules : List Rule} {code other : StatusCode}
    (one : ∀ code other, accepted code → accepted other → code = other)
    (h : Decide accepted rules code) (h' : Decide accepted rules other) : code = other := by
  induction h with
  | broken h =>
      cases h' with
      | broken _ => rfl
      | kept h' _ => exact absurd h h'
  | kept h _ ih =>
      cases h' with
      | broken h' => exact absurd h' h
      | kept _ next => exact ih next
  | none h =>
      cases h' with
      | none h' => exact one _ _ h h'

/-- The date is one after this day. -/
def Upcoming (ins : Instruction) (today : Day) : Prop :=
  ∃ token day, ins.executeBy = some token ∧ ExecutionDate.Writes token day ∧
    today.parts < day.parts

/-- There is no date, or it is one not after this day. -/
def Due (ins : Instruction) (today : Day) : Prop :=
  ins.executeBy = none ∨ ∃ token day, ins.executeBy = some token ∧
    ExecutionDate.Writes token day ∧ ¬ today.parts < day.parts

/-- The rules in their order, by the instruction and what it is settled by alone. -/
def table (currencies : List String) (today : Day) (accounts : List Account)
    (ins : Instruction) : List Rule :=
  [⟨.invalidAmount, ¬ ∃ amount, Amount.Writes ins.amount amount⟩,
   ⟨.unsupportedCurrency, ∀ code ∈ currencies, capital code ≠ capital ins.currency⟩,
   ⟨.accountNotFound, (∀ account ∈ accounts, account.id ≠ ins.debitAccount) ∨
      ∀ account ∈ accounts, account.id ≠ ins.creditAccount⟩,
   ⟨.sameAccount, ins.debitAccount = ins.creditAccount⟩,
   ⟨.currencyMismatch, ∃ debit credit, Account.First accounts ins.debitAccount debit ∧
      Account.First accounts ins.creditAccount credit ∧
      capital debit.currency ≠ capital credit.currency⟩,
   ⟨.currencyMismatch, ∃ debit, Account.First accounts ins.debitAccount debit ∧
      ins.currency ≠ capital debit.currency⟩,
   ⟨.malformedInstruction, ∃ token, ins.executeBy = some token ∧
      ¬ ∃ day, ExecutionDate.Writes token day⟩,
   ⟨.insufficientFunds, Due ins today ∧ ∃ debit amount,
      Account.First accounts ins.debitAccount debit ∧ Amount.Writes ins.amount amount ∧
      ¬ ∃ place, debit.balance.place? = some place ∧ .of amount ≤ place⟩]

/-- The code of an instruction that breaks no rule. -/
def Accepted (ins : Instruction) (today : Day) (code : StatusCode) : Prop :=
  (Upcoming ins today ∧ code = .scheduled) ∨ (¬ Upcoming ins today ∧ code = .executed)

theorem Accepted.unique {ins : Instruction} {today : Day} {code other : StatusCode}
    (h : Accepted ins today code) (h' : Accepted ins today other) : code = other := by
  obtain ⟨upcoming, rfl⟩ | ⟨due, rfl⟩ := h
  · obtain ⟨-, rfl⟩ | ⟨due, -⟩ := h'
    · rfl
    · exact absurd upcoming due
  · obtain ⟨upcoming, -⟩ | ⟨-, rfl⟩ := h'
    · exact absurd upcoming due
    · rfl

theorem Due.not_upcoming {ins : Instruction} {today : Day} (h : Due ins today) :
    ¬ Upcoming ins today := by
  rintro ⟨token, day, date, writes, after⟩
  obtain absent | ⟨token', day', date', writes', notAfter⟩ := h
  · rw [absent] at date
    contradiction
  · rw [date', Option.some.injEq] at date
    have sameDay := ExecutionDate.Writes.unique (date ▸ writes') writes
    exact notAfter (sameDay ▸ after)

section
variable {ins : Instruction} {today day : Day} {token : String} (date : ins.executeBy = some token)
  (writes : ExecutionDate.Writes token day)
include date writes

theorem upcoming_iff_of_writes : Upcoming ins today ↔ today.parts < day.parts := by
  constructor
  · rintro ⟨token', day', date', writes', after⟩
    rw [date, Option.some.injEq] at date'
    rwa [ExecutionDate.Writes.unique writes (date' ▸ writes')]
  · exact fun after => ⟨token, day, date, writes, after⟩

theorem due_iff_of_writes : Due ins today ↔ ¬ today.parts < day.parts := by
  rw [← upcoming_iff_of_writes date writes]
  constructor
  · exact Due.not_upcoming
  · intro notAfter
    rw [upcoming_iff_of_writes date writes] at notAfter
    exact .inr ⟨token, day, date, writes, notAfter⟩

end

/-- Days of the calendar are compared with a date by their texts. -/
theorem parts_lt_iff_text {today day : Day} {token : String} (first : 1 ≤ today.year)
    (last : today.year ≤ 9999) (inRange : today.inRange = true)
    (writes : ExecutionDate.Writes token day) : today.parts < day.parts ↔ today.text < token := by
  have year := writes.year_lt
  rw [Day.parts_lt_iff, writes.eq_text, ExecutionDate.text_lt_text_iff ⟨by omega, last⟩ inRange
    ⟨writes.year_nonneg, by omega⟩ writes.inRange]

theorem exists_kept {accepted : StatusCode → Prop} {rule : Rule} {rest : List Rule}
    {reached : Verdict → Prop} (kept : ¬ rule.broken)
    (next : ∃ verdict, reached verdict ∧ Decide accepted rest verdict.code) :
    ∃ verdict, reached verdict ∧ Decide accepted (rule :: rest) verdict.code := by
  obtain ⟨verdict, reaches, decided⟩ := next
  exact ⟨verdict, reaches, .kept kept decided⟩

end Rule

namespace Terms

section
variable {terms : Terms} {today : Day} {accounts : List Account} {ins : Instruction}
  {amount : Nat} {debit credit : Account}

theorem dueVerdict_decide (checked : terms.Checked accounts ins amount debit credit)
    (due : Rule.Due ins today) (currencies : List String) :
    Rule.Decide (Rule.Accepted ins today) ((Rule.table currencies today accounts ins).drop 7)
      (dueVerdict debit amount false).code := by
  have writes := Amount.parse?_eq_some_iff.mp checked.readsAmount
  cases covers : debit.balance.covers amount with
  | false =>
      have verdict : dueVerdict debit amount false = .rejected .insufficientFunds := by
        simp [dueVerdict, covers]
      rw [verdict]
      refine .broken ⟨due, debit, amount, checked.findsDebit, writes, ?_⟩
      rw [← Balance.covers_natCast_iff_place, covers]
      exact Bool.false_ne_true
  | true =>
      have verdict : dueVerdict debit amount false = .executed amount := by
        simp [dueVerdict, covers]
      rw [verdict]
      refine .kept ?_ (.none (.inr ⟨due.not_upcoming, rfl⟩))
      rintro ⟨-, other, n, first, writes', short⟩
      have sameAccount := checked.findsDebit.unique first
      have sameAmount := writes.unique writes'
      rw [← sameAccount, ← sameAmount, ← Balance.covers_natCast_iff_place] at short
      exact short covers

theorem dateVerdict_decide (clock : terms.today = .ok today)
    (checked : terms.Checked accounts ins amount debit credit) (currencies : List String) :
    ∃ verdict, terms.dateVerdict debit amount ins.executeBy = .ok verdict ∧
      Rule.Decide (Rule.Accepted ins today) ((Rule.table currencies today accounts ins).drop 6)
        verdict.code := by
  cases date : ins.executeBy with
  | none =>
      refine Rule.exists_kept ?_ ⟨_, rfl, dueVerdict_decide checked (.inl date) currencies⟩
      rintro ⟨token, present, -⟩
      rw [date] at present
      contradiction
  | some token =>
      cases read : ExecutionDate.parse? token with
      | none =>
          refine ⟨.rejected .malformedInstruction, by simp [dateVerdict, read], .broken ?_⟩
          refine ⟨token, date, ?_⟩
          rintro ⟨day, writes⟩
          rw [ExecutionDate.parse?_eq_some_iff.mpr writes] at read
          contradiction
      | some day =>
          have writes := ExecutionDate.parse?_eq_some_iff.mp read
          have verdict : terms.dateVerdict debit amount (some token) =
              .ok (dueVerdict debit amount (today.before day)) := by
            simp [dateVerdict, read, clock]
          refine Rule.exists_kept ?_ ⟨_, verdict, ?_⟩
          · rintro ⟨token', present, none⟩
            rw [date, Option.some.injEq] at present
            exact none ⟨day, present ▸ writes⟩
          · cases order : today.before day with
            | false =>
                have notAfter : ¬ today.parts < day.parts := by
                  rw [Day.parts_lt_iff, order]
                  exact Bool.false_ne_true
                exact dueVerdict_decide checked (.inr ⟨token, day, date, writes, notAfter⟩) currencies
            | true =>
                have upcoming : Rule.Upcoming ins today :=
                  ⟨token, day, date, writes, Day.parts_lt_iff.mpr order⟩
                refine .kept ?_ (.none (.inl ⟨upcoming, rfl⟩))
                rintro ⟨due, -⟩
                exact due.not_upcoming upcoming

/-- The rules about the accounts and those after them decide the verdict on an instruction with an
amount and a currency in use. -/
theorem accountVerdict_decide (clock : terms.today = .ok today)
    (readsAmount : Amount.parse? ins.amount = some amount)
    (supported : Currency.supported terms.currencies ins.currency = true)
    (capitals : capital ins.currency = ins.currency) (currencies : List String) :
    ∃ verdict, terms.verdict accounts ins = .ok verdict ∧
      Rule.Decide (Rule.Accepted ins today) ((Rule.table currencies today accounts ins).drop 2)
        verdict.code := by
  cases findsDebit : Account.find? accounts ins.debitAccount with
  | none =>
      refine ⟨.rejected .accountNotFound, ?_, .broken (.inl ?_)⟩
      · simp [verdict, readsAmount, supported, findsDebit]
      · exact Account.find?_eq_none_iff.mp findsDebit
  | some debit =>
  cases findsCredit : Account.find? accounts ins.creditAccount with
  | none =>
      refine ⟨.rejected .accountNotFound, ?_, .broken (.inr ?_)⟩
      · simp [verdict, readsAmount, supported, findsCredit]
      · exact Account.find?_eq_none_iff.mp findsCredit
  | some credit =>
  have firstDebit := Account.find?_eq_some_iff.mp findsDebit
  have firstCredit := Account.find?_eq_some_iff.mp findsCredit
  refine Rule.exists_kept ?_ ?_
  · rintro (missing | missing)
    · exact missing debit firstDebit.mem firstDebit.id_eq
    · exact missing credit firstCredit.mem firstCredit.id_eq
  have found := verdict_of_found readsAmount supported findsDebit findsCredit
  rw [firstDebit.id_eq, firstCredit.id_eq] at found
  by_cases same : ins.debitAccount = ins.creditAccount
  · refine ⟨.rejected .sameAccount, ?_, .broken same⟩
    simp [found, same]
  refine Rule.exists_kept same ?_
  have agree_iff : Currency.sameCode debit.currency credit.currency = true ↔
      capital debit.currency = capital credit.currency := decide_eq_true_iff
  by_cases agree : capital debit.currency = capital credit.currency
  case neg =>
    refine ⟨.rejected .currencyMismatch, ?_, .broken ⟨debit, credit, firstDebit, firstCredit, agree⟩⟩
    simp [found, same, agree_iff, agree]
  refine Rule.exists_kept ?_ ?_
  · rintro ⟨debit', credit', firstDebit', firstCredit', differ⟩
    rw [firstDebit'.unique firstDebit, firstCredit'.unique firstCredit] at differ
    exact differ agree
  have own_iff : Currency.sameCode ins.currency debit.currency = true ↔
      ins.currency = capital debit.currency := by
    rw [Currency.sameCode, capitals, decide_eq_true_iff]
  by_cases own : ins.currency = capital debit.currency
  case neg =>
    refine ⟨.rejected .currencyMismatch, ?_, .broken ⟨debit, firstDebit, own⟩⟩
    simp [found, same, agree_iff.mpr agree, own_iff, own]
  refine Rule.exists_kept ?_ ?_
  · rintro ⟨debit', firstDebit', differ⟩
    rw [firstDebit'.unique firstDebit] at differ
    exact differ own
  have distinct : debit.id ≠ credit.id := by
    rwa [firstDebit.id_eq, firstCredit.id_eq]
  have checked : terms.Checked accounts ins amount debit credit :=
    ⟨readsAmount, supported, firstDebit, firstCredit, distinct, agree_iff.mpr agree,
      own_iff.mpr own⟩
  rw [checked.verdict_eq]
  exact dateVerdict_decide clock checked currencies

theorem verdict_decide (currencies : List String) (today : Day) (accounts : List Account)
    (capitals : capital ins.currency = ins.currency) :
    ∃ verdict, (Terms.of currencies (.ok today)).verdict accounts ins = .ok verdict ∧
      Rule.Decide (Rule.Accepted ins today) (Rule.table currencies today accounts ins)
        verdict.code := by
  cases readsAmount : Amount.parse? ins.amount with
  | none =>
      refine ⟨.rejected .invalidAmount, by simp [verdict, readsAmount], .broken ?_⟩
      rintro ⟨amount, writes⟩
      rw [Amount.parse?_eq_some_iff.mpr writes] at readsAmount
      contradiction
  | some amount =>
      have writes := Amount.parse?_eq_some_iff.mp readsAmount
      refine Rule.exists_kept (not_not_intro ⟨amount, writes⟩) ?_
      cases supported : Currency.supported (currencies.map capital) ins.currency with
      | false =>
          refine ⟨.rejected .unsupportedCurrency, ?_, .broken ?_⟩
          · simp [verdict, readsAmount, Terms.of, supported]
          · simpa [Currency.supported] using supported
      | true =>
          refine Rule.exists_kept ?_ ?_
          · simpa [Currency.supported] using supported
          · exact accountVerdict_decide rfl readsAmount supported capitals currencies

end

/-- The code of the result for an instruction that is taken apart is the one the table decides. No
rule makes a result fail: one is missing only for an amount too large to be moved, and then no rule
is broken. On a day of the calendar it is the text of a date that tells whether it is due. -/
theorem outcome_decide (currencies : List String) (today : Day) (request : Request)
    {ins : Instruction}
    (read : Instruction.scan Grammar.standard request.instruction = .ok ins) :
    (∀ receipt, (Terms.of currencies (.ok today)).outcome request = .ok receipt →
      ∀ code, receipt.statusCode = code ↔
        Rule.Decide (Rule.Accepted ins today) (Rule.table currencies today request.accounts ins)
          code) ∧
    (∀ fault, (Terms.of currencies (.ok today)).outcome request = .error fault →
      fault = .amountTooLarge ∧
        Rule.Decide (Rule.Accepted ins today) (Rule.table currencies today request.accounts ins)
          .executed) ∧
    (1 ≤ today.year → today.year ≤ 9999 → today.inRange = true →
      ∀ token day, ins.executeBy = some token → ExecutionDate.Writes token day →
        (Rule.Upcoming ins today ↔ today.text < token) ∧
        (Rule.Due ins today ↔ ¬ today.text < token)) := by
  have capitals := Instruction.capital_currency_of_scan read
  obtain ⟨verdict, decided, decide⟩ := verdict_decide currencies today request.accounts capitals
  rw [outcome_of_scan _ request read]
  refine ⟨?_, ?_, ?_⟩
  · intro receipt settled code
    rw [statusCode_of_settle decided settled]
    constructor
    · rintro rfl
      exact decide
    · intro other
      exact decide.unique (fun _ _ => Rule.Accepted.unique) other
  · intro fault failed
    obtain ⟨tooLarge, executed⟩ := fault_of_settle decided failed
    exact ⟨tooLarge, executed ▸ decide⟩
  · intro first last inRange token day date writes
    have order := Rule.parts_lt_iff_text first last inRange writes
    rw [Rule.upcoming_iff_of_writes date writes, Rule.due_iff_of_writes date writes, order]
    exact ⟨Iff.rfl, Iff.rfl⟩

/-- Two accounts that agree neither with each other nor with the instruction are found out before
its date and its amount are looked at. A payment of more than there is waits for its date, and on
that day it lacks the funds. -/
theorem outcome_decide_of_three_broken :
    let differing : List Account :=
      [⟨"b", .whole 7, "gbp"⟩, ⟨"a", .whole 3, "usd"⟩, ⟨"a", .whole 90, "gbp"⟩]
    let undated : Instruction := ⟨.debit, "50", "NGN", "a", "b", some "monday"⟩
    let alike : List Account := [⟨"a", .whole 3, "usd"⟩, ⟨"b", .float .nan, "USD"⟩]
    let dated : Instruction := ⟨.debit, "4", "USD", "a", "b", some "2025-06-15"⟩
    Instruction.scan Grammar.standard
        "debit 50 ngn from account a for credit to account b on monday" = .ok undated ∧
    Rule.Decide (Rule.Accepted undated ⟨2025, 6, 15⟩)
      (Rule.table ["usd", "ngn"] ⟨2025, 6, 15⟩ differing undated) .currencyMismatch ∧
    Instruction.scan Grammar.standard
        "debit 4 usd from account a for credit to account b on 2025-06-15" = .ok dated ∧
    Rule.Upcoming dated ⟨2025, 6, 14⟩ ∧
    Rule.Decide (Rule.Accepted dated ⟨2025, 6, 14⟩)
      (Rule.table ["usd"] ⟨2025, 6, 14⟩ alike dated) .scheduled ∧
    Rule.Due dated ⟨2025, 6, 15⟩ ∧
    Rule.Decide (Rule.Accepted dated ⟨2025, 6, 15⟩)
      (Rule.table ["usd"] ⟨2025, 6, 15⟩ alike dated) .insufficientFunds := by
  intro differing undated alike dated
  have read : Instruction.scan Grammar.standard
      "debit 50 ngn from account a for credit to account b on monday" = .ok undated := by
    decide +kernel
  have rejected : (Terms.of ["usd", "ngn"] (.ok ⟨2025, 6, 15⟩)).outcome
      ⟨differing, "debit 50 ngn from account a for credit to account b on monday"⟩ =
      .ok ⟨some .debit, some 50, some "NGN", some "a", some "b", some "monday", .failed,
        StatusCode.currencyMismatch.reason, .currencyMismatch,
        [⟨"b", .whole 7, .whole 7, "GBP"⟩, ⟨"a", .whole 3, .whole 3, "USD"⟩,
          ⟨"a", .whole 90, .whole 90, "GBP"⟩]⟩ := by
    rw [outcome_of_scan _ ⟨_, _⟩ read]
    decide +kernel
  have readDated : Instruction.scan Grammar.standard
      "debit 4 usd from account a for credit to account b on 2025-06-15" = .ok dated := by
    decide +kernel
  have writes : ExecutionDate.Writes "2025-06-15" ⟨2025, 6, 15⟩ :=
    ExecutionDate.parse?_eq_some_iff.mp (by decide +kernel)
  have waits : (Terms.of ["usd"] (.ok ⟨2025, 6, 14⟩)).outcome
      ⟨alike, "debit 4 usd from account a for credit to account b on 2025-06-15"⟩ =
      .ok ⟨some .debit, some 4, some "USD", some "a", some "b", some "2025-06-15", .pending,
        StatusCode.scheduled.reason, .scheduled,
        [⟨"a", .whole 3, .whole 3, "USD"⟩, ⟨"b", .float .nan, .float .nan, "USD"⟩]⟩ := by
    rw [outcome_of_scan _ ⟨_, _⟩ readDated]
    decide +kernel
  have lacks : (Terms.of ["usd"] (.ok ⟨2025, 6, 15⟩)).outcome
      ⟨alike, "debit 4 usd from account a for credit to account b on 2025-06-15"⟩ =
      .ok ⟨some .debit, some 4, some "USD", some "a", some "b", some "2025-06-15", .failed,
        StatusCode.insufficientFunds.reason, .insufficientFunds,
        [⟨"a", .whole 3, .whole 3, "USD"⟩, ⟨"b", .float .nan, .float .nan, "USD"⟩]⟩ := by
    rw [outcome_of_scan _ ⟨_, _⟩ readDated]
    decide +kernel
  obtain ⟨decidesBefore, -, textBefore⟩ := outcome_decide ["usd"] ⟨2025, 6, 14⟩ ⟨alike, _⟩ readDated
  obtain ⟨decidesOn, -, textOn⟩ := outcome_decide ["usd"] ⟨2025, 6, 15⟩ ⟨alike, _⟩ readDated
  refine ⟨read, ((outcome_decide _ _ ⟨_, _⟩ read).1 _ rejected _).mp rfl, readDated, ?_,
    (decidesBefore _ waits _).mp rfl, ?_, (decidesOn _ lacks _).mp rfl⟩
  · exact (textBefore (by decide) (by decide) (by decide) _ _ rfl writes).1.mpr (by decide +kernel)
  · exact (textOn (by decide) (by decide) (by decide) _ _ rfl writes).2.mpr (by decide +kernel)

end Terms
end Giro
