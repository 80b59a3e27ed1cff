import Giro.Proofs.Settlement.Locality
import Giro.Proofs.Settlement.Rules

/-!
Outcomes from one day to a later one. The clock is asked for the day only where an instruction has
passed the rules before its date and has a valid one, and the day then decides only whether the
instruction waits. An instruction that waits has waited on every day before, and once it falls due
its outcome stays what it is.
-/

namespace Giro

theorem Day.before_of_not_before {a b c : Day} (le : b.before a = false) (h : b.before c = true) :
    a.before c = true := by
  simp only [before, decide_eq_true_eq, decide_eq_false_iff_not] at *
  omega

namespace Verdict

section
variable {verdict : Verdict} {ins : Instruction} {accounts : List Account} {receipt : Receipt}

theorem status_of_conclude (h : verdict.conclude ins accounts = .ok receipt) :
    receipt.status = verdict.code.status ∧ receipt.statusCode = verdict.code := by
  rw [eq_of_conclude h]
  exact ⟨rfl, rfl⟩

theorem conclude_eq_error {fault : Fault} (h : verdict.conclude ins accounts = .error fault) :
    fault = .amountTooLarge := by
  obtain ⟨-, -, -, eq⟩ | ⟨-, eq⟩ := verdict.conclude_cases ins accounts
  · exact (Except.error.inj (eq.symm.trans h)).symm
  · rw [eq] at h
    contradiction

end
end Verdict

namespace Terms

/-- The outcome is a result that is pending. -/
def Pending (outcome : Except Fault Receipt) : Prop :=
  ∃ receipt, outcome = .ok receipt ∧ receipt.status = .pending

theorem pending_conclude_iff {verdict : Verdict} {ins : Instruction} {accounts : List Account} :
    Pending (verdict.conclude ins accounts) ↔ verdict.code.status = .pending := by
  constructor
  · rintro ⟨receipt, concluded, pending⟩
    rw [← (Verdict.status_of_conclude concluded).1, pending]
  · intro pending
    cases verdict with
    | rejected code => exact ⟨_, Verdict.conclude_of_view? fun _ => rfl, pending⟩
    | scheduled => exact ⟨_, Verdict.conclude_of_view? fun _ => rfl, rfl⟩
    | executed amount => contradiction

/-- The outcome of a request on a day. -/
def outcomeOn (currencies : List String) (grammars : List Grammar) (request : Request)
    (today : Day) : Except Fault Receipt :=
  (Terms.of currencies (.ok today)).outcomeIn grammars request

/-- The instruction has passed every rule before its date, which is a valid one of this day. -/
structure Dated (currencies : List String) (grammars : List Grammar) (request : Request)
    (ins : Instruction) (amount : Nat) (debit : Account) (day : Day) : Prop where
  read : Instruction.scan grammars request.instruction = .ok ins
  checked : ∃ credit, ∀ clock,
    (Terms.of currencies clock).Checked request.accounts ins amount debit credit
  written : ∃ token, ins.executeBy = some token ∧ ExecutionDate.Writes token day

section
variable {currencies : List String} {grammars : List Grammar} {request : Request}
  {ins : Instruction} {amount : Nat} {debit credit : Account} {day today : Day}

theorem Checked.of_currencies {terms other : Terms} {accounts : List Account}
    (h : terms.Checked accounts ins amount debit credit)
    (same : other.currencies = terms.currencies) :
    other.Checked accounts ins amount debit credit :=
  ⟨h.readsAmount, same ▸ h.supported, h.findsDebit, h.findsCredit, h.distinct, h.sameCurrency,
    h.ownCurrency⟩

/-- The clock has no part in an outcome, or the instruction is a dated one. -/
theorem timeless_or_dated (currencies : List String) (grammars : List Grammar) (request : Request) :
    (∃ outcome, ∀ clock, (Terms.of currencies clock).outcomeIn grammars request = outcome) ∨
      ∃ ins amount debit day, Dated currencies grammars request ins amount debit day := by
  cases read : Instruction.scan grammars request.instruction with
  | error fault => exact .inl ⟨.ok (.unread fault), fun clock => outcomeIn_of_fault _ request read⟩
  | ok ins =>
  have settled (clock : Except ClockFault Day) :
      (Terms.of currencies clock).outcomeIn grammars request =
        (Terms.of currencies clock).settle request.accounts ins :=
    outcomeIn_of_scan _ request read
  obtain ⟨code, rejected⟩ | ⟨amount, debit, credit, checked⟩ :=
    rejectedEarly_or_checked (.of currencies (.ok ⟨1970, 1, 1⟩)) request.accounts ins
  · refine .inl ⟨(Verdict.rejected code).conclude ins request.accounts, fun clock => ?_⟩
    have alike : (Terms.of currencies clock).RejectedEarly request.accounts ins code :=
      rejected.of_currencies rfl
    rw [settled, settle_of_verdict alike.verdict_eq]
  have checks (clock : Except ClockFault Day) :
      (Terms.of currencies clock).Checked request.accounts ins amount debit credit :=
    checked.of_currencies rfl
  cases date : ins.executeBy with
  | none =>
      refine .inl ⟨(dueVerdict debit amount false).conclude ins request.accounts, fun clock => ?_⟩
      rw [settled, settle_of_verdict ((checks clock).verdict_eq.trans ?_)]
      rw [date, dateVerdict]
  | some token =>
      cases parsed : ExecutionDate.parse? token with
      | none =>
          refine .inl ⟨(Verdict.rejected .malformedInstruction).conclude ins request.accounts,
            fun clock => ?_⟩
          rw [settled, settle_of_verdict ((checks clock).verdict_eq.trans ?_)]
          simp only [date, dateVerdict, parsed]
      | some day =>
          exact .inr ⟨ins, amount, debit, day, read, ⟨credit, checks⟩, token, date,
            ExecutionDate.parse?_eq_some_iff.mp parsed⟩

theorem Dated.outcomeOn_eq (h : Dated currencies grammars request ins amount debit day)
    (today : Day) :
    outcomeOn currencies grammars request today =
      (dueVerdict debit amount (today.before day)).conclude ins request.accounts := by
  obtain ⟨credit, checked⟩ := h.checked
  obtain ⟨token, date, writes⟩ := h.written
  rw [outcomeOn, outcomeIn_of_scan _ request h.read,
    settle_of_verdict ((checked (.ok today)).verdict_eq.trans ?_)]
  simp only [date, dateVerdict, ExecutionDate.parse?_eq_some_iff.mpr writes, Terms.of]

/-- A checked instruction breaks none of the rules before the date. -/
theorem Checked.not_broken {clock : Except ClockFault Day} {accounts : List Account}
    (h : (Terms.of currencies clock).Checked accounts ins amount debit credit)
    (capitals : capital ins.currency = ins.currency) (today : Day) :
    ∀ rule ∈ (Rule.table currencies today accounts ins).take 6, ¬ rule.broken := by
  simp only [Rule.table, List.take_succ_cons, List.take_zero, List.forall_mem_cons]
  refine ⟨?amount, ?currency, ?found, ?distinct, ?sameCurrency, ?ownCurrency, by simp⟩
  case amount =>
    exact not_not_intro ⟨amount, Amount.parse?_eq_some_iff.mp h.readsAmount⟩
  case currency =>
    have supported := h.supported
    intro none
    rw [Currency.supported, List.contains_iff_mem] at supported
    obtain ⟨code, listed, same⟩ := List.mem_map.mp supported
    exact none code listed same
  case found =>
    rintro (missing | missing)
    · exact missing debit h.findsDebit.mem h.findsDebit.id_eq
    · exact missing credit h.findsCredit.mem h.findsCredit.id_eq
  case distinct => exact h.ids_ne
  case sameCurrency =>
    rintro ⟨other, other', first, first', differ⟩
    rw [first.unique h.findsDebit, first'.unique h.findsCredit] at differ
    exact differ (of_decide_eq_true h.sameCurrency)
  case ownCurrency =>
    rintro ⟨other, first, differ⟩
    rw [first.unique h.findsDebit, ← capitals] at differ
    exact differ (of_decide_eq_true h.ownCurrency)

theorem Dated.not_broken (h : Dated currencies grammars request ins amount debit day)
    (today : Day) :
    ∀ rule ∈ (Rule.table currencies today request.accounts ins).take 7, ¬ rule.broken := by
  obtain ⟨credit, checked⟩ := h.checked
  obtain ⟨token, date, writes⟩ := h.written
  have before := (checked (.ok today)).not_broken (Instruction.capital_currency_of_scan h.read) today
  intro rule member
  rw [show 7 = 6 + 1 from rfl, List.take_add, List.mem_append] at member
  obtain early | last := member
  · exact before rule early
  · obtain rfl := List.mem_singleton.mp last
    rintro ⟨other, date', none⟩
    rw [date, Option.some.injEq] at date'
    exact none ⟨day, date' ▸ writes⟩

theorem code_dueVerdict_false (debit : Account) (amount : Nat) :
    (dueVerdict debit amount false).code = .executed ∨
      (dueVerdict debit amount false).code = .insufficientFunds := by
  simp only [dueVerdict]
  cases debit.balance.covers amount with
  | true => exact .inl rfl
  | false => exact .inr rfl

theorem Dated.pending_iff (h : Dated currencies grammars request ins amount debit day) :
    Pending (outcomeOn currencies grammars request today) ↔ today.before day = true := by
  rw [h.outcomeOn_eq, pending_conclude_iff]
  cases today.before day with
  | true => exact ⟨fun _ => rfl, fun _ => rfl⟩
  | false =>
      obtain code | code := code_dueVerdict_false debit amount
      · rw [code]
        decide
      · rw [code]
        decide

/-- A dated instruction has one outcome on all days on which it is due, and this is an execution, a
lack of funds or an amount that is too large. -/
theorem Dated.outcome_of_due (h : Dated currencies grammars request ins amount debit day)
    (due : today.before day = false) :
    outcomeOn currencies grammars request today = .error .amountTooLarge ∨
      ∃ receipt, outcomeOn currencies grammars request today = .ok receipt ∧
        (receipt.statusCode = .executed ∨ receipt.statusCode = .insufficientFunds) := by
  have eq := h.outcomeOn_eq today
  rw [due] at eq
  cases outcome : outcomeOn currencies grammars request today with
  | error fault =>
      obtain rfl := Verdict.conclude_eq_error (eq.symm.trans outcome)
      exact .inl rfl
  | ok receipt =>
      refine .inr ⟨receipt, rfl, ?_⟩
      rw [(Verdict.status_of_conclude (eq.symm.trans outcome)).2]
      exact code_dueVerdict_false debit amount

end

/-- How an outcome may change from one day to a later one. -/
structure Ages (currencies : List String) (grammars : List Grammar) (request : Request)
    (earlier later : Day) : Prop where
  stays : ¬ Pending (outcomeOn currencies grammars request earlier) →
    outcomeOn currencies grammars request later = outcomeOn currencies grammars request earlier
  waits : Pending (outcomeOn currencies grammars request later) →
    outcomeOn currencies grammars request earlier = outcomeOn currencies grammars request later
  fallsDue : Pending (outcomeOn currencies grammars request earlier) →
    ¬ Pending (outcomeOn currencies grammars request later) →
    (∃ ins token day, Instruction.scan grammars request.instruction = .ok ins ∧
      ins.executeBy = some token ∧ ExecutionDate.Writes token day ∧
      earlier.before day = true ∧ later.before day = false) ∧
    (outcomeOn currencies grammars request later = .error .amountTooLarge ∨
      ∃ receipt, outcomeOn currencies grammars request later = .ok receipt ∧
        (receipt.statusCode = .executed ∨ receipt.statusCode = .insufficientFunds))

section
variable {currencies : List String} {grammars : List Grammar} {request : Request}
  {earlier later : Day}

theorem ages_of_eq (same : outcomeOn currencies grammars request later =
      outcomeOn currencies grammars request earlier) :
    Ages currencies grammars request earlier later where
  stays _ := same
  waits _ := same.symm
  fallsDue pending due := by
    rw [same] at due
    exact absurd pending due

theorem Dated.ages {ins : Instruction} {amount : Nat} {debit : Account} {day : Day}
    (h : Dated currencies grammars request ins amount debit day)
    (le : later.before earlier = false) :
    Ages currencies grammars request earlier later := by
  obtain ⟨token, date, writes⟩ := h.written
  cases waits : earlier.before day with
  | false =>
      have due : later.before day = false := by
        by_contra coming
        rw [Bool.not_eq_false] at coming
        rw [Day.before_of_not_before le coming] at waits
        contradiction
      exact ages_of_eq (by rw [h.outcomeOn_eq, h.outcomeOn_eq, waits, due])
  | true =>
      cases still : later.before day with
      | true => exact ages_of_eq (by rw [h.outcomeOn_eq, h.outcomeOn_eq, waits, still])
      | false =>
          have pending := h.pending_iff.mpr waits
          have due : ¬ Pending (outcomeOn currencies grammars request later) := by
            rw [h.pending_iff, still]
            decide
          exact ⟨fun other => absurd pending other, fun other => absurd other due,
            fun _ _ => ⟨⟨ins, token, day, h.read, date, writes, waits, still⟩,
              h.outcome_of_due still⟩⟩

end

/-- Outcomes age from one day to a later one, in all grammars. -/
theorem ages (currencies : List String) (grammars : List Grammar) (request : Request)
    {earlier later : Day} (h : later.before earlier = false) :
    Ages currencies grammars request earlier later := by
  obtain ⟨outcome, timeless⟩ | ⟨ins, amount, debit, day, dated⟩ :=
    timeless_or_dated currencies grammars request
  · exact ages_of_eq ((timeless (.ok later)).trans (timeless (.ok earlier)).symm)
  · exact dated.ages h

/-- An outcome changes at most once as the days go by, when an instruction that waits falls due, and
the clock has no part in it where the instruction has no date or breaks a rule up to the one about
the form of its date. -/
theorem outcomeIn_ages (currencies : List String) (grammars : List Grammar) (request : Request) :
    (∀ earlier later : Day, later.before earlier = false →
      Ages currencies grammars request earlier later) ∧
    ∀ today, (∀ ins, Instruction.scan grammars request.instruction = .ok ins →
        ins.executeBy = none ∨
        ∃ rule ∈ (Rule.table currencies today request.accounts ins).take 7, rule.broken) →
      ∀ clock clock', (Terms.of currencies clock).outcomeIn grammars request =
        (Terms.of currencies clock').outcomeIn grammars request := by
  refine ⟨fun earlier later => ages currencies grammars request, ?_⟩
  intro today settledEarly clock clock'
  obtain ⟨outcome, timeless⟩ | ⟨ins, amount, debit, day, dated⟩ :=
    timeless_or_dated currencies grammars request
  · rw [timeless, timeless]
  · obtain ⟨token, date, -⟩ := dated.written
    obtain absent | ⟨rule, member, broken⟩ := settledEarly ins dated.read
    · rw [date] at absent
      contradiction
    · exact absurd broken (dated.not_broken today rule member)

/-- A payment of more than there is waits for its date, which no calendar has, and is rejected after
it. With one of its accounts missing the clock is not read. -/
theorem outcomeIn_ages_of_late_rejection :
    Pending (outcomeOn ["usd"] Grammar.standard
      ⟨[⟨"a", .whole 5, "usd"⟩, ⟨"b", .whole 1, "USD"⟩],
        "debit 10 usd from account a for credit to account b on 2025-02-31"⟩ ⟨2025, 2, 28⟩) ∧
    ¬ Pending (outcomeOn ["usd"] Grammar.standard
      ⟨[⟨"a", .whole 5, "usd"⟩, ⟨"b", .whole 1, "USD"⟩],
        "debit 10 usd from account a for credit to account b on 2025-02-31"⟩ ⟨2025, 3, 1⟩) ∧
    Ages ["usd"] Grammar.standard
      ⟨[⟨"a", .whole 5, "usd"⟩, ⟨"b", .whole 1, "USD"⟩],
        "debit 10 usd from account a for credit to account b on 2025-02-31"⟩
      ⟨2025, 2, 28⟩ ⟨2025, 3, 1⟩ ∧
    (Terms.of ["usd"] (.ok ⟨2025, 2, 28⟩)).outcomeIn Grammar.standard
        ⟨[⟨"a", .whole 5, "usd"⟩],
          "debit 10 usd from account a for credit to account b on 2025-02-31"⟩ =
      (Terms.of ["usd"] (.error (.unknownZone "Mars"))).outcomeIn Grammar.standard
        ⟨[⟨"a", .whole 5, "usd"⟩],
          "debit 10 usd from account a for credit to account b on 2025-02-31"⟩ := by
  have read : Instruction.scan Grammar.standard
      "debit 10 usd from account a for credit to account b on 2025-02-31" =
      .ok ⟨.debit, "10", "USD", "a", "b", some "2025-02-31"⟩ := by
    decide +kernel
  have dated : Dated ["usd"] Grammar.standard
      ⟨[⟨"a", .whole 5, "usd"⟩, ⟨"b", .whole 1, "USD"⟩],
        "debit 10 usd from account a for credit to account b on 2025-02-31"⟩
      ⟨.debit, "10", "USD", "a", "b", some "2025-02-31"⟩ 10 ⟨"a", .whole 5, "usd"⟩
      ⟨2025, 2, 31⟩ := by
    have checked : (Terms.of ["usd"] (.ok ⟨2025, 2, 28⟩)).Checked
        [⟨"a", .whole 5, "usd"⟩, ⟨"b", .whole 1, "USD"⟩]
        ⟨.debit, "10", "USD", "a", "b", some "2025-02-31"⟩ 10 ⟨"a", .whole 5, "usd"⟩
        ⟨"b", .whole 1, "USD"⟩ :=
      ⟨by decide, by decide +kernel, ⟨[], _, rfl, rfl, by simp⟩, ⟨[_], [], rfl, rfl, by simp⟩,
        by decide, by decide +kernel, by decide +kernel⟩
    exact ⟨read, ⟨_, fun clock => checked.of_currencies rfl⟩, "2025-02-31", rfl,
      ExecutionDate.parse?_eq_some_iff.mp (by decide +kernel)⟩
  refine ⟨dated.pending_iff.mpr (by decide), ?_, (outcomeIn_ages _ _ _).1 _ _ (by decide), ?_⟩
  · rw [dated.pending_iff]
    decide
  · refine (outcomeIn_ages ["usd"] _ ⟨[⟨"a", .whole 5, "usd"⟩], _⟩).2 ⟨2025, 2, 28⟩ ?_ _ _
    intro ins again
    obtain rfl := Except.ok.inj (read.symm.trans again)
    exact .inr ⟨_, .tail _ (.tail _ (.head _)), .inr (by simp)⟩

end Terms
end Giro
