import Giro.Settlement

/-!
What settling an instruction can come to. The rules before the date either reject an instruction
or leave a checked one: an amount and the first accounts with its two ids. A result shows the
accounts as they are, except after an execution, which needs a checked instruction whose debit
account covers the amount.
-/

namespace Giro

namespace Account

/-- The account is the first one with this id. -/
def First (accounts : List Account) (id : String) (account : Account) : Prop :=
  ∃ before after, accounts = before ++ account :: after ∧ account.id = id ∧
    ∀ other ∈ before, other.id ≠ id

theorem find?_eq_some_iff {accounts : List Account} {id : String} {account : Account} :
    find? accounts id = some account ↔ First accounts id account := by
  rw [find?, List.find?_eq_some_iff_append]
  constructor
  · rintro ⟨same, before, after, eq, others⟩
    exact ⟨before, after, eq, by simpa using same, by simpa using others⟩
  · rintro ⟨before, after, eq, same, others⟩
    exact ⟨by simpa using same, before, after, eq, by simpa using others⟩

theorem find?_eq_none_iff {accounts : List Account} {id : String} :
    find? accounts id = none ↔ ∀ account ∈ accounts, account.id ≠ id := by
  simp [find?]

theorem First.id_eq {accounts : List Account} {id : String} {account : Account}
    (h : First accounts id account) : account.id = id := by
  obtain ⟨_, _, _, same, _⟩ := h
  exact same

theorem First.mem {accounts : List Account} {id : String} {account : Account}
    (h : First accounts id account) : account ∈ accounts := by
  obtain ⟨_, _, rfl, _, _⟩ := h
  simp

theorem First.unique {accounts : List Account} {id : String} {account other : Account}
    (h : First accounts id account) (h' : First accounts id other) : account = other := by
  rw [← find?_eq_some_iff] at h h'
  exact Option.some.inj (h.symm.trans h')

/-- The accounts with one of these ids. -/
def named (accounts : List Account) (ids : List String) : List Account :=
  accounts.filter fun account => ids.contains account.id

theorem mem_named {accounts : List Account} {ids : List String} {account : Account} :
    account ∈ named accounts ids ↔ account ∈ accounts ∧ account.id ∈ ids := by
  simp [named]

theorem views_eq_map_named (accounts : List Account) (ids : List String) :
    views accounts ids = (named accounts ids).map view :=
  rfl

theorem map_id_named (accounts : List Account) (ids : List String) :
    (named accounts ids).map id = (accounts.map id).filter ids.contains := by
  rw [List.filter_map]
  rfl

end Account

@[simp] theorem Receipt.accounts_of (ins : Instruction) (amount : Option Nat) (code : StatusCode)
    (views : List AccountView) : (Receipt.of ins amount code views).accounts = views := rfl

@[simp] theorem Receipt.statusCode_of (ins : Instruction) (amount : Option Nat)
    (code : StatusCode) (views : List AccountView) :
    (Receipt.of ins amount code views).statusCode = code := rfl

namespace Terms

/-- The instruction has passed every rule before the date, with this amount between these
accounts. -/
structure Checked (terms : Terms) (accounts : List Account) (ins : Instruction) (amount : Nat)
    (debit credit : Account) : Prop where
  readsAmount : Amount.parse? ins.amount = some amount
  supported : Currency.supported terms.currencies ins.currency = true
  findsDebit : Account.First accounts ins.debitAccount debit
  findsCredit : Account.First accounts ins.creditAccount credit
  distinct : debit.id ≠ credit.id
  sameCurrency : Currency.sameCode debit.currency credit.currency = true
  ownCurrency : Currency.sameCode ins.currency debit.currency = true

section
variable {terms : Terms} {accounts : List Account} {ins : Instruction} {amount : Nat}
  {debit credit : Account}

theorem verdict_of_found (readsAmount : Amount.parse? ins.amount = some amount)
    (supported : Currency.supported terms.currencies ins.currency = true)
    (findsDebit : Account.find? accounts ins.debitAccount = some debit)
    (findsCredit : Account.find? accounts ins.creditAccount = some credit) :
    terms.verdict accounts ins =
      if debit.id = credit.id then .ok (.rejected .sameAccount)
      else if !Currency.sameCode debit.currency credit.currency then
        .ok (.rejected .currencyMismatch)
      else if !Currency.sameCode ins.currency debit.currency then
        .ok (.rejected .currencyMismatch)
      else terms.dateVerdict debit amount ins.executeBy := by
  simp [verdict, readsAmount, supported, findsDebit, findsCredit]

theorem Checked.ids_ne (h : terms.Checked accounts ins amount debit credit) :
    ins.debitAccount ≠ ins.creditAccount := by
  rw [← h.findsDebit.id_eq, ← h.findsCredit.id_eq]
  exact h.distinct

theorem Checked.verdict_eq (h : terms.Checked accounts ins amount debit credit) :
    terms.verdict accounts ins = terms.dateVerdict debit amount ins.executeBy := by
  rw [verdict_of_found h.readsAmount h.supported (Account.find?_eq_some_iff.mpr h.findsDebit)
    (Account.find?_eq_some_iff.mpr h.findsCredit)]
  simp [h.distinct, h.sameCurrency, h.ownCurrency]

/-- The first rule that the instruction breaks is one before the date and gives this code. -/
inductive RejectedEarly (terms : Terms) (accounts : List Account) (ins : Instruction) :
    StatusCode → Prop
  | amount (unreadable : Amount.parse? ins.amount = none) :
      RejectedEarly terms accounts ins .invalidAmount
  | currency {amount : Nat} (readsAmount : Amount.parse? ins.amount = some amount)
      (unsupported : Currency.supported terms.currencies ins.currency = false) :
      RejectedEarly terms accounts ins .unsupportedCurrency
  | missing {amount : Nat} (readsAmount : Amount.parse? ins.amount = some amount)
      (supported : Currency.supported terms.currencies ins.currency = true)
      (missing : Account.find? accounts ins.debitAccount = none ∨
        Account.find? accounts ins.creditAccount = none) :
      RejectedEarly terms accounts ins .accountNotFound
  | same {amount : Nat} {debit credit : Account}
      (readsAmount : Amount.parse? ins.amount = some amount)
      (supported : Currency.supported terms.currencies ins.currency = true)
      (findsDebit : Account.find? accounts ins.debitAccount = some debit)
      (findsCredit : Account.find? accounts ins.creditAccount = some credit)
      (same : debit.id = credit.id) : RejectedEarly terms accounts ins .sameAccount
  | mismatch {amount : Nat} {debit credit : Account}
      (readsAmount : Amount.parse? ins.amount = some amount)
      (supported : Currency.supported terms.currencies ins.currency = true)
      (findsDebit : Account.find? accounts ins.debitAccount = some debit)
      (findsCredit : Account.find? accounts ins.creditAccount = some credit)
      (distinct : debit.id ≠ credit.id)
      (differ : Currency.sameCode debit.currency credit.currency = false ∨
        Currency.sameCode ins.currency debit.currency = false) :
      RejectedEarly terms accounts ins .currencyMismatch

theorem RejectedEarly.failed {code : StatusCode} (h : terms.RejectedEarly accounts ins code) :
    code.status = .failed := by
  cases h <;> rfl

theorem RejectedEarly.of_currencies {other : Terms} {code : StatusCode}
    (h : terms.RejectedEarly accounts ins code) (same : other.currencies = terms.currencies) :
    other.RejectedEarly accounts ins code := by
  cases h with
  | amount unreadable => exact .amount unreadable
  | currency reads unsupported => exact .currency reads (same ▸ unsupported)
  | missing reads supported none => exact .missing reads (same ▸ supported) none
  | same reads supported debit credit equal => exact .same reads (same ▸ supported) debit credit equal
  | mismatch reads supported debit credit distinct differ =>
      exact .mismatch reads (same ▸ supported) debit credit distinct differ

theorem RejectedEarly.verdict_eq {code : StatusCode} (h : terms.RejectedEarly accounts ins code) :
    terms.verdict accounts ins = .ok (.rejected code) := by
  cases h with
  | amount unreadable => simp [verdict, unreadable]
  | currency reads unsupported => simp [verdict, reads, unsupported]
  | missing reads supported none =>
      obtain none | none := none
      · simp [verdict, reads, supported, none]
      · simp only [verdict, reads, supported, none]
        cases Account.find? accounts ins.debitAccount <;> rfl
  | same reads supported debit credit equal =>
      rw [verdict_of_found reads supported debit credit, if_pos equal]
  | mismatch reads supported debit credit distinct differ =>
      rw [verdict_of_found reads supported debit credit, if_neg distinct]
      obtain differ | differ := differ <;> simp [differ]

/-- A rule before the date rejects the instruction, or the instruction is a checked one. -/
theorem rejectedEarly_or_checked (terms : Terms) (accounts : List Account) (ins : Instruction) :
    (∃ code, terms.RejectedEarly accounts ins code) ∨
      ∃ amount debit credit, terms.Checked accounts ins amount debit credit := by
  cases readsAmount : Amount.parse? ins.amount with
  | none => exact .inl ⟨_, .amount readsAmount⟩
  | some amount =>
  cases supported : Currency.supported terms.currencies ins.currency with
  | false => exact .inl ⟨_, .currency readsAmount supported⟩
  | true =>
  cases findsDebit : Account.find? accounts ins.debitAccount with
  | none => exact .inl ⟨_, .missing readsAmount supported (.inl findsDebit)⟩
  | some debit =>
  cases findsCredit : Account.find? accounts ins.creditAccount with
  | none => exact .inl ⟨_, .missing readsAmount supported (.inr findsCredit)⟩
  | some credit =>
  by_cases distinct : debit.id = credit.id
  · exact .inl ⟨_, .same readsAmount supported findsDebit findsCredit distinct⟩
  cases sameCurrency : Currency.sameCode debit.currency credit.currency with
  | false =>
      exact .inl ⟨_, .mismatch readsAmount supported findsDebit findsCredit distinct
        (.inl sameCurrency)⟩
  | true =>
  cases ownCurrency : Currency.sameCode ins.currency debit.currency with
  | false =>
      exact .inl ⟨_, .mismatch readsAmount supported findsDebit findsCredit distinct
        (.inr ownCurrency)⟩
  | true =>
      exact .inr ⟨amount, debit, credit, readsAmount, supported,
        Account.find?_eq_some_iff.mp findsDebit, Account.find?_eq_some_iff.mp findsCredit, distinct,
        sameCurrency, ownCurrency⟩

theorem rejected_or_checked (terms : Terms) (accounts : List Account) (ins : Instruction) :
    (∃ code, code.status = .failed ∧ terms.verdict accounts ins = .ok (.rejected code)) ∨
      ∃ amount debit credit, terms.Checked accounts ins amount debit credit := by
  obtain ⟨code, rejected⟩ | checked := rejectedEarly_or_checked terms accounts ins
  · exact .inl ⟨code, rejected.failed, rejected.verdict_eq⟩
  · exact .inr checked

/-- The verdicts on a checked instruction. The clock is at fault only for a valid date. -/
theorem dateVerdict_cases (terms : Terms) (debit : Account) (amount : Nat)
    (date : Option String) :
    (∃ code, code.status = .failed ∧ terms.dateVerdict debit amount date = .ok (.rejected code)) ∨
    terms.dateVerdict debit amount date = .ok .scheduled ∨
    (debit.balance.covers amount = true ∧
      terms.dateVerdict debit amount date = .ok (.executed amount)) ∨
    ∃ fault, terms.today = .error fault ∧ terms.dateVerdict debit amount date = .error fault := by
  have due : ∀ pending,
      (∃ code, code.status = .failed ∧ dueVerdict debit amount pending = .rejected code) ∨
      dueVerdict debit amount pending = .scheduled ∨
      (debit.balance.covers amount = true ∧
        dueVerdict debit amount pending = .executed amount) := by
    intro pending
    simp only [dueVerdict]
    split
    · exact .inr (.inl rfl)
    · split
      · next covers => exact .inr (.inr ⟨covers, rfl⟩)
      · exact .inl ⟨_, rfl, rfl⟩
  cases date with
  | none => simpa [dateVerdict] using due false
  | some token =>
      simp only [dateVerdict]
      split
      · exact .inl ⟨_, rfl, rfl⟩
      · next day _ =>
        split
        · next fault clock => exact .inr (.inr (.inr ⟨fault, clock, rfl⟩))
        · next today _ => simpa using due (today.before day)

/-- All verdicts: a rejection, and for a checked instruction those on its date and funds. -/
theorem verdict_cases (terms : Terms) (accounts : List Account) (ins : Instruction) :
    (∃ code, code.status = .failed ∧ terms.verdict accounts ins = .ok (.rejected code)) ∨
    ∃ amount debit credit, terms.Checked accounts ins amount debit credit ∧
      (terms.verdict accounts ins = .ok .scheduled ∨
      (debit.balance.covers amount = true ∧
        terms.verdict accounts ins = .ok (.executed amount)) ∨
      ∃ fault, terms.today = .error fault ∧ terms.verdict accounts ins = .error fault) := by
  obtain rejected | ⟨amount, debit, credit, checked⟩ := rejected_or_checked terms accounts ins
  · exact .inl rejected
  · rw [checked.verdict_eq]
    obtain rejected | others := dateVerdict_cases terms debit amount ins.executeBy
    · exact .inl rejected
    · exact .inr ⟨amount, debit, credit, checked, others⟩

/-- The results of settling an instruction: it is executed and the accounts are shown after the
transfer, or they are shown as they are. -/
theorem settle_eq_ok {receipt : Receipt} (h : terms.settle accounts ins = .ok receipt) :
    (∃ amount debit credit views, terms.Checked accounts ins amount debit credit ∧
      debit.balance.covers amount = true ∧
      Account.transfer? accounts ins.debitAccount ins.creditAccount amount = some views ∧
      receipt = .of ins (some amount) .executed views) ∨
    ∃ code, code.status ≠ .successful ∧
      receipt = .of ins (Amount.parse? ins.amount) code
        (Account.views accounts [ins.debitAccount, ins.creditAccount]) := by
  obtain ⟨code, failed, eq⟩ | ⟨n, debit, credit, checked, eq | ⟨covers, eq⟩ | ⟨fault, -, eq⟩⟩ :=
    verdict_cases terms accounts ins
  · simp only [settle, eq, Except.ok.injEq] at h
    exact .inr ⟨code, by simp [failed], h.symm⟩
  · simp only [settle, eq, Except.ok.injEq] at h
    exact .inr ⟨.scheduled, by decide, h.symm⟩
  · simp only [settle, eq] at h
    split at h
    · next views hviews =>
      exact .inl ⟨n, debit, credit, views, checked, covers, hviews, (Except.ok.inj h).symm⟩
    · simp at h
  · simp [settle, eq] at h

/-- A result is missing when the clock is at fault or a transfer is not possible. -/
theorem settle_eq_error {fault : Fault} (h : terms.settle accounts ins = .error fault) :
    (∃ clock, terms.today = .error clock ∧ fault = .clock clock) ∨
    ∃ amount, Account.transfer? accounts ins.debitAccount ins.creditAccount amount = none ∧
      fault = .amountTooLarge := by
  obtain ⟨code, -, eq⟩ | ⟨n, debit, credit, -, eq | ⟨-, eq⟩ | ⟨clock, today, eq⟩⟩ :=
    verdict_cases terms accounts ins
  · simp [settle, eq] at h
  · simp [settle, eq] at h
  · simp only [settle, eq] at h
    split at h
    · contradiction
    · next none => exact .inr ⟨n, none, (Except.error.inj h).symm⟩
  · simp only [settle, eq, Except.error.injEq] at h
    exact .inl ⟨clock, today, h.symm⟩

theorem statusCode_of_settle {verdict : Verdict} {receipt : Receipt}
    (decided : terms.verdict accounts ins = .ok verdict)
    (h : terms.settle accounts ins = .ok receipt) : receipt.statusCode = verdict.code := by
  cases verdict with
  | rejected code =>
      simp only [settle, decided, Except.ok.injEq] at h
      rw [← h, Receipt.statusCode_of]
  | scheduled =>
      simp only [settle, decided, Except.ok.injEq] at h
      rw [← h, Receipt.statusCode_of]
  | executed amount =>
      simp only [settle, decided] at h
      split at h
      · rw [← Except.ok.inj h, Receipt.statusCode_of]
        rfl
      · contradiction

/-- Where there is a verdict, a result is missing only because of the size of the amount. -/
theorem fault_of_settle {verdict : Verdict} {fault : Fault}
    (decided : terms.verdict accounts ins = .ok verdict)
    (h : terms.settle accounts ins = .error fault) :
    fault = .amountTooLarge ∧ verdict.code = .executed := by
  cases verdict with
  | rejected code => simp [settle, decided] at h
  | scheduled => simp [settle, decided] at h
  | executed amount =>
      simp only [settle, decided] at h
      split at h
      · contradiction
      · exact ⟨(Except.error.inj h).symm, rfl⟩

theorem outcomeIn_of_scan (terms : Terms) {grammars : List Grammar} (request : Request)
    (read : Instruction.scan grammars request.instruction = .ok ins) :
    terms.outcomeIn grammars request = terms.settle request.accounts ins := by
  simp only [outcomeIn, read]

theorem outcomeIn_of_fault (terms : Terms) {grammars : List Grammar} (request : Request)
    {fault : ScanFault} (unread : Instruction.scan grammars request.instruction = .error fault) :
    terms.outcomeIn grammars request = .ok (.unread fault) := by
  simp only [outcomeIn, unread]

theorem outcome_of_scan (terms : Terms) (request : Request)
    (read : Instruction.scan Grammar.standard request.instruction = .ok ins) :
    terms.outcome request = terms.settle request.accounts ins :=
  outcomeIn_of_scan terms request read

theorem outcomeIn_eq_ok {grammars : List Grammar} {request : Request} {receipt : Receipt}
    (h : terms.outcomeIn grammars request = .ok receipt) :
    (∃ fault, Instruction.scan grammars request.instruction = .error fault ∧
      receipt = .unread fault) ∨
    ∃ ins, Instruction.scan grammars request.instruction = .ok ins ∧
      terms.settle request.accounts ins = .ok receipt := by
  simp only [outcomeIn] at h
  split at h
  · next fault hscan => exact .inl ⟨fault, hscan, (Except.ok.inj h).symm⟩
  · next ins hscan => exact .inr ⟨ins, hscan, h⟩

theorem outcome_eq_ok {request : Request} {receipt : Receipt}
    (h : terms.outcome request = .ok receipt) :
    (∃ fault, Instruction.scan Grammar.standard request.instruction = .error fault ∧
      receipt = .unread fault) ∨
    ∃ ins, Instruction.scan Grammar.standard request.instruction = .ok ins ∧
      terms.settle request.accounts ins = .ok receipt :=
  outcomeIn_eq_ok h

/-- A successful result comes from a checked instruction and shows the accounts after the
transfer. -/
theorem transfer_of_outcomeIn {grammars : List Grammar} {request : Request} {receipt : Receipt}
    (h : terms.outcomeIn grammars request = .ok receipt) (success : receipt.status = .successful) :
    ∃ ins amount debit credit views, terms.Checked request.accounts ins amount debit credit ∧
      debit.balance.covers amount = true ∧
      Account.transfer? request.accounts ins.debitAccount ins.creditAccount amount = some views ∧
      receipt = .of ins (some amount) .executed views := by
  obtain ⟨fault, -, rfl⟩ | ⟨ins, -, settled⟩ := outcomeIn_eq_ok h
  · cases fault <;> simp [Receipt.unread, ScanFault.code, StatusCode.status] at success
  · obtain ⟨amount, debit, credit, views, checked, covers, hviews, rfl⟩ | ⟨code, other, rfl⟩ :=
      settle_eq_ok settled
    · exact ⟨ins, amount, debit, credit, views, checked, covers, hviews, rfl⟩
    · exact absurd success other

theorem transfer_of_successful {request : Request} {receipt : Receipt}
    (h : terms.outcome request = .ok receipt) (success : receipt.status = .successful) :
    ∃ ins amount debit credit views, terms.Checked request.accounts ins amount debit credit ∧
      debit.balance.covers amount = true ∧
      Account.transfer? request.accounts ins.debitAccount ins.creditAccount amount = some views ∧
      receipt = .of ins (some amount) .executed views :=
  transfer_of_outcomeIn h success

end

end Terms
end Giro
