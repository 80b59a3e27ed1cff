import Giro.Proofs.Settlement.Scheduling

/-!
What a client may read off a result alone. Its status and its reason belong to its code; the fields
of the instruction are there together or missing together; the amount is there unless the code is
about it; and a code that is about the date fits the date beside it.
-/

namespace Giro
namespace Terms

section
variable {terms : Terms} {accounts : List Account} {ins : Instruction} {amount : Nat}
  {debit credit : Account}

/-- The codes that the rules from the date on give, each with what is known of the date. -/
inductive DatedCode (terms : Terms) (date : Option String) : StatusCode → Prop
  | malformed {token : String} (dated : date = some token)
      (invalid : ¬ ∃ day, ExecutionDate.Writes token day) :
      DatedCode terms date .malformedInstruction
  | waits {token : String} {day today : Day} (dated : date = some token)
      (valid : ExecutionDate.Writes token day) (clock : terms.today = .ok today)
      (coming : today.before day = true) : DatedCode terms date .scheduled
  | undated {code : StatusCode} (undated : date = none)
      (funds : code = .executed ∨ code = .insufficientFunds) : DatedCode terms date code
  | falls {token : String} {day today : Day} {code : StatusCode} (dated : date = some token)
      (valid : ExecutionDate.Writes token day) (clock : terms.today = .ok today)
      (due : today.before day = false)
      (funds : code = .executed ∨ code = .insufficientFunds) : DatedCode terms date code

theorem datedCode_of_dateVerdict {date : Option String} {verdict : Verdict}
    (decided : terms.dateVerdict debit amount date = .ok verdict) :
    terms.DatedCode date verdict.code := by
  cases date with
  | none =>
      obtain rfl := Except.ok.inj decided
      exact .undated rfl (code_dueVerdict_false debit amount)
  | some token =>
      cases read : ExecutionDate.parse? token with
      | none =>
          simp only [dateVerdict, read, Except.ok.injEq] at decided
          subst decided
          refine .malformed rfl ?_
          rintro ⟨day, writes⟩
          rw [ExecutionDate.parse?_eq_some_iff.mpr writes] at read
          contradiction
      | some day =>
          have valid := ExecutionDate.parse?_eq_some_iff.mp read
          cases clock : terms.today with
          | error fault => simp [dateVerdict, read, clock] at decided
          | ok today =>
              simp only [dateVerdict, read, clock, Except.ok.injEq] at decided
              subst decided
              cases coming : today.before day with
              | true => exact .waits rfl valid clock coming
              | false => exact .falls rfl valid clock coming (code_dueVerdict_false debit amount)

/-- A verdict has the code of an early rejection, or one on the date and the funds of a checked
instruction. -/
theorem code_of_verdict {verdict : Verdict}
    (decided : terms.verdict accounts ins = .ok verdict) :
    terms.RejectedEarly accounts ins verdict.code ∨
      (∃ amount debit credit, terms.Checked accounts ins amount debit credit) ∧
        terms.DatedCode ins.executeBy verdict.code := by
  obtain ⟨code, rejected⟩ | ⟨amount, debit, credit, checked⟩ :=
    rejectedEarly_or_checked terms accounts ins
  · obtain rfl := Except.ok.inj (rejected.verdict_eq.symm.trans decided)
    exact .inl rejected
  · rw [checked.verdict_eq] at decided
    exact .inr ⟨⟨amount, debit, credit, checked⟩, datedCode_of_dateVerdict decided⟩

/-- A result of an instruction that was read carries its fields and the code of a verdict. -/
theorem exists_verdict_of_settle {receipt : Receipt}
    (settled : terms.settle accounts ins = .ok receipt) :
    ∃ verdict views, terms.verdict accounts ins = .ok verdict ∧
      receipt = .of ins (Amount.parse? ins.amount) verdict.code views := by
  cases decided : terms.verdict accounts ins with
  | error fault =>
      rw [settle_of_verdict_error decided] at settled
      contradiction
  | ok verdict =>
      rw [settle_of_verdict decided] at settled
      obtain ⟨-, -, -, eq⟩ | ⟨-, eq⟩ := verdict.conclude_cases ins accounts
      · rw [eq] at settled
        contradiction
      · exact ⟨verdict, _, rfl, Except.ok.inj (settled.symm.trans eq)⟩

theorem parse?_eq_none_iff_code {verdict : Verdict}
    (decided : terms.verdict accounts ins = .ok verdict) :
    Amount.parse? ins.amount = none ↔ verdict.code = .invalidAmount := by
  obtain early | ⟨⟨amount, debit, credit, checked⟩, dated⟩ := code_of_verdict decided
  · generalize verdict.code = code at early
    cases early <;> simp [*]
  · rw [checked.readsAmount]
    generalize verdict.code = code at dated
    cases dated with
    | malformed | waits => simp
    | undated _ funds | falls _ _ _ _ funds => obtain rfl | rfl := funds <;> simp

/-- What the code of a result says about the date beside it. -/
structure FitsDate (terms : Terms) (date : Option String) (code : StatusCode) : Prop where
  malformed : code = .malformedInstruction →
    ∃ token, date = some token ∧ ¬ ∃ day, ExecutionDate.Writes token day
  scheduled : code = .scheduled →
    ∃ token day today, date = some token ∧ ExecutionDate.Writes token day ∧
      terms.today = .ok today ∧ today.before day = true
  executed : code = .executed →
    date = none ∨ ∃ token day today, date = some token ∧ ExecutionDate.Writes token day ∧
      terms.today = .ok today ∧ today.before day = false

theorem RejectedEarly.fitsDate {code : StatusCode} (h : terms.RejectedEarly accounts ins code)
    (date : Option String) : terms.FitsDate date code := by
  constructor <;> intro same <;> subst same <;> cases h

theorem DatedCode.fitsDate {date : Option String} {code : StatusCode}
    (h : terms.DatedCode date code) : terms.FitsDate date code := by
  cases h with
  | malformed dated invalid => exact ⟨fun _ => ⟨_, dated, invalid⟩, nofun, nofun⟩
  | waits dated valid clock coming =>
      exact ⟨nofun, fun _ => ⟨_, _, _, dated, valid, clock, coming⟩, nofun⟩
  | undated undated funds =>
      refine ⟨?_, ?_, fun _ => .inl undated⟩ <;> obtain rfl | rfl := funds <;> exact nofun
  | falls dated valid clock due funds =>
      refine ⟨?_, ?_, fun _ => .inr ⟨_, _, _, dated, valid, clock, due⟩⟩ <;>
        obtain rfl | rfl := funds <;> exact nofun

end
end Terms

namespace Receipt

/-- The fields that an instruction always has are missing. -/
def Blank (receipt : Receipt) : Prop :=
  receipt.form = none ∧ receipt.currency = none ∧ receipt.debitAccount = none ∧
    receipt.creditAccount = none

/-- The fields that an instruction always has are there. -/
def Filled (receipt : Receipt) : Prop :=
  receipt.form ≠ none ∧ receipt.currency ≠ none ∧ receipt.debitAccount ≠ none ∧
    receipt.creditAccount ≠ none

theorem Filled.not_blank {receipt : Receipt} (h : receipt.Filled) : ¬ receipt.Blank :=
  fun blank => h.1 blank.1

/-- What a result under these terms tells, beside what its instruction was read as. -/
structure Contract (terms : Terms) (scanned : Except ScanFault Instruction)
    (receipt : Receipt) : Prop where
  successful_iff : receipt.status = .successful ↔ receipt.statusCode = .executed
  pending_iff : receipt.status = .pending ↔ receipt.statusCode = .scheduled
  failed_iff : receipt.status = .failed ↔ receipt.statusCode ∈
    [.missingKeywords, .invalidKeywordOrder, .malformedInstruction, .invalidAmount,
      .currencyMismatch, .unsupportedCurrency, .insufficientFunds, .sameAccount, .accountNotFound]
  reason_eq : receipt.statusReason = receipt.statusCode.reason
  blank_or_filled : receipt.Blank ∨ receipt.Filled
  blank_iff : receipt.Blank ↔ ∃ fault, scanned = .error fault
  unread : ∀ fault, scanned = .error fault →
    receipt.statusCode = fault.code ∧
    receipt.statusCode ∈ [.missingKeywords, .invalidKeywordOrder, .malformedInstruction] ∧
    receipt.amount = none ∧ receipt.executeBy = none ∧ receipt.accounts = []
  read : ∀ ins, scanned = .ok ins →
    receipt.form = some ins.form ∧ receipt.currency = some ins.currency ∧
    receipt.debitAccount = some ins.debitAccount ∧
    receipt.creditAccount = some ins.creditAccount ∧ receipt.executeBy = ins.executeBy
  amount_iff : receipt.amount ≠ none ↔
    (∃ ins, scanned = .ok ins) ∧ receipt.statusCode ≠ .invalidAmount
  amount_text : ∀ n, receipt.amount = some n →
    0 < n ∧ ∃ ins, scanned = .ok ins ∧ toString n = ins.amount
  date : receipt.form ≠ none → terms.FitsDate receipt.executeBy receipt.statusCode
  /-- A payment that is made or waits is between two accounts, and both are shown. -/
  sides : receipt.statusCode = .executed ∨ receipt.statusCode = .scheduled →
    ∃ debit credit, receipt.debitAccount = some debit ∧ receipt.creditAccount = some credit ∧
      debit ≠ credit ∧ (∃ view ∈ receipt.accounts, view.id = debit) ∧
      ∃ view ∈ receipt.accounts, view.id = credit

end Receipt

theorem StatusCode.status_eq_successful_iff {code : StatusCode} :
    code.status = .successful ↔ code = .executed := by
  cases code <;> decide

theorem StatusCode.status_eq_pending_iff {code : StatusCode} :
    code.status = .pending ↔ code = .scheduled := by
  cases code <;> decide

theorem StatusCode.status_eq_failed_iff {code : StatusCode} :
    code.status = .failed ↔ code ∈
      [.missingKeywords, .invalidKeywordOrder, .malformedInstruction, .invalidAmount,
        .currencyMismatch, .unsupportedCurrency, .insufficientFunds, .sameAccount,
        .accountNotFound] := by
  cases code <;> decide

namespace Terms

section
variable {terms : Terms} {accounts : List Account} {ins : Instruction}

/-- The ids of a payment that is not rejected differ, and an account is shown for each. -/
theorem exists_views_of_accepted {receipt : Receipt}
    (settled : terms.settle accounts ins = .ok receipt)
    (accepted : receipt.statusCode = .executed ∨ receipt.statusCode = .scheduled) :
    ins.debitAccount ≠ ins.creditAccount ∧
      (∃ view ∈ receipt.accounts, view.id = ins.debitAccount) ∧
      ∃ view ∈ receipt.accounts, view.id = ins.creditAccount := by
  have origins : receipt.accounts.map AccountView.origin =
      (Account.named accounts [ins.debitAccount, ins.creditAccount]).map Account.capitalized := by
    rw [Account.named_pair]
    exact (shows_of_settle settled).origins
  obtain ⟨verdict, views, decided, rfl⟩ := exists_verdict_of_settle settled
  rw [Receipt.statusCode_of] at accepted
  obtain early | ⟨⟨amount, debit, credit, checked⟩, -⟩ := code_of_verdict decided
  · have failed := early.failed
    obtain same | same := accepted <;> simp [same, StatusCode.status] at failed
  · exact ⟨checked.ids_ne, AccountView.exists_of_first origins checked.findsDebit (by simp),
      AccountView.exists_of_first origins checked.findsCredit (by simp)⟩

theorem contract_unread (terms : Terms) (fault : ScanFault) :
    (Receipt.unread fault).Contract terms (.error fault) where
  successful_iff := StatusCode.status_eq_successful_iff
  pending_iff := StatusCode.status_eq_pending_iff
  failed_iff := StatusCode.status_eq_failed_iff
  reason_eq := rfl
  blank_or_filled := .inl ⟨rfl, rfl, rfl, rfl⟩
  blank_iff := ⟨fun _ => ⟨fault, rfl⟩, fun _ => ⟨rfl, rfl, rfl, rfl⟩⟩
  unread := by
    rintro _ ⟨⟩
    exact ⟨rfl, by cases fault <;> decide, rfl, rfl, rfl⟩
  read := nofun
  amount_iff := ⟨fun there => absurd rfl there, fun ⟨⟨_, read⟩, _⟩ => nomatch read⟩
  amount_text := nofun
  date there := absurd rfl there
  sides accepted := by cases fault <;> simp [Receipt.unread, ScanFault.code] at accepted

theorem contract_of_settle {receipt : Receipt}
    (settled : terms.settle accounts ins = .ok receipt) :
    receipt.Contract terms (.ok ins) := by
  -- The views come from the transfer, so they are looked at before the result is taken apart.
  have accepted := exists_views_of_accepted settled
  obtain ⟨verdict, views, decided, rfl⟩ := exists_verdict_of_settle settled
  have filled : (Receipt.of ins (Amount.parse? ins.amount) verdict.code views).Filled :=
    ⟨nofun, nofun, nofun, nofun⟩
  refine ⟨StatusCode.status_eq_successful_iff, StatusCode.status_eq_pending_iff,
    StatusCode.status_eq_failed_iff, rfl, .inr filled, ?blank, nofun, ?read, ?amount, ?text,
    fun _ => ?date, fun h => ⟨_, _, rfl, rfl, accepted h⟩⟩
  case blank =>
    exact ⟨fun blank => absurd blank filled.not_blank, fun ⟨_, unread⟩ => nomatch unread⟩
  case read =>
    rintro _ ⟨⟩
    exact ⟨rfl, rfl, rfl, rfl, rfl⟩
  case amount =>
    have absent := parse?_eq_none_iff_code decided
    exact ⟨fun there => ⟨⟨ins, rfl⟩, mt absent.mpr there⟩, fun h => mt absent.mp h.2⟩
  case text =>
    intro n read
    have writes := Amount.parse?_eq_some_iff.mp read
    exact ⟨writes.positive, ins, rfl, writes.eq_text.symm⟩
  case date =>
    obtain early | ⟨-, dated⟩ := code_of_verdict decided
    · exact early.fitsDate _
    · exact dated.fitsDate

end

/-- Every result keeps the contract, whatever was asked for and whatever the clock shows. -/
theorem contract_of_process {terms : Terms} {request : Request} {receipt : Receipt}
    (h : (terms.process request).outcome = .ok receipt) :
    receipt.Contract terms (Instruction.scan Grammar.standard request.instruction) := by
  rw [outcome_process] at h
  obtain ⟨fault, unread, rfl⟩ | ⟨ins, read, settled⟩ := outcome_eq_ok h
  · rw [unread]
    exact contract_unread terms fault
  · rw [read]
    exact contract_of_settle settled

/-- A date that no month has is told beside the amount, with the code and the text of an instruction
that could not be read, and the clock is not asked. -/
theorem contract_of_process_of_thirteenth_month :
    ∃ receipt, ((Terms.of ["usd"] (.error (.unknownZone "Mars"))).process
        ⟨[⟨"a", .whole 5, "usd"⟩, ⟨"b", .whole 1, "USD"⟩],
          "debit 10 usd from account a for credit to account b on 2025-13-01"⟩).outcome =
        .ok receipt ∧
      receipt.statusCode = .malformedInstruction ∧ receipt.amount = some 10 ∧
      receipt.executeBy = some "2025-13-01" ∧
      receipt.statusReason = "Malformed instruction: unable to parse keywords" ∧
      receipt.Contract (.of ["usd"] (.error (.unknownZone "Mars")))
        (.ok ⟨.debit, "10", "USD", "a", "b", some "2025-13-01"⟩) := by
  have rejected : ((Terms.of ["usd"] (.error (.unknownZone "Mars"))).process
      ⟨[⟨"a", .whole 5, "usd"⟩, ⟨"b", .whole 1, "USD"⟩],
        "debit 10 usd from account a for credit to account b on 2025-13-01"⟩).outcome =
      .ok ⟨some .debit, some 10, some "USD", some "a", some "b", some "2025-13-01", .failed,
        StatusCode.malformedInstruction.reason, .malformedInstruction,
        [⟨"a", .whole 5, .whole 5, "USD"⟩, ⟨"b", .whole 1, .whole 1, "USD"⟩]⟩ := by
    decide +kernel
  have read : Instruction.scan Grammar.standard
      "debit 10 usd from account a for credit to account b on 2025-13-01" =
      .ok ⟨.debit, "10", "USD", "a", "b", some "2025-13-01"⟩ := by
    decide +kernel
  have contract := contract_of_process rejected
  rw [read] at contract
  exact ⟨_, rejected, rfl, rfl, rfl, contract.reason_eq, contract⟩

end Terms
end Giro
