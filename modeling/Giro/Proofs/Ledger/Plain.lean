import Giro.Proofs.Instruction.Normal
import Giro.Proofs.Ledger.Independence
import Giro.Proofs.Settlement.Record

/-!
Accounts out of reach. An instruction names its accounts in small letters and trimmed, whatever
grammars it is read by, so one whose id is not of this form is in no result, and no step of a ledger
changes it.
-/

namespace Giro

theorem Instruction.isPlain_of_mem_names {grammars : List Grammar} {text id : String}
    (h : id ∈ names grammars text) : IsPlain id := by
  cases read : scan grammars text with
  | error fault => simp [names_of_fault read] at h
  | ok ins =>
      have normal := normal_of_scan read
      simp only [names_of_scan read, List.mem_cons, List.not_mem_nil, or_false] at h
      obtain rfl | rfl := h
      · exact normal.debitAccount
      · exact normal.creditAccount

namespace Terms

section
variable {terms : Terms} {grammars : List Grammar} {accounts : List Account} {text : String}
  {receipt : Receipt}

/-- The accounts of a result and the two sides it shows have ids that its instruction names. -/
theorem mem_names_of_outcomeIn (h : terms.outcomeIn grammars ⟨accounts, text⟩ = .ok receipt) :
    (∀ view ∈ receipt.accounts, view.id ∈ Instruction.names grammars text) ∧
    (∀ id, receipt.debitAccount = some id → id ∈ Instruction.names grammars text) ∧
    ∀ id, receipt.creditAccount = some id → id ∈ Instruction.names grammars text := by
  obtain ⟨shown, own, views⟩ := exists_shown terms h
  refine ⟨?_, ?_⟩
  · rw [views, List.forall_mem_map]
    intro account member
    rw [show (shown account).id = account.id from congrArg Account.id (own account)]
    exact (Account.mem_named.mp member).2
  · obtain ⟨fault, -, rfl⟩ | ⟨ins, read, settled⟩ := outcomeIn_eq_ok h
    · exact ⟨nofun, nofun⟩
    · obtain ⟨verdict, views, -, rfl⟩ := exists_verdict_of_settle settled
      rw [Instruction.names_of_scan read]
      constructor <;> rintro id ⟨⟩ <;> simp

end
end Terms

namespace Ledger

section
variable {id : String} (odd : ¬ IsPlain id)
include odd

theorem named_step_of_not_isPlain (accounts : List Account) (s : Step) :
    Account.named (step accounts s).2 [id] = Account.named accounts [id] := by
  obtain ⟨change, acts⟩ := exists_acts s accounts
  rw [acts.step_eq accounts rfl]
  refine Account.named_map acts.keepsId (fun account member => acts.frame account ?_) accounts
  rw [List.mem_singleton.mp member]
  exact fun named => odd (Instruction.isPlain_of_mem_names named)

theorem named_final_of_not_isPlain (accounts : List Account) (steps : List Step) :
    Account.named (final accounts steps) [id] = Account.named accounts [id] := by
  induction steps generalizing accounts with
  | nil => rfl
  | cons s rest ih =>
      rw [final, List.foldl_cons, ← final, ih, named_step_of_not_isPlain odd]

end
end Ledger

/-- An instruction gives a fault and no fields or fields in normal form, for every table of
grammars. So an account whose id is not in small letters or not trimmed is in no result and on
neither side of one, and keeps its balance through all steps of a ledger. -/
theorem Instruction.scan_normal (grammars : List Grammar) (text : String) :
    ((∃ fault, scan grammars text = .error fault ∧
        ∀ (terms : Terms) accounts, ∃ receipt,
          terms.outcomeIn grammars ⟨accounts, text⟩ = .ok receipt ∧ receipt.Blank ∧
          receipt.amount = none ∧ receipt.executeBy = none ∧ receipt.accounts = []) ∨
      ∃ ins, scan grammars text = .ok ins ∧ ins.Normal) ∧
    (∀ id, ¬ IsPlain id → ∀ (terms : Terms) accounts receipt,
      terms.outcomeIn grammars ⟨accounts, text⟩ = .ok receipt →
        (∀ view ∈ receipt.accounts, view.id ≠ id) ∧
        receipt.debitAccount ≠ some id ∧ receipt.creditAccount ≠ some id) ∧
    ∀ id, ¬ IsPlain id → ∀ accounts steps,
      Account.named (Ledger.final accounts steps) [id] = Account.named accounts [id] := by
  refine ⟨?fields, ?results, ?ledgers⟩
  case fields =>
    cases read : scan grammars text with
    | error fault =>
        refine .inl ⟨fault, rfl, fun terms accounts => ⟨.unread fault, ?_, ?_⟩⟩
        · exact Terms.outcomeIn_of_fault terms ⟨accounts, text⟩ read
        · exact ⟨⟨rfl, rfl, rfl, rfl⟩, rfl, rfl, rfl⟩
    | ok ins => exact .inr ⟨ins, rfl, normal_of_scan read⟩
  case results =>
    intro id odd terms accounts receipt settled
    obtain ⟨views, debit, credit⟩ := Terms.mem_names_of_outcomeIn settled
    refine ⟨fun view member same => ?_, fun same => ?_, fun same => ?_⟩
    · exact odd (isPlain_of_mem_names (same ▸ views view member))
    · exact odd (isPlain_of_mem_names (debit id same))
    · exact odd (isPlain_of_mem_names (credit id same))
  case ledgers => exact fun id odd => Ledger.named_final_of_not_isPlain odd

/-- The second anchor begins inside the first one, so nothing stands between them. The other account
and the currency have letters that become two, and one of the accounts has no small id. -/
theorem Instruction.scan_normal_of_overlap :
    (∃ ins, scan [⟨.credit, "", "xa", "a", false⟩] "7 ﬁm XA İΒΣ on \u2003SOON " = .ok ins ∧
      ins.Normal ∧ ins = ⟨.credit, "7", "FIM", "i̇βς", "", some "soon"⟩) ∧
    ¬ IsPlain "İΒΣ" ∧
    (Terms.of ["fim"] (.ok ⟨2025, 6, 15⟩)).outcomeIn [⟨.credit, "", "xa", "a", false⟩]
        ⟨[⟨"İΒΣ", .whole 9, "FIM"⟩, ⟨"i̇βς", .whole 9, "fim"⟩], "7 ﬁm XA İΒΣ on \u2003SOON "⟩ =
      .ok ⟨some .credit, some 7, some "FIM", some "i̇βς", some "", some "soon", .failed,
        StatusCode.accountNotFound.reason, .accountNotFound,
        [⟨"i̇βς", .whole 9, .whole 9, "FIM"⟩]⟩ ∧
    (∀ view ∈ [(⟨"i̇βς", .whole 9, .whole 9, "FIM"⟩ : AccountView)], view.id ≠ "İΒΣ") ∧
    Account.named (Ledger.final
        [⟨"İΒΣ", .whole 9, "USD"⟩, ⟨"i̇βς", .whole 9, "USD"⟩, ⟨"b", .whole 0, "USD"⟩]
        [⟨.of ["usd"] (.ok ⟨2025, 6, 15⟩),
          "debit 7 usd from account İΒΣ for credit to account b"⟩]) ["İΒΣ"] =
      [⟨"İΒΣ", .whole 9, "USD"⟩] := by
  have odd : ¬ IsPlain "İΒΣ" := by decide +kernel
  have read : scan [⟨.credit, "", "xa", "a", false⟩] "7 ﬁm XA İΒΣ on \u2003SOON " =
      .ok ⟨.credit, "7", "FIM", "i̇βς", "", some "soon"⟩ := by
    decide +kernel
  have settled : (Terms.of ["fim"] (.ok ⟨2025, 6, 15⟩)).outcomeIn
        [⟨.credit, "", "xa", "a", false⟩]
        ⟨[⟨"İΒΣ", .whole 9, "FIM"⟩, ⟨"i̇βς", .whole 9, "fim"⟩], "7 ﬁm XA İΒΣ on \u2003SOON "⟩ =
      .ok ⟨some .credit, some 7, some "FIM", some "i̇βς", some "", some "soon", .failed,
        StatusCode.accountNotFound.reason, .accountNotFound,
        [⟨"i̇βς", .whole 9, .whole 9, "FIM"⟩]⟩ := by
    decide +kernel
  obtain ⟨fields, results, ledgers⟩ :=
    scan_normal [⟨.credit, "", "xa", "a", false⟩] "7 ﬁm XA İΒΣ on \u2003SOON "
  refine ⟨?fields, odd, settled, ?results, ?ledger⟩
  case fields =>
    obtain ⟨fault, unread, -⟩ | ⟨ins, again, normal⟩ := fields
    · exact nomatch read.symm.trans unread
    · exact ⟨ins, again, normal, Except.ok.inj (again.symm.trans read)⟩
  case results => exact (results "İΒΣ" odd _ _ _ settled).1
  case ledger =>
    rw [ledgers "İΒΣ" odd]
    decide +kernel

end Giro
