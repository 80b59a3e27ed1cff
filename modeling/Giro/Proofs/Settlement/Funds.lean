import Giro.Proofs.Settlement.Cover
import Giro.Proofs.Settlement.Scheduling

/-!
What balances decide. Two runs of one instruction on accounts that differ in their balances only
break the same rule before the funds, or break none and are pending together. They part only where
one of the first accounts with the debit id covers the amount and the other does not, and nothing but
the codes and the balances shown can then be different.
-/

namespace Giro

namespace Balance

section
variable {balance other : Balance} {amount : Int}

theorem covers_of_place_eq (same : balance.place? = other.place?) :
    balance.covers amount = other.covers amount := by
  rw [Bool.eq_iff_iff, covers_iff_place, covers_iff_place, same]

theorem covers_of_place_le {place place' : Line} (isPlace : balance.place? = some place)
    (isPlace' : other.place? = some place') (le : place ≤ place')
    (covers : balance.covers amount = true) : other.covers amount = true := by
  obtain ⟨_, again, covered⟩ := (covers_iff_place _ _).mp covers
  obtain rfl := Option.some.inj (isPlace.symm.trans again)
  exact (covers_iff_place _ _).mpr ⟨place', isPlace', covered.trans le⟩

end
end Balance

namespace Account

/-- What an account is beside its balance. -/
def label (account : Account) : String × String :=
  (account.id, account.currency)

/-- The place of the balance of the first account with an id, if it has one. -/
def funds? (accounts : List Account) (id : String) : Option Line :=
  (find? accounts id).bind fun account => account.balance.place?

theorem First.funds?_eq {accounts : List Account} {id : String} {account : Account}
    (h : First accounts id account) : funds? accounts id = account.balance.place? := by
  rw [funds?, find?_eq_some_iff.mpr h, Option.bind_some]

section
variable {before after : List Account} {id : String} {account : Account}

theorem map_label_find? (accounts : List Account) (id : String) :
    (find? accounts id).map label = (accounts.map label).find? fun card => card.1 = id := by
  rw [List.find?_map]
  rfl

theorem map_label_named (accounts : List Account) (ids : List String) :
    (named accounts ids).map label = (accounts.map label).filter fun card => ids.contains card.1 := by
  rw [List.filter_map]
  rfl

theorem exists_find?_of_labels (same : before.map label = after.map label)
    (h : find? before id = some account) :
    ∃ other, find? after id = some other ∧ other.id = account.id ∧
      other.currency = account.currency := by
  have found := map_label_find? after id
  rw [← same, ← map_label_find?, h] at found
  obtain ⟨other, finds, eq⟩ := Option.map_eq_some_iff.mp found
  exact ⟨other, finds, Prod.mk.inj eq⟩

theorem find?_eq_none_of_labels (same : before.map label = after.map label)
    (h : find? before id = none) : find? after id = none := by
  have found := map_label_find? after id
  rw [← same, ← map_label_find?, h] at found
  exact Option.map_eq_none_iff.mp found

end
end Account

/-- What a view is beside its balances. -/
def AccountView.label (view : AccountView) : String × String :=
  (view.id, view.currency)

namespace Verdict

theorem label_shown (verdict : Verdict) (ins : Instruction) (account : Account) :
    (verdict.shown ins account).label = (account.label.1, capital account.label.2) :=
  congrArg Account.label (verdict.origin_shown ins account)

theorem labels_shown {before after : List Account}
    (same : before.map Account.label = after.map Account.label) (verdict other : Verdict)
    (ins : Instruction) (ids : List String) :
    ((Account.named before ids).map (verdict.shown ins)).map AccountView.label =
      ((Account.named after ids).map (other.shown ins)).map AccountView.label := by
  have written (verdict : Verdict) (accounts : List Account) :
      ((Account.named accounts ids).map (verdict.shown ins)).map AccountView.label =
        ((Account.named accounts ids).map Account.label).map fun card =>
          (card.1, capital card.2) := by
    rw [List.map_map, List.map_map]
    exact List.map_congr_left fun account _ => verdict.label_shown ins account
  rw [written, written, Account.map_label_named, Account.map_label_named, same]

end Verdict

namespace Terms

section
variable {terms : Terms} {before after : List Account} {ins : Instruction} {amount : Nat}
  {debit credit : Account}

theorem RejectedEarly.of_labels {code : StatusCode} (h : terms.RejectedEarly before ins code)
    (same : before.map Account.label = after.map Account.label) :
    terms.RejectedEarly after ins code := by
  cases h with
  | amount unreadable => exact .amount unreadable
  | currency reads unsupported => exact .currency reads unsupported
  | missing reads supported none =>
      exact .missing reads supported (none.imp (Account.find?_eq_none_of_labels same)
        (Account.find?_eq_none_of_labels same))
  | same reads supported findsDebit findsCredit equal =>
      obtain ⟨_, findsDebit', debitId, -⟩ := Account.exists_find?_of_labels same findsDebit
      obtain ⟨_, findsCredit', creditId, -⟩ := Account.exists_find?_of_labels same findsCredit
      exact .same reads supported findsDebit' findsCredit'
        (debitId.trans (equal.trans creditId.symm))
  | mismatch reads supported findsDebit findsCredit distinct differ =>
      obtain ⟨_, findsDebit', debitId, debitCurrency⟩ :=
        Account.exists_find?_of_labels same findsDebit
      obtain ⟨_, findsCredit', creditId, creditCurrency⟩ :=
        Account.exists_find?_of_labels same findsCredit
      rw [← debitId, ← creditId] at distinct
      rw [← debitCurrency, ← creditCurrency] at differ
      exact .mismatch reads supported findsDebit' findsCredit' distinct differ

theorem Checked.of_labels (h : terms.Checked before ins amount debit credit)
    (same : before.map Account.label = after.map Account.label) :
    ∃ debit' credit', terms.Checked after ins amount debit' credit' := by
  obtain ⟨debit', findsDebit', debitId, debitCurrency⟩ :=
    Account.exists_find?_of_labels same (Account.find?_eq_some_iff.mpr h.findsDebit)
  obtain ⟨credit', findsCredit', creditId, creditCurrency⟩ :=
    Account.exists_find?_of_labels same (Account.find?_eq_some_iff.mpr h.findsCredit)
  refine ⟨debit', credit', h.readsAmount, h.supported, Account.find?_eq_some_iff.mp findsDebit',
    Account.find?_eq_some_iff.mp findsCredit', ?distinct, ?sameCurrency, ?ownCurrency⟩
  case distinct =>
    rw [debitId, creditId]
    exact h.distinct
  case sameCurrency =>
    rw [debitCurrency, creditCurrency]
    exact h.sameCurrency
  case ownCurrency =>
    rw [debitCurrency]
    exact h.ownCurrency

/-- The debit account has a part in a verdict on the date and the funds only where it is due. -/
theorem dateVerdict_eq_or_due (terms : Terms) (debit debit' : Account) (amount : Nat)
    (date : Option String) :
    terms.dateVerdict debit amount date = terms.dateVerdict debit' amount date ∨
      ∀ account, terms.dateVerdict account amount date = .ok (dueVerdict account amount false) := by
  cases date with
  | none => exact .inr fun _ => rfl
  | some token =>
      simp only [dateVerdict]
      split
      · exact .inl rfl
      · next day _ =>
        split
        · exact .inl rfl
        · next today _ =>
          cases today.before day with
          | true => exact .inl rfl
          | false => exact .inr fun _ => rfl

/-- In both runs the amount is due and only the funds are to be looked at. -/
structure BothDue (terms : Terms) (before after : List Account) (ins : Instruction) (amount : Nat)
    (debit debit' : Account) : Prop where
  findsDebit : Account.First before ins.debitAccount debit
  findsDebit' : Account.First after ins.debitAccount debit'
  verdict_eq : terms.verdict before ins = .ok (dueVerdict debit amount false)
  verdict_eq' : terms.verdict after ins = .ok (dueVerdict debit' amount false)

theorem verdict_eq_or_due (terms : Terms) (ins : Instruction)
    (same : before.map Account.label = after.map Account.label) :
    terms.verdict before ins = terms.verdict after ins ∨
      ∃ amount debit debit', terms.BothDue before after ins amount debit debit' := by
  obtain ⟨code, rejected⟩ | ⟨amount, debit, credit, checked⟩ :=
    rejectedEarly_or_checked terms before ins
  · exact .inl (rejected.verdict_eq.trans (rejected.of_labels same).verdict_eq.symm)
  · obtain ⟨debit', credit', checked'⟩ := checked.of_labels same
    obtain equal | due := terms.dateVerdict_eq_or_due debit debit' amount ins.executeBy
    · exact .inl (checked.verdict_eq.trans (equal.trans checked'.verdict_eq.symm))
    · exact .inr ⟨amount, debit, debit', checked.findsDebit, checked'.findsDebit,
        checked.verdict_eq.trans (due debit), checked'.verdict_eq.trans (due debit')⟩

theorem code_dueVerdict_eq_executed_iff (debit : Account) (amount : Nat) :
    (dueVerdict debit amount false).code = .executed ↔ debit.balance.covers amount = true := by
  simp only [dueVerdict]
  cases debit.balance.covers amount <;> simp [Verdict.code]

theorem code_dueVerdict_eq_insufficientFunds_iff (debit : Account) (amount : Nat) :
    (dueVerdict debit amount false).code = .insufficientFunds ↔
      debit.balance.covers amount = false := by
  simp only [dueVerdict]
  cases debit.balance.covers amount <;> simp [Verdict.code]

end

/-- The codes of two results with this debit id differ only by the funds of its first account. -/
structure CodesFollowFunds (before after : List Account) (debitAccount : Option String)
    (code code' : StatusCode) : Prop where
  eq_or_funds : code = code' ∨ (code = .executed ∧ code' = .insufficientFunds) ∨
    (code = .insufficientFunds ∧ code' = .executed)
  sameFunds : (∀ id, debitAccount = some id →
    Account.funds? before id = Account.funds? after id) → code = code'
  moreFunds : ∀ id place place', debitAccount = some id →
    Account.funds? before id = some place → Account.funds? after id = some place' →
    place ≤ place' → (code = .executed → code' = .executed) ∧
      (code' = .insufficientFunds → code = .insufficientFunds)

section
variable {terms : Terms} {before after : List Account} {ins : Instruction} {amount : Nat}
  {debit debit' : Account}

theorem CodesFollowFunds.refl (before after : List Account) (debitAccount : Option String)
    (code : StatusCode) : CodesFollowFunds before after debitAccount code code where
  eq_or_funds := .inl rfl
  sameFunds _ := rfl
  moreFunds _ _ _ _ _ _ _ := ⟨id, id⟩

theorem BothDue.codesFollowFunds (h : terms.BothDue before after ins amount debit debit') :
    CodesFollowFunds before after (some ins.debitAccount) (dueVerdict debit amount false).code
      (dueVerdict debit' amount false).code where
  eq_or_funds := by
    obtain code | code := code_dueVerdict_false debit amount <;>
      obtain code' | code' := code_dueVerdict_false debit' amount <;> simp [code, code']
  sameFunds equal := by
    have places := equal _ rfl
    rw [h.findsDebit.funds?_eq, h.findsDebit'.funds?_eq] at places
    simp only [dueVerdict, Balance.covers_of_place_eq places]
  moreFunds := by
    rintro _ place place' ⟨⟩ isPlace isPlace' le
    rw [h.findsDebit.funds?_eq] at isPlace
    rw [h.findsDebit'.funds?_eq] at isPlace'
    have more : debit.balance.covers amount = true → debit'.balance.covers amount = true :=
      Balance.covers_of_place_le isPlace isPlace' le
    rw [code_dueVerdict_eq_executed_iff, code_dueVerdict_eq_executed_iff,
      code_dueVerdict_eq_insufficientFunds_iff, code_dueVerdict_eq_insufficientFunds_iff,
      ← Bool.not_eq_true, ← Bool.not_eq_true]
    exact ⟨more, mt more⟩

end

/-- What two results for accounts that differ in their balances have in common. -/
structure Agrees (before after : List Account) (first second : Receipt) : Prop where
  form : first.form = second.form
  amount : first.amount = second.amount
  currency : first.currency = second.currency
  debitAccount : first.debitAccount = second.debitAccount
  creditAccount : first.creditAccount = second.creditAccount
  executeBy : first.executeBy = second.executeBy
  labels : first.accounts.map AccountView.label = second.accounts.map AccountView.label
  codes : CodesFollowFunds before after first.debitAccount first.statusCode second.statusCode

section
variable {terms : Terms} {before after : List Account} {ins : Instruction} {first second : Receipt}

theorem agrees_of_conclude (same : before.map Account.label = after.map Account.label)
    {verdict verdict' : Verdict} (h : verdict.conclude ins before = .ok first)
    (h' : verdict'.conclude ins after = .ok second)
    (codes : CodesFollowFunds before after (some ins.debitAccount) verdict.code verdict'.code) :
    Agrees before after first second := by
  obtain rfl := Verdict.eq_of_conclude h
  obtain rfl := Verdict.eq_of_conclude h'
  exact ⟨rfl, rfl, rfl, rfl, rfl, rfl, Verdict.labels_shown same verdict verdict' ins _, codes⟩

theorem agrees_of_settle (same : before.map Account.label = after.map Account.label)
    (h : terms.settle before ins = .ok first) (h' : terms.settle after ins = .ok second) :
    Agrees before after first second := by
  obtain equal | ⟨amount, debit, debit', due⟩ := terms.verdict_eq_or_due ins same
  · cases decided : terms.verdict before ins with
    | error fault =>
        rw [settle_of_verdict_error decided] at h
        contradiction
    | ok verdict =>
        rw [settle_of_verdict decided] at h
        rw [settle_of_verdict (equal ▸ decided)] at h'
        exact agrees_of_conclude same h h' (.refl ..)
  · rw [settle_of_verdict due.verdict_eq] at h
    rw [settle_of_verdict due.verdict_eq'] at h'
    exact agrees_of_conclude same h h' due.codesFollowFunds

theorem pending_of_settle (same : before.map Account.label = after.map Account.label)
    (h : Pending (terms.settle before ins)) : Pending (terms.settle after ins) := by
  obtain equal | ⟨amount, debit, debit', due⟩ := terms.verdict_eq_or_due ins same
  · cases decided : terms.verdict before ins with
    | error fault =>
        rw [settle_of_verdict_error decided] at h
        obtain ⟨_, concluded, -⟩ := h
        contradiction
    | ok verdict =>
        rw [settle_of_verdict decided, pending_conclude_iff] at h
        rw [settle_of_verdict (equal ▸ decided), pending_conclude_iff]
        exact h
  · rw [settle_of_verdict due.verdict_eq, pending_conclude_iff] at h
    obtain code | code := code_dueVerdict_false debit amount <;>
      · rw [code] at h
        contradiction

/-- Balances have a part in an outcome through the funds of the first account with the debit id
only, where more funds never hurt, and no part in what is pending. -/
theorem outcomeIn_agrees (terms : Terms) (grammars : List Grammar) (text : String)
    (same : before.map Account.label = after.map Account.label) :
    (∀ first second, terms.outcomeIn grammars ⟨before, text⟩ = .ok first →
      terms.outcomeIn grammars ⟨after, text⟩ = .ok second → Agrees before after first second) ∧
    (Pending (terms.outcomeIn grammars ⟨before, text⟩) →
      Pending (terms.outcomeIn grammars ⟨after, text⟩)) := by
  cases read : Instruction.scan grammars text with
  | error fault =>
      rw [outcomeIn_of_fault terms ⟨before, text⟩ read, outcomeIn_of_fault terms ⟨after, text⟩ read]
      refine ⟨?_, id⟩
      rintro _ _ ⟨⟩ ⟨⟩
      exact ⟨rfl, rfl, rfl, rfl, rfl, rfl, rfl, .refl ..⟩
  | ok ins =>
      rw [outcomeIn_of_scan terms ⟨before, text⟩ read, outcomeIn_of_scan terms ⟨after, text⟩ read]
      exact ⟨fun _ _ => agrees_of_settle same, pending_of_settle same⟩

end
/-- The first account with the debit id decides, not the second one, and neither counts for an
instruction that waits. -/
theorem outcomeIn_agrees_of_more_funds :
    (∃ first second,
      (Terms.of ["usd"] (.ok ⟨2025, 6, 15⟩)).outcomeIn Grammar.standard
          ⟨[⟨"b", .float .nan, "usd"⟩, ⟨"a", .whole 5, "usd"⟩, ⟨"a", .whole 50, "gbp"⟩],
            "debit 10 usd from account a for credit to account b"⟩ = .ok first ∧
      (Terms.of ["usd"] (.ok ⟨2025, 6, 15⟩)).outcomeIn Grammar.standard
          ⟨[⟨"b", .whole 0, "usd"⟩, ⟨"a", .whole 10, "usd"⟩, ⟨"a", .float (.infinite true), "gbp"⟩],
            "debit 10 usd from account a for credit to account b"⟩ = .ok second ∧
      first.statusCode = .insufficientFunds ∧ second.statusCode = .executed ∧
      Agrees [⟨"b", .float .nan, "usd"⟩, ⟨"a", .whole 5, "usd"⟩, ⟨"a", .whole 50, "gbp"⟩]
        [⟨"b", .whole 0, "usd"⟩, ⟨"a", .whole 10, "usd"⟩, ⟨"a", .float (.infinite true), "gbp"⟩]
        first second) ∧
    Pending ((Terms.of ["usd"] (.ok ⟨2025, 6, 15⟩)).outcomeIn Grammar.standard
      ⟨[⟨"b", .float .nan, "usd"⟩, ⟨"a", .whole 5, "usd"⟩, ⟨"a", .whole 50, "gbp"⟩],
        "debit 10 usd from account a for credit to account b on 2025-06-16"⟩) ∧
    Pending ((Terms.of ["usd"] (.ok ⟨2025, 6, 15⟩)).outcomeIn Grammar.standard
      ⟨[⟨"b", .whole 0, "usd"⟩, ⟨"a", .whole 10, "usd"⟩, ⟨"a", .float (.infinite true), "gbp"⟩],
        "debit 10 usd from account a for credit to account b on 2025-06-16"⟩) := by
  have lacks : (Terms.of ["usd"] (.ok ⟨2025, 6, 15⟩)).outcomeIn Grammar.standard
      ⟨[⟨"b", .float .nan, "usd"⟩, ⟨"a", .whole 5, "usd"⟩, ⟨"a", .whole 50, "gbp"⟩],
        "debit 10 usd from account a for credit to account b"⟩ =
      .ok ⟨some .debit, some 10, some "USD", some "a", some "b", none, .failed,
        StatusCode.insufficientFunds.reason, .insufficientFunds,
        [⟨"b", .float .nan, .float .nan, "USD"⟩, ⟨"a", .whole 5, .whole 5, "USD"⟩,
          ⟨"a", .whole 50, .whole 50, "GBP"⟩]⟩ := by
    decide +kernel
  have executed : (Terms.of ["usd"] (.ok ⟨2025, 6, 15⟩)).outcomeIn Grammar.standard
      ⟨[⟨"b", .whole 0, "usd"⟩, ⟨"a", .whole 10, "usd"⟩, ⟨"a", .float (.infinite true), "gbp"⟩],
        "debit 10 usd from account a for credit to account b"⟩ =
      .ok ⟨some .debit, some 10, some "USD", some "a", some "b", none, .successful,
        StatusCode.executed.reason, .executed,
        [⟨"b", .whole 10, .whole 0, "USD"⟩, ⟨"a", .whole 0, .whole 10, "USD"⟩,
          ⟨"a", .float (.infinite true), .float (.infinite true), "GBP"⟩]⟩ := by
    decide +kernel
  have waits : (Terms.of ["usd"] (.ok ⟨2025, 6, 15⟩)).outcomeIn Grammar.standard
      ⟨[⟨"b", .float .nan, "usd"⟩, ⟨"a", .whole 5, "usd"⟩, ⟨"a", .whole 50, "gbp"⟩],
        "debit 10 usd from account a for credit to account b on 2025-06-16"⟩ =
      .ok ⟨some .debit, some 10, some "USD", some "a", some "b", some "2025-06-16", .pending,
        StatusCode.scheduled.reason, .scheduled,
        [⟨"b", .float .nan, .float .nan, "USD"⟩, ⟨"a", .whole 5, .whole 5, "USD"⟩,
          ⟨"a", .whole 50, .whole 50, "GBP"⟩]⟩ := by
    decide +kernel
  have pending : Pending _ := ⟨_, waits, rfl⟩
  exact ⟨⟨_, _, lacks, executed, rfl, rfl,
    (outcomeIn_agrees _ _ _ (by decide)).1 _ _ lacks executed⟩, pending,
    (outcomeIn_agrees _ _ _ (by decide)).2 pending⟩

end Terms
end Giro
