import Giro.Proofs.Settlement.Views

/-!
What an outcome depends on. The rules look at the first account with each of the two ids, and a
result shows every account with one of them on its own, so that other accounts have no part in an
outcome and the order of the accounts counts only among those with one id.
-/

namespace Giro

/-- The ids that an instruction names, which are none where it cannot be taken apart. -/
def Instruction.names (grammars : List Grammar) (text : String) : List String :=
  match scan grammars text with
  | .ok ins => [ins.debitAccount, ins.creditAccount]
  | .error _ => []

theorem Instruction.names_of_scan {grammars : List Grammar} {text : String} {ins : Instruction}
    (read : scan grammars text = .ok ins) :
    names grammars text = [ins.debitAccount, ins.creditAccount] := by
  simp only [names, read]

theorem Instruction.names_of_fault {grammars : List Grammar} {text : String} {fault : ScanFault}
    (unread : scan grammars text = .error fault) : names grammars text = [] := by
  simp only [names, unread]

namespace Account

/-- The second list comes from the first by inserting and deleting accounts with other ids. -/
inductive Edited (ids : List String) : List Account → List Account → Prop
  | nil : Edited ids [] []
  | keep {account : Account} {before after : List Account} (rest : Edited ids before after) :
      Edited ids (account :: before) (account :: after)
  | insert {account : Account} {before after : List Account} (foreign : account.id ∉ ids)
      (rest : Edited ids before after) : Edited ids before (account :: after)
  | delete {account : Account} {before after : List Account} (foreign : account.id ∉ ids)
      (rest : Edited ids before after) : Edited ids (account :: before) after

/-- The same accounts in another order, in which those with one id follow each other as before. -/
structure Reordered (before after : List Account) : Prop where
  perm : before.Perm after
  sameOrder : ∀ id, (before.filter fun account => account.id = id) =
    after.filter fun account => account.id = id

section
variable {accounts before after : List Account} {account : Account} {id : String}
  {ids : List String}

theorem named_cons_of_not_mem (foreign : account.id ∉ ids) :
    named (account :: accounts) ids = named accounts ids := by
  simp [named, foreign]

theorem named_cons (account : Account) (accounts : List Account) (ids : List String) :
    named (account :: accounts) ids = named [account] ids ++ named accounts ids :=
  List.filter_append [account] accounts

@[simp] theorem named_nil (accounts : List Account) : named accounts [] = [] := by
  simp [named]

theorem named_of_edited (h : Edited ids before after) : named before ids = named after ids := by
  induction h with
  | nil => rfl
  | keep rest ih => rw [named_cons, ih, ← named_cons]
  | insert foreign rest ih => rw [ih, named_cons_of_not_mem foreign]
  | delete foreign rest ih => rw [named_cons_of_not_mem foreign, ih]

theorem find?_named (listed : id ∈ ids) : find? (named accounts ids) id = find? accounts id := by
  rw [find?, find?, named, List.find?_filter]
  congr
  funext account
  by_cases same : account.id = id <;> simp [same, listed]

theorem find?_of_named_eq (same : named before ids = named after ids) (listed : id ∈ ids) :
    find? before id = find? after id := by
  rw [← find?_named listed, same, find?_named listed]

theorem Reordered.refl (accounts : List Account) : Reordered accounts accounts :=
  ⟨.refl accounts, fun _ => rfl⟩

theorem find?_of_reordered (h : Reordered before after) (id : String) :
    find? before id = find? after id := by
  rw [find?, find?, ← List.head?_filter, h.sameOrder id, List.head?_filter]

theorem named_perm (h : before.Perm after) (ids : List String) :
    (named before ids).Perm (named after ids) :=
  h.filter _

end

end Account

theorem eq_map_of_mapM {α β : Type} {f : α → Option β} {items : List α} {results : List β}
    (h : items.mapM f = some results) (fallback : α → β) :
    results = items.map fun item => (f item).getD (fallback item) := by
  symm
  rw [← List.forall₂_eq_eq_eq, List.forall₂_map_left_iff]
  exact (mapM_eq_some_iff.mp h).imp fun item result found => by rw [found, Option.getD_some]

namespace Verdict

/-- The view of an account in a result with this verdict, unless it cannot pay or receive. -/
def view? (verdict : Verdict) (ins : Instruction) (account : Account) : Option AccountView :=
  match verdict with
  | .executed amount => account.view.transfer? ins.debitAccount ins.creditAccount amount
  | _ => some account.view

def shown (verdict : Verdict) (ins : Instruction) (account : Account) : AccountView :=
  (verdict.view? ins account).getD account.view

/-- What a verdict on an instruction comes to for these accounts. -/
def conclude (verdict : Verdict) (ins : Instruction) (accounts : List Account) :
    Except Fault Receipt :=
  match (Account.named accounts [ins.debitAccount, ins.creditAccount]).mapM (verdict.view? ins) with
  | some views => .ok (.of ins (Amount.parse? ins.amount) verdict.code views)
  | none => .error .amountTooLarge

section
variable {verdict : Verdict} {ins : Instruction} {accounts : List Account}

theorem origin_shown (verdict : Verdict) (ins : Instruction) (account : Account) :
    (verdict.shown ins account).origin = account.capitalized := by
  cases verdict with
  | rejected code => rfl
  | scheduled => rfl
  | executed amount =>
      simp only [shown, view?]
      cases changed : account.view.transfer? ins.debitAccount ins.creditAccount amount with
      | none => rfl
      | some after => exact AccountView.origin_of_transfer? changed

/-- A verdict that moves nothing shows the accounts as they are. -/
theorem conclude_of_view? (still : ∀ account, verdict.view? ins account = some account.view) :
    verdict.conclude ins accounts = .ok (.of ins (Amount.parse? ins.amount) verdict.code
      (Account.views accounts [ins.debitAccount, ins.creditAccount])) := by
  have views : (Account.named accounts [ins.debitAccount, ins.creditAccount]).mapM
      (verdict.view? ins) =
        some (Account.views accounts [ins.debitAccount, ins.creditAccount]) := by
    rw [Account.views_eq_map_named, mapM_eq_some_iff, List.forall₂_map_right_iff]
    exact List.forall₂_same.mpr fun account _ => still account
  simp only [conclude, views]

/-- A verdict comes to a result, with each account shown on its own, or to nothing because of one
of the accounts. -/
theorem conclude_cases (verdict : Verdict) (ins : Instruction) (accounts : List Account) :
    (∃ account ∈ Account.named accounts [ins.debitAccount, ins.creditAccount],
      verdict.view? ins account = none ∧
      verdict.conclude ins accounts = .error .amountTooLarge) ∨
    (∀ account ∈ Account.named accounts [ins.debitAccount, ins.creditAccount],
      verdict.view? ins account ≠ none) ∧
    verdict.conclude ins accounts = .ok (.of ins (Amount.parse? ins.amount) verdict.code
      ((Account.named accounts [ins.debitAccount, ins.creditAccount]).map (verdict.shown ins))) := by
  cases views : (Account.named accounts [ins.debitAccount, ins.creditAccount]).mapM
      (verdict.view? ins) with
  | none =>
      obtain ⟨account, member, stuck⟩ := mapM_eq_none_iff.mp views
      exact .inl ⟨account, member, stuck, by simp only [conclude, views]⟩
  | some results =>
      have moves : ∀ account ∈ Account.named accounts [ins.debitAccount, ins.creditAccount],
          verdict.view? ins account ≠ none := by
        intro account member stuck
        rw [mapM_eq_none_iff.mpr ⟨account, member, stuck⟩] at views
        contradiction
      refine .inr ⟨moves, ?_⟩
      simp only [conclude, views, eq_map_of_mapM views Account.view]
      rfl

theorem eq_of_conclude {receipt : Receipt} (h : verdict.conclude ins accounts = .ok receipt) :
    receipt = .of ins (Amount.parse? ins.amount) verdict.code
      ((Account.named accounts [ins.debitAccount, ins.creditAccount]).map (verdict.shown ins)) := by
  obtain ⟨-, -, -, eq⟩ | ⟨-, eq⟩ := verdict.conclude_cases ins accounts
  · rw [eq] at h
    contradiction
  · exact (Except.ok.inj (eq.symm.trans h)).symm

end
end Verdict

namespace Terms

section
variable {terms : Terms} {before after : List Account} {ins : Instruction}

theorem parse?_of_verdict_executed {amount : Nat}
    (h : terms.verdict before ins = .ok (.executed amount)) :
    Amount.parse? ins.amount = some amount := by
  obtain ⟨code, -, eq⟩ | ⟨n, debit, credit, checked, eq | ⟨-, eq⟩ | ⟨fault, -, eq⟩⟩ :=
    verdict_cases terms before ins <;> rw [h] at eq
  · simp at eq
  · simp at eq
  · obtain rfl : amount = n := by simpa using eq
    exact checked.readsAmount
  · simp at eq

theorem settle_of_verdict {verdict : Verdict} (decided : terms.verdict before ins = .ok verdict) :
    terms.settle before ins = verdict.conclude ins before := by
  cases verdict with
  | rejected code =>
      rw [Verdict.conclude_of_view? fun _ => rfl]
      simp only [settle, decided]
  | scheduled =>
      rw [Verdict.conclude_of_view? fun _ => rfl]
      simp only [settle, decided]
  | executed amount =>
      have moved : Account.transfer? before ins.debitAccount ins.creditAccount amount =
          (Account.named before [ins.debitAccount, ins.creditAccount]).mapM
            (Verdict.view? (.executed amount) ins) := by
        rw [Account.transfer?, Account.views_eq_map_named, List.mapM_map]
        rfl
      simp only [settle, decided, Verdict.conclude, moved, parse?_of_verdict_executed decided]
      rfl

theorem settle_of_verdict_error {fault : ClockFault}
    (failed : terms.verdict before ins = .error fault) :
    terms.settle before ins = .error (.clock fault) := by
  simp only [settle, failed]

theorem verdict_of_find?_eq
    (debit : Account.find? before ins.debitAccount = Account.find? after ins.debitAccount)
    (credit : Account.find? before ins.creditAccount = Account.find? after ins.creditAccount) :
    terms.verdict before ins = terms.verdict after ins := by
  simp only [verdict, debit, credit]

theorem settle_of_named_eq (same : Account.named before [ins.debitAccount, ins.creditAccount] =
      Account.named after [ins.debitAccount, ins.creditAccount]) :
    terms.settle before ins = terms.settle after ins := by
  have verdicts : terms.verdict before ins = terms.verdict after ins :=
    verdict_of_find?_eq (Account.find?_of_named_eq same (by simp))
      (Account.find?_of_named_eq same (by simp))
  cases decided : terms.verdict before ins with
  | error fault =>
      rw [settle_of_verdict_error decided, settle_of_verdict_error (verdicts ▸ decided)]
  | ok verdict =>
      rw [settle_of_verdict decided, settle_of_verdict (verdicts ▸ decided), Verdict.conclude,
        Verdict.conclude, same]

/-- An outcome depends on the accounts that the instruction names, and on nothing else of the
accounts. -/
theorem outcomeIn_of_named_eq (terms : Terms) {grammars : List Grammar} {text : String}
    (same : Account.named before (Instruction.names grammars text) =
      Account.named after (Instruction.names grammars text)) :
    terms.outcomeIn grammars ⟨before, text⟩ = terms.outcomeIn grammars ⟨after, text⟩ := by
  cases read : Instruction.scan grammars text with
  | error fault =>
      rw [outcomeIn_of_fault terms ⟨before, text⟩ read, outcomeIn_of_fault terms ⟨after, text⟩ read]
  | ok ins =>
      rw [Instruction.names_of_scan read] at same
      rw [outcomeIn_of_scan terms ⟨before, text⟩ read, outcomeIn_of_scan terms ⟨after, text⟩ read]
      exact settle_of_named_eq same

end

/-- Two outcomes for the same accounts in two orders: one fault, or results that agree in all but
their views, each of which is the view of its account in both. -/
inductive Follows (ids : List String) (before after : List Account) :
    Except Fault Receipt → Except Fault Receipt → Prop
  | fault (fault : Fault) : Follows ids before after (.error fault) (.error fault)
  | result (receipt : Receipt) (shown : Account → AccountView)
      (own : ∀ account, (shown account).origin = account.capitalized) :
      Follows ids before after
        (.ok { receipt with accounts := (Account.named before ids).map shown })
        (.ok { receipt with accounts := (Account.named after ids).map shown })

section
variable {before after : List Account} {ins : Instruction}

theorem conclude_follows (verdict : Verdict) (h : before.Perm after) :
    Follows [ins.debitAccount, ins.creditAccount] before after (verdict.conclude ins before)
      (verdict.conclude ins after) := by
  have members := Account.named_perm h [ins.debitAccount, ins.creditAccount]
  obtain ⟨account, member, stuck, eq⟩ | ⟨moves, eq⟩ := verdict.conclude_cases ins before
  · obtain ⟨-, -, -, eq'⟩ | ⟨moves', -⟩ := verdict.conclude_cases ins after
    · rw [eq, eq']
      exact .fault _
    · exact absurd stuck (moves' account (members.mem_iff.mp member))
  · obtain ⟨account, member, stuck, -⟩ | ⟨-, eq'⟩ := verdict.conclude_cases ins after
    · exact absurd stuck (moves account (members.mem_iff.mpr member))
    · rw [eq, eq']
      exact .result (.of ins (Amount.parse? ins.amount) verdict.code []) (verdict.shown ins)
        (verdict.origin_shown ins)

theorem settle_follows (terms : Terms) (ins : Instruction) (h : Account.Reordered before after) :
    Follows [ins.debitAccount, ins.creditAccount] before after (terms.settle before ins)
      (terms.settle after ins) := by
  have verdicts : terms.verdict before ins = terms.verdict after ins :=
    verdict_of_find?_eq (Account.find?_of_reordered h _) (Account.find?_of_reordered h _)
  cases decided : terms.verdict before ins with
  | error fault =>
      rw [settle_of_verdict_error decided, settle_of_verdict_error (verdicts ▸ decided)]
      exact .fault _
  | ok verdict =>
      rw [settle_of_verdict decided, settle_of_verdict (verdicts ▸ decided)]
      exact conclude_follows verdict h.perm

theorem outcomeIn_follows (terms : Terms) (grammars : List Grammar) (text : String)
    (h : Account.Reordered before after) :
    Follows (Instruction.names grammars text) before after
      (terms.outcomeIn grammars ⟨before, text⟩) (terms.outcomeIn grammars ⟨after, text⟩) := by
  cases read : Instruction.scan grammars text with
  | error fault =>
      rw [outcomeIn_of_fault terms ⟨before, text⟩ read, outcomeIn_of_fault terms ⟨after, text⟩ read,
        Instruction.names_of_fault read]
      have follows : Follows [] before after _ _ :=
        .result (.unread fault) Account.view AccountView.origin_view
      rwa [Account.named_nil, Account.named_nil] at follows
  | ok ins =>
      rw [outcomeIn_of_scan terms ⟨before, text⟩ read, outcomeIn_of_scan terms ⟨after, text⟩ read,
        Instruction.names_of_scan read]
      exact settle_follows terms ins h

/-- The views of a result are those of the named accounts, each by itself. -/
theorem exists_shown (terms : Terms) {grammars : List Grammar} {accounts : List Account}
    {text : String} {receipt : Receipt}
    (h : terms.outcomeIn grammars ⟨accounts, text⟩ = .ok receipt) :
    ∃ shown : Account → AccountView, (∀ account, (shown account).origin = account.capitalized) ∧
      receipt.accounts = (Account.named accounts (Instruction.names grammars text)).map shown := by
  have follows := outcomeIn_follows terms grammars text (.refl accounts)
  rw [h] at follows
  cases follows with
  | result receipt shown own => exact ⟨shown, own, rfl⟩

end

/-- Accounts that an instruction does not name have no part in its outcome, and of the order of the
accounts only the one among accounts with the same id has. -/
theorem outcomeIn_local (terms : Terms) (grammars : List Grammar) (text : String)
    (accounts : List Account) :
    (∀ edited, Account.Edited (Instruction.names grammars text) accounts edited →
      terms.outcomeIn grammars ⟨edited, text⟩ = terms.outcomeIn grammars ⟨accounts, text⟩) ∧
    ∀ reordered, Account.Reordered accounts reordered →
      Follows (Instruction.names grammars text) accounts reordered
        (terms.outcomeIn grammars ⟨accounts, text⟩) (terms.outcomeIn grammars ⟨reordered, text⟩) := by
  constructor
  · intro edited h
    exact (outcomeIn_of_named_eq terms (Account.named_of_edited h)).symm
  · intro reordered h
    exact outcomeIn_follows terms grammars text h

/-- A foreign account goes and another one comes, the account that receives moves to the front, and
the two payers keep their order. -/
theorem outcomeIn_local_of_two_payers :
    (Terms.of ["usd"] (.ok ⟨2025, 6, 15⟩)).outcomeIn Grammar.standard
        ⟨[⟨"a", .whole 50, "usd"⟩, ⟨"y", .whole 9, "usd"⟩, ⟨"a", .whole 7, "gbp"⟩,
          ⟨"b", .float .nan, "USD"⟩], "debit 10 usd from account a for credit to account b"⟩ =
      (Terms.of ["usd"] (.ok ⟨2025, 6, 15⟩)).outcomeIn Grammar.standard
        ⟨[⟨"z", .float .nan, "eur"⟩, ⟨"a", .whole 50, "usd"⟩, ⟨"a", .whole 7, "gbp"⟩,
          ⟨"b", .float .nan, "USD"⟩], "debit 10 usd from account a for credit to account b"⟩ ∧
    Follows ["a", "b"]
      [⟨"z", .float .nan, "eur"⟩, ⟨"a", .whole 50, "usd"⟩, ⟨"a", .whole 7, "gbp"⟩,
        ⟨"b", .float .nan, "USD"⟩]
      [⟨"b", .float .nan, "USD"⟩, ⟨"a", .whole 50, "usd"⟩, ⟨"z", .float .nan, "eur"⟩,
        ⟨"a", .whole 7, "gbp"⟩]
      (.ok ⟨some .debit, some 10, some "USD", some "a", some "b", none, .successful,
        StatusCode.executed.reason, .executed,
        [⟨"a", .whole 40, .whole 50, "USD"⟩, ⟨"a", .whole (-3), .whole 7, "GBP"⟩,
          ⟨"b", .float .nan, .float .nan, "USD"⟩]⟩)
      (.ok ⟨some .debit, some 10, some "USD", some "a", some "b", none, .successful,
        StatusCode.executed.reason, .executed,
        [⟨"b", .float .nan, .float .nan, "USD"⟩, ⟨"a", .whole 40, .whole 50, "USD"⟩,
          ⟨"a", .whole (-3), .whole 7, "GBP"⟩]⟩) := by
  have read : Instruction.scan Grammar.standard
      "debit 10 usd from account a for credit to account b" =
      .ok ⟨.debit, "10", "USD", "a", "b", none⟩ := by
    decide +kernel
  obtain ⟨edits, orders⟩ := outcomeIn_local (.of ["usd"] (.ok ⟨2025, 6, 15⟩)) Grammar.standard
    "debit 10 usd from account a for credit to account b"
    [⟨"z", .float .nan, "eur"⟩, ⟨"a", .whole 50, "usd"⟩, ⟨"a", .whole 7, "gbp"⟩,
      ⟨"b", .float .nan, "USD"⟩]
  rw [Instruction.names_of_scan read] at edits orders
  constructor
  · exact edits _ (.delete (by decide) (.keep (.insert (by decide) (.keep (.keep .nil)))))
  · have follows := orders
      [⟨"b", .float .nan, "USD"⟩, ⟨"a", .whole 50, "usd"⟩, ⟨"z", .float .nan, "eur"⟩,
        ⟨"a", .whole 7, "gbp"⟩] ?reordered
    case reordered =>
      refine ⟨by decide, fun id => ?_⟩
      rcases eq_or_ne "a" id with rfl | notFirst
      · decide
      rcases eq_or_ne "b" id with rfl | notSecond
      · decide
      rcases eq_or_ne "z" id with rfl | notThird
      · decide
      · simp [notFirst, notSecond, notThird]
    rw [outcomeIn_of_scan _ ⟨_, _⟩ read, outcomeIn_of_scan _ ⟨_, _⟩ read] at follows
    convert follows using 1 <;> decide +kernel

end Terms
end Giro
