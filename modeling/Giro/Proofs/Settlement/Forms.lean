import Giro.Proofs.Instruction.Writing
import Giro.Proofs.Settlement.Outcome

/-!
The two forms of an instruction. A payment can be written from the side of the account to debit or
from that of the account to credit. Both texts are read into the same fields, no rule looks at the
form, and so the outcomes differ in the form that a result tells and in nothing else.
-/

namespace Giro

/-- A payment before it is put into the words of a grammar. -/
structure Order where
  amount : String
  currency : String
  debitAccount : String
  creditAccount : String
  executeBy : Option String

namespace Order

/-- The texts of the payment, with the accounts in the order of a grammar. -/
def wording (o : Order) (g : Grammar) : Wording where
  amount := o.amount
  currency := o.currency
  first := if g.debitFirst then o.debitAccount else o.creditAccount
  second := if g.debitFirst then o.creditAccount else o.debitAccount
  date := o.executeBy

def text (o : Order) (g : Grammar) : String :=
  (o.wording g).text g

def instruction (o : Order) (form : Form) : Instruction where
  form := form
  amount := o.amount
  currency := capital o.currency
  debitAccount := o.debitAccount
  creditAccount := o.creditAccount
  executeBy := o.executeBy

theorem instruction_wording (o : Order) (g : Grammar) :
    (o.wording g).instruction g = o.instruction g.form := by
  simp only [Wording.instruction, wording, instruction]
  cases g.debitFirst <;> rfl

theorem scan_order {o : Order} {g : Grammar} (standard : g ∈ Grammar.standard)
    (legible : (o.wording g).Legible g) :
    Instruction.scan Grammar.standard (o.text g) = .ok (o.instruction g.form) := by
  have chosen := Wording.find?_text standard legible
  have fields := Wording.fields_text (Grammar.tight_of_mem_standard standard) legible
  simp only [Instruction.scan, text, chosen, fields, instruction_wording]

end Order

/-- The result with another form, and all else as it is. -/
def Receipt.inForm (form : Form) (receipt : Receipt) : Receipt :=
  { receipt with form := some form }

theorem Receipt.of_inForm (ins : Instruction) (form : Form) (amount : Option Nat)
    (code : StatusCode) (views : List AccountView) :
    Receipt.of { ins with form := form } amount code views =
      (Receipt.of ins amount code views).inForm form :=
  rfl

namespace Terms

theorem verdict_inForm (terms : Terms) (accounts : List Account) (ins : Instruction)
    (form : Form) :
    terms.verdict accounts { ins with form := form } = terms.verdict accounts ins :=
  rfl

theorem settle_inForm (terms : Terms) (accounts : List Account) (ins : Instruction)
    (form : Form) :
    terms.settle accounts { ins with form := form } =
      (terms.settle accounts ins).map (Receipt.inForm form) := by
  simp only [settle, verdict_inForm, Receipt.of_inForm]
  cases terms.verdict accounts ins with
  | error fault => rfl
  | ok verdict =>
      cases verdict with
      | rejected code => rfl
      | scheduled => rfl
      | executed amount =>
          simp only
          cases Account.transfer? accounts ins.debitAccount ins.creditAccount amount with
          | none => rfl
          | some views => rfl

/-- A payment has the same outcome in both forms: the same fault, or results that agree in all but
the form. -/
theorem outcome_text_credit (terms : Terms) (accounts : List Account) {o : Order}
    (legible : ∀ g ∈ Grammar.standard, (o.wording g).Legible g) :
    terms.outcome ⟨accounts, o.text .credit⟩ =
      (terms.outcome ⟨accounts, o.text .debit⟩).map (Receipt.inForm .credit) := by
  have debit : Grammar.debit ∈ Grammar.standard := by decide
  have credit : Grammar.credit ∈ Grammar.standard := by decide
  have readDebit := Order.scan_order debit (legible _ debit)
  have readCredit := Order.scan_order credit (legible _ credit)
  rw [outcome_of_scan terms ⟨accounts, o.text .debit⟩ readDebit,
    outcome_of_scan terms ⟨accounts, o.text .credit⟩ readCredit]
  exact settle_inForm terms accounts (o.instruction .debit) .credit

/-- The ids of the accounts may be taken from the phrases between them. -/
theorem outcome_text_credit_of_phrase_ids :
    (∀ g ∈ Grammar.standard,
      ((Order.mk "30" "usd" "from account" "to account" (some "2025-06-15")).wording g).Legible
        g) ∧
    (Order.mk "30" "usd" "from account" "to account" (some "2025-06-15")).text .debit =
      "debit 30 usd from account from account for credit to account to account on 2025-06-15" ∧
    (Order.mk "30" "usd" "from account" "to account" (some "2025-06-15")).text .credit =
      "credit 30 usd to account to account for debit from account from account on 2025-06-15" ∧
    (Terms.of ["usd"] (.ok ⟨2025, 6, 15⟩)).outcome
        ⟨[⟨"to account", .whole 5, "usd"⟩, ⟨"from account", .whole 40, "USD"⟩],
          "credit 30 usd to account to account for debit from account from account on 2025-06-15"⟩ =
      .ok ⟨some .credit, some 30, some "USD", some "from account", some "to account",
        some "2025-06-15", .successful, StatusCode.executed.reason, .executed,
        [⟨"to account", .whole 35, .whole 5, "USD"⟩,
          ⟨"from account", .whole 10, .whole 40, "USD"⟩]⟩ := by
  have legible : ∀ g ∈ Grammar.standard,
      ((Order.mk "30" "usd" "from account" "to account" (some "2025-06-15")).wording g).Legible
        g := by
    simp only [Grammar.standard, List.forall_mem_cons, List.not_mem_nil, false_implies,
      implies_true, and_true]
    constructor <;> constructor <;> decide +kernel
  have credit : (Order.mk "30" "usd" "from account" "to account" (some "2025-06-15")).text .credit =
      "credit 30 usd to account to account for debit from account from account on 2025-06-15" := by
    decide +kernel
  have executed : (Terms.of ["usd"] (.ok ⟨2025, 6, 15⟩)).outcome
      ⟨[⟨"to account", .whole 5, "usd"⟩, ⟨"from account", .whole 40, "USD"⟩],
        (Order.mk "30" "usd" "from account" "to account" (some "2025-06-15")).text .debit⟩ =
      .ok ⟨some .debit, some 30, some "USD", some "from account", some "to account",
        some "2025-06-15", .successful, StatusCode.executed.reason, .executed,
        [⟨"to account", .whole 35, .whole 5, "USD"⟩,
          ⟨"from account", .whole 10, .whole 40, "USD"⟩]⟩ := by
    decide +kernel
  refine ⟨legible, by decide +kernel, credit, ?_⟩
  rw [← credit, outcome_text_credit _ _ legible, executed]
  rfl

end Terms
end Giro
