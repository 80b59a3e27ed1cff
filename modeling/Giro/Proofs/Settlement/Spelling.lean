import Giro.Proofs.Instruction.Normal
import Giro.Proofs.Settlement.Views

/-!
Spelling and settling. An instruction is read in its normal form, which is one for all its
spellings, so the letters of ASCII may take either case in it and blanks may stand around it: it is
read into the same fields and comes to the same outcome. Only the journal keeps the spelling, and
only where there is no result.
-/

namespace Giro.Terms

/-- All spellings of an instruction are read alike and come to the same outcome. -/
theorem outcome_of_respelled {text other : String}
    (h : Text.Respelled text.toList other.toList) :
    (∀ grammars, Instruction.scan grammars other = Instruction.scan grammars text) ∧
    (∀ (terms : Terms) grammars accounts,
      terms.outcomeIn grammars ⟨accounts, other⟩ = terms.outcomeIn grammars ⟨accounts, text⟩) ∧
    ∀ (terms : Terms) accounts,
      (terms.process ⟨accounts, other⟩).outcome = (terms.process ⟨accounts, text⟩).outcome ∧
      ∀ receipt, (terms.process ⟨accounts, text⟩).outcome = .ok receipt →
        terms.process ⟨accounts, other⟩ = terms.process ⟨accounts, text⟩ := by
  have reads : ∀ grammars, Instruction.scan grammars other = Instruction.scan grammars text :=
    fun _ => (Instruction.scan_of_respelled h).symm
  have outcomes (terms : Terms) (grammars : List Grammar) (accounts : List Account) :
      terms.outcomeIn grammars ⟨accounts, other⟩ = terms.outcomeIn grammars ⟨accounts, text⟩ := by
    simp only [outcomeIn, reads]
  refine ⟨reads, outcomes, fun terms accounts => ⟨?_, fun receipt settled => ?_⟩⟩
  · rw [outcome_process, outcome_process]
    exact outcomes terms Grammar.standard accounts
  · rw [outcome_process] at settled
    have settled' : terms.outcome ⟨accounts, other⟩ = .ok receipt :=
      (outcomes terms Grammar.standard accounts).trans settled
    simp only [process, settled, settled']

/-- The sigma inside a word and the one at its end keep their forms when the letters beside them
become capital and a blank follows. -/
theorem outcome_of_respelled_of_two_sigmas :
    Text.Respelled "debit 5 usd from account aΣ.b for credit to account bΣ".toList
      "\tDEBIT 5 Usd From Account AΣ.B for CREDIT to account BΣ\u2003\n".toList ∧
    Instruction.scan Grammar.standard "debit 5 usd from account aΣ.b for credit to account bΣ" =
      .ok ⟨.debit, "5", "USD", "aσ.b", "bς", none⟩ ∧
    Instruction.scan Grammar.standard
        "\tDEBIT 5 Usd From Account AΣ.B for CREDIT to account BΣ\u2003\n" =
      .ok ⟨.debit, "5", "USD", "aσ.b", "bς", none⟩ := by
  have respelled : Text.Respelled "debit 5 usd from account aΣ.b for credit to account bΣ".toList
      "\tDEBIT 5 Usd From Account AΣ.B for CREDIT to account BΣ\u2003\n".toList := by
    rw [Text.respelled_iff]
    decide +kernel
  have read : Instruction.scan Grammar.standard
      "debit 5 usd from account aΣ.b for credit to account bΣ" =
      .ok ⟨.debit, "5", "USD", "aσ.b", "bς", none⟩ := by
    decide +kernel
  exact ⟨respelled, read, ((outcome_of_respelled respelled).1 Grammar.standard).trans read⟩

end Giro.Terms
