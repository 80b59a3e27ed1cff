import Giro.Proofs.Instruction.Normal
import Giro.Proofs.Settlement.Record
import Giro.Proofs.Text.PrivateUse
import Giro.Publication

/-!
Results that can be written out. The texts of a result come from the request, some of them in
another letter case, and so a surrogate without its partner is in the result only if it is in the
request.
-/

namespace Giro

def Request.texts (request : Request) : List String :=
  request.instruction :: request.accounts.flatMap fun account => [account.id, account.currency]

/-- Whether no text of a request has a surrogate without its partner; the request was read with
so many marks for each. -/
def Request.isWhole (marks : Nat) (request : Request) : Bool :=
  request.texts.all (Text.isWhole marks)

section
variable {marks : Nat}

theorem Request.isWhole_iff {request : Request} :
    request.isWhole marks = true ↔ Text.isWhole marks request.instruction = true ∧
      ∀ account ∈ request.accounts,
        Text.isWhole marks account.id = true ∧ Text.isWhole marks account.currency = true := by
  simp [isWhole, texts]

theorem Receipt.isWhole_iff {receipt : Receipt} :
    receipt.isWhole marks = true ↔
      (∀ text ∈ receipt.currency.toList ++ receipt.debitAccount.toList ++
        receipt.creditAccount.toList ++ receipt.executeBy.toList,
        Text.isWhole marks text = true) ∧
      ∀ view ∈ receipt.accounts,
        Text.isWhole marks view.id = true ∧ Text.isWhole marks view.currency = true := by
  rw [isWhole, texts, List.all_append, Bool.and_eq_true, List.all_eq_true]
  simp

theorem Receipt.isWhole_unread (marks : Nat) (fault : ScanFault) :
    (Receipt.unread fault).isWhole marks = true := by
  simp [isWhole, texts, unread]

/-- The fields of an instruction have no more marks than the text. -/
theorem Instruction.isWhole_of_scan {grammars : List Grammar} {text : String} {ins : Instruction}
    (read : scan grammars text = .ok ins) (whole : Text.isWhole marks text = true) :
    ∀ field ∈ [ins.currency, ins.debitAccount, ins.creditAccount] ++ ins.executeBy.toList,
      Text.isWhole marks field = true := by
  have few : (Text.lower text.toList).count Text.mark < marks := by
    rw [Text.count_lower Text.isPrivate_mark]
    exact Text.isWhole_iff.mp whole
  obtain ⟨-, ⟨word, part, currency⟩, debit, credit, date⟩ := drawnFrom_of_scan read
  have fewInCurrency : ins.currency.toList.count Text.mark < marks := by
    rw [currency, Text.count_upper Text.isPrivate_mark]
    exact Nat.lt_of_le_of_lt (part.count_le _) few
  intro field listed
  rw [Text.isWhole_iff]
  simp only [List.cons_append, List.nil_append, List.mem_cons, Option.mem_toList] at listed
  obtain rfl | rfl | rfl | there := listed
  · exact fewInCurrency
  · exact Nat.lt_of_le_of_lt (debit.count_le _) few
  · exact Nat.lt_of_le_of_lt (credit.count_le _) few
  · exact Nat.lt_of_le_of_lt ((date field there).count_le _) few

namespace Terms

variable {terms : Terms} {receipt : Receipt}

/-- The views of accounts without surrogates are without them too. -/
theorem isWhole_views_of_settle {accounts : List Account} {ins : Instruction}
    (settled : terms.settle accounts ins = .ok receipt)
    (whole : ∀ account ∈ accounts,
      Text.isWhole marks account.id = true ∧ Text.isWhole marks account.currency = true) :
    ∀ view ∈ receipt.accounts,
      Text.isWhole marks view.id = true ∧ Text.isWhole marks view.currency = true := by
  intro view member
  have origin := List.mem_map_of_mem (f := AccountView.origin) member
  rw [(shows_of_settle settled).origins] at origin
  obtain ⟨account, listed, same⟩ := List.mem_map.mp origin
  obtain ⟨id, currency⟩ := whole account (List.mem_filter.mp listed).1
  have sameId : account.id = view.id := congrArg Account.id same
  have sameCurrency : capital account.currency = view.currency := congrArg Account.currency same
  rw [← sameId, ← sameCurrency]
  exact ⟨id, Text.isWhole_capital.trans currency⟩

theorem isWhole_of_outcome {request : Request} (returned : terms.outcome request = .ok receipt)
    (whole : request.isWhole marks = true) : receipt.isWhole marks = true := by
  obtain ⟨instruction, accounts⟩ := Request.isWhole_iff.mp whole
  obtain ⟨fault, -, rfl⟩ | ⟨ins, read, settled⟩ := outcome_eq_ok returned
  · exact Receipt.isWhole_unread marks fault
  · have fields := Instruction.isWhole_of_scan read instruction
    have views := isWhole_views_of_settle settled accounts
    obtain ⟨verdict, shown, -, rfl⟩ := exists_verdict_of_settle settled
    exact Receipt.isWhole_iff.mpr ⟨fields, views⟩

end Terms
end
end Giro
