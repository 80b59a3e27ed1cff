import Giro.Http.Report
import Giro.Proofs.Publication.Whole

/-!
Results that an answer can show. A published result has no double that is not finite, and its own
words have no surrogate, so it can be shown just when the texts in it are whole.
-/

namespace Giro

namespace Terms

theorem statusReason_of_outcome {terms : Terms} {request : Request} {receipt : Receipt}
    (returned : terms.outcome request = .ok receipt) :
    receipt.statusReason = receipt.statusCode.reason := by
  obtain ⟨fault, -, rfl⟩ | ⟨ins, -, settled⟩ := outcome_eq_ok returned
  · rfl
  · obtain ⟨verdict, views, -, rfl⟩ := exists_verdict_of_settle settled
    rfl

end Terms

namespace Http

/-- A text without any mark is whole, whatever marks a surrogate. -/
def IsUnmarked (text : String) : Prop :=
  Text.mark ∉ text.toList

instance (text : String) : Decidable (IsUnmarked text) :=
  inferInstanceAs (Decidable (¬ _))

section
variable {marks : Nat}

theorem canShow_ofOption_iff {α : Type} {encode : α → Json} {x : Option α} :
    canShow marks (.ofOption encode x) = true ↔ ∀ y ∈ x, canShow marks (encode y) = true := by
  cases x <;> simp [Json.ofOption, canShow]

theorem canShowItems_iff {items : List Json} :
    canShowItems marks items = true ↔ ∀ item ∈ items, canShow marks item = true := by
  induction items with
  | nil => simp [canShowItems]
  | cons first rest ih => simp [canShowItems, ih]

variable (positive : 0 < marks)
include positive

theorem IsUnmarked.isWhole {text : String} (h : IsUnmarked text) :
    Text.isWhole marks text = true := by
  rw [Text.isWhole_iff, List.count_eq_zero_of_not_mem h]
  exact positive

/-- Where no two members have one name and every name is shown, all members are. -/
theorem canShowMembers_iff (names : List String) {members : List (String × Json)}
    (named : members.map Prod.fst = names) (distinct : names.Nodup)
    (plain : (names.all fun name => isShown name && IsUnmarked name) = true) :
    canShowMembers marks members = true ↔ ∀ member ∈ members, canShow marks member.2 = true := by
  subst named
  induction members with
  | nil => simp [canShowMembers]
  | cons first rest ih =>
      obtain ⟨name, value⟩ := first
      obtain ⟨fresh, distinct⟩ := List.nodup_cons.mp distinct
      simp only [List.map_cons, List.all_cons, Bool.and_eq_true, decide_eq_true_eq] at plain
      obtain ⟨⟨shown, unmarked⟩, plain⟩ := plain
      have last : (rest.any fun member => member.1 = name) = false := by
        rw [List.any_eq_false]
        intro member listed same
        exact fresh (List.mem_map.mpr ⟨member, listed, of_decide_eq_true same⟩)
      rw [canShowMembers, List.forall_mem_cons, ← ih distinct plain]
      simp [shown, last, unmarked.isWhole positive]

theorem canShow_view_iff (view : AccountView) :
    canShow marks (view.toJson Balance.publish) = true ↔
      Text.isWhole marks view.id = true ∧ Text.isWhole marks view.currency = true := by
  have number (balance : Balance) : canShow marks balance.publish = true := by
    rcases balance with n | (_ | _ | _) <;> rfl
  rw [AccountView.toJson, canShow,
    canShowMembers_iff positive ["id", "balance", "balance_before", "currency"] rfl
      (by decide +kernel) (by decide +kernel)]
  simp only [List.forall_mem_cons, canShow, number]
  simp

/-- A published result with a reason of the catalog can be shown just when it is whole. -/
theorem canShow_publish_iff {receipt : Receipt}
    (reason : receipt.statusReason = receipt.statusCode.reason) :
    canShow marks receipt.publish = true ↔ receipt.isWhole marks = true := by
  have form (f : Form) : IsUnmarked f.text := by
    cases f <;> decide +kernel
  have status : IsUnmarked receipt.status.text := by
    cases receipt.status <;> decide +kernel
  have code : IsUnmarked receipt.statusCode.text ∧ IsUnmarked receipt.statusCode.reason := by
    cases receipt.statusCode <;> decide +kernel
  rw [Receipt.publish, Receipt.toJson, canShow,
    canShowMembers_iff positive
      ["type", "amount", "currency", "debit_account", "credit_account", "execute_by", "status",
        "status_reason", "status_code", "accounts"] rfl (by decide +kernel) (by decide +kernel),
    Receipt.isWhole_iff]
  simp only [List.forall_mem_cons, canShow, canShow_ofOption_iff, canShowItems_iff,
    List.forall_mem_map, canShow_view_iff positive, reason, (form _).isWhole positive,
    status.isWhole positive, code.1.isWhole positive, code.2.isWhole positive,
    List.forall_mem_append, Option.mem_toList]
  simp [and_assoc]

end
end Http
end Giro
