import Giro.Proofs.Payload.Shape
import Giro.Proofs.Publication.Legible

/-!
Where the parts of a payload stand in it. What is found at a fault is a part of the payload, and so
is the balance of each account that is read from it. So what the payload is within is what a report
shows and what the balances are within.
-/

namespace Giro

theorem Json.Occurs.binding {part value : Json} {name : String} {members : List (String × Json)}
    (there : lastBinding? name members = some value) (inside : part.Occurs value) :
    part.Occurs (.obj members) := by
  have listed : ∃ member ∈ members, member.2 = value := by
    induction members with
    | nil => contradiction
    | cons first rest ih =>
        simp only [lastBinding?] at there
        split at there
        · next later found =>
          obtain ⟨member, listed, eq⟩ := ih (found.trans there)
          exact ⟨member, List.mem_cons_of_mem first listed, eq⟩
        · obtain ⟨-, eq⟩ := Option.ite_none_right_eq_some.mp there
          exact ⟨first, List.mem_cons_self, Option.some.inj eq⟩
  obtain ⟨member, listed, rfl⟩ := listed
  exact .member listed inside

theorem Balance.Within.of_toJson {balance : Balance} {doubles : Prop} {digits depth : Nat}
    (h : balance.toJson.Within doubles digits depth) : balance.Within doubles digits := by
  cases balance with
  | whole n => exact h.short n (List.mem_singleton_self _)
  | float x => exact fun none => absurd (List.mem_singleton_self _) (h.exact none x)

namespace Checked

section
variable {α : Type}

theorem within_eq_ok_iff {step : PathStep} {checked : Checked α} {x : α} :
    checked.within step = .ok x ↔ checked = .ok x := by
  cases checked <;> simp [within]

/-- What passes together passes each on its own. -/
theorem mem_of_items_eq_ok {start : Nat} {all : List (Checked α)} {xs : List α}
    (h : items start all = .ok xs) : ∀ x ∈ xs, .ok x ∈ all := by
  induction all generalizing start xs with
  | nil =>
      obtain rfl := Except.ok.inj h
      simp
  | cons first rest ih =>
      rw [items] at h
      split at h
      · next x more one others =>
        obtain rfl := Except.ok.inj h
        rw [within_eq_ok_iff] at one
        rw [List.forall_mem_cons]
        exact ⟨one ▸ List.mem_cons_self, fun y member => List.mem_cons_of_mem _ (ih others y member)⟩
      · contradiction

end
end Checked

namespace Payload

/-- What is found at a fault is a part of the value. -/
theorem Violates.occurs {source : Source} {part : Part} {value : Json} {issue : Issue}
    (h : Violates source part value issue) : issue.found.Occurs value := by
  induction h with
  | text | wholeBalance | floatBalance | list | object | missing => exact .here
  | item there _ ih => exact .item (List.mem_of_getElem? there) ih
  | field _ there _ ih => exact .binding there ih

theorem required_eq_ok {α : Type} {name : String} {check : Json → Checked α}
    {members : List (String × Json)} {x : α} (h : required name check members = .ok x) :
    ∃ value, Json.lastBinding? name members = some value ∧ check value = .ok x := by
  rw [required, Checked.within_eq_ok_iff] at h
  split at h
  · contradiction
  · next value there => exact ⟨value, there, h⟩

theorem balance_eq_ok {value : Json} {read : Balance} (h : balance value = .ok read) :
    value = read.toJson := by
  cases value with
  | int n =>
      obtain rfl := Except.ok.inj h
      rfl
  | float x =>
      obtain rfl := Except.ok.inj h
      rfl
  | null | bool | str | arr | obj => contradiction

section
variable {source : Source} {value : Json}

theorem occurs_of_account {read : Account} (h : account source value = .ok read) :
    read.balance.toJson.Occurs value := by
  cases value with
  | obj members =>
      simp only [account] at h
      split at h
      · next number _ =>
        obtain rfl := Except.ok.inj h
        obtain ⟨inner, there, checked⟩ := required_eq_ok number
        exact .binding there (balance_eq_ok checked ▸ .here)
      · contradiction
  | null | bool | int | float | str | arr => contradiction

theorem occurs_of_accounts {read : List Account} (h : accounts source value = .ok read) :
    ∀ account ∈ read, account.balance.toJson.Occurs value := by
  cases value with
  | arr values =>
      intro one listed
      obtain ⟨inner, there, checked⟩ :=
        List.mem_map.mp (Checked.mem_of_items_eq_ok h one listed)
      exact .item there (occurs_of_account checked)
  | null | bool | int | float | str | obj => contradiction

/-- The balances of a request are parts of the payload that it is read from. -/
theorem occurs_of_request {read : Request} (h : request source value = .ok read) :
    ∀ account ∈ read.accounts, account.balance.toJson.Occurs value := by
  cases value with
  | obj members =>
      simp only [request] at h
      split at h
      · next list _ =>
        obtain rfl := Except.ok.inj h
        obtain ⟨inner, there, checked⟩ := required_eq_ok list
        exact fun one listed => .binding there (occurs_of_accounts checked one listed)
      · contradiction
  | null | bool | int | float | str | arr => contradiction

theorem within_of_request {read : Request} (h : request source value = .ok read) {doubles : Prop}
    {digits depth : Nat} (within : value.Within doubles digits depth) :
    ∀ account ∈ read.accounts, account.balance.Within doubles digits :=
  fun one listed => .of_toJson (within.of_occurs (occurs_of_request h one listed))

end
end Payload
end Giro
