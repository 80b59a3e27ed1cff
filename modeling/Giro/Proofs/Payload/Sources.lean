import Giro.Proofs.Payload.Shape

/-!
Refusals of payloads. A payload is refused exactly when something is wrong with it, and where it
comes from changes nothing in a refusal but the name of an object that is none.
-/

namespace Giro

namespace Checked

/-- Nothing is refused without an issue. -/
def Honest {α : Type} (checked : Checked α) : Prop :=
  checked ≠ .error []

section
variable {α : Type} {checked : Checked α}

theorem honest_ok (x : α) : Honest (.ok x) := by
  simp [Honest]

theorem honest_error_cons (issue : Issue) (more : List Issue) :
    Honest (.error (issue :: more) : Checked α) := by
  simp [Honest]

theorem Honest.exists_of_issues (h : checked.Honest) (none : checked.issues = []) :
    ∃ x, checked = .ok x := by
  cases checked with
  | ok x => exact ⟨x, rfl⟩
  | error issues =>
      obtain rfl : issues = [] := none
      exact absurd rfl h

theorem Honest.within (h : checked.Honest) (step : PathStep) : (checked.within step).Honest := by
  cases checked with
  | ok x => exact honest_ok x
  | error issues =>
      intro none
      rw [Checked.within, Except.error.injEq, List.map_eq_nil_iff] at none
      exact h (none ▸ rfl)

theorem honest_items {all : List (Checked α)} (h : ∀ checked ∈ all, checked.Honest)
    (start : Nat) : (items start all).Honest := by
  induction all generalizing start with
  | nil => exact honest_ok []
  | cons first rest ih =>
      obtain ⟨one, others⟩ := List.forall_mem_cons.mp h
      rw [items]
      split
      · exact honest_ok _
      · next refused =>
        intro none
        obtain ⟨noFirst, noMore⟩ := List.append_eq_nil_iff.mp (Except.error.inj none)
        obtain ⟨x, first⟩ := (one.within (.item start)).exists_of_issues noFirst
        obtain ⟨more, rest⟩ := (ih others (start + 1)).exists_of_issues noMore
        exact refused x more first rest

/-- The same with another form of each issue. -/
def mapIssues (f : Issue → Issue) : Checked α → Checked α
  | .ok x => .ok x
  | .error issues => .error (issues.map f)

theorem issues_mapIssues (f : Issue → Issue) (checked : Checked α) :
    (checked.mapIssues f).issues = checked.issues.map f := by
  cases checked <;> rfl

end
end Checked

/-- The issue as it is named for a payload that comes over HTTP. -/
def Issue.overHttp (issue : Issue) : Issue :=
  { issue with
    kind := if issue.kind = .modelType then .modelAttributesType else issue.kind }

namespace Payload

section
variable {source : Source}

theorem honest_text (value : Json) : (text value).Honest := by
  cases value with
  | str s => exact Checked.honest_ok s
  | _ => exact Checked.honest_error_cons _ _

theorem honest_balance (value : Json) : (balance value).Honest := by
  cases value with
  | int n => exact Checked.honest_ok _
  | float x => exact Checked.honest_ok _
  | _ => exact Checked.honest_error_cons _ _

theorem honest_required {α : Type} {check : Json → Checked α}
    (honest : ∀ value, (check value).Honest) (name : String) (members : List (String × Json)) :
    (required name check members).Honest := by
  rw [required]
  cases Json.lastBinding? name members with
  | none => exact (Checked.honest_error_cons _ _).within _
  | some value => exact (honest value).within _

theorem honest_account (value : Json) : (account source value).Honest := by
  cases value with
  | obj members =>
      simp only [account]
      split
      · exact Checked.honest_ok _
      · next refused =>
        intro none
        obtain ⟨noneTwo, noCurrency⟩ := List.append_eq_nil_iff.mp (Except.error.inj none)
        obtain ⟨noId, noBalance⟩ := List.append_eq_nil_iff.mp noneTwo
        obtain ⟨id, first⟩ := (honest_required honest_text _ _).exists_of_issues noId
        obtain ⟨balance, second⟩ := (honest_required honest_balance _ _).exists_of_issues noBalance
        obtain ⟨currency, third⟩ := (honest_required honest_text _ _).exists_of_issues noCurrency
        exact refused id balance currency first second third
  | _ => exact Checked.honest_error_cons _ _

theorem honest_accounts (value : Json) : (accounts source value).Honest := by
  cases value with
  | arr values =>
      refine Checked.honest_items ?_ 0
      rw [List.forall_mem_map]
      exact fun value _ => honest_account value
  | _ => exact Checked.honest_error_cons _ _

theorem honest_request (value : Json) : (request source value).Honest := by
  cases value with
  | obj members =>
      simp only [request]
      split
      · exact Checked.honest_ok _
      · next refused =>
        intro none
        obtain ⟨noAccounts, noInstruction⟩ := List.append_eq_nil_iff.mp (Except.error.inj none)
        obtain ⟨accounts, first⟩ :=
          (honest_required honest_accounts _ _).exists_of_issues noAccounts
        obtain ⟨text, second⟩ := (honest_required honest_text _ _).exists_of_issues noInstruction
        exact refused accounts text first second
  | _ => exact Checked.honest_error_cons _ _

/-- A payload is refused exactly when something is wrong with it. -/
theorem exists_request_error_iff {value : Json} :
    (∃ issues, request source value = .error issues) ↔
      ∃ issue, Violates source .request value issue := by
  simp only [← complete_request.mem_iff]
  cases checked : request source value with
  | ok x => simp [Checked.issues]
  | error issues =>
      have some : issues ≠ [] := by
        rintro rfl
        exact honest_request value checked
      simpa [Checked.issues] using List.exists_mem_of_ne_nil issues some

theorem mapIssues_within {α : Type} (step : PathStep) (checked : Checked α) :
    (checked.mapIssues Issue.overHttp).within step =
      (checked.within step).mapIssues Issue.overHttp := by
  cases checked with
  | ok x => rfl
  | error issues =>
      simp only [Checked.mapIssues, Checked.within, List.map_map]
      rfl

theorem mapIssues_required {α : Type} (name : String) (check : Json → Checked α)
    (members : List (String × Json)) :
    required name (fun value => (check value).mapIssues Issue.overHttp) members =
      (required name check members).mapIssues Issue.overHttp := by
  simp only [required]
  cases Json.lastBinding? name members with
  | none => rfl
  | some value => exact mapIssues_within (.field name) (check value)

theorem mapIssues_items {α : Type} (start : Nat) (all : List (Checked α)) :
    Checked.items start (all.map (Checked.mapIssues Issue.overHttp)) =
      (Checked.items start all).mapIssues Issue.overHttp := by
  induction all generalizing start with
  | nil => rfl
  | cons first rest ih =>
      simp only [List.map_cons, Checked.items, mapIssues_within, ih]
      cases first.within (.item start) <;> cases Checked.items (start + 1) rest <;>
        simp [Checked.mapIssues, Checked.issues]

theorem mapIssues_text (value : Json) : (text value).mapIssues Issue.overHttp = text value := by
  cases value <;> rfl

theorem mapIssues_balance (value : Json) :
    (balance value).mapIssues Issue.overHttp = balance value := by
  cases value <;> rfl

/-- A member whose check does not look at where the payload comes from has the same issues. -/
theorem map_overHttp_required {α : Type} {check : Json → Checked α}
    (same : ∀ value, (check value).mapIssues Issue.overHttp = check value) (name : String)
    (members : List (String × Json)) :
    (required name check members).issues.map Issue.overHttp =
      (required name check members).issues := by
  rw [← Checked.issues_mapIssues, ← mapIssues_required]
  simp only [same]

theorem account_http (value : Json) :
    account .http value = (account .library value).mapIssues Issue.overHttp := by
  cases value with
  | obj members =>
      simp only [account]
      split
      · rfl
      · simp only [Checked.mapIssues, List.map_append, map_overHttp_required mapIssues_text,
          map_overHttp_required mapIssues_balance]
  | _ => rfl

theorem accounts_http (value : Json) :
    accounts .http value = (accounts .library value).mapIssues Issue.overHttp := by
  cases value with
  | arr values =>
      rw [accounts, accounts, ← mapIssues_items, List.map_map]
      simp only [Function.comp_def, ← account_http]
  | _ => rfl

/-- Over HTTP a payload has the same request in it, or the same issues, each named as it is
there. -/
theorem request_http (value : Json) :
    request .http value = (request .library value).mapIssues Issue.overHttp := by
  cases value with
  | obj members =>
      have list : required "accounts" (accounts .http) members =
          (required "accounts" (accounts .library) members).mapIssues Issue.overHttp := by
        rw [← mapIssues_required]
        simp only [← accounts_http]
      have instruction := map_overHttp_required mapIssues_text "instruction" members
      simp only [request, list]
      cases required "accounts" (accounts .library) members with
      | ok found =>
          cases checked : required "instruction" text members with
          | ok text => rfl
          | error issues =>
              rw [checked] at instruction
              simp only [Checked.mapIssues, List.map_append, instruction]
              rfl
      | error issues =>
          simp only [Checked.mapIssues, List.map_append, instruction]
          rfl
  | _ => rfl

end
end Payload
end Giro
