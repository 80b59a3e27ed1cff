import Mathlib.Data.List.Basic
import Giro.Payload

/-!
The shape of a payload, as data and as a relation: which part an object asks for under which name,
and what is wrong at which place of a value. The check reports everything that is wrong, each thing
once and in the order of the places, so its report does not depend on how it goes about it.
-/

namespace Giro

/-- The order of steps: of items by their index, of fields by their declaration. The names of the
two kinds of a number count as fields. -/
def PathStep.rank : PathStep → Nat
  | .field name =>
      ["accounts", "instruction", "id", "balance", "currency", "int", "float"].idxOf name
  | .item index => index

namespace Issue

/-- The place of the issue comes before the place of the other one. -/
def Before (issue other : Issue) : Prop :=
  issue.path.map PathStep.rank < other.path.map PathStep.rank

theorem before_within_iff {issue other : Issue} {step : PathStep} :
    (issue.within step).Before (other.within step) ↔ issue.Before other := by
  simp [Before, within]

theorem before_of_rank_lt {issue other : Issue} {step step' : PathStep}
    (lt : step.rank < step'.rank) : (issue.within step).Before (other.within step') := by
  simp [Before, within, List.cons_lt_cons_iff, lt]

end Issue

namespace Payload

/-- The parts of a payload. -/
inductive Part where
  | text
  | balance
  | account
  | accounts
  | request
  deriving DecidableEq

/-- What an object asks for, in the order of the declaration. -/
def Part.fields : Part → List (String × Part)
  | .account => [("id", .text), ("balance", .balance), ("currency", .text)]
  | .request => [("accounts", .accounts), ("instruction", .text)]
  | _ => []

/-- What is wrong with a value that should be this part. -/
inductive Violates (source : Source) : Part → Json → Issue → Prop
  | text {value : Json} (wrong : ∀ s, value ≠ .str s) :
      Violates source .text value ⟨.stringType, [], value⟩
  | wholeBalance {value : Json} (notWhole : ∀ n, value ≠ .int n)
      (notFloat : ∀ x, value ≠ .float x) :
      Violates source .balance value ⟨.intType, [.field "int"], value⟩
  | floatBalance {value : Json} (notWhole : ∀ n, value ≠ .int n)
      (notFloat : ∀ x, value ≠ .float x) :
      Violates source .balance value ⟨.floatType, [.field "float"], value⟩
  | list {value : Json} (wrong : ∀ items, value ≠ .arr items) :
      Violates source .accounts value ⟨.listType, [], value⟩
  | item {items : List Json} {index : Nat} {value : Json} {issue : Issue}
      (there : items[index]? = some value) (wrong : Violates source .account value issue) :
      Violates source .accounts (.arr items) (issue.within (.item index))
  | object {part : Part} {value : Json} (asks : part.fields ≠ [])
      (wrong : ∀ members, value ≠ .obj members) :
      Violates source part value ⟨source.objectIssue, [], value⟩
  | missing {part : Part} {name : String} {inner : Part} {members : List (String × Json)}
      (asked : (name, inner) ∈ part.fields) (absent : Json.lastBinding? name members = none) :
      Violates source part (.obj members) ⟨.missing, [.field name], .obj members⟩
  | field {part : Part} {name : String} {inner : Part} {members : List (String × Json)}
      {value : Json} {issue : Issue} (asked : (name, inner) ∈ part.fields)
      (there : Json.lastBinding? name members = some value)
      (wrong : Violates source inner value issue) :
      Violates source part (.obj members) (issue.within (.field name))

/-- The issues are just what is wrong with a value for the part, in the order of their places. -/
structure Complete (source : Source) (part : Part) (issues : Json → List Issue) : Prop where
  mem_iff : ∀ value issue, issue ∈ issues value ↔ Violates source part value issue
  ordered : ∀ value, (issues value).Pairwise Issue.Before

section
variable {source : Source} {part : Part} {value : Json} {issue : Issue}

theorem violates_obj_iff {members : List (String × Json)} (asks : part.fields ≠ []) :
    Violates source part (.obj members) issue ↔ ∃ field ∈ part.fields,
      (Json.lastBinding? field.1 members = none ∧
        issue = ⟨.missing, [.field field.1], .obj members⟩) ∨
      ∃ value found, Json.lastBinding? field.1 members = some value ∧
        Violates source field.2 value found ∧ issue = found.within (.field field.1) := by
  constructor
  · intro violates
    cases violates with
    | text | wholeBalance | floatBalance | list => exact absurd rfl asks
    | object _ wrong => exact absurd rfl (wrong members)
    | missing asked absent => exact ⟨_, asked, .inl ⟨absent, rfl⟩⟩
    | field asked there wrong => exact ⟨_, asked, .inr ⟨_, _, there, wrong, rfl⟩⟩
  · rintro ⟨⟨name, inner⟩, asked, ⟨absent, rfl⟩ | ⟨value, found, there, wrong, rfl⟩⟩
    · exact .missing asked absent
    · exact .field asked there wrong

theorem violates_of_not_obj (asks : part.fields ≠ []) (wrong : ∀ members, value ≠ .obj members) :
    Violates source part value issue ↔ issue = ⟨source.objectIssue, [], value⟩ := by
  constructor
  · intro violates
    cases violates with
    | text | wholeBalance | floatBalance | list | item => exact absurd rfl asks
    | object => rfl
    | missing => exact absurd rfl (wrong _)
    | field => exact absurd rfl (wrong _)
  · rintro rfl
    exact .object asks wrong

theorem complete_text : Complete source .text fun value => (text value).issues where
  mem_iff value issue := by
    constructor
    · intro member
      cases value with
      | str s => simp [text, Checked.issues] at member
      | _ =>
          obtain rfl := List.mem_singleton.mp member
          exact .text nofun
    · intro violates
      cases violates with
      | text wrong =>
          cases value with
          | str s => exact absurd rfl (wrong s)
          | _ => exact List.mem_singleton.mpr rfl
      | object asks => exact absurd rfl asks
      | missing asked | field asked => simp [Part.fields] at asked
  ordered value := by cases value <;> simp [text, Checked.issues]

theorem complete_balance : Complete source .balance fun value => (balance value).issues where
  mem_iff value issue := by
    constructor
    · intro member
      cases value with
      | int n => simp [balance, Checked.issues] at member
      | float x => simp [balance, Checked.issues] at member
      | _ =>
          simp only [balance, Checked.issues, List.mem_cons, List.not_mem_nil, or_false] at member
          obtain rfl | rfl := member
          · exact .wholeBalance nofun nofun
          · exact .floatBalance nofun nofun
    · intro violates
      cases violates with
      | wholeBalance notWhole notFloat =>
          cases value with
          | int n => exact absurd rfl (notWhole n)
          | float x => exact absurd rfl (notFloat x)
          | _ => exact .head _
      | floatBalance notWhole notFloat =>
          cases value with
          | int n => exact absurd rfl (notWhole n)
          | float x => exact absurd rfl (notFloat x)
          | _ => exact .tail _ (.head _)
      | object asks => exact absurd rfl asks
      | missing asked | field asked => simp [Part.fields] at asked
  ordered value := by
    cases value <;>
      simp [balance, Checked.issues, Issue.Before, PathStep.rank, List.cons_lt_cons_iff]

/-- The issues of a member that must be there and pass a check with these issues. -/
def memberIssues (name : String) (issues : Json → List Issue) (members : List (String × Json)) :
    List Issue :=
  match Json.lastBinding? name members with
  | none => [⟨.missing, [.field name], .obj members⟩]
  | some value => (issues value).map (Issue.within (.field name))

theorem issues_within {α : Type} (step : PathStep) (checked : Checked α) :
    (checked.within step).issues = checked.issues.map (Issue.within step) := by
  cases checked <;> rfl

theorem issues_required {α : Type} (name : String) (check : Json → Checked α)
    (members : List (String × Json)) :
    (required name check members).issues =
      memberIssues name (fun value => (check value).issues) members := by
  rw [required, issues_within, memberIssues]
  cases Json.lastBinding? name members <;> rfl

theorem exists_within_of_mem {name : String} {issues : Json → List Issue}
    {members : List (String × Json)} (h : issue ∈ memberIssues name issues members) :
    ∃ found, issue = Issue.within (.field name) found := by
  simp only [memberIssues] at h
  split at h
  · exact ⟨⟨.missing, [], .obj members⟩, List.mem_singleton.mp h⟩
  · obtain ⟨found, -, rfl⟩ := List.mem_map.mp h
    exact ⟨found, rfl⟩

/-- A field that an object asks for, with the issues of a value for it. -/
structure FieldCheck (source : Source) where
  name : String
  part : Part
  issues : Json → List Issue
  complete : Complete source part issues

theorem mem_memberIssues_iff {field : FieldCheck source} {members : List (String × Json)} :
    issue ∈ memberIssues field.name field.issues members ↔
      (Json.lastBinding? field.name members = none ∧
        issue = ⟨.missing, [.field field.name], .obj members⟩) ∨
      ∃ value found, Json.lastBinding? field.name members = some value ∧
        Violates source field.part value found ∧ issue = found.within (.field field.name) := by
  rw [memberIssues]
  cases Json.lastBinding? field.name members with
  | none => simp
  | some value => simp [field.complete.mem_iff, eq_comm]

theorem pairwise_memberIssues (field : FieldCheck source) (members : List (String × Json)) :
    (memberIssues field.name field.issues members).Pairwise Issue.Before := by
  rw [memberIssues]
  cases Json.lastBinding? field.name members with
  | none => exact List.pairwise_singleton _ _
  | some value =>
      rw [List.pairwise_map]
      exact (field.complete.ordered value).imp Issue.before_within_iff.mpr

/-- An object whose fields are checked one after the other is checked in full and in order. -/
theorem complete_object {issues : Json → List Issue} (fields : List (FieldCheck source))
    (asks : part.fields ≠ [])
    (sorted : (part.fields.map fun field => (PathStep.field field.1).rank).Pairwise (· < ·))
    (named : part.fields = fields.map fun field => (field.name, field.part))
    (ofObject : ∀ members, issues (.obj members) =
      fields.flatMap fun field => memberIssues field.name field.issues members)
    (ofOther : ∀ value, (∀ members, value ≠ .obj members) →
      issues value = [⟨source.objectIssue, [], value⟩]) : Complete source part issues where
  mem_iff value issue := by
    by_cases isObject : ∃ members, value = .obj members
    · obtain ⟨members, rfl⟩ := isObject
      simp only [violates_obj_iff asks, ofObject, List.mem_flatMap, mem_memberIssues_iff, named,
        List.mem_map, exists_exists_and_eq_and]
    · rw [not_exists] at isObject
      rw [ofOther value isObject, violates_of_not_obj asks isObject, List.mem_singleton]
  ordered value := by
    by_cases isObject : ∃ members, value = .obj members
    · obtain ⟨members, rfl⟩ := isObject
      rw [ofObject, List.pairwise_flatMap]
      refine ⟨fun field _ => pairwise_memberIssues field members, ?_⟩
      rw [named, List.map_map, List.pairwise_map] at sorted
      refine sorted.imp fun lt issue member other member' => ?_
      obtain ⟨found, rfl⟩ := exists_within_of_mem member
      obtain ⟨found', rfl⟩ := exists_within_of_mem member'
      exact Issue.before_of_rank_lt lt
    · rw [not_exists] at isObject
      rw [ofOther value isObject]
      exact List.pairwise_singleton _ _

theorem issues_account (members : List (String × Json)) :
    (account source (.obj members)).issues =
      (required "id" text members).issues ++ (required "balance" balance members).issues ++
        (required "currency" text members).issues := by
  simp only [account]
  split
  · next id balance currency => simp only [id, balance, currency, Checked.issues, List.append_nil]
  · rfl

theorem account_of_not_obj (wrong : ∀ members, value ≠ .obj members) :
    account source value = .error [⟨source.objectIssue, [], value⟩] := by
  cases value with
  | obj members => exact absurd rfl (wrong members)
  | _ => rfl

theorem complete_account :
    Complete source .account fun value => (account source value).issues := by
  refine complete_object
    [⟨"id", .text, _, complete_text⟩, ⟨"balance", .balance, _, complete_balance⟩,
      ⟨"currency", .text, _, complete_text⟩] (by decide) (by decide) rfl ?_ ?_
  · intro members
    simp [issues_account, issues_required]
  · intro value wrong
    rw [account_of_not_obj wrong, Checked.issues]

theorem issues_items {α : Type} (start : Nat) (check : Json → Checked α) (values : List Json) :
    (Checked.items start (values.map check)).issues =
      (values.zipIdx start).flatMap fun entry =>
        (check entry.1).issues.map (Issue.within (.item entry.2)) := by
  induction values generalizing start with
  | nil => rfl
  | cons value rest ih =>
      rw [List.zipIdx_cons, List.flatMap_cons, ← ih, ← issues_within, List.map_cons, Checked.items]
      split
      · next first more => simp only [first, more, Checked.issues, List.append_nil]
      · rfl

theorem violates_arr_iff {items : List Json} :
    Violates source .accounts (.arr items) issue ↔ ∃ entry ∈ items.zipIdx, ∃ found,
      Violates source .account entry.1 found ∧ issue = found.within (.item entry.2) := by
  simp only [List.mem_zipIdx_iff_getElem?]
  constructor
  · intro violates
    cases violates with
    | list wrong => exact absurd rfl (wrong items)
    | item there wrong => exact ⟨(_, _), there, _, wrong, rfl⟩
    | object asks => exact absurd rfl asks
  · rintro ⟨⟨value, index⟩, there, found, wrong, rfl⟩
    exact .item there wrong

theorem violates_of_not_arr (wrong : ∀ items, value ≠ .arr items) :
    Violates source .accounts value issue ↔ issue = ⟨.listType, [], value⟩ := by
  constructor
  · intro violates
    cases violates with
    | list => rfl
    | item => exact absurd rfl (wrong _)
    | object asks => exact absurd rfl asks
    | missing asked | field asked => simp [Part.fields] at asked
  · rintro rfl
    exact .list wrong

theorem accounts_of_not_arr (wrong : ∀ items, value ≠ .arr items) :
    accounts source value = .error [⟨.listType, [], value⟩] := by
  cases value with
  | arr items => exact absurd rfl (wrong items)
  | _ => rfl

theorem complete_accounts :
    Complete source .accounts fun value => (accounts source value).issues where
  mem_iff value issue := by
    by_cases isArray : ∃ items, value = .arr items
    · obtain ⟨items, rfl⟩ := isArray
      simp only [accounts, issues_items, List.mem_flatMap, List.mem_map, violates_arr_iff,
        complete_account.mem_iff, eq_comm]
    · rw [not_exists] at isArray
      rw [accounts_of_not_arr isArray, violates_of_not_arr isArray, Checked.issues,
        List.mem_singleton]
  ordered value := by
    by_cases isArray : ∃ items, value = .arr items
    · obtain ⟨items, rfl⟩ := isArray
      rw [accounts, issues_items, List.pairwise_flatMap]
      constructor
      · intro entry _
        rw [List.pairwise_map]
        exact (complete_account.ordered entry.1).imp Issue.before_within_iff.mpr
      · have increasing : (items.zipIdx.map Prod.snd).Pairwise (· < ·) := by
          rw [List.zipIdx_map_snd]
          exact List.pairwise_lt_range'
        rw [List.pairwise_map] at increasing
        refine increasing.imp fun lt issue member other member' => ?_
        obtain ⟨found, -, rfl⟩ := List.mem_map.mp member
        obtain ⟨found', -, rfl⟩ := List.mem_map.mp member'
        exact Issue.before_of_rank_lt lt
    · rw [not_exists] at isArray
      rw [accounts_of_not_arr isArray]
      exact List.pairwise_singleton _ _

theorem issues_request (members : List (String × Json)) :
    (request source (.obj members)).issues =
      (required "accounts" (accounts source) members).issues ++
        (required "instruction" text members).issues := by
  simp only [request]
  split
  · next accounts instruction =>
    simp only [accounts, instruction, Checked.issues, List.append_nil]
  · rfl

theorem request_of_not_obj (wrong : ∀ members, value ≠ .obj members) :
    request source value = .error [⟨source.objectIssue, [], value⟩] := by
  cases value with
  | obj members => exact absurd rfl (wrong members)
  | _ => rfl

/-- The check of a payload finds everything that is wrong with it, in the order of the places. -/
theorem complete_request :
    Complete source .request fun value => (request source value).issues := by
  refine complete_object
    [⟨"accounts", .accounts, _, complete_accounts⟩, ⟨"instruction", .text, _, complete_text⟩]
    (by decide) (by decide) rfl ?_ ?_
  · intro members
    simp [issues_request, issues_required]
  · intro value wrong
    rw [request_of_not_obj wrong, Checked.issues]

end
end Payload
end Giro
