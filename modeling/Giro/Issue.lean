import Giro.Json.Basic

/-!
Faults of data from outside, each with the kind of the fault, the place in the data and what was
found there. The faults of several parts are collected in the order of the parts.
-/

namespace Giro

inductive IssueKind where
  | modelType
  | modelAttributesType
  | missing
  | listType
  | stringType
  | intType
  | floatType
  | boolParsing
  | jsonInvalid
  deriving DecidableEq, Repr

def IssueKind.text : IssueKind → String
  | .modelType => "model_type"
  | .modelAttributesType => "model_attributes_type"
  | .missing => "missing"
  | .listType => "list_type"
  | .stringType => "string_type"
  | .intType => "int_type"
  | .floatType => "float_type"
  | .boolParsing => "bool_parsing"
  | .jsonInvalid => "json_invalid"

/-- One step on the way to a place: into a field or to an item. -/
inductive PathStep where
  | field (name : String)
  | item (index : Nat)
  deriving DecidableEq, Repr

structure Issue where
  kind : IssueKind
  path : List PathStep
  /-- The value at fault, or the object in which a member is missing. -/
  found : Json

namespace Issue

/-- The same fault of the part that stands at a place of a larger whole. -/
def within (step : PathStep) (issue : Issue) : Issue :=
  { issue with path := step :: issue.path }

def toJson (issue : Issue) : Json :=
  .obj
    [("type", .str issue.kind.text),
     ("loc", .arr (issue.path.map fun
       | .field name => .str name
       | .item index => .int index))]

end Issue

abbrev Checked (α : Type) := Except (List Issue) α

namespace Checked

def issues : Checked α → List Issue
  | .ok _ => []
  | .error issues => issues

def within (step : PathStep) : Checked α → Checked α
  | .ok x => .ok x
  | .error issues => .error (issues.map (Issue.within step))

/-- All values, or the faults of every item in order, each at its index counted from `start`. -/
def items (start : Nat) : List (Checked α) → Checked (List α)
  | [] => .ok []
  | first :: rest =>
      match first.within (.item start), items (start + 1) rest with
      | .ok x, .ok more => .ok (x :: more)
      | first, more => .error (issues first ++ issues more)

end Checked
end Giro
