import Giro.Issue
import Giro.Journal

/-!
Requests as JSON values: an object with a list of accounts and an instruction. Every fault of the
shape is reported, fields in the order of the declaration and accounts in the order of the list;
members that are not asked for do not count. A payload of the right shape is processed.
-/

namespace Giro

namespace Payload

/-- Where a value comes from decides how an object that is none is named. -/
inductive Source where
  | library
  | http
  deriving DecidableEq

def Source.objectIssue : Source → IssueKind
  | .library => .modelType
  | .http => .modelAttributesType

/-- A member that must be there and pass a check. -/
def required (name : String) (check : Json → Checked α) (members : List (String × Json)) :
    Checked α :=
  (match Json.lastBinding? name members with
   | none => .error [⟨.missing, [], .obj members⟩]
   | some value => check value : Checked α).within (.field name)

def text : Json → Checked String
  | .str s => .ok s
  | other => .error [⟨.stringType, [], other⟩]

/-- A number of either kind; anything else fails as each of the two kinds. -/
def balance : Json → Checked Balance
  | .int value => .ok (.whole value)
  | .float value => .ok (.float value)
  | other =>
      .error [⟨.intType, [.field "int"], other⟩, ⟨.floatType, [.field "float"], other⟩]

def account (source : Source) : Json → Checked Account
  | .obj members =>
      match required "id" text members, required "balance" balance members,
        required "currency" text members with
      | .ok id, .ok balance, .ok currency => .ok ⟨id, balance, currency⟩
      | id, balance, currency =>
          .error (Checked.issues id ++ Checked.issues balance ++ Checked.issues currency)
  | other => .error [⟨source.objectIssue, [], other⟩]

def accounts (source : Source) : Json → Checked (List Account)
  | .arr values => Checked.items 0 (values.map (account source))
  | other => .error [⟨.listType, [], other⟩]

def request (source : Source) : Json → Checked Request
  | .obj members =>
      match required "accounts" (accounts source) members, required "instruction" text members with
      | .ok accounts, .ok instruction => .ok ⟨accounts, instruction⟩
      | accounts, instruction => .error (Checked.issues accounts ++ Checked.issues instruction)
  | other => .error [⟨source.objectIssue, [], other⟩]

end Payload

/-- What keeps a payload without a result: its shape, or a fault of the processing. -/
inductive PayloadFault where
  | shape (issues : List Issue)
  | fault (fault : Fault)

def Terms.processPayload (terms : Terms) (payload : Json) : Except PayloadFault Receipt :=
  match Payload.request .library payload with
  | .error issues => .error (.shape issues)
  | .ok request =>
      match (terms.process request).outcome with
      | .error fault => .error (.fault fault)
      | .ok receipt => .ok receipt

end Giro
