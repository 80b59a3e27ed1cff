import Giro.Proofs.Http.Report
import Giro.Proofs.Http.Route
import Giro.Proofs.Json.Depth
import Giro.Proofs.Json.Equality
import Giro.Proofs.Payload.Parts
import Giro.Proofs.Payload.Sources

/-!
The route for instructions beside the library entry. For the same payload the route answers with the
result, with the issues or with an internal error, just as the entry returns a result, refuses the
shape or fails. Only what cannot be shown in an answer makes a difference: a report of a number that
is not finite, and a text with a surrogate without its partner. A body of `null` may count as none.
-/

namespace Giro

theorem Terms.processPayload_eq_ok_iff {terms : Terms} {value : Json} {request : Request}
    {receipt : Receipt} (shaped : Payload.request .library value = .ok request) :
    terms.processPayload value = .ok receipt ↔ terms.outcome request = .ok receipt := by
  rw [processPayload, shaped]
  simp only [outcome_process]
  cases terms.outcome request <;> simp

theorem Terms.exists_request_of_processPayload {terms : Terms} {value : Json} {receipt : Receipt}
    (processed : terms.processPayload value = .ok receipt) :
    ∃ request, Payload.request .library value = .ok request ∧
      terms.outcome request = .ok receipt := by
  cases shaped : Payload.request .library value with
  | error issues => simp [processPayload, shaped] at processed
  | ok request => exact ⟨request, rfl, (processPayload_eq_ok_iff shaped).mp processed⟩

namespace Http

/-- The body is the text of this value, however deep that is, and each surrogate without its partner
was read with so many marks. -/
def Parses (body : String) (value : Json) (marks : Nat) : Prop :=
  ∃ codes, Text.codes? body = some codes ∧ marks = Text.marksOver (codes.map Char.ofNat) ∧
    Json.read ⟨some maxDigits, none, marks⟩
      (String.ofList (codes.flatMap (Text.ofCode marks))) = .ok value

/-- The body counts as no body at all. -/
def Framework.Drops (framework : Framework) (value : Json) : Prop :=
  framework.nullIsAbsent = true ∧ value = .null

/-- What is answered for an outcome of the library entry. -/
def present (framework : Framework) (app : Application) (marks : Nat) :
    Except PayloadFault Receipt → Response
  | .ok receipt =>
      if framework.shows marks receipt.publish then ⟨200, .json receipt.publish⟩
      else app.internalError
  | .error (.shape issues) => framework.unprocessable app marks (issues.map Issue.overHttp)
  | .error (.fault _) => app.internalError

section
variable {framework : Framework} {app : Application} {contentType : Option String} {body : String}
  {value : Json} {marks : Nat}

theorem Parses.marks_pos (h : Parses body value marks) : 0 < marks := by
  obtain ⟨codes, -, rfl, -⟩ := h
  exact Nat.succ_pos _

theorem Parses.read_eq (h : Parses body value marks)
    (isJson : framework.readsJson contentType = true) :
    framework.read contentType (some body) =
      if value.depth ≤ framework.maxDepth then .ok ⟨some value, marks⟩ else .error .unreadable := by
  obtain ⟨codes, decoded, rfl, read⟩ := h
  have limited := Json.read_limited rfl framework.maxDepth read
  rw [Json.ReadRules.limited] at limited
  have nonempty : body ≠ "" := by
    rintro rfl
    obtain rfl : [] = codes := Option.some.inj decoded
    cases read
  rw [Framework.read]
  · simp only [isJson, if_true, Framework.readJson, decoded, limited]
    by_cases shallow : value.depth ≤ framework.maxDepth
    · simp only [shallow, if_true]
    · simp only [shallow, if_false]
  · exact nonempty

theorem Framework.payload_of_drops (dropped : framework.Drops value) :
    framework.payload (some value) = .error [⟨.missing, [], .null⟩] := by
  obtain ⟨absent, rfl⟩ := dropped
  rw [payload, if_pos absent]

theorem Framework.payload_of_not_drops (taken : ¬ framework.Drops value) :
    framework.payload (some value) = Payload.request .http value := by
  cases value with
  | null =>
      have there : framework.nullIsAbsent = false := by simpa [Drops] using taken
      rw [payload, there]
      rfl
  | bool | int | float | str | arr | obj => rfl

theorem settle_of_parses (h : Parses body value marks)
    (isJson : framework.readsJson contentType = true) (taken : ¬ framework.Drops value)
    (terms : Terms) :
    framework.settle app terms (app.request .instructions contentType (some body)) =
      if value.depth ≤ framework.maxDepth then
        present framework app marks (terms.processPayload value)
      else badRequest := by
  simp only [Framework.settle, Application.request, h.read_eq isJson]
  by_cases shallow : value.depth ≤ framework.maxDepth
  · simp only [shallow, if_true, Framework.payload_of_not_drops taken, Payload.request_http,
      Terms.processPayload]
    cases Payload.request .library value with
    | error issues => rfl
    | ok request =>
        simp only [Checked.mapIssues]
        cases (terms.process request).outcome <;> rfl
  · simp only [shallow, if_false]

theorem settle_of_drops (h : Parses body value marks)
    (isJson : framework.readsJson contentType = true) (dropped : framework.Drops value)
    (terms : Terms) :
    framework.settle app terms (app.request .instructions contentType (some body)) =
      framework.unprocessable app marks [⟨.missing, [], .null⟩] := by
  have shallow : value.depth ≤ framework.maxDepth := by
    rw [dropped.2]
    exact Nat.zero_le _
  simp only [Framework.settle, Application.request, h.read_eq isJson, shallow, if_true,
    Framework.payload_of_drops dropped]

end

/-- The answer to a payload and the outcome of the library entry for it tell the same. -/
structure Agrees (framework : Framework) (app : Application) (shownDepth marks : Nat)
    (value : Json) (direct : Except PayloadFault Receipt) (response : Response) : Prop where
  ok_iff : response.status = 200 ↔
    ∃ receipt, direct = .ok receipt ∧ receipt.isWhole marks = true
  unprocessable_iff : response.status = 422 ↔
    ∃ issues, direct = .error (.shape issues) ∧
      ∀ issue ∈ issues, framework.shows marks issue.found = true
  internalError_iff : response.status = 500 ↔
    (∃ fault, direct = .error (.fault fault)) ∨
    (∃ receipt, direct = .ok receipt ∧ receipt.isWhole marks = false) ∨
    ∃ issues, direct = .error (.shape issues) ∧
      ∃ issue ∈ issues, framework.shows marks issue.found = false
  result : ∀ receipt, response.status = 200 → direct = .ok receipt →
    response = ⟨200, .json receipt.publish⟩
  report : ∀ issues, response.status = 422 → direct = .error (.shape issues) →
    response = ⟨422, detail (.arr (issues.map fun issue =>
      (issue.overHttp.within (.field "body")).toJson))⟩
  message : response.status = 500 →
    response = ⟨500, if app.debug then .trace else detail (.str "Internal server error")⟩
  /-- The shape is refused when something is wrong with it. -/
  refuses_iff : (∃ issues, direct = .error (.shape issues)) ↔
    ∃ issue, Payload.Violates .library .request value issue
  /-- All that is wrong is reported, once and in the order of the places. -/
  reports : ∀ issues, direct = .error (.shape issues) →
    (∀ issue, issue ∈ issues ↔ Payload.Violates .library .request value issue) ∧
      issues.Pairwise Issue.Before
  /-- Nothing is reported that JSON has no text for, and only the nesting keeps anything else from
  being reported. -/
  shows_iff : ∀ issues, direct = .error (.shape issues) → ∀ issue ∈ issues,
    (framework.shows marks issue.found = true → canShow marks issue.found = true) ∧
    (canShow marks issue.found = true → value.depth ≤ shownDepth →
      framework.shows marks issue.found = true)

/-- The issues are all shown in the answer, or one of them cannot be shown and so none is. -/
theorem unprocessable_overHttp (framework : Framework) (app : Application) (marks : Nat)
    (issues : List Issue) :
    (∀ issue ∈ issues, framework.shows marks issue.found = true) ∧
      framework.unprocessable app marks (issues.map Issue.overHttp) =
        ⟨422, detail (.arr (issues.map fun issue =>
          (issue.overHttp.within (.field "body")).toJson))⟩ ∨
    (∃ issue ∈ issues, framework.shows marks issue.found = false) ∧
      framework.unprocessable app marks (issues.map Issue.overHttp) = app.internalError := by
  have shown (issue : Issue) : issue.overHttp.found = issue.found := rfl
  by_cases all : ∀ issue ∈ issues, framework.shows marks issue.found = true
  · refine .inl ⟨all, ?_⟩
    simp [Framework.unprocessable, report, shown, List.all_eq_true.mpr all, Function.comp_def]
  · have none : (issues.all fun issue => framework.shows marks issue.found) = false := by
      simpa using all
    refine .inr ⟨by simpa using all, ?_⟩
    simp [Framework.unprocessable, shown, none, Function.comp_def]

theorem request_of_shape {terms : Terms} {value : Json} {issues : List Issue}
    (h : terms.processPayload value = .error (.shape issues)) :
    Payload.request .library value = .error issues := by
  simp only [Terms.processPayload] at h
  split at h
  · next found refused =>
    rw [refused, PayloadFault.shape.inj (Except.error.inj h)]
  · split at h <;> simp at h

theorem exists_shape_iff {terms : Terms} {value : Json} :
    (∃ issues, terms.processPayload value = .error (.shape issues)) ↔
      ∃ issue, Payload.Violates .library .request value issue := by
  rw [← Payload.exists_request_error_iff]
  constructor
  · rintro ⟨issues, refused⟩
    exact ⟨issues, request_of_shape refused⟩
  · rintro ⟨issues, refused⟩
    exact ⟨issues, by simp only [Terms.processPayload, refused]⟩

theorem reports_of_shape {terms : Terms} {value : Json} {issues : List Issue}
    (h : terms.processPayload value = .error (.shape issues)) :
    (∀ issue, issue ∈ issues ↔ Payload.Violates .library .request value issue) ∧
      issues.Pairwise Issue.Before := by
  have found : (Payload.request .library value).issues = issues := by
    rw [request_of_shape h, Checked.issues]
  have complete : Payload.Complete .library .request _ := Payload.complete_request
  rw [← found]
  exact ⟨complete.mem_iff value, complete.ordered value⟩

/-- Whole numbers in a payload this short leave room for those of its result. -/
theorem within_of_processPayload {terms : Terms} {value : Json} {receipt : Receipt}
    (short : ∀ n, .int n ∈ value.leaves → Json.places n ≤ 4299)
    (processed : terms.processPayload value = .ok receipt) : receipt.Within True maxDigits := by
  obtain ⟨request, shaped, returned⟩ := Terms.exists_request_of_processPayload processed
  have within : value.Within True 4299 value.depth :=
    ⟨fun none => absurd trivial none, short, Nat.le_refl _⟩
  exact Terms.within_of_outcome (by decide) (by decide) (by decide)
    (Payload.within_of_request shaped within) returned

section
variable {framework : Framework} {shownDepth : Nat} (conforms : framework.Conforms shownDepth)
  {marks : Nat}
include conforms

/-- A result is shown just when its texts are whole. -/
theorem shows_publish_iff (positive : 0 < marks) {doubles : Prop} {receipt : Receipt}
    (reason : receipt.statusReason = receipt.statusCode.reason)
    (within : receipt.Within doubles maxDigits) :
    framework.shows marks receipt.publish = true ↔ receipt.isWhole marks = true := by
  rw [← canShow_publish_iff positive reason]
  have narrow := within.publish.mono conforms.room
  have allowed : receipt.publish.Within True maxDigits shownDepth :=
    { narrow with exact := fun none => absurd trivial none }
  exact ⟨conforms.canShow_of_shows marks receipt.publish,
    fun shown => conforms.shows_of_canShow marks receipt.publish shown allowed⟩

/-- What is found at a fault is a part of the payload, and so it is shown with the payload's own
numbers and nesting. -/
theorem shows_found_of_canShow {value : Json} {issue : Issue}
    (short : ∀ n, .int n ∈ value.leaves → Json.places n ≤ maxDigits)
    (wrong : Payload.Violates .library .request value issue) (shallow : value.depth ≤ shownDepth)
    (shown : canShow marks issue.found = true) : framework.shows marks issue.found = true := by
  have within : value.Within True maxDigits shownDepth :=
    ⟨fun none => absurd trivial none, short, shallow⟩
  exact conforms.shows_of_canShow marks issue.found shown (within.of_occurs wrong.occurs)

end

section
variable {framework : Framework} {marks : Nat} {direct : Except PayloadFault Receipt}
  (shows_iff : ∀ receipt, direct = .ok receipt →
    (framework.shows marks receipt.publish = true ↔ receipt.isWhole marks = true))
include shows_iff

/-- A result is shown whole, or the issues are all shown, or the answer is an internal error because
there was a fault or there is something that cannot be shown. -/
theorem present_cases (app : Application) :
    (∃ receipt, direct = .ok receipt ∧ receipt.isWhole marks = true ∧
      present framework app marks direct = ⟨200, .json receipt.publish⟩) ∨
    (∃ issues, direct = .error (.shape issues) ∧
      (∀ issue ∈ issues, framework.shows marks issue.found = true) ∧
      present framework app marks direct = ⟨422, detail (.arr (issues.map fun issue =>
        (issue.overHttp.within (.field "body")).toJson))⟩) ∨
    present framework app marks direct = app.internalError ∧
      ((∃ fault, direct = .error (.fault fault)) ∨
        (∃ receipt, direct = .ok receipt ∧ receipt.isWhole marks = false) ∨
        ∃ issues, direct = .error (.shape issues) ∧
          ∃ issue ∈ issues, framework.shows marks issue.found = false) := by
  cases direct with
  | ok receipt =>
      have shown := shows_iff receipt rfl
      cases whole : receipt.isWhole marks with
      | true => exact .inl ⟨receipt, rfl, whole, by rw [present, if_pos (shown.mpr whole)]⟩
      | false =>
          have hidden : framework.shows marks receipt.publish = false := by
            rw [Bool.eq_false_iff, ne_eq, shown, whole]
            exact Bool.false_ne_true
          have answer : present framework app marks (.ok receipt) = app.internalError := by
            rw [present, hidden]
            rfl
          exact .inr (.inr ⟨answer, .inr (.inl ⟨receipt, rfl, whole⟩)⟩)
  | error fault =>
      cases fault with
      | fault fault => exact .inr (.inr ⟨rfl, .inl ⟨fault, rfl⟩⟩)
      | shape issues =>
          obtain ⟨shown, eq⟩ | ⟨hidden, eq⟩ := unprocessable_overHttp framework app marks issues
          · exact .inr (.inl ⟨issues, rfl, shown, eq⟩)
          · exact .inr (.inr ⟨eq, .inr (.inr ⟨issues, rfl, hidden⟩)⟩)

end

theorem agrees_present {framework : Framework} {shownDepth : Nat}
    (conforms : framework.Conforms shownDepth) (app : Application) {marks : Nat}
    (positive : 0 < marks) (terms : Terms) {value : Json}
    (short : ∀ n, .int n ∈ value.leaves → Json.places n ≤ 4299) :
    Agrees framework app shownDepth marks value (terms.processPayload value)
      (present framework app marks (terms.processPayload value)) := by
  have refuses := @exists_shape_iff terms value
  have reports := @reports_of_shape terms value
  have shown : ∀ receipt, terms.processPayload value = .ok receipt →
      (framework.shows marks receipt.publish = true ↔ receipt.isWhole marks = true) := by
    intro receipt processed
    obtain ⟨_, -, returned⟩ := Terms.exists_request_of_processPayload processed
    exact shows_publish_iff conforms positive (Terms.statusReason_of_outcome returned)
      (within_of_processPayload short processed)
  have found : ∀ issues, terms.processPayload value = .error (.shape issues) →
      ∀ issue ∈ issues,
        (framework.shows marks issue.found = true → canShow marks issue.found = true) ∧
        (canShow marks issue.found = true → value.depth ≤ shownDepth →
          framework.shows marks issue.found = true) := by
    intro issues refused issue listed
    have wrong := ((reports refused).1 issue).mp listed
    refine ⟨conforms.canShow_of_shows marks issue.found, fun canShow shallow => ?_⟩
    have room (n : Int) (leaf : .int n ∈ value.leaves) : Json.places n ≤ maxDigits :=
      Nat.le_trans (short n leaf) (by decide)
    exact shows_found_of_canShow conforms room wrong shallow canShow
  -- What the entry does is not looked at any more, only which of the outcomes it comes to.
  generalize terms.processPayload value = direct at refuses reports shown found ⊢
  obtain ⟨receipt, rfl, whole, answer⟩ | ⟨issues, rfl, allShown, answer⟩ | ⟨answer, why⟩ :=
    present_cases shown app
  · rw [answer]
    exact {
      ok_iff := by simp [whole]
      unprocessable_iff := by simp
      internalError_iff := by simp [whole]
      result := by simp
      report := by simp
      message := by simp
      refuses_iff := refuses
      reports := fun _ => reports
      shows_iff := found }
  · rw [answer]
    exact {
      ok_iff := by simp
      unprocessable_iff := by simpa using allShown
      internalError_iff := by simpa using allShown
      result := by simp
      report := by simp
      message := by simp
      refuses_iff := refuses
      reports := fun _ => reports
      shows_iff := found }
  · rw [answer]
    exact {
      ok_iff := by
        obtain ⟨fault, rfl⟩ | ⟨receipt, rfl, hidden⟩ | ⟨issues, rfl, hidden⟩ := why <;>
          simp_all [Application.internalError]
      unprocessable_iff := by
        obtain ⟨fault, rfl⟩ | ⟨receipt, rfl, hidden⟩ | ⟨issues, rfl, hidden⟩ := why <;>
          simp_all [Application.internalError]
      internalError_iff := iff_of_true rfl why
      result := by simp [Application.internalError]
      report := by simp [Application.internalError]
      message := fun _ => rfl
      refuses_iff := refuses
      reports := fun _ => reports
      shows_iff := found }

/-- A body that is the text of a value is answered as the library entry would answer the value,
unless it counts as none or is nested too deep. -/
theorem respond_payload {framework : Framework} {shownDepth : Nat}
    (conforms : framework.Conforms shownDepth) {app : Application} (serves : framework.Serves app)
    (settings : Settings) (clock : Clock) {contentType : Option String}
    (isJson : framework.readsJson contentType = true) {body : String} {value : Json} {marks : Nat}
    (parses : Parses body value marks)
    (short : ∀ n, .int n ∈ value.leaves → Json.places n ≤ 4299) :
    (value.depth ≤ framework.maxDepth → ¬ framework.Drops value →
      Agrees framework app shownDepth marks value
        ((settings.terms clock).processPayload value)
        (respond framework app settings clock
          (app.request .instructions contentType (some body)))) ∧
    (framework.Drops value →
      respond framework app settings clock (app.request .instructions contentType (some body)) =
        ⟨422, detail (.arr [(Issue.within (.field "body") ⟨.missing, [], .null⟩).toJson])⟩) ∧
    (framework.maxDepth < value.depth →
      respond framework app settings clock (app.request .instructions contentType (some body)) =
        badRequest) := by
  rw [respond_instructions serves]
  refine ⟨fun shallow taken => ?_, fun dropped => ?_, fun deep => ?_⟩
  · rw [settle_of_parses parses isJson taken, if_pos shallow]
    exact agrees_present conforms app parses.marks_pos (settings.terms clock) short
  · have shown : framework.shows marks .null = true :=
      conforms.shows_of_canShow marks .null rfl Json.within_null
    rw [settle_of_drops parses isJson dropped]
    simp [Framework.unprocessable, shown, report]
  · have taken : ¬ framework.Drops value := by
      rintro ⟨-, rfl⟩
      exact Nat.not_lt_zero _ deep
    rw [settle_of_parses parses isJson taken, if_neg (Nat.not_le_of_lt deep)]

/-- Three faults of one account, one of another and a missing instruction are reported together,
with a balance as a fault of both kinds of numbers. -/
theorem respond_payload_of_six_issues :
    let framework := Framework.inProcess 500
    let app : Application := ⟨"/v2", false⟩
    let body := "\x7b\"accounts\": [\x7b\"id\": 1, \"balance\": \"x\"\x7d, null]\x7d"
    let value : Json :=
      .obj [("accounts", .arr [.obj [("id", .int 1), ("balance", .str "x")], .null])]
    let terms := (Settings.listing "USD").terms ⟨.universal, 0⟩
    let response := respond framework app (.listing "USD") ⟨.universal, 0⟩
      (app.request .instructions (some "application/json") (some body))
    framework.Conforms 500 ∧ framework.Serves app ∧
    framework.readsJson (some "application/json") = true ∧ Parses body value 1 ∧
    (∀ n, .int n ∈ value.leaves → Json.places n ≤ 4299) ∧
    (Payload.request .library value).issues.map (fun issue => (issue.kind, issue.path)) =
      [(.stringType, [.field "accounts", .item 0, .field "id"]),
        (.intType, [.field "accounts", .item 0, .field "balance", .field "int"]),
        (.floatType, [.field "accounts", .item 0, .field "balance", .field "float"]),
        (.missing, [.field "accounts", .item 0, .field "currency"]),
        (.modelType, [.field "accounts", .item 1]), (.missing, [.field "instruction"])] ∧
    response.status = 422 ∧
    Agrees framework app 500 1 value (terms.processPayload value) response := by
  intro framework app body value terms response
  have conforms : framework.Conforms 500 := conforms_inProcess 500 (by decide)
  have serves : framework.Serves app :=
    serves_inProcess 500 (by rintro (_ | _ | _) <;> decide +kernel)
  have isJson : framework.readsJson (some "application/json") = true := by decide +kernel
  have parses : Parses body value 1 := ⟨_, rfl, by decide +kernel, by decide +kernel⟩
  have short : ∀ n, .int n ∈ value.leaves → Json.places n ≤ 4299 := by
    intro n leaf
    have listed : .int n ∈ [Json.int 1, .str "x", .null] := leaf
    obtain rfl : n = 1 := by simpa using listed
    decide
  refine ⟨conforms, serves, isJson, parses, short, by decide +kernel, by decide +kernel, ?_⟩
  exact (respond_payload conforms serves (.listing "USD") ⟨.universal, 0⟩ isJson parses short).1
    (by decide +kernel) (by simp [Framework.Drops, value])

/-- Where the list of accounts is not a number, the library entry refuses the shape and the route
answers with an internal error. A body of `null` that counts as none is missing, while the library
entry finds it to be of the wrong type. -/
theorem respond_fails_on_refusal :
    let framework := Framework.inProcess 500
    let withoutNull : Framework := { framework with nullIsAbsent := true }
    let app := Application.ofSettings (.listing "USD")
    let terms := (Settings.listing "USD").terms ⟨.universal, 0⟩
    let message (body : String) := app.request .instructions (some "application/json") (some body)
    let notNumber := "\x7b\"accounts\": NaN, \"instruction\": \"x\"\x7d"
    let value : Json := .obj [("accounts", .float .nan), ("instruction", .str "x")]
    framework.Conforms 500 ∧ framework.Serves app ∧ Parses notNumber value 1 ∧
    (∃ issues, terms.processPayload value = .error (.shape issues)) ∧
    (respond framework app (.listing "USD") ⟨.universal, 0⟩ (message notNumber)).status = 500 ∧
    Parses "null" .null 1 ∧
    terms.processPayload .null = .error (.shape [⟨.modelType, [], .null⟩]) ∧
    respond withoutNull app (.listing "USD") ⟨.universal, 0⟩ (message "null") =
      ⟨422, detail (.arr [(Issue.within (.field "body") ⟨.missing, [], .null⟩).toJson])⟩ := by
  intro framework withoutNull app terms message notNumber value
  have serves : framework.Serves app := serves_listing 500 "USD"
  have asked : ("accounts", Payload.Part.accounts) ∈ Payload.Part.request.fields := by decide
  have there : Json.lastBinding? "accounts"
      [("accounts", .float .nan), ("instruction", .str "x")] = some (.float .nan) := by
    decide +kernel
  have wrong : Payload.Violates .library .accounts (.float .nan) _ := .list nofun
  have refused : ∃ issues, terms.processPayload value = .error (.shape issues) :=
    exists_shape_iff.mpr ⟨_, .field asked there wrong⟩
  have parses : Parses "null" .null 1 := ⟨_, rfl, by decide +kernel, by decide +kernel⟩
  refine ⟨conforms_inProcess 500 (by decide), serves,
    ⟨_, rfl, by decide +kernel, by decide +kernel⟩, refused, by decide +kernel, parses, rfl, ?_⟩
  have isJson : withoutNull.readsJson (some "application/json") = true := by decide +kernel
  have alike : withoutNull.Serves app := serves
  rw [respond_instructions alike, settle_of_drops parses isJson ⟨rfl, rfl⟩]
  rfl

end Http
end Giro
