import Giro.CommandLine
import Giro.Proofs.Http.Body
import Giro.Proofs.Publication.Decoding
import Giro.Proofs.Publication.Legible
import Giro.Proofs.Publication.Whole

/-!
What the command prints for a result. It is a JSON text of the result, and the value that it is read
as is the one that the service answers with. Nothing is printed for a result that shows a surrogate
without its partner, and such a result only comes from a payload that has one.
-/

namespace Giro

theorem Payload.exists_obj_of_request {source : Source} {value : Json} {request : Request}
    (h : Payload.request source value = .ok request) : ∃ members, value = .obj members := by
  cases value with
  | obj members => exact ⟨members, rfl⟩
  | null | bool | int | float | str | arr => simp [Payload.request] at h

namespace CommandLine

/-- The text is that of this value, however deep that is, and each surrogate without its partner was
read with so many marks. -/
structure Parses (text : String) (value : Json) (marks : Nat) : Prop where
  marks_eq : marks = Text.marksOver text.toList
  read : Json.read ⟨some maxDigits, none, marks⟩ text = .ok value

/-- A text in pieces, so that a computation of what it is read as takes them one at a time. -/
theorem parses_join {pieces : List String} {value : Json} {marks : Nat}
    (count : marks = Text.marksOver (pieces.flatMap String.toList))
    (taken : Json.Reader.value ⟨some maxDigits, none, marks⟩
      (2 * (pieces.flatMap String.toList).length + 2) 0
      (Json.Reader.skip (pieces.flatMap String.toList)) = .ok (value, [])) :
    Parses (String.join pieces) value marks where
  marks_eq := by rw [count, String.toList_join]
  read := Json.read_of_value String.toList_join taken Json.Reader.skip_nil

/-- The output is a text of the result. -/
structure Decodes (output : String) (receipt : Receipt) : Prop where
  isText : Json.IsText output receipt.publish
  /-- It is read under any rules that let the numbers of a result pass. -/
  read : ∀ rules : Json.ReadRules, (∀ limit, rules.digits = some limit → maxDigits ≤ limit) →
    (∀ limit, rules.depth = some limit → 3 ≤ limit) →
    Json.read rules output = .ok receipt.publish
  fields : Receipt.ofJson? receipt.publish = some receipt.published

theorem decodes_print {receipt : Receipt} (within : receipt.Within False maxDigits) :
    Decodes (print receipt) receipt := by
  have published := within.publish
  have isText := Json.isText_pretty (published.exact not_false)
  refine ⟨isText, fun rules digits depth => ?_, receipt.ofJson?_publish⟩
  refine Json.read_of_isText isText (fun n limit member limited => ?_) fun limit limited => ?_
  · exact Nat.le_trans (published.short n member) (digits limit limited)
  · exact Nat.le_trans published.shallow (depth limit limited)

section
variable {environment : Settings.Environment} {settings : Settings} {clock : Clock}
  {text : String} {value : Json} {marks : Nat} {request : Request} {receipt : Receipt}

theorem run_of_parses (maxDepth : Nat) (valid : Settings.ofEnvironment environment = .ok settings)
    (parses : Parses text value marks)
    (processed : (settings.terms clock).processPayload value = .ok receipt) :
    run maxDepth environment clock text =
      if value.depth ≤ maxDepth then
        if receipt.isWhole marks then .ok (print receipt) else .error .unprintable
      else .error .tooDeep := by
  obtain ⟨rfl, read⟩ := parses
  have limited := Json.read_limited rfl maxDepth read
  rw [Json.ReadRules.limited] at limited
  simp only [run, valid, limited]
  by_cases shallow : value.depth ≤ maxDepth
  · simp only [shallow, if_true, processed]
  · simp only [shallow, if_false]

theorem Parses.body (parses : Parses text value marks)
    (shaped : Payload.request .library value = .ok request) : Http.Parses text value marks := by
  obtain ⟨members, rfl⟩ := Payload.exists_obj_of_request shaped
  obtain ⟨rfl, read⟩ := parses
  exact Http.parses_of_read read

/-- A message with this body reaches the route for instructions, where it is read as this value and
where the answer can be shown. -/
structure Arrives (framework : Http.Framework) (app : Http.Application)
    (contentType : Option String) (body : String) (value : Json) (marks : Nat) : Prop where
  conforms : ∃ shownDepth, framework.Conforms shownDepth
  serves : framework.Serves app
  isJson : framework.readsJson contentType = true
  parses : Http.Parses body value marks
  shallow : value.depth ≤ framework.maxDepth

/-- The answer to a payload that has a result. -/
theorem Arrives.respond_eq {framework : Http.Framework} {app : Http.Application}
    {contentType : Option String} {body : String}
    (arrives : Arrives framework app contentType body value marks)
    (shaped : Payload.request .library value = .ok request)
    (processed : (settings.terms clock).processPayload value = .ok receipt)
    (within : receipt.Within False maxDigits) :
    Http.respond framework app settings clock
        (app.request .instructions contentType (some body)) =
      if receipt.isWhole marks then ⟨200, .json receipt.publish⟩ else app.internalError := by
  obtain ⟨⟨shownDepth, conforms⟩, serves, isJson, parses, shallow⟩ := arrives
  have taken : ¬ framework.Drops value := by
    rintro ⟨-, rfl⟩
    simp [Payload.request] at shaped
  have returned := (Terms.processPayload_eq_ok_iff shaped).mp processed
  have shows_iff := Http.shows_publish_iff conforms parses.marks_pos
    (Terms.statusReason_of_outcome returned) within
  rw [Http.respond_instructions serves, Http.settle_of_parses parses isJson taken, if_pos shallow,
    processed, Http.present]
  simp only [shows_iff]

/-- What the command does with a text whose payload has this request and this result, and what the
service answers to the same payload. -/
structure Prints (maxDepth : Nat) (environment : Settings.Environment) (settings : Settings)
    (clock : Clock) (text : String) (value : Json) (marks : Nat) (request : Request)
    (receipt : Receipt) : Prop where
  printed : value.depth ≤ maxDepth → receipt.isWhole marks = true →
    ∃ output, run maxDepth environment clock text = .ok output
  unprintable : value.depth ≤ maxDepth → receipt.isWhole marks = false →
    run maxDepth environment clock text = .error .unprintable
  tooDeep : maxDepth < value.depth → run maxDepth environment clock text = .error .tooDeep
  whole : request.isWhole marks = true → receipt.isWhole marks = true
  decodes : ∀ output, run maxDepth environment clock text = .ok output → Decodes output receipt
  /-- The text is the body of a message with the same payload. -/
  body : Http.Parses text value marks
  /-- Whatever text the payload is sent as, the result is the answer just when it is whole. -/
  answered : ∀ framework app contentType body other,
    Arrives framework app contentType body value other → receipt.isWhole other = true →
    Http.respond framework app settings clock
        (app.request .instructions contentType (some body)) = ⟨200, .json receipt.publish⟩
  answers : ∀ framework app contentType body other content,
    Arrives framework app contentType body value other →
    Http.respond framework app settings clock
        (app.request .instructions contentType (some body)) = ⟨200, content⟩ →
    content = .json receipt.publish

/-- Wherever the command prints something for a result, this decodes to the result and to the value
that the service answers with. It prints every result without a surrogate that has no partner. -/
theorem prints_of_processed (maxDepth : Nat)
    (valid : Settings.ofEnvironment environment = .ok settings)
    (parses : Parses text value marks) (shaped : Payload.request .library value = .ok request)
    (legible : ∀ account ∈ request.accounts, account.balance.Legible 4299)
    (processed : (settings.terms clock).processPayload value = .ok receipt) :
    Prints maxDepth environment settings clock text value marks request receipt := by
  have outcome := (Terms.processPayload_eq_ok_iff shaped).mp processed
  have ran := run_of_parses maxDepth valid parses processed
  have within : receipt.Within False maxDigits :=
    Terms.within_of_outcome (by decide) (by decide) (by decide)
      (fun account member => (legible account member).within) outcome
  refine ⟨?printed, ?unprintable, ?tooDeep, Terms.isWhole_of_outcome outcome, ?decodes,
    parses.body shaped, ?answered, ?answers⟩
  case printed =>
    intro shallow whole
    exact ⟨_, by rw [ran, if_pos shallow, if_pos whole]⟩
  case unprintable =>
    intro shallow broken
    rw [ran, if_pos shallow, broken]
    rfl
  case tooDeep =>
    intro deep
    rw [ran, if_neg (Nat.not_le_of_lt deep)]
  case decodes =>
    intro output eq
    rw [ran] at eq
    split at eq
    · split at eq
      · obtain rfl := Except.ok.inj eq
        exact decodes_print within
      · simp at eq
    · simp at eq
  case answered =>
    intro framework app contentType body other arrives whole
    rw [arrives.respond_eq shaped processed within, if_pos whole]
  case answers =>
    intro framework app contentType body other content arrives eq
    rw [arrives.respond_eq shaped processed within] at eq
    split at eq
    · exact (Http.Response.mk.inj eq).2.symm
    · simp [Http.Application.internalError] at eq

end

/-- A quote, a backslash, controls and a character beyond the first plane come back as they were,
and an infinity comes back as no finite number. -/
theorem prints_of_processed_of_special_characters :
    let written := "q\\\"\\\\\\u0001\\n\\u007f\\ud83d\\ude00"
    let id := "q\"\\\x01\n\x7f😀"
    let text := String.join
      ["\x7b\"accounts\": [\x7b\"id\": \"", written, "\", \"balance\": Infinity, ",
        "\"currency\": \"usd\"\x7d, \x7b\"id\": \"b\", \"balance\": -7, ",
        "\"currency\": \"USD\"\x7d], \"instruction\": \"debit 10 usd from account ", written,
        " for credit to account b\"\x7d"]
    let instruction := "debit 10 usd from account " ++ id ++ " for credit to account b"
    let value : Json := .obj
      [("accounts", .arr
        [.obj [("id", .str id), ("balance", .float (.infinite false)), ("currency", .str "usd")],
          .obj [("id", .str "b"), ("balance", .int (-7)), ("currency", .str "USD")]]),
        ("instruction", .str instruction)]
    let request : Request :=
      ⟨[⟨id, .float (.infinite false), "usd"⟩, ⟨"b", .whole (-7), "USD"⟩], instruction⟩
    let receipt : Receipt :=
      ⟨some .debit, some 10, some "USD", some id, some "b", none, .successful,
        StatusCode.executed.reason, .executed,
        [⟨id, .float (.infinite false), .float (.infinite false), "USD"⟩,
          ⟨"b", .whole 3, .whole (-7), "USD"⟩]⟩
    Settings.ofEnvironment [] = .ok (.listing "NGN,USD,GBP,GHS") ∧
    Parses text value 1 ∧ Payload.request .library value = .ok request ∧
    (∀ account ∈ request.accounts, account.balance.Legible 4299) ∧
    ((Settings.listing "NGN,USD,GBP,GHS").terms ⟨.universal, 0⟩).processPayload value = .ok receipt ∧
    Prints 500 [] (.listing "NGN,USD,GBP,GHS") ⟨.universal, 0⟩ text value 1 request receipt ∧
    ∃ output, run 500 [] ⟨.universal, 0⟩ text = .ok output ∧ Decodes output receipt := by
  intro written id text instruction value request receipt
  have valid : Settings.ofEnvironment [] = .ok (.listing "NGN,USD,GBP,GHS") := rfl
  have parses : Parses text value 1 :=
    parses_join (by decide +kernel) (by decide +kernel)
  have shaped : Payload.request .library value = .ok request := rfl
  have legible : ∀ account ∈ request.accounts, account.balance.Legible 4299 := by
    have short : Json.places (-7) ≤ 4299 := by decide
    simpa [request, Balance.Legible, Binary64.units?] using short
  have processed : ((Settings.listing "NGN,USD,GBP,GHS").terms ⟨.universal, 0⟩).processPayload value =
      .ok receipt := by
    rw [Terms.processPayload_eq_ok_iff shaped]
    decide +kernel
  have prints := prints_of_processed 500 valid parses shaped legible processed
  obtain ⟨output, printed⟩ := prints.printed (by decide +kernel) (by decide +kernel)
  exact ⟨valid, parses, shaped, legible, processed, prints, output, printed,
    prints.decodes output printed⟩

/-- The id of an account is a surrogate without its partner. The payment is made, and yet nothing is
printed. -/
theorem run_unprintable_of_lone_surrogate :
    let text := String.join
      ["\x7b\"accounts\": [\x7b\"id\": \"\\ud800\", \"balance\": 5, \"currency\": \"USD\"\x7d, ",
        "\x7b\"id\": \"b\", \"balance\": 0, \"currency\": \"USD\"\x7d], \"instruction\": ",
        "\"debit 1 USD from account \\ud800 for credit to account b\"\x7d"]
    let id := "\ue000\u5800"
    let instruction := "debit 1 USD from account " ++ id ++ " for credit to account b"
    let value : Json := .obj
      [("accounts", .arr
        [.obj [("id", .str id), ("balance", .int 5), ("currency", .str "USD")],
          .obj [("id", .str "b"), ("balance", .int 0), ("currency", .str "USD")]]),
        ("instruction", .str instruction)]
    let request : Request := ⟨[⟨id, .whole 5, "USD"⟩, ⟨"b", .whole 0, "USD"⟩], instruction⟩
    Settings.ofEnvironment [] = .ok (.listing "NGN,USD,GBP,GHS") ∧
    Parses text value 1 ∧ Payload.request .library value = .ok request ∧
    (∀ account ∈ request.accounts, account.balance.Legible 4299) ∧
    (∃ receipt,
      ((Settings.listing "NGN,USD,GBP,GHS").terms ⟨.universal, 0⟩).processPayload value = .ok receipt ∧
      receipt.status = .successful) ∧
    run 500 [] ⟨.universal, 0⟩ text = .error .unprintable := by
  intro text id instruction value request
  have valid : Settings.ofEnvironment [] = .ok (.listing "NGN,USD,GBP,GHS") := rfl
  have parses : Parses text value 1 :=
    parses_join (by decide +kernel) (by decide +kernel)
  have shaped : Payload.request .library value = .ok request := rfl
  have legible : ∀ account ∈ request.accounts, account.balance.Legible 4299 := by
    have short : Json.places 5 ≤ 4299 ∧ Json.places 0 ≤ 4299 := by decide
    simpa [request, Balance.Legible] using short
  have processed : ((Settings.listing "NGN,USD,GBP,GHS").terms ⟨.universal, 0⟩).processPayload value =
      .ok ⟨some .debit, some 1, some "USD", some id, some "b", none, .successful,
        StatusCode.executed.reason, .executed,
        [⟨id, .whole 4, .whole 5, "USD"⟩, ⟨"b", .whole 1, .whole 0, "USD"⟩]⟩ := by
    rw [Terms.processPayload_eq_ok_iff shaped]
    decide +kernel
  refine ⟨valid, parses, shaped, legible, ⟨_, processed, rfl⟩, ?_⟩
  rw [run_of_parses 500 valid parses processed, if_pos (by decide +kernel),
    if_neg (by decide +kernel)]

end CommandLine
end Giro
