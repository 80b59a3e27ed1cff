import Giro.Json.Reader
import Giro.Payload
import Giro.Publication
import Giro.Settings
import Giro.Text.Encoding

/-!
The service over HTTP: an application, which is set up once, answers messages by the settings of the
moment. Between the messages and the program stands a web framework, which is not part of it: what
the framework does with a message before the program sees it, and which values it can write out, is
a parameter here. The text of a body is read first and then the shape of the payload is looked at;
the first of these to fail decides the answer. Whatever else goes wrong is an internal error.
-/

namespace Giro.Http

structure Message where
  method : String
  target : String
  contentType : Option String
  /-- The bytes of the body, as a text in UTF-8. -/
  body : Option String

/-- What an answer holds. -/
inductive Content where
  | empty
  | json (value : Json)
  /-- A page for developers that tells where a fault arose. -/
  | trace

structure Response where
  status : Nat
  content : Content

def detail (content : Json) : Content :=
  .json (.obj [("detail", content)])

inductive Route where
  | health
  | instructions
  | currencies
  deriving DecidableEq

def Route.method : Route → String
  | .health | .currencies => "GET"
  | .instructions => "POST"

/-- What is fixed when the application is set up. -/
structure Application where
  /-- What the paths begin with that belong to instructions. -/
  apiPrefix : String
  debug : Bool

namespace Application

def ofSettings (settings : Settings) : Application :=
  ⟨settings.apiPrefix, settings.debug⟩

def path (app : Application) : Route → String
  | .health => "/health"
  | .instructions => app.apiPrefix ++ "/payment-instructions"
  | .currencies => app.apiPrefix ++ "/payment-instructions/currencies"

/-- The answer to whatever goes wrong unexpectedly. -/
def internalError (app : Application) : Response :=
  ⟨500, if app.debug then .trace else detail (.str "Internal server error")⟩

end Application

/-- Faults that an application raises on purpose. -/
inductive ApplicationFault where
  | refused (message : String) (status : Nat)
  | invalid (message : String)
  | unexpected

/-- The status of a refusal that names none. -/
def ApplicationFault.defaultStatus : Nat := 400

def ApplicationFault.response (app : Application) : ApplicationFault → Response
  | .refused message status => ⟨status, detail (.str message)⟩
  | .invalid message => ⟨422, detail (.str message)⟩
  | .unexpected => app.internalError

/-- What is left to the web framework and to the machine that it runs on. Nothing is said here of
how it goes about it. -/
structure Framework where
  /-- The route that a message with this method and this target is handed to, by the paths of the
  routes, or the answer that the framework has for it. -/
  dispatch : (Route → String) → (method target : String) → Except Response Route
  /-- Whether a body of this content type is read as JSON. -/
  readsJson : Option String → Bool
  /-- The most arrays and objects that may be open at one place of a body. -/
  maxDepth : Nat
  /-- Whether a body of `null` counts as no body. -/
  nullIsAbsent : Bool
  /-- Whether an answer can show the value, which was read with so many marks for each surrogate
  without its partner. -/
  shows : Nat → Json → Bool

def maxDigits : Nat := 4300

def badRequest : Response :=
  ⟨400, detail (.str "There was an error parsing the body")⟩

/-- Faults of a body, at their places in the message. -/
def report (issues : List Issue) : Response :=
  ⟨422, detail (.arr (issues.map fun issue => (issue.within (.field "body")).toJson))⟩

structure Received where
  /-- Absent where the body is empty. -/
  value : Option Json
  /-- How many marks tell a surrogate without its partner. -/
  marks : Nat

inductive BodyFault where
  | malformed (marks : Nat)
  | unreadable

namespace Framework

/-- A report shows what was found at each fault, so there is none where this cannot be shown. -/
def unprocessable (framework : Framework) (app : Application) (marks : Nat)
    (issues : List Issue) : Response :=
  if issues.all fun issue => framework.shows marks issue.found then report issues
  else app.internalError

def readJson (framework : Framework) (body : String) : Except BodyFault Received :=
  match Text.codes? body with
  | none => .error .unreadable
  | some codes =>
      let marks := Text.marksOver (codes.map Char.ofNat)
      let text := String.ofList (codes.flatMap (Text.ofCode marks))
      match Json.read ⟨some maxDigits, some framework.maxDepth, marks⟩ text with
      | .ok value => .ok ⟨some value, marks⟩
      | .error .malformed => .error (.malformed marks)
      | .error (.integerTooLong _) | .error .tooDeep => .error .unreadable

/-- A body that is not JSON is taken as the text that it is. -/
def read (framework : Framework) (contentType : Option String) :
    Option String → Except BodyFault Received
  | none | some "" => .ok ⟨none, Text.marksOver []⟩
  | some body =>
      if framework.readsJson contentType then framework.readJson body
      else .ok ⟨some (.str body), Text.marksOver body.toList⟩

def payload (framework : Framework) : Option Json → Checked Request
  | none => .error [⟨.missing, [], .null⟩]
  | some .null =>
      if framework.nullIsAbsent then .error [⟨.missing, [], .null⟩]
      else Payload.request .http .null
  | some value => Payload.request .http value

/-- The answer of the route for instructions. -/
def settle (framework : Framework) (app : Application) (terms : Terms) (message : Message) :
    Response :=
  match framework.read message.contentType message.body with
  | .error .unreadable => badRequest
  | .error (.malformed marks) =>
      framework.unprocessable app marks [⟨.jsonInvalid, [], .obj []⟩]
  | .ok received =>
      match framework.payload received.value with
      | .error issues => framework.unprocessable app received.marks issues
      | .ok request =>
          match (terms.process request).outcome with
          | .ok receipt =>
              if framework.shows received.marks receipt.publish then
                ⟨200, .json receipt.publish⟩
              else app.internalError
          | .error _ => app.internalError

end Framework

def currencies (terms : Terms) : Response :=
  ⟨200, .json (.obj [("currencies", .arr ((Currency.sorted terms.currencies).map .str))])⟩

/-- The answer of the application to a message, by these settings and with this clock. -/
def respond (framework : Framework) (app : Application) (settings : Settings) (clock : Clock)
    (message : Message) : Response :=
  match framework.dispatch app.path message.method message.target with
  | .error response => response
  | .ok .health => ⟨200, .json (.obj [("status", .str "ok")])⟩
  | .ok .instructions => framework.settle app (settings.terms clock) message
  | .ok .currencies => currencies (settings.terms clock)

end Giro.Http
