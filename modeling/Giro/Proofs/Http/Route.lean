import Giro.Http.InProcess
import Giro.Proofs.Json.Within

/-!
What the application relies on the web framework for. A message to the path of a route with the
method of the route is handed to it, and an answer shows the values that JSON has a text for, up to
a nesting that depends on the framework. The framework in the process of a client is such a one.
-/

namespace Giro

/-- The settings where nothing but the currencies is given. -/
def Settings.listing (currencies : String) : Settings where
  appName := "Payment Instruction Processor"
  debug := false
  apiPrefix := "/api/v1"
  supportedCurrencies := currencies
  timezone := none
  logLevel := "INFO"
  logJson := false

/-- The zones of a machine that knows no zone but universal time, its own. -/
def Zones.universal : Zones :=
  ⟨fun _ => 0, fun name => .error (.unknownZone name)⟩

namespace Http

/-- A message to a route of the application. -/
def Application.request (app : Application) (route : Route) (contentType body : Option String) :
    Message :=
  ⟨route.method, app.path route, contentType, body⟩

/-- The application is reached: each route gets the messages that are sent to its path. -/
def Framework.Serves (framework : Framework) (app : Application) : Prop :=
  ∀ route, framework.dispatch app.path route.method (app.path route) = .ok route

/-- How values get into answers. A value that JSON has no text for is never shown; one that it has a
text for is shown if its whole numbers are not too long and it is nested no deeper than this, which
is deep enough for a result. -/
structure Framework.Conforms (framework : Framework) (shownDepth : Nat) : Prop where
  canShow_of_shows : ∀ marks value, framework.shows marks value = true → canShow marks value = true
  shows_of_canShow : ∀ marks (value : Json), canShow marks value = true →
    value.Within True maxDigits shownDepth → framework.shows marks value = true
  room : 3 ≤ shownDepth

section
variable {framework : Framework} {app : Application} (serves : framework.Serves app)
include serves

theorem respond_instructions (settings : Settings) (clock : Clock)
    (contentType body : Option String) :
    respond framework app settings clock (app.request .instructions contentType body) =
      framework.settle app (settings.terms clock)
        (app.request .instructions contentType body) := by
  have handed : framework.dispatch app.path
      (app.request .instructions contentType body).method
      (app.request .instructions contentType body).target = .ok .instructions :=
    serves .instructions
  rw [respond, handed]

theorem respond_currencies (settings : Settings) (clock : Clock)
    (contentType body : Option String) :
    respond framework app settings clock (app.request .currencies contentType body) =
      currencies (settings.terms clock) := by
  have handed : framework.dispatch app.path
      (app.request .currencies contentType body).method
      (app.request .currencies contentType body).target = .ok .currencies :=
    serves .currencies
  rw [respond, handed]

end

theorem conforms_inProcess (maxDepth : Nat) {shownDepth : Nat} (room : 3 ≤ shownDepth) :
    (Framework.inProcess maxDepth).Conforms shownDepth where
  canShow_of_shows _ _ shown := shown
  shows_of_canShow _ _ shown _ := shown
  room

theorem serves_inProcess (maxDepth : Nat) {app : Application}
    (apart : ∀ route, Route.ofPath? app.path (Target.path (app.path route)) = some route) :
    (Framework.inProcess maxDepth).Serves app := by
  intro route
  have method : capital route.method = route.method := by
    cases route <;> decide +kernel
  simp only [Framework.inProcess, InProcess.dispatch, apart, method, if_true]

theorem serves_listing (maxDepth : Nat) (currencies : String) :
    (Framework.inProcess maxDepth).Serves (.ofSettings (.listing currencies)) := by
  have apart : ∀ route, Route.ofPath? (Application.path ⟨"/api/v1", false⟩)
      (Target.path (Application.path ⟨"/api/v1", false⟩ route)) = some route := by
    rintro (_ | _ | _) <;> decide +kernel
  exact serves_inProcess maxDepth apart

end Http
end Giro
