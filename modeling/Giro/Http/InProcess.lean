import Giro.Http
import Giro.Http.Report
import Giro.Http.Target

/-!
A framework to run the application with, in the process of its client. The path that a target names
is compared with the paths of the routes; another method is refused, a path with slashes after it is
redirected and any other path is not found. An answer to `HEAD` has no content.
-/

namespace Giro.Http

namespace Route

/-- Whether a path is this one; one line end may follow it. -/
def isAt (path : Path) (text : String) : Bool :=
  let bytes := text.toList.flatMap String.utf8EncodeChar
  path = bytes || path = bytes ++ ['\n'.toUInt8]

def ofPath? (paths : Route → String) (path : Path) : Option Route :=
  [Route.health, .instructions, .currencies].find? fun route => isAt path (paths route)

end Route

namespace InProcess

/-- The path without the slashes after it. -/
def withoutSlashes (path : Path) : Path :=
  (path.reverse.dropWhile (· = '/'.toUInt8)).reverse

def refusal (method : String) (status : Nat) (content : Content) : Response :=
  ⟨status, if method = "HEAD" then .empty else content⟩

/-- Methods may be written in any case. -/
def dispatch (paths : Route → String) (method target : String) : Except Response Route :=
  let path := Target.path target
  match Route.ofPath? paths path with
  | none =>
      if (Route.ofPath? paths (withoutSlashes path)).isSome then
        .error (refusal (capital method) 307 .empty)
      else .error (refusal (capital method) 404 (detail (.str "Not Found")))
  | some found =>
      if capital method = found.method then .ok found
      else .error (refusal (capital method) 405 (detail (.str "Method Not Allowed")))

/-- Whether the type is that of JSON or of a format written in it; parameters do not count. -/
def isJson (contentType : String) : Bool :=
  match Text.splitAt '/' (Text.lower (Text.trim (contentType.toList.takeWhile (· ≠ ';')))) with
  | [main, sub] =>
      main = "application".toList && (sub = "json".toList || "+json".toList.isSuffixOf sub)
  | _ => false

end InProcess

/-- A body without a content type is read as JSON. -/
def Framework.inProcess (maxDepth : Nat) : Framework where
  dispatch := InProcess.dispatch
  readsJson contentType := contentType.all InProcess.isJson
  maxDepth
  nullIsAbsent := false
  shows := canShow

end Giro.Http
