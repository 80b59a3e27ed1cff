import Giro.Journal
import Giro.Text.Lines

/-!
How log events are written: each as one line of JSON, or as text on the console, where an event
takes as many lines as its text has line breaks. Some names of fields have a use of their own.
-/

namespace Giro

/-- The name a logger is shown by: the root has none of its own. -/
def loggerName (logger : String) : String :=
  if logger.isEmpty then "root" else logger

namespace LogRecord

/-- The record of an error that is being handled, whose fields ask for the exception unless they
say otherwise. -/
def ofException (event : String) (fields : List (String × Json)) : LogRecord where
  level := .error
  event := event
  fields :=
    if (fields.lookup "exc_info").isSome then fields else fields ++ [("exc_info", .bool true)]

/-- The names of the record's own parts. -/
def ownNames : List String := ["event", "level", "logger", "timestamp"]

/-- The names under which the writers pass a record on. -/
def carrierNames : List String := ["_from_structlog", "_record"]

/-- The names that ask for the exception being handled or for the calls in progress, of which a
writer finds none. -/
def requestNames : List String := ["exc_info", "stack_info"]

/-- The fields that are written: those with none of the names that have a use of their own. -/
def writtenFields (record : LogRecord) : List (String × Json) :=
  record.fields.filter fun field => !(ownNames ++ carrierNames ++ requestNames).contains field.1

def line (record : LogRecord) (logger : String) : Json :=
  .obj
    ([("event", .str record.event), ("level", .str record.level.text),
      ("logger", .str (loggerName logger))] ++ record.writtenFields)

/-- A text with one of these characters is quoted on the console. -/
def consoleMarks : List Char := [' ', '\t', '=', '\r', '\n', '"', '\'']

/-- What the console shows of a value as it is: a text without marks. Line breaks in any other
value are written by their codes. -/
def shownPlainly : Json → List Char
  | .str text => if text.toList.any consoleMarks.contains then [] else text.toList
  | _ => []

/-- A name in brackets; one that is not a text has no line break. -/
def bracketed : Json → List Char
  | .str name => '[' :: (name.toList ++ [']'])
  | _ => []

/-- A field on the console; a further name of the logger stands in brackets. -/
def consoleField : String × Json → List Char
  | ("logger_name", value) => bracketed value
  | (name, value) => name.toList ++ '=' :: shownPlainly value

/-- The texts that the console shows below an event. -/
def belowNames : List String := ["stack", "exception"]

def textOf? (record : LogRecord) (name : String) : Option (List Char) :=
  match Json.lastBinding? name record.fields with
  | some (.str text) => some text.toList
  | _ => none

/-- Whether a field asks for something: a value that is neither absent nor zero nor empty. -/
def asks (record : LogRecord) (name : String) : Bool :=
  match (Json.lastBinding? name record.fields).getD .null with
  | .null | .bool false | .int 0 | .str "" | .arr [] | .obj [] => false
  | .float (.finite _ magnitude) => magnitude.units ≠ 0
  | _ => true

/-- The stack and the exception, each on lines of its own, with a rule between them; the rule stands
also where an exception is only asked for. -/
def below (record : LogRecord) : List Char :=
  let exception := record.textOf? "exception"
  let rule :=
    if exception.isSome || record.asks "exc_info" then
      ['\n', '\n'] ++ List.replicate 79 '=' ++ ['\n']
    else []
  (match record.textOf? "stack" with
    | some stack => '\n' :: (stack ++ rule)
    | none => []) ++
  (match exception with
    | some exception => '\n' :: exception
    | none => [])

/-- What the console shows of a log event, as far as it can hold line breaks. -/
def consoleText (record : LogRecord) (logger : String) : List Char :=
  let fields := record.writtenFields.filter fun field => !belowNames.contains field.1
  let shown := record.event.toList :: bracketed (.str (loggerName logger)) ::
    fields.map consoleField
  List.intercalate [' '] shown ++ record.below ++ ['\n']

def consoleLines (record : LogRecord) (logger : String) : Nat :=
  Text.lineBreaks (record.consoleText logger)

end LogRecord

end Giro
