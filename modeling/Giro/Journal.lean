import Giro.Json.Basic
import Giro.Settlement

/-!
What processing a request leaves in the journal: one entry, whether there is a result or not.
-/

namespace Giro

inductive LogLevel where
  | debug
  | info
  | warning
  | error
  | critical
  deriving DecidableEq, Repr

namespace LogLevel

def text : LogLevel → String
  | .debug => "debug"
  | .info => "info"
  | .warning => "warning"
  | .error => "error"
  | .critical => "critical"

def rank : LogLevel → Nat
  | .debug => 10
  | .info => 20
  | .warning => 30
  | .error => 40
  | .critical => 50

end LogLevel

structure LogRecord where
  level : LogLevel
  event : String
  fields : List (String × Json)

inductive JournalEntry where
  | processed (status : Status) (code : StatusCode) (form : Option Form)
  | failed (instruction : String)
  deriving DecidableEq

def JournalEntry.record : JournalEntry → LogRecord
  | .processed status code form =>
      { level := .debug
        event := "instruction_processed"
        fields :=
          [("status", .str status.text), ("status_code", .str code.text),
           ("type", .ofOption (fun form => .str form.text) form)] }
  | .failed instruction =>
      { level := .error
        event := "parse_instruction_error"
        fields := [("instruction", .str instruction), ("exc_info", .bool true)] }

/-- The outcome of a request and what it left in the journal. -/
structure Run where
  outcome : Except Fault Receipt
  journal : List JournalEntry

def Terms.process (terms : Terms) (request : Request) : Run :=
  match terms.outcome request with
  | .ok receipt => ⟨.ok receipt, [.processed receipt.status receipt.statusCode receipt.form]⟩
  | .error fault => ⟨.error fault, [.failed request.instruction]⟩

end Giro
