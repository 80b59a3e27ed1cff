import Giro.Json.Printer
import Giro.Json.Reader
import Giro.Payload
import Giro.Publication
import Giro.Settings

/-!
The command: a payload as JSON text in, the result as JSON text out. The settings are looked at
before the text is read. How deep a nesting the reader can follow is up to the machine.
-/

namespace Giro

inductive CommandFault where
  | settings (issues : List Issue)
  | unreadable
  | integerTooLong (digits : Nat)
  | tooDeep
  | shape (issues : List Issue)
  | fault (fault : Fault)
  | unprintable

namespace CommandLine

def maxDigits : Nat := 4300

def tooLongMessage (digits : Nat) : String :=
  "Exceeds the limit (" ++ toString maxDigits ++
    " digits) for integer string conversion: value has " ++ toString digits ++
    " digits; use sys.set_int_max_str_digits() to increase the limit"

def print (receipt : Receipt) : String :=
  receipt.publish.pretty ++ "\n"

/-- What is printed for a text in which at most so many arrays and objects may be open at one
place. -/
def run (maxDepth : Nat) (environment : Settings.Environment) (clock : Clock) (text : String) :
    Except CommandFault String :=
  match Settings.ofEnvironment environment with
  | .error issues => .error (.settings issues)
  | .ok settings =>
      let marks := Text.marksOver text.toList
      match Json.read ⟨some maxDigits, some maxDepth, marks⟩ text with
      | .error .malformed => .error .unreadable
      | .error (.integerTooLong digits) => .error (.integerTooLong digits)
      | .error .tooDeep => .error .tooDeep
      | .ok value =>
          match (settings.terms clock).processPayload value with
          | .error (.shape issues) => .error (.shape issues)
          | .error (.fault fault) => .error (.fault fault)
          | .ok receipt =>
              if receipt.isWhole marks then .ok (print receipt) else .error .unprintable

end CommandLine
end Giro
