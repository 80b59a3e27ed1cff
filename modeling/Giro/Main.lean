import Giro.CommandLine
import Std.Time.DateTime.Timestamp
import Std.Time.Zoned.Database

/-!
The program: reads a payload from a file, or from standard input for `-`, and prints the result. The
zones are those that the system knows.
-/

namespace Giro.CommandLine

/-- The variables that settings are taken from, written in small or in capital letters. -/
def variableNames : List String :=
  let names := ["app_name", "debug", "api_v1_prefix", "supported_currencies", "timezone",
    "log_level", "log_json"]
  names ++ names.map String.toUpper

def readEnvironment : IO Settings.Environment := do
  let mut bindings := []
  for name in variableNames do
    if let some value ← IO.getEnv name then
      bindings := bindings ++ [(name, value)]
  return bindings

def offsetBy (rules : Std.Time.TimeZone.ZoneRules) (instant : Int) : Int :=
  (rules.timezoneAt (.ofSecondsSinceUnixEpoch ⟨instant⟩)).offset.second.val

/-- The zone of the machine and the one that the settings name. -/
def readZones (environment : Settings.Environment) : IO Zones := do
  let own ← Std.Time.Database.defaultGetLocalZoneRules
  let name := (Settings.lookup environment "timezone").getD ""
  let named ← (Std.Time.Database.defaultGetZoneRules name).toBaseIO
  return {
    own := offsetBy own
    named := fun asked =>
      match named with
      | .ok rules => if asked = name then .ok (offsetBy rules) else .error (.unknownZone asked)
      | .error _ => .error (.unknownZone asked) }

/-- The text of a file, or of standard input for `-`. -/
def readPayload (path : String) : IO String := do
  if path = "-" then
    return "\n".intercalate (← (← IO.getStdin).lines).toList
  else
    IO.FS.readFile path

def describe (issues : List Issue) : String :=
  String.ofList (Json.render 0 (.arr (issues.map Issue.toJson)))

def complaint : CommandFault → String
  | .settings issues => "invalid settings\n" ++ describe issues
  | .unreadable => "the payload is not JSON"
  | .integerTooLong digits => CommandLine.tooLongMessage digits
  | .tooDeep => "the payload is nested too deeply"
  | .shape issues => "invalid payment instruction payload\n" ++ describe issues
  | .fault fault => fault.message
  | .unprintable => "the result holds a surrogate without its partner"

end Giro.CommandLine

open Giro CommandLine

def main (args : List String) : IO UInt32 := do
  match args with
  | [path] =>
      let environment ← readEnvironment
      let instant := (← Std.Time.Timestamp.now).toSecondsSinceUnixEpoch.val
      let clock : Clock := ⟨← readZones environment, instant⟩
      let text ← readPayload path
      -- No text is nested deeper than it is long, so nothing but the machine sets a limit here.
      match CommandLine.run text.length environment clock text with
      | .ok output =>
          IO.print output
          return 0
      | .error fault =>
          IO.eprintln (complaint fault)
          return 1
  | _ =>
      IO.eprintln "usage: giro PAYLOAD"
      return 2
