import Giro.Issue
import Giro.Settlement

/-!
Settings from environment variables. Names of variables may be written in any case and the last of
several with one name counts; texts are taken as they are.
-/

namespace Giro

structure Settings where
  appName : String
  debug : Bool
  apiPrefix : String
  supportedCurrencies : String
  timezone : Option String
  logLevel : String
  logJson : Bool
  deriving DecidableEq

namespace Settings

abbrev Environment := List (String × String)

/-- The last variable with this name, which is given in small letters. -/
def lookup (environment : Environment) (name : String) : Option String :=
  (environment.reverse.find? fun binding => small binding.1 = name).map (·.2)

def trueWords : List String := ["1", "t", "true", "y", "yes", "on"]

def falseWords : List String := ["0", "f", "false", "n", "no", "off"]

/-- A truth value by one of its words, with the letters of English in any case. -/
def truth? (text : String) : Option Bool :=
  let word := text.map Char.toLower
  if trueWords.contains word then some true
  else if falseWords.contains word then some false
  else none

def truth (environment : Environment) (name : String) (default : Bool) : Checked Bool :=
  match lookup environment name with
  | none => .ok default
  | some text =>
      match truth? text with
      | some value => .ok value
      | none => .error [⟨.boolParsing, [.field name], .str text⟩]

def ofEnvironment (environment : Environment) : Checked Settings :=
  let text (name default : String) := (lookup environment name).getD default
  match truth environment "debug" false, truth environment "log_json" false with
  | .ok debug, .ok logJson =>
      .ok
        { appName := text "app_name" "Payment Instruction Processor"
          debug
          apiPrefix := text "api_v1_prefix" "/api/v1"
          supportedCurrencies := text "supported_currencies" "NGN,USD,GBP,GHS"
          timezone := lookup environment "timezone"
          logLevel := text "log_level" "INFO"
          logJson }
  | debug, logJson => .error (Checked.issues debug ++ Checked.issues logJson)

def currencies (settings : Settings) : List String :=
  Currency.listed settings.supportedCurrencies

def terms (settings : Settings) (clock : Clock) : Terms :=
  .of settings.currencies (clock.today settings.timezone)

end Settings
end Giro
