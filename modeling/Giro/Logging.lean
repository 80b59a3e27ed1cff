import Giro.Journal
import Giro.Text.Blank

/-!
Which log events are written. The application has a level of its own, given by a name, and every
other logger shares the level of the root. A logger belongs to the application when its name is
the application's or continues it after a point.
-/

namespace Giro

/-- Levels by number: zero lets the root decide. -/
structure LogSetup where
  application : String
  applicationLevel : Nat
  rootLevel : Nat
  accessLevel : Nat
  deriving DecidableEq, Repr

namespace LogSetup

/-- The level a name stands for, in capital letters. -/
def levelNamed? : String → Option Nat
  | "NOTSET" => some 0
  | "DEBUG" => some 10
  | "INFO" => some 20
  | "WARNING" | "WARN" => some 30
  | "ERROR" => some 40
  | "CRITICAL" | "FATAL" => some 50
  | _ => none

/-- A setup with the level named, in any case and with blanks around it; an unknown name stands
for information. -/
def of (application level : String) : LogSetup where
  application := application
  applicationLevel :=
    (levelNamed? (.ofList (Text.upper (Text.trim level.toList)))).getD LogLevel.info.rank
  rootLevel := LogLevel.warning.rank
  accessLevel := LogLevel.warning.rank

def owns (setup : LogSetup) (logger : String) : Bool :=
  logger = setup.application || (setup.application.toList ++ ['.']).isPrefixOf logger.toList

def threshold (setup : LogSetup) (logger : String) : Nat :=
  if setup.owns logger && setup.applicationLevel ≠ 0 then setup.applicationLevel
  else setup.rootLevel

def writes (setup : LogSetup) (logger : String) (level : LogLevel) : Bool :=
  setup.threshold logger ≤ level.rank

end LogSetup

end Giro
