import Giro.Calendar.Day

/-!
What day it is. A clock is an instant on a machine, and the machine knows the zones. A zone is asked
for by its name; without a name, or with an empty one, the zone of the machine itself counts. What a
zone shows may change from one instant to another, and no zone is laid down here.
-/

namespace Giro

inductive ClockFault where
  | unknownZone (name : String)
  /-- Any fault of another clock, by its text. -/
  | other (message : String)
  deriving DecidableEq, Repr

/-- The zones of a machine. Each gives the seconds east of universal time that it shows at an
instant, which is in seconds since the beginning of 1970. -/
structure Zones where
  /-- The zone of the machine itself. -/
  own : Int → Int
  named : String → Except ClockFault (Int → Int)

/-- The calendar day at an instant at this offset. -/
def localDay (offset instant : Int) : Day :=
  .ofNumber ((instant + offset) / 86400)

structure Clock where
  zones : Zones
  instant : Int

namespace Clock

/-- The offset that a zone shows; a name that is no zone's is a fault of the reading. -/
def offset (clock : Clock) : Option String → Except ClockFault Int
  | none => .ok (clock.zones.own clock.instant)
  | some name =>
      if name.isEmpty then .ok (clock.zones.own clock.instant)
      else (clock.zones.named name).map (· clock.instant)

def today (clock : Clock) (zone : Option String) : Except ClockFault Day :=
  (clock.offset zone).map fun offset => localDay offset clock.instant

end Clock
end Giro
