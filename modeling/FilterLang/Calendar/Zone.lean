import FilterLang.Calendar.DateTime

/-!
The local zone. A date-time literal without an offset may be taken for wall time and turned to
universal time, or the other way round.
-/

namespace FilterLang

inductive DateTimeKind
  /-- The literal is wall time and is compared in universal time. -/
  | utc
  /-- The literal is universal time and is compared as wall time. -/
  | wall
  /-- The literal is compared as written. -/
  | unspecified
deriving DecidableEq, Repr

/-- The rule of a zone: how many seconds its wall time is ahead of universal time. -/
class Zone where
  /-- At a universal time. -/
  aheadAt : DateTime → Int
  /-- At a wall time, in the reading of it that comes first. A wall time that is skipped has none. -/
  ahead? : DateTime → Option Int

variable [Zone]

/-- A wall time that does not exist, or not within the calendar, is left as it is. -/
def DateTime.toUniversal (t : DateTime) : DateTime :=
  ((Zone.ahead? t).bind fun seconds => t.later? (-seconds)).getD t

/-- A wall time outside the calendar is none. -/
def DateTime.toWall? (t : DateTime) : Option DateTime := t.later? (Zone.aheadAt t)

def DateTime.normalise? (t : DateTime) : Option DateTimeKind → Option DateTime
  | some .utc => some t.toUniversal
  | some .wall => t.toWall?
  | some .unspecified => some t
  | none => some t

end FilterLang
