import AdminConsole.Time.Calendar

/-!
# Instants

A moment in universal time: whole seconds from 1970-01-01 and nanoseconds. During a leap second
the nanoseconds run on from one thousand million to two. `plusSeconds?` and `plusMillis?` fail
outside the calendar.
-/

namespace AdminConsole

/-- A moment in universal time. -/
structure Instant where
  seconds : Int
  nanos : Nat
  deriving DecidableEq, Repr

namespace Instant

/-- The earlier instant is the one with fewer seconds, or with fewer nanoseconds in the same
second. -/
def le (a b : Instant) : Bool :=
  a.seconds < b.seconds || (a.seconds == b.seconds && a.nanos ≤ b.nanos)

instance : LE Instant := ⟨fun a b => le a b = true⟩

instance (a b : Instant) : Decidable (a ≤ b) := inferInstanceAs (Decidable (_ = true))

/-- The number of seconds of a day. -/
def secondsPerDay : Int := 86400

/-- The first second of the calendar. -/
def firstSecond : Int := (Date.toDays ⟨Date.firstYear, 1, 1⟩) * secondsPerDay

/-- The last second of the calendar. -/
def lastSecond : Int := (Date.toDays ⟨Date.lastYear, 12, 31⟩) * secondsPerDay + 86399

/-- The instant stands within the calendar. -/
def InCalendar (t : Instant) : Prop := firstSecond ≤ t.seconds ∧ t.seconds ≤ lastSecond

instance (t : Instant) : Decidable t.InCalendar := inferInstanceAs (Decidable (_ ∧ _))

/-- The instant a number of seconds later, if the calendar reaches so far. -/
def plusSeconds? (t : Instant) (seconds : Int) : Option Instant :=
  let later : Instant := { t with seconds := t.seconds + seconds }
  if later.InCalendar then some later else none

/-- The instant a number of milliseconds later, if the calendar reaches so far. -/
def plusMillis? (t : Instant) (millis : Int) : Option Instant :=
  let total := Int.ofNat t.nanos + millis * 1000000
  let later : Instant :=
    { seconds := t.seconds + total / 1000000000, nanos := (total % 1000000000).toNat }
  if later.InCalendar then some later else none

/-- Midnight a number of days after 1970-01-01. -/
def ofDays (days : Int) : Instant := ⟨days * secondsPerDay, 0⟩

/-- The day on which the instant falls. -/
def date (t : Instant) : Date := Date.ofDays (t.seconds / secondsPerDay)

/-- The second of the day, from zero. -/
def secondOfDay (t : Instant) : Nat := (t.seconds % secondsPerDay).toNat

end Instant

end AdminConsole
