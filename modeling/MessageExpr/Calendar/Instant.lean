import MessageExpr.Calendar.Civil

/-!
# Instants

An instant is a count of seconds since 1 January 1970, 00:00 UTC, and of nanoseconds. Leap seconds
have no count of their own: the nanoseconds of a leap second run from one to two thousand million on
top of the second before it, the last of its minute.

Adding a duration treats a leap second as a second of its own as long as the sum stays inside it.
Otherwise the instant is first moved to a neighbouring ordinary second: the one before it if the
duration is positive, the one after it if it is negative.
-/

set_option autoImplicit false

namespace MessageExpr

/-- A moment in universal time. -/
structure Instant where
  /-- The seconds since the start of 1970. -/
  seconds : Int
  /-- The nanoseconds past that second; a thousand million and more lie in a leap second. -/
  nanoseconds : Nat
deriving DecidableEq, Inhabited

namespace Instant

/-- The nanoseconds of a second. -/
def nanosecondsPerSecond : Nat := 1000000000

/-- The seconds of a day. -/
def secondsPerDay : Int := 86400

/-- The first representable second. -/
def firstSecond : Int := CivilDate.toDayNumber ⟨-262143, 1, 1⟩ * secondsPerDay

/-- The last representable second. -/
def lastSecond : Int := CivilDate.toDayNumber ⟨262143, 1, 1⟩ * secondsPerDay - 1

/-- Whether a second lies in the representable years, -262143 to 262142. -/
def isRepresentable (seconds : Int) : Bool :=
  firstSecond ≤ seconds && seconds ≤ lastSecond

/-- The number of the instant's day. -/
def dayNumber (instant : Instant) : Int := instant.seconds / secondsPerDay

/-- The instant's day. -/
def date (instant : Instant) : CivilDate := CivilDate.ofDayNumber instant.dayNumber

/-- The seconds since midnight, leap seconds not counted. -/
def secondOfDay (instant : Instant) : Nat := (instant.seconds % secondsPerDay).toNat

/-- The hour, from 0 to 23. -/
def hour (instant : Instant) : Nat := instant.secondOfDay / 3600

/-- The minute, from 0 to 59. -/
def minute (instant : Instant) : Nat := instant.secondOfDay / 60 % 60

/-- The second, from 0 to 60, where 60 is a leap second. -/
def second (instant : Instant) : Nat :=
  instant.secondOfDay % 60 + instant.nanoseconds / nanosecondsPerSecond

/-- The nanoseconds past the second that `second` shows. -/
def subsecond (instant : Instant) : Nat := instant.nanoseconds % nanosecondsPerSecond

/-- The instant with its nanoseconds brought below one second, by one second either way. -/
def carry (seconds nanoseconds : Int) : Int × Nat :=
  if nanoseconds < 0 then (seconds - 1, (nanoseconds + nanosecondsPerSecond).toNat)
  else if nanosecondsPerSecond ≤ nanoseconds then
    (seconds + 1, (nanoseconds - nanosecondsPerSecond).toNat)
  else (seconds, nanoseconds.toNat)

/-- The ordinary second from which a leap second is left by a duration; nothing if the sum stays
inside the leap second. -/
def leaveLeapSecond? (instant : Instant) (wholeSeconds nanoseconds : Int) : Option Instant :=
  if wholeSeconds > 0 || (nanoseconds > 0 &&
      instant.nanoseconds + nanoseconds ≥ 2 * nanosecondsPerSecond) then
    some ⟨instant.seconds, instant.nanoseconds - nanosecondsPerSecond⟩
  else if wholeSeconds < 0 then
    some ⟨instant.seconds + 1, instant.nanoseconds - nanosecondsPerSecond⟩
  else none

/-- The instant as it enters an addition; nothing if it is a leap second that the sum stays in. -/
def ordinary? (instant : Instant) (wholeSeconds nanoseconds : Int) : Option Instant :=
  if nanosecondsPerSecond ≤ instant.nanoseconds then
    instant.leaveLeapSecond? wholeSeconds nanoseconds
  else some instant

/-- The instant a number of nanoseconds later; nothing if that is not representable. -/
def addNanoseconds? (instant : Instant) (duration : Int) : Option Instant :=
  let wholeSeconds := duration.tdiv nanosecondsPerSecond
  let nanoseconds := duration.tmod nanosecondsPerSecond
  match instant.ordinary? wholeSeconds nanoseconds with
  | none => some ⟨instant.seconds, (instant.nanoseconds + nanoseconds).toNat⟩
  | some start =>
    let (seconds, rest) :=
      carry (start.seconds + wholeSeconds) (start.nanoseconds + nanoseconds)
    if isRepresentable seconds then some ⟨seconds, rest⟩ else none

end Instant

end MessageExpr
