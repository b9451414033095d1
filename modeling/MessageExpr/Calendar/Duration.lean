import MessageExpr.Calendar.Instant

/-!
# Durations

A duration is a span of time in nanoseconds, in either direction. It is bounded: a duration has at
most as many milliseconds as a 64-bit integer counts, so a count of seconds may be too long for one,
and so may a sum of durations.

Seconds and nanoseconds are counted in 64 bits. An integer beyond them is counted as the last one
that fits (`Duration.saturatedCount`).
-/

set_option autoImplicit false

namespace MessageExpr

/-- The nanoseconds of the longest durations. -/
def Duration.longest : Int := Int64.maxValue.toInt * 1000000

/-- A span of time. -/
structure Duration where
  /-- The nanoseconds of the span; below zero if it leads back. -/
  nanoseconds : Int
  /-- No span is longer than the longest. -/
  bounded : -Duration.longest ≤ nanoseconds ∧ nanoseconds ≤ Duration.longest

namespace Duration

/-- The 64-bit integer that is nearest to an integer. -/
def saturatedCount (integer : Int) : Int64 :=
  Int64.ofInt (max Int64.minValue.toInt (min Int64.maxValue.toInt integer))

/-- The duration of some nanoseconds; nothing if that is too long. -/
def ofNanoseconds? (nanoseconds : Int) : Option Duration :=
  if bounded : -longest ≤ nanoseconds ∧ nanoseconds ≤ longest then some ⟨nanoseconds, bounded⟩
  else none

/-- The duration of a count of seconds; nothing if that is too long. -/
def ofSeconds? (count : Int64) : Option Duration :=
  ofNanoseconds? (count.toInt * Instant.nanosecondsPerSecond)

/-- The duration of a count of nanoseconds, which is never too long. -/
def ofNanoseconds (count : Int64) : Duration :=
  ⟨count.toInt, by
    have largest : longest = 9223372036854775807000000 := by decide
    have above := count.le_toInt
    have below := count.toInt_lt
    omega⟩

/-- The sum of two durations; nothing if that is too long. -/
def add? (left right : Duration) : Option Duration :=
  ofNanoseconds? (left.nanoseconds + right.nanoseconds)

/-- The duration of some seconds and nanoseconds; nothing if it or its seconds are too long. -/
def ofParts? (seconds nanoseconds : Int) : Option Duration :=
  (ofSeconds? (saturatedCount seconds)).bind fun whole =>
    whole.add? (ofNanoseconds (saturatedCount nanoseconds))

end Duration

/-- The instant a duration later; nothing if that is not representable. -/
def Instant.add? (instant : Instant) (duration : Duration) : Option Instant :=
  instant.addNanoseconds? duration.nanoseconds

end MessageExpr
