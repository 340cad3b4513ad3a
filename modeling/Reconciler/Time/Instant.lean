import Reconciler.Time.Date
/-!
Points in time and the forms they are written in: RFC 3339 in UTC, with as many
digits of the second as the point needs.
-/

set_option autoImplicit false

namespace Reconciler

/-- A point in time: whole seconds since 1970 and nanoseconds. From 10 ^ 9 nanoseconds
on it lies in the leap second that follows the second. -/
structure Instant where
  seconds : Int
  nanos : Nat
  deriving DecidableEq, Repr, Inhabited

inductive Precision where
  /-- The fewest of 0, 3, 6 and 9 that are exact. -/
  | exact
  | wholeSeconds
  deriving DecidableEq, Repr

namespace Instant

def nanosPerSecond : Nat := 1000000000

/-- Within the years that can be told: from -262143 to 262142. -/
def inRange (t : Instant) : Bool :=
  let year := (Date.ofDay (t.seconds / 86400)).year
  year ≤ 262142 && -262143 ≤ year

/-- Four digits, or a sign and at least four for years beyond them. -/
def yearText (year : Int) : String :=
  if 0 ≤ year ∧ year ≤ 9999 then paddedText 4 year.toNat
  else (if year < 0 then "-" else "+") ++ paddedText 4 year.natAbs

def fractionText (nanos : Nat) : String :=
  if nanos = 0 then ""
  else if nanos % 1000000 = 0 then "." ++ paddedText 3 (nanos / 1000000)
  else if nanos % 1000 = 0 then "." ++ paddedText 6 (nanos / 1000)
  else "." ++ paddedText 9 nanos

def localText (precision : Precision) (t : Instant) : String :=
  let date := Date.ofDay (t.seconds / 86400)
  let clock := (t.seconds % 86400).toNat
  let leap := t.nanos / nanosPerSecond
  yearText date.year ++ "-" ++ paddedText 2 date.month ++ "-" ++ paddedText 2 date.day ++
    "T" ++ paddedText 2 (clock / 3600) ++ ":" ++ paddedText 2 (clock / 60 % 60) ++ ":" ++
    paddedText 2 (clock % 60 + leap) ++
    match precision with
    | .exact => fractionText (t.nanos % nanosPerSecond)
    | .wholeSeconds => ""

def toText (t : Instant) : String := t.localText .exact ++ "Z"

/-- Written to the second, as in the metadata of stored objects. -/
def toSecondsText (t : Instant) : String := t.localText .wholeSeconds ++ "Z"

def toOffsetText (t : Instant) : String := t.localText .exact ++ "+00:00"

/-- The point that the written form names: a leap second within a minute is written as the
second after it. -/
def settled (t : Instant) : Instant :=
  if nanosPerSecond ≤ t.nanos ∧ t.seconds % 60 ≠ 59 then
    ⟨t.seconds + 1, t.nanos - nanosPerSecond⟩
  else t

/-- The point that the form written to the second names. -/
def truncate (t : Instant) : Instant :=
  { t.settled with nanos := t.settled.nanos / nanosPerSecond * nanosPerSecond }

/-- The point a clock shows in a zone `offset` seconds ahead of UTC. The second 60 is the
leap second after the second 59. -/
def ofClock? (date : Date) (hour minute second nanos : Nat) (offset : Int) : Option Instant :=
  if date.isValid ∧ hour < 24 ∧ minute < 60 ∧ second ≤ 60 ∧ nanos < nanosPerSecond then
    let (second, nanos) :=
      if second = 60 then (59, nanos + nanosPerSecond) else (second, nanos)
    let t : Instant :=
      { seconds := date.toDay * 86400 + hour * 3600 + minute * 60 + second - offset
        nanos := nanos }
    if t.inRange then some t else none
  else none

end Instant

end Reconciler
