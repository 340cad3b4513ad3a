import Reconciler.Context
import Reconciler.Store.Key
/-!
When keys are to be looked at. A key has one appointment at most, the earliest that was asked
for, and is never looked at twice at the same time.
-/

set_option autoImplicit false

namespace Reconciler

structure Agenda where
  appointments : SortedMap ObjectKey Moment
  busy : List ObjectKey
  /-- Busy keys whose next appointment has come. -/
  waiting : List ObjectKey

namespace Agenda

def empty : Agenda := ⟨∅, [], []⟩

instance : Inhabited Agenda := ⟨empty⟩

/-- Asks for a key to be looked at. An earlier appointment stands, and a key that waits needs
none. -/
def request (a : Agenda) (key : ObjectKey) (due : Moment) : Agenda :=
  if a.waiting.contains key then a
  else
    match a.appointments.get? key with
    | some t => if t.nanos < due.nanos then a else { a with appointments := a.appointments.insert key due }
    | none => { a with appointments := a.appointments.insert key due }

def requestAt (a : Agenda) (key : ObjectKey) : Option Moment → Agenda
  | some due => a.request key due
  | none => a

/-- Busy keys whose appointment has come wait until they are free. -/
def park (a : Agenda) (now : Moment) : Agenda :=
  let due := (a.appointments.entries.filter fun e =>
    decide (e.2.nanos ≤ now.nanos) && a.busy.contains e.1).map (·.1)
  { a with appointments := a.appointments.filter fun key _ => !due.contains key
           waiting := a.waiting ++ due }

/-- A key to be looked at now, if there is one; those that have waited come first. -/
def begin? (a : Agenda) (now : Moment) : Option (ObjectKey × Agenda) :=
  match a.waiting.find? fun key => !a.busy.contains key with
  | some key => some (key, { a with waiting := a.waiting.erase key, busy := key :: a.busy })
  | none =>
    match a.appointments.entries.find? fun e =>
      decide (e.2.nanos ≤ now.nanos) && !a.busy.contains e.1 with
    | some (key, _) =>
      some (key, { a with appointments := a.appointments.erase key, busy := key :: a.busy })
    | none => none

def finish (a : Agenda) (key : ObjectKey) : Agenda := { a with busy := a.busy.erase key }

def moments (a : Agenda) : List Moment := a.appointments.values

end Agenda

end Reconciler
