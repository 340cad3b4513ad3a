import Reconciler.Error
/-!
The surroundings of a step: when it is cancelled and by when it must be done. Both are
told as moments, so that every way in which a step can be cut short is a value.
-/

set_option autoImplicit false

namespace Reconciler

/-- A moment of the engine's clock, as the time since the clock was started. -/
abbrev Moment := Duration

inductive Interruption where
  | cancelled
  | deadlineExceeded
  deriving DecidableEq, Repr

def Interruption.toError : Interruption → Error
  | .cancelled => .cancelled
  | .deadlineExceeded => .deadlineExceeded

/-- The moment of cancellation, if it comes, and the deadline, if there is one. -/
structure Context where
  cancelledAt : Option Moment
  deadline : Option Moment
  deriving DecidableEq, Repr

/-- A wait of a known length, or one without an end. -/
inductive Wait where
  | lasting (d : Duration)
  | endless
  deriving DecidableEq, Repr

namespace Moment

def add (t : Moment) (d : Duration) : Moment := ⟨t.nanos + d.nanos⟩

/-- The latest second that a moment can lie in. -/
def latestSecond : Nat := wordBound 63 - 1

def after? (t : Moment) (d : Duration) : Option Moment :=
  if (add t d).seconds ≤ latestSecond then some (add t d) else none

def reached (at? : Option Moment) (now : Moment) : Bool :=
  match at? with
  | some t => t.nanos ≤ now.nanos
  | none => false

end Moment

namespace Context

def unbounded : Context := ⟨none, none⟩

/-- The earlier of two deadlines counts. -/
def withDeadline (c : Context) (t : Moment) : Context :=
  match c.deadline with
  | some existing => if existing.nanos < t.nanos then c else { c with deadline := some t }
  | none => { c with deadline := some t }

def withTimeout (c : Context) (now : Moment) (d : Duration) : Context :=
  c.withDeadline (Moment.add now d)

/-- Cancelled at a moment, or before if it is cancelled before. -/
def cancelledBy (c : Context) (t : Moment) : Context :=
  match c.cancelledAt with
  | some existing => if existing.nanos ≤ t.nanos then c else { c with cancelledAt := some t }
  | none => { c with cancelledAt := some t }

/-- A cancelled context says so even after its deadline. -/
def interruption? (c : Context) (now : Moment) : Option Interruption :=
  if Moment.reached c.cancelledAt now then some .cancelled
  else if Moment.reached c.deadline now then some .deadlineExceeded
  else none

def check (c : Context) (now : Moment) : Except Interruption Unit :=
  match c.interruption? now with
  | some i => .error i
  | none => .ok ()

def ending? (c : Context) : Option (Moment × Interruption) :=
  match c.cancelledAt, c.deadline with
  | some t, some d => if t.nanos ≤ d.nanos then some (t, .cancelled) else some (d, .deadlineExceeded)
  | some t, none => some (t, .cancelled)
  | none, some d => some (d, .deadlineExceeded)
  | none, none => none

/-- Waits under a context: what is due together with the end of the context is not done any
more. A wait that neither ends nor is cut short is given up at once. -/
def await (c : Context) (now : Moment) (wait : Wait) : Except Interruption Unit × Moment :=
  match c.interruption? now with
  | some i => (.error i, now)
  | none =>
    match wait, c.ending? with
    | .lasting d, some (t, i) =>
      if t.nanos ≤ (Moment.add now d).nanos then (.error i, t) else (.ok (), Moment.add now d)
    | .lasting d, none => (.ok (), Moment.add now d)
    | .endless, some (t, i) => (.error i, t)
    | .endless, none => (.error .cancelled, now)

end Context

end Reconciler
