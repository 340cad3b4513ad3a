import Reconciler.Store.Memory
/-!
Stores on the bench: a store in memory with faults that are planned for its next calls,
each used once, and a log of every call.
-/

set_option autoImplicit false

namespace Reconciler

inductive FaultEffect where
  | fail (e : Error)
  /-- The call is never answered. -/
  | hang
  deriving DecidableEq, Repr

structure PlannedFault where
  call : String
  effect : FaultEffect
  deriving DecidableEq, Repr

/-- A logged call, with the second it was made in. -/
structure LogEntry where
  second : Nat
  call : String
  subject : String
  deriving DecidableEq, Repr

structure Shelf (k : Kind) where
  store : MemoryStore k
  faults : List PlannedFault
  /-- Oldest first. -/
  log : List LogEntry

namespace Shelf

variable {k : Kind}

def empty : Shelf k := ⟨.empty, [], []⟩

instance : Inhabited (Shelf k) := ⟨empty⟩

/-- The nearest second; a half counts as the next one. -/
def nearestSecond (t : Moment) : Nat := (t.nanos + 500000000) / 1000000000

def addFault (s : Shelf k) (fault : PlannedFault) : Shelf k :=
  { s with faults := s.faults ++ [fault] }

def takeFault (call : String) : List PlannedFault → Option FaultEffect × List PlannedFault
  | [] => (none, [])
  | fault :: rest =>
    if fault.call = call then (some fault.effect, rest)
    else
      let (found, rest) := takeFault call rest
      (found, fault :: rest)

/-- Makes a call; one that hangs has no answer. -/
def access (ctx : Context) (now : Moment) (wall : Instant) (s : Shelf k) (c : StoreCall k) :
    Option c.Answer × Shelf k :=
  let entry : LogEntry := ⟨nearestSecond now, c.name, c.subject⟩
  let s : Shelf k := { s with log := s.log ++ [entry] }
  match takeFault c.name s.faults with
  | (some (.fail e), faults) => (some (.error e), { s with faults })
  | (some .hang, faults) => (none, { s with faults })
  | (none, _) =>
    let (answer, store) := s.store.performUnder ctx now wall c
    (some answer, { s with store })

end Shelf

end Reconciler
