import Reconciler.Backoff
import Reconciler.Controller
/-!
Sweeps: every stored object is looked at once, page by page. An object that failed is
passed over until its delay is over, and what is listed no more is forgotten.
-/

set_option autoImplicit false

namespace Reconciler

/-- What is kept between sweeps: how often keys failed and before when they are not tried. -/
structure Patience where
  backoff : Backoff
  notBefore : SortedMap ObjectKey Moment

def Patience.ofBackoff (b : Backoff) : Patience := ⟨b, SortedMap.empty⟩

structure SweepReport where
  seen : Nat
  requeued : Nat
  failed : Nat
  /-- Passed over after an earlier failure. -/
  deferred : Nat
  deriving DecidableEq, Repr

def SweepReport.zero : SweepReport := ⟨0, 0, 0, 0⟩

/-- Nothing asks for another sweep. -/
def SweepReport.settled (r : SweepReport) : Bool := r.requeued = 0 && r.failed = 0

inductive SweepQuery (k : Kind) where
  | clock
  | page (query : ListQuery)
  /-- To reconcile a key in the time that one reconcile may take. -/
  | visit (key : ObjectKey)

@[reducible] def SweepQuery.Answer {k : Kind} : SweepQuery k → Type
  | .clock => Moment
  | .page _ => Except Error (Page (Object k))
  | .visit _ => Except Stop Decision

structure Sweep where
  patience : Patience
  report : SweepReport
  /-- The keys listed so far, latest first. -/
  live : List ObjectKey

namespace Sweep

variable {k : Kind}

abbrev Work (k : Kind) (α : Type) : Type := Dialogue (SweepQuery k) SweepQuery.Answer α

def starting (p : Patience) : Sweep := ⟨p, .zero, []⟩

def list (s : Sweep) (key : ObjectKey) : Sweep :=
  { s with report := { s.report with seen := s.report.seen + 1 }, live := key :: s.live }

def defers (s : Sweep) (key : ObjectKey) (now : Moment) : Bool :=
  match s.patience.notBefore.get? key with
  | some t => now.nanos < t.nanos
  | none => false

def recordDeferred (s : Sweep) : Sweep :=
  { s with report := { s.report with deferred := s.report.deferred + 1 } }

def recordSuccess (s : Sweep) (key : ObjectKey) (d : Decision) : Sweep :=
  { s with
    patience := ⟨s.patience.backoff.reset key, s.patience.notBefore.erase key⟩
    report :=
      if d.requeue then { s.report with requeued := s.report.requeued + 1 } else s.report }

/-- A failure sets the moment before which the key is not tried again; where only a change
helps, that is after the usual delay. -/
def recordFailure (requeueAfter : Duration) (s : Sweep) (key : ObjectKey) (e : Error)
    (now : Moment) : Sweep × Except Stop Unit :=
  let (delay, backoff) := s.patience.backoff.retry e key
  let s := { s with
    patience := { s.patience with backoff }
    report := { s.report with failed := s.report.failed + 1 } }
  match Moment.after? now (delay.getD requeueAfter) with
  | some t =>
    ({ s with patience := { s.patience with notBefore := s.patience.notBefore.insert key t } }, .ok ())
  | none => (s, .error (.crashed .momentOutOfRange))

/-- What a visit of a key leads to. A cancelled one ends the sweep. -/
def conclude (requeueAfter : Duration) (s : Sweep) (key : ObjectKey) :
    Except Stop Decision → Work k (Sweep × Except Stop Unit)
  | .ok d => return (s.recordSuccess key d, .ok ())
  | .error (.failed .cancelled) => return (s, .error (.failed .cancelled))
  | .error (.failed e) => do
    let now : Moment ← Dialogue.put SweepQuery.clock
    return s.recordFailure requeueAfter key e now
  | .error (.crashed c) => return (s, .error (.crashed c))

def visit (requeueAfter : Duration) (s : Sweep) (key : ObjectKey) :
    Work k (Sweep × Except Stop Unit) := do
  let now : Moment ← Dialogue.put SweepQuery.clock
  if s.defers key now then return (s.recordDeferred, .ok ())
  else
    let result : Except Stop Decision ← Dialogue.put (SweepQuery.visit key)
    conclude requeueAfter s key result

def visitAll (requeueAfter : Duration) (s : Sweep) :
    List (Object k) → Work k (Sweep × Except Stop Unit)
  | [] => return (s, .ok ())
  | o :: rest => do
    let key := ObjectKey.ofObject o
    let (s, result) ← visit requeueAfter (s.list key) key
    match result with
    | .ok () => visitAll requeueAfter s rest
    | .error stop => return (s, .error stop)

/-- Forgets the keys that were not listed. -/
def finish (s : Sweep) : Sweep :=
  { s with
    patience :=
      { backoff := s.patience.backoff.retain s.live
        notBefore := s.patience.notBefore.filter fun key _ => s.live.contains key } }

/-- Looks at the objects of at most `pages` pages, from the place where `query` goes on. -/
def turnPages (requeueAfter : Duration) :
    (pages : Nat) → ListQuery → Sweep → Work k (Sweep × Except Stop Unit)
  | 0, _, s => return (s.finish, .ok ())
  | pages + 1, query, s => do
    let answer : Except Error (Page (Object k)) ← Dialogue.put (SweepQuery.page query)
    match answer with
    | .error e => return (s, .error (.failed e))
    | .ok page => do
      let (s, result) ← visitAll requeueAfter s page.items
      match result, page.next with
      | .error stop, _ => return (s, .error stop)
      | .ok (), none => return (s.finish, .ok ())
      | .ok (), some token =>
        turnPages requeueAfter pages { query with continueAfter := some token } s

def firstPage (pageSize : Nat) : ListQuery :=
  { ListQuery.everything with limit := some pageSize }

def run (requeueAfter : Duration) (pageSize pages : Nat) (p : Patience) :
    Work k (Patience × Except Stop SweepReport) := do
  let (s, result) ← turnPages requeueAfter pages (firstPage pageSize) (starting p)
  return (s.patience, result.map fun _ => s.report)

end Sweep

end Reconciler
