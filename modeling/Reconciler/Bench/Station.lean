import Reconciler.Bench.Shelf
import Reconciler.Bench.Backend
import Reconciler.Metrics
import Reconciler.Sweep
/-!
A station of the bench: the controller of one kind with its store, its provider and a
clock that moves only while somebody waits.
-/

set_option autoImplicit false

namespace Reconciler

structure Surroundings (k : Kind) where
  shelf : Shelf k
  backend : Backend

namespace Surroundings

variable {k : Kind}

/-- Calls the store; a call that hangs does so whatever becomes of the context. -/
def read (ctx : Context) (now : Moment) (wall : Instant) (s : Surroundings k) (c : StoreCall k) :
    Reply (Surroundings k) c.Answer :=
  match s.shelf.access ctx now wall c with
  | (some answer, shelf) => ⟨some now, { s with shelf }, answer⟩
  | (none, shelf) => ⟨none, { s with shelf }, .error .cancelled⟩

/-- Calls the store under a context, which also ends a call that hangs. -/
def commit (ctx : Context) (now : Moment) (wall : Instant) (s : Surroundings k)
    (c : StoreCall k) : Reply (Surroundings k) c.Answer :=
  match ctx.check now with
  | .error i => ⟨some now, s, .error i.toError⟩
  | .ok () =>
    match s.shelf.access ctx now wall c with
    | (some answer, shelf) => ⟨some now, { s with shelf }, answer⟩
    | (none, shelf) =>
      match ctx.ending? with
      | some (t, i) => ⟨some t, { s with shelf }, .error i.toError⟩
      | none => ⟨none, { s with shelf }, .error .cancelled⟩

def reply (ctx : Context) (now : Moment) (wall : Instant) (s : Surroundings k) :
    (q : Query k) → Reply (Surroundings k) q.Answer
  | .check => ⟨some now, s, ctx.check now⟩
  | .call op r =>
    let reply := s.backend.call ctx now op r
    ⟨reply.due, { s with backend := reply.after }, reply.answer⟩
  | .read c => s.read ctx now wall c
  | .commit c => s.commit ctx now wall c

end Surroundings

structure Pace where
  requeueAfter : Duration
  reconcileTimeout : Duration
  interval : Duration
  pageSize : Nat
  deriving DecidableEq, Repr

structure Station (k : Kind) where
  now : Moment
  surroundings : Surroundings k
  metrics : Option Metrics
  patience : Patience

namespace Station

variable {k : Kind}

/-- Answers a question and waits until the answer is there. Nobody waits for one that never
comes. -/
def answer (ctx : Context) (wall : Instant) (q : Query k) (s : Station k) : q.Answer × Station k :=
  let reply := s.surroundings.reply ctx s.now wall q
  (reply.answer, { s with now := reply.due.getD s.now, surroundings := reply.after })

def reconcile (pace : Pace) (wall : Instant) (ctx : Context) (key : ObjectKey) (s : Station k) :
    Except Stop Decision × Station k :=
  let (result, after) := (Controller.reconcile pace.requeueAfter wall key).run (answer ctx wall) s
  let elapsed : Duration := ⟨after.now.nanos - s.now.nanos⟩
  (result.map (·.1), { after with metrics := after.metrics.map fun m => m.record k.name elapsed result })

def visit (pace : Pace) (wall : Instant) (ctx : Context) (key : ObjectKey) (s : Station k) :
    Except Stop Decision × Station k :=
  match Moment.after? s.now pace.reconcileTimeout with
  | some t => s.reconcile pace wall (ctx.withDeadline t) key
  | none => (.error (.crashed .momentOutOfRange), s)

def answerSweep (pace : Pace) (wall : Instant) (ctx : Context) :
    (q : SweepQuery k) → Station k → q.Answer × Station k
  | .clock, s => (s.now, s)
  | .page query, s => answer ctx wall (.read (.list query)) s
  | .visit key, s => s.visit pace wall ctx key

/-- Sweeps over the store; no listing has more pages than there are objects, and an empty
one. -/
def sweep (pace : Pace) (wall : Instant) (ctx : Context) (s : Station k) :
    Except Stop SweepReport × Station k :=
  let pages := s.surroundings.shelf.store.size + 1
  let ((patience, result), s) :=
    (Sweep.run pace.requeueAfter pace.pageSize pages s.patience).run (answerSweep pace wall ctx) s
  (result, { s with patience })

/-- Sweeps until a sweep is settled, at most `sweeps` times; tells how many it took. -/
def settleFrom (pace : Pace) (wall : Instant) (ctx : Context) (done : Nat) :
    (sweeps : Nat) → Station k → Except Stop (Option Nat) × Station k
  | 0, s => (.ok none, s)
  | sweeps + 1, s =>
    match s.sweep pace wall ctx with
    | (.ok report, s) =>
      if report.settled then (.ok (some (done + 1)), s)
      else settleFrom pace wall ctx (done + 1) sweeps s
    | (.error stop, s) => (.error stop, s)

def settle (pace : Pace) (wall : Instant) (ctx : Context) (sweeps : Nat) (s : Station k) :
    Except Stop (Option Nat) × Station k :=
  settleFrom pace wall ctx 0 sweeps s

/-- Sweeps at every tick until the context is cancelled; a tick that is late is due at once.
Other failures of a sweep do not matter. -/
def tick (pace : Pace) (wall : Instant) (ctx : Context) :
    (ticks : Nat) → Moment → Station k → Except Stop Unit × Station k
  | 0, _, s => (.ok (), s)
  | ticks + 1, due, s =>
    let start : Moment := ⟨max s.now.nanos due.nanos⟩
    if Moment.reached ctx.cancelledAt s.now || Moment.reached ctx.cancelledAt start then (.ok (), s)
    else
      match { s with now := start }.sweep pace wall ctx with
      | (.error (.failed .cancelled), s) => (.ok (), s)
      | (.error (.crashed c), s) => (.error (.crashed c), s)
      | (_, s) => tick pace wall ctx ticks (Moment.add due pace.interval) s

/-- Runs for a while: sweeps from now on, and is cancelled at the end. -/
def runFor (pace : Pace) (wall : Instant) (ctx : Context) (d : Duration) (s : Station k) :
    Except Stop Unit × Station k :=
  if pace.interval = .zero then (.error (.crashed .emptyInterval), s)
  else
    let stop := Moment.add s.now d
    let ticks := d.nanos / pace.interval.nanos + 1
    let (result, s) := s.tick pace wall (ctx.cancelledBy stop) ticks s.now
    (result, { s with now := ⟨max s.now.nanos stop.nanos⟩ })

end Station

end Reconciler
