import Reconciler.Agenda
import Reconciler.Bench.Station
/-!
A controller on the bench that is driven by a watch: it looks at an object when it is told of
a change and again when its last look says so. Looks at different objects may overlap.
-/

set_option autoImplicit false

namespace Reconciler

inductive Notice where
  /-- The object is there, or has changed. -/
  | changed (key : ObjectKey)
  | removed (key : ObjectKey)
  deriving DecidableEq, Repr

structure Arrival where
  moment : Moment
  notice : Notice
  deriving DecidableEq, Repr

/-- A look that waits for an answer; it is due when the answer is there, if it ever is. -/
structure Look (k : Kind) where
  key : ObjectKey
  ctx : Context
  due : Option Moment
  rest : Controller.Work k (Except Stop (Decision × Outcome))

inductive Progress (k : Kind) where
  | finished (result : Except Stop (Decision × Outcome))
  | suspended (look : Look k)

structure Watcher (k : Kind) where
  now : Moment
  surroundings : Surroundings k
  backoff : Backoff
  agenda : Agenda
  /-- The objects that the watch has told of. -/
  known : List ObjectKey
  looks : List (Look k)
  /-- Notices to come, in the order of their arrival. -/
  arrivals : List Arrival

namespace Watcher

variable {k : Kind}

/-- Goes on with a look as long as its questions are answered at once. -/
def proceed (wall : Instant) (ctx : Context) (now : Moment) (key : ObjectKey) :
    Controller.Work k (Except Stop (Decision × Outcome)) → Surroundings k →
      Progress k × Surroundings k
  | .done result, s => (.finished result, s)
  | .ask q next, s =>
    let reply := s.reply ctx now wall q
    if Moment.reached reply.due now then proceed wall ctx now key (next reply.answer) reply.after
    else (.suspended ⟨key, ctx, reply.due, next reply.answer⟩, reply.after)

def hear (w : Watcher k) : Notice → Watcher k
  | .changed key =>
    { w with known := if w.known.contains key then w.known else w.known ++ [key]
             agenda := w.agenda.request key w.now }
  | .removed key => { w with known := w.known.erase key }

/-- Draws the conclusion from a look: success clears the record of a key, and failure is
treated by its remedy. -/
def conclude (w : Watcher k) (key : ObjectKey) (result : Except Stop (Decision × Outcome)) :
    Except Crash (Watcher k) :=
  let w := { w with agenda := w.agenda.finish key }
  match result with
  | .ok (decision, _) =>
    let due := if decision.requeue then some (Moment.add w.now decision.after) else none
    .ok { w with backoff := w.backoff.reset key, agenda := w.agenda.requestAt key due }
  | .error (.failed e) =>
    let (delay, backoff) := w.backoff.retry e key
    .ok { w with backoff, agenda := w.agenda.requestAt key (delay.map (Moment.add w.now)) }
  | .error (.crashed c) => .error c

def resume (wall : Instant) (w : Watcher k) (look : Look k) : Except Crash (Watcher k) :=
  let (progress, surroundings) := proceed wall look.ctx w.now look.key look.rest w.surroundings
  let w := { w with surroundings }
  match progress with
  | .finished result => w.conclude look.key result
  | .suspended look => .ok { w with looks := w.looks ++ [look] }

/-- Begins a look at a key in the time that one look may take; what the watch does not know
(any more) is passed over. -/
def begin (pace : Pace) (wall : Instant) (root : Context) (w : Watcher k) (key : ObjectKey) :
    Except Crash (Watcher k) :=
  if !w.known.contains key then .ok { w with agenda := w.agenda.finish key }
  else
    match Moment.after? w.now pace.reconcileTimeout with
    | none => .error .momentOutOfRange
    | some t =>
      w.resume wall ⟨key, root.withDeadline t, some w.now,
        Controller.reconcile pace.requeueAfter wall key⟩

def next? (w : Watcher k) : Option Moment :=
  let moments := w.arrivals.map (·.moment) ++ w.looks.filterMap (·.due) ++ w.agenda.moments
  moments.foldl (fun best t =>
    match best with
    | none => some t
    | some b => if t.nanos < b.nanos then some t else some b) none

/-- Does one thing that is to be done now: takes in a notice, goes on with a look, or begins
one. -/
def act (pace : Pace) (wall : Instant) (root : Context) (w : Watcher k) :
    Option (Except Crash (Watcher k)) :=
  match w.arrivals with
  | a :: rest =>
    if a.moment.nanos ≤ w.now.nanos then some (.ok ({ w with arrivals := rest }.hear a.notice))
    else continueLooks w
  | [] => continueLooks w
where
  continueLooks (w : Watcher k) : Option (Except Crash (Watcher k)) :=
    match w.looks.findIdx? fun l => Moment.reached l.due w.now with
    | some i =>
      match w.looks[i]? with
      | some look => some ({ w with looks := w.looks.eraseIdx i }.resume wall look)
      | none => none
    | none =>
      let agenda := w.agenda.park w.now
      match agenda.begin? w.now with
      | some (key, agenda) => some ({ w with agenda }.begin pace wall root key)
      | none => none

/-- Works until a moment, one thing after another; the fuel counts them. -/
def runUntil (pace : Pace) (wall : Instant) (root : Context) (stop : Moment) :
    Nat → Watcher k → Except Crash (Watcher k)
  | 0, w => .ok w
  | fuel + 1, w =>
    match w.act pace wall root with
    | some (.ok w) => runUntil pace wall root stop fuel w
    | some (.error c) => .error c
    | none =>
      let w := { w with agenda := w.agenda.park w.now }
      match w.next? with
      | some t =>
        if t.nanos < stop.nanos then
          runUntil pace wall root stop fuel { w with now := ⟨max w.now.nanos t.nanos⟩ }
        else .ok { w with now := stop }
      | none => .ok { w with now := stop }

def start (surroundings : Surroundings k) (backoff : Backoff) (arrivals : List Arrival) :
    Watcher k :=
  { now := .zero, surroundings, backoff, agenda := .empty, known := [], looks := [], arrivals }

def runLimit : Nat := 100000

def runFor (pace : Pace) (wall : Instant) (d : Duration) (w : Watcher k) :
    Except Crash (Watcher k) :=
  let stop := Moment.add w.now d
  w.runUntil pace wall (Context.unbounded.cancelledBy stop) stop runLimit

end Watcher

end Reconciler
