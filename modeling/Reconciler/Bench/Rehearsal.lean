import Reconciler.Handler
import Reconciler.Store.Memory
import Reconciler.Store.Repository
/-!
Rehearsals of handlers: calls and writes do what was planned for them, so that a handler can
be tried out without a provider.
-/

set_option autoImplicit false

namespace Reconciler

inductive Change where
  | enter (s : State)
  | setState (s : Option State)
  | fail (e : ProviderError)
  | label (key value : String)
  deriving DecidableEq, Repr

/-- A planned call: it takes a while, changes the resource and ends. -/
structure PlannedCall where
  name : String
  wait : Wait
  changes : List Change
  outcome : CallOutcome

inductive PlannedWrite where
  | update
  | delete
  | nothing
  | hang
  | fail (e : Error)
  deriving DecidableEq, Repr

/-- When a planned rule applies or a planned objection is raised. -/
inductive Occasion where
  | always
  | never
  | deleted
  | inStates (states : List State)
  deriving DecidableEq, Repr

namespace Occasion

variable {k : Kind}

def holds (o : Occasion) (r : Resource k) : Bool :=
  match o with
  | .always => true
  | .never => false
  | .deleted => r.isDeleted
  | .inStates states => states.contains r.state

end Occasion

namespace Change

variable {k : Kind}

def apply (now : Instant) (r : Resource k) : Change → Resource k
  | .enter s => r.enter s now
  | .setState s => r.setState s
  | .fail e => r.fail e now
  | .label key value =>
    { r with metadata := { r.metadata with labels := r.metadata.labels.insert key value } }

def applyAll (changes : List Change) (now : Instant) (r : Resource k) : Resource k :=
  changes.foldl (apply now) r

/-- Notes a failure down in the annotations. -/
def noteFailure (e : ProviderError) (r : Resource k) : Resource k :=
  { r with metadata :=
    { r.metadata with annotations := r.metadata.annotations.insert "failure" e.message } }

end Change

structure Rehearsal (k : Kind) where
  now : Moment
  store : MemoryStore k
  /-- The calls so far, oldest first. -/
  calls : List String

namespace Rehearsal

variable {k : Kind}

def callPlanned (ctx : Context) (wall : Instant) (c : PlannedCall) (r : Resource k)
    (s : Rehearsal k) : (Resource k × Except Interruption CallOutcome) × Rehearsal k :=
  match ctx.check s.now with
  | .error i => ((r, .error i), s)
  | .ok () =>
    let s := { s with calls := s.calls ++ [c.name] }
    match ctx.await s.now c.wait with
    | (.ok (), t) => ((Change.applyAll c.changes wall r, .ok c.outcome), { s with now := t })
    | (.error i, t) => ((r, .error i), { s with now := t })

def withStore {α : Type} (ctx : Context) (wall : Instant) (d : Repository.StoreDialogue k α)
    (s : Rehearsal k) : α × Rehearsal k :=
  let (a, store) := d.run (fun c store => store.performUnder ctx s.now wall c) s.store
  (a, { s with store })

def writePlanned (ctx : Context) (wall : Instant) (w : PlannedWrite) (r : Resource k)
    (s : Rehearsal k) : (Resource k × Except Error Unit) × Rehearsal k :=
  match ctx.check s.now with
  | .error i => ((r, .error i.toError), s)
  | .ok () =>
    match w with
    | .update =>
      match s.withStore ctx wall (Repository.update r) with
      | (.ok stored, s) => ((stored, .ok ()), s)
      | (.error e, s) => ((r, .error e), s)
    | .delete =>
      let (gone, s) := s.withStore ctx wall (Repository.delete r)
      ((r, gone), s)
    | .nothing => ((r, .ok ()), s)
    | .hang =>
      let (ended, t) := ctx.await s.now .endless
      ((r, ended.mapError Interruption.toError), { s with now := t })
    | .fail e => ((r, .error e), s)

def answer (ctx : Context) (wall : Instant) :
    (d : Demand k PlannedCall PlannedWrite) → Rehearsal k → d.Answer × Rehearsal k
  | .check, s => (ctx.check s.now, s)
  | .call c r, s => callPlanned ctx wall c r s
  | .write w r, s => writePlanned ctx wall w r s

def perform (h : Handler k PlannedCall PlannedWrite) (ctx : Context) (wall : Instant)
    (r : Resource k) (s : Rehearsal k) : (Resource k × Except Stop Bool) × Rehearsal k :=
  (h.reconcile wall r).run (answer ctx wall) s

end Rehearsal

end Reconciler
