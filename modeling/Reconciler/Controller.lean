import Reconciler.Handler.Table
import Reconciler.Store.Repository
import Reconciler.Text.Elapsed
/-!
Reconciling one stored object: it is read, converted and handed to the handler of its
kind. An object that stands for no resource is told so in its own history and left alone
until it changes.
-/

set_option autoImplicit false

namespace Reconciler

/-- Whether and when to look at an object again. -/
structure Decision where
  requeue : Bool
  after : Duration
  deriving DecidableEq, Repr

def Decision.done : Decision := ⟨false, .zero⟩

def Decision.again (after : Duration) : Decision := ⟨true, after⟩

inductive Outcome where
  | requeue
  | done
  | skipped
  /-- The object stands for no resource. -/
  | invalid
  | error
  deriving DecidableEq, Repr

def Outcome.label : Outcome → String
  | .requeue => "requeue"
  | .done => "done"
  | .skipped => "skipped"
  | .invalid => "invalid"
  | .error => "error"

inductive Query (k : Kind) where
  | check
  /-- A call of the provider, given up when the context ends. -/
  | call (op : Operation) (r : Resource k)
  | read (c : StoreCall k)
  /-- A call on the store that is given up when the context ends. -/
  | commit (c : StoreCall k)

@[reducible] def Query.Answer {k : Kind} : Query k → Type
  | .check => Except Interruption Unit
  | .call .. => Resource k × Except Interruption CallOutcome
  | .read c => c.Answer
  | .commit c => c.Answer

namespace Controller

/-- The delay before an object is looked at again, unless another one is configured. -/
def defaultRequeueAfter : Duration := .ofSeconds 300

/-- The reason recorded with an object that stands for no resource. -/
def conversionFailureReason : String := "DomainConversionFailed"

variable {k : Kind}

abbrev Work (k : Kind) (α : Type) : Type := Dialogue (Query k) Query.Answer α

/-- A dialogue with the store under the context of the controller. -/
def committing {α : Type} (d : Repository.StoreDialogue k α) : Work k α :=
  d.interpret fun c => Dialogue.put (Query.commit c)

def update (r : Resource k) : Work k (Resource k × Except Error Unit) := do
  let stored ← committing (Repository.update r)
  match stored with
  | .ok stored => return (stored, .ok ())
  | .error e => return (r, .error e)

def delete (r : Resource k) : Work k (Resource k × Except Error Unit) := do
  let gone ← committing (Repository.delete r)
  return (r, gone)

def meet : (d : Demand k Operation Write) → Work k d.Answer
  | .check => Dialogue.put Query.check
  | .call op r => Dialogue.put (Query.call op r)
  | .write .update r => update r
  | .write .delete r => delete r

def conversionFailure (e : Error) (now : Instant) : Condition String :=
  { state := State.error.name, reason := conversionFailureReason, message := e.message, since := now }

def drive (requeueAfter : Duration) (now : Instant) (r : Resource k) :
    Work k (Except Stop (Decision × Outcome)) := do
  let (_, result) ← (k.handler.reconcile now r).interpret meet
  return result.map fun again =>
    if again then (.again requeueAfter, .requeue) else (.done, .done)

def reconcile (requeueAfter : Duration) (now : Instant) (key : ObjectKey) :
    Work k (Except Stop (Decision × Outcome)) := do
  let found : Except Error (Object k) ← Dialogue.put (Query.read (.get key))
  match found with
  | .error (.notFound ..) => return .ok (.done, .skipped)
  | .error e => return .error (.failed e)
  | .ok o =>
    match o.toResource with
    | .ok r => drive requeueAfter now r
    | .error e => do
      let _ : Except Error Bool ←
        Dialogue.put (Query.read (.record key (conversionFailure e now)))
      return .ok (.done, .invalid)

def describe (k : Kind) (requeueAfter : Duration) : String :=
  "GenericController \x7b kind: " ++ Text.quoted k.name ++ ", requeue_after: " ++
    requeueAfter.describe ++ ", .. \x7d"

def admission (o : Object k) : Except Error Unit := do
  k.handler.admission (← o.toResource)

end Controller

end Reconciler
