import Reconciler.Store
import Reconciler.Mapping
import Reconciler.Dialogue
/-!
Resources kept in a store of objects. Every operation is a dialogue with the store: what
is written is the object of a resource, and what comes back is read as a resource.
-/

set_option autoImplicit false

namespace Reconciler

structure ResourceQuery where
  scope : Option Scope
  limit : Option Nat
  continueAfter : Option String
  selector : Option String
  deriving DecidableEq, Repr, Inhabited

def ResourceQuery.everything : ResourceQuery :=
  { scope := none, limit := none, continueAfter := none, selector := none }

def ResourceQuery.toListQuery (q : ResourceQuery) : ListQuery :=
  { namespaceName := q.scope.map Scope.namespaceName
    selector := q.selector
    limit := q.limit
    continueAfter := q.continueAfter }

namespace Repository

abbrev StoreDialogue (k : Kind) (α : Type) : Type := Dialogue (StoreCall k) StoreCall.Answer α

variable {k : Kind}

def call (c : StoreCall k) : StoreDialogue k c.Answer := Dialogue.put c

def list (q : ResourceQuery) : StoreDialogue k (Except Error (Page (Resource k))) := do
  let answer : Except Error (Page (Object k)) ← call (.list q.toListQuery)
  match answer with
  | .ok page => return page.mapM Object.toResource
  | .error e => return .error e

def load (r : ResourceRef) : StoreDialogue k (Except Error (Resource k)) := do
  let answer : Except Error (Object k) ← call (.get (.ofReference r))
  match answer with
  | .ok o => return o.toResource
  | .error e => return .error e

def create (r : Resource k) : StoreDialogue k (Except Error (Resource k)) := do
  let answer : Except Error (Object k) ← call (.create (.ofResource r))
  match answer with
  | .ok o => return o.toResource
  | .error e => return .error e

/-- Keeps the whole resource, status included. -/
def update (r : Resource k) : StoreDialogue k (Except Error (Resource k)) := do
  let answer : Except Error (Object k) ← call (.replace (.ofResource r))
  match answer with
  | .ok o => return o.toResource
  | .error e => return .error e

/-- Removes a resource at the version it has; one never stored has an empty version, which
no stored object has. -/
def delete (r : Resource k) : StoreDialogue k (Except Error Unit) :=
  call (.delete (.ofReference r.reference) (some r.metadata.version))

end Repository

end Reconciler
