import Reconciler.Resource
import Reconciler.Json
/-!
Stored objects: the form in which resources are kept by a store and written by users.
States and mentions of other resources are free text here, and the metadata is that of
the API server.
-/

set_option autoImplicit false

namespace Reconciler

structure OwnerReference where
  apiVersion : String
  blockOwnerDeletion : Option Bool
  controller : Option Bool
  kind : String
  name : String
  uid : String

structure ManagedFields where
  apiVersion : Option String
  fieldsType : Option String
  fieldsV1 : Option Json
  manager : Option String
  operation : Option String
  subresource : Option String
  time : Option Instant

structure ObjectMeta where
  annotations : Option TextMap
  creationTimestamp : Option Instant
  deletionGracePeriodSeconds : Option Int
  deletionTimestamp : Option Instant
  finalizers : Option (List String)
  generateName : Option String
  generation : Option Int
  labels : Option TextMap
  managedFields : Option (List ManagedFields)
  name : Option String
  namespaceName : Option String
  ownerReferences : Option (List OwnerReference)
  resourceVersion : Option String
  selfLink : Option String
  uid : Option String

namespace ObjectMeta

def blank : ObjectMeta :=
  { annotations := none, creationTimestamp := none, deletionGracePeriodSeconds := none,
    deletionTimestamp := none, finalizers := none, generateName := none, generation := none,
    labels := none, managedFields := none, name := none, namespaceName := none,
    ownerReferences := none, resourceVersion := none, selfLink := none, uid := none }

instance : Inhabited ObjectMeta := ⟨blank⟩

def label? (m : ObjectMeta) (key : String) : Option String :=
  m.labels.bind (·.get? key)

def annotation? (m : ObjectMeta) (key : String) : Option String :=
  m.annotations.bind (·.get? key)

def labelMap (m : ObjectMeta) : TextMap := m.labels.getD ∅

/-- The name, or the one to be generated from. -/
def anyName (m : ObjectMeta) : String :=
  match m.name with
  | some n => n
  | none => m.generateName.getD ""

end ObjectMeta

structure Object (k : Kind) where
  metadata : ObjectMeta
  spec : k.Spec String
  status : Option (Status k String String)

namespace Object

variable {k : Kind}

def conditions (o : Object k) : List (Condition String) :=
  match o.status with
  | some s => s.lifecycle.conditions
  | none => []

def version (o : Object k) : Option String := o.metadata.resourceVersion

def setVersion (o : Object k) (version : Option String) : Object k :=
  { o with metadata := { o.metadata with resourceVersion := version } }

end Object

end Reconciler
