import Reconciler.SortedMap
import Reconciler.Time.Instant
/-!
Who a resource is: its name, its scope inside a tenant, and what is kept about it.
-/

set_option autoImplicit false

namespace Reconciler

/-- A tenant, or a workspace of a tenant. -/
structure Scope where
  tenant : String
  workspace : Option String
  deriving DecidableEq, Repr, Inhabited

namespace Scope

/-- The namespace that holds the resources of a scope: a workspace follows its tenant
after two hyphens. -/
def namespaceName (s : Scope) : String :=
  match s.workspace with
  | some w => s.tenant ++ "--" ++ w
  | none => s.tenant

end Scope

structure ResourceRef where
  scope : Scope
  name : String
  deriving DecidableEq, Repr, Inhabited

/-- Tenant, workspace and name, set apart by slashes. -/
def ResourceRef.text (r : ResourceRef) : String :=
  match r.scope.workspace with
  | some w => r.scope.tenant ++ "/" ++ w ++ "/" ++ r.name
  | none => r.scope.tenant ++ "/" ++ r.name

/-- A mention of another resource, such as the offer a volume is made from. -/
structure Reference where
  provider : Option String
  region : Option String
  resource : String
  tenant : Option String
  workspace : Option String
  deriving DecidableEq, Repr, Inhabited

def Reference.plain (resource : String) : Reference :=
  { provider := none, region := none, resource, tenant := none, workspace := none }

structure Metadata where
  name : String
  tenant : String
  workspace : Option String
  region : Option String
  labels : TextMap
  annotations : TextMap
  /-- The version of the stored object this was read from, empty if it was never stored. -/
  version : String
  createdAt : Option Instant
  modifiedAt : Option Instant
  /-- When the deletion of the resource was asked for. -/
  deletedAt : Option Instant
  deriving DecidableEq

namespace Metadata

def ofName (name tenant : String) : Metadata :=
  { name, tenant, workspace := none, region := none, labels := ∅, annotations := ∅,
    version := "", createdAt := none, modifiedAt := none, deletedAt := none }

def isDeleted (m : Metadata) : Bool := m.deletedAt.isSome

def scope (m : Metadata) : Scope := ⟨m.tenant, m.workspace⟩

def reference (m : Metadata) : ResourceRef := ⟨m.scope, m.name⟩

def inWorkspace (m : Metadata) (workspace : String) : Metadata :=
  { m with workspace := some workspace }

def inRegion (m : Metadata) (region : String) : Metadata := { m with region := some region }

end Metadata

end Reconciler
