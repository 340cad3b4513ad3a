import Reconciler.Object
import Reconciler.Time.Rfc3339
/-!
Between stored objects and resources. Tenant, workspace and region of a resource are
labels of its object under the prefix `internal/`, which users' own labels never carry;
`Object.toResource` undoes `Object.ofResource` up to what has no place in an object.
-/

set_option autoImplicit false

namespace Reconciler

namespace Mapping

def internalPrefix : String := "internal/"
def tenantLabel : String := "internal/tenant"
def workspaceLabel : String := "internal/workspace"
def regionLabel : String := "internal/region"
def modifiedAnnotation : String := "internal/last-modified-at"

/-- The key belongs to the engine and not to the user. -/
def isInternal (key : String) : Bool := internalPrefix.toList.isPrefixOf key.toList

def userEntries (m : TextMap) : TextMap := m.filter fun k _ => !isInternal k

inductive Fault where
  | emptyName
  | missingTenant
  | badModifiedAt (fault : Rfc3339.Fault)
  | unknownState (text : String)
  deriving DecidableEq, Repr

def Fault.reason : Fault → String
  | .emptyName => "metadata.name is empty"
  | .missingTenant => "missing label " ++ tenantLabel
  | .badModifiedAt fault => "bad " ++ modifiedAnnotation ++ ": " ++ fault.message
  | .unknownState text => "unknown resource state '" ++ text ++ "'"

def readState (text : String) : Except Fault State :=
  match State.parse? text with
  | some s => .ok s
  | none => .error (.unknownState text)

def readModifiedAt (m : ObjectMeta) : Except Fault (Option Instant) :=
  match m.annotation? modifiedAnnotation with
  | none => .ok none
  | some text =>
    match Rfc3339.strict? text with
    | .ok t => .ok (some t)
    | .error fault => .error (.badModifiedAt fault)

def readTenant (m : ObjectMeta) : Except Fault String :=
  match m.label? tenantLabel with
  | some t => if t = "" then .error .missingTenant else .ok t
  | none => .error .missingTenant

def readMetadata (m : ObjectMeta) : Except Fault Metadata := do
  let name := m.name.getD ""
  if name = "" then .error .emptyName
  else
    let tenant ← readTenant m
    let modifiedAt ← readModifiedAt m
    .ok { name, tenant, workspace := m.label? workspaceLabel, region := m.label? regionLabel
          labels := userEntries m.labelMap
          annotations := userEntries (m.annotations.getD ∅)
          version := m.resourceVersion.getD ""
          createdAt := m.creationTimestamp
          modifiedAt
          deletedAt := m.deletionTimestamp }

/-- The labels of a resource's object: the user's own and those that tell its place. -/
def writeLabels (m : Metadata) : TextMap :=
  let own := (userEntries m.labels).insert tenantLabel m.tenant
  let placed := match m.workspace with
    | some w => own.insert workspaceLabel w
    | none => own
  match m.region with
  | some r => placed.insert regionLabel r
  | none => placed

def writeAnnotations (m : Metadata) : TextMap :=
  match m.modifiedAt with
  | some t => (userEntries m.annotations).insert modifiedAnnotation t.toOffsetText
  | none => userEntries m.annotations

def writeMetadata (m : Metadata) : ObjectMeta :=
  { ObjectMeta.blank with
    name := some m.name
    namespaceName := some m.scope.namespaceName
    labels := some (writeLabels m)
    annotations := some (writeAnnotations m)
    resourceVersion := if m.version = "" then none else some m.version
    creationTimestamp := m.createdAt
    deletionTimestamp := m.deletedAt }

variable {k : Kind}

def readStatus (s : Status k String String) : Except Fault (Status k State Reference) := do
  let lifecycle ← s.lifecycle.mapStates readState
  .ok { lifecycle, facts := k.mapFacts Reference.plain s.facts }

def readOptionalStatus :
    Option (Status k String String) → Except Fault (Option (Status k State Reference))
  | none => .ok none
  | some s => (readStatus s).map some

def writeStatus (s : Status k State Reference) : Status k String String :=
  { lifecycle := s.lifecycle.renameStates State.name
    facts := k.mapFacts Reference.resource s.facts }

def read (o : Object k) : Except Fault (Resource k) := do
  let metadata ← readMetadata o.metadata
  let status ← readOptionalStatus o.status
  .ok { metadata, spec := k.mapSpec Reference.plain o.spec, status }

end Mapping

namespace Object

variable {k : Kind}

/-- The resource that an object stands for; a fault is told with the object's name. -/
def toResource (o : Object k) : Except Error (Resource k) :=
  match Mapping.read o with
  | .ok r => .ok r
  | .error fault => .error (.conversion k.name (o.metadata.name.getD "") fault.reason)

/-- The object of a resource, in the namespace of its scope. -/
def ofResource (r : Resource k) : Object k :=
  { metadata := Mapping.writeMetadata r.metadata
    spec := k.mapSpec Reference.resource r.spec
    status := r.status.map Mapping.writeStatus }

end Object

end Reconciler
