import Reconciler.Resource
import Reconciler.Json
import Reconciler.Time.Rfc3339
/-!
Resources as records: every field is written, absent values as `null`, and the
lifecycle stands among the fields of the status.
-/

set_option autoImplicit false

namespace Reconciler

open Json (Reader)

def Instant.ofJson : Reader Instant := fun j => j.asText.bind Rfc3339.relaxed?

def Instant.toJson (t : Instant) : Json := .text t.toText

def TextMap.ofJson : Reader TextMap := fun j => (j.asEntries Json.asText).map SortedMap.ofList

def TextMap.toJson (m : TextMap) : Json := .record (m.entries.map fun (k, v) => (k, .text v))

def Json.asSize : Reader Nat := Json.asNat 32

namespace State

def ofJson : Reader State := fun j => j.asText.bind ofName?

def toJson (s : State) : Json := .text s.name

end State

namespace Condition

def ofJson : Reader (Condition State) := fun j => do
  let j ← j.asStruct ["state", "reason", "message", "lastTransitionAt"] 0
  some { state := ← j.required "state" State.ofJson
         reason := ← j.required "reason" Json.asText
         message := ← j.required "message" Json.asText
         since := ← j.required "lastTransitionAt" Instant.ofJson }

def toJson (c : Condition State) : Json :=
  .record [("state", c.state.toJson), ("reason", .text c.reason), ("message", .text c.message),
    ("lastTransitionAt", c.since.toJson)]

end Condition

namespace Lifecycle

def ofFields (j : Json) : Option (Lifecycle State) := do
  some { state := ← j.optional "state" State.ofJson
         conditions := ← j.withDefault "conditions" [] (Json.asList Condition.ofJson) }

def ofJson : Reader (Lifecycle State) := fun j =>
  (j.asStruct ["state", "conditions"] 0).bind ofFields

def fields (l : Lifecycle State) : List (String × Json) :=
  [("state", Json.ofOption State.toJson l.state),
   ("conditions", .list (l.conditions.map Condition.toJson))]

def toJson (l : Lifecycle State) : Json := .record l.fields

end Lifecycle

namespace Scope

def ofJson : Reader Scope := fun j => do
  let j ← j.asStruct ["tenant", "workspace"] 0
  some { tenant := ← j.required "tenant" Json.asText
         workspace := ← j.optional "workspace" Json.asText }

def toJson (s : Scope) : Json :=
  .record [("tenant", .text s.tenant), ("workspace", Json.ofOption .text s.workspace)]

end Scope

namespace ResourceRef

def ofJson : Reader ResourceRef := fun j => do
  let j ← j.asStruct ["scope", "name"] 0
  some { scope := ← j.required "scope" Scope.ofJson, name := ← j.required "name" Json.asText }

def toJson (r : ResourceRef) : Json :=
  .record [("scope", r.scope.toJson), ("name", .text r.name)]

end ResourceRef

namespace Reference

def ofJson : Reader Reference := fun j => do
  let j ← j.asStruct ["provider", "region", "resource", "tenant", "workspace"] 0
  some { provider := ← j.optional "provider" Json.asText
         region := ← j.optional "region" Json.asText
         resource := ← j.required "resource" Json.asText
         tenant := ← j.optional "tenant" Json.asText
         workspace := ← j.optional "workspace" Json.asText }

def toJson (r : Reference) : Json :=
  .record [("provider", Json.ofOption .text r.provider), ("region", Json.ofOption .text r.region),
    ("resource", .text r.resource), ("tenant", Json.ofOption .text r.tenant),
    ("workspace", Json.ofOption .text r.workspace)]

end Reference

namespace Metadata

def ofJson : Reader Metadata := fun j => do
  let j ← j.asStruct ["name", "tenant", "workspace", "region", "labels", "annotations",
    "resourceVersion", "createdAt", "lastModifiedAt", "deletedAt"] 0
  some { name := ← j.required "name" Json.asText
         tenant := ← j.required "tenant" Json.asText
         workspace := ← j.optional "workspace" Json.asText
         region := ← j.optional "region" Json.asText
         labels := ← j.withDefault "labels" ∅ TextMap.ofJson
         annotations := ← j.withDefault "annotations" ∅ TextMap.ofJson
         version := ← j.withDefault "resourceVersion" "" Json.asText
         createdAt := ← j.optional "createdAt" Instant.ofJson
         modifiedAt := ← j.optional "lastModifiedAt" Instant.ofJson
         deletedAt := ← j.optional "deletedAt" Instant.ofJson }

def toJson (m : Metadata) : Json :=
  .record [("name", .text m.name), ("tenant", .text m.tenant),
    ("workspace", Json.ofOption .text m.workspace), ("region", Json.ofOption .text m.region),
    ("labels", TextMap.toJson m.labels), ("annotations", TextMap.toJson m.annotations),
    ("resourceVersion", .text m.version), ("createdAt", Json.ofOption Instant.toJson m.createdAt),
    ("lastModifiedAt", Json.ofOption Instant.toJson m.modifiedAt),
    ("deletedAt", Json.ofOption Instant.toJson m.deletedAt)]

end Metadata

namespace WorkspaceSpec

def ofJson : Reader WorkspaceSpec := fun j => (TextMap.ofJson j).map WorkspaceSpec.mk

def toJson (s : WorkspaceSpec) : Json := TextMap.toJson s.properties

end WorkspaceSpec

namespace StorageOffer

def ofJson : Reader StorageOffer := fun j => do
  let j ← j.asStruct ["iops", "minVolumeSize", "type"] 0
  some { iops := ← j.required "iops" Json.asInt64
         minVolumeSize := ← j.required "minVolumeSize" Json.asInt64
         mediaType := ← j.required "type" Json.asText }

def toJson (s : StorageOffer) : Json :=
  .record [("iops", .int s.iops), ("minVolumeSize", .int s.minVolumeSize),
    ("type", .text s.mediaType)]

end StorageOffer

namespace NetworkOffer

def ofJson : Reader NetworkOffer := fun j => do
  let j ← j.asStruct ["bandwidth", "packets"] 0
  some { bandwidth := ← j.required "bandwidth" Json.asInt64
         packets := ← j.required "packets" Json.asInt64 }

def toJson (s : NetworkOffer) : Json :=
  .record [("bandwidth", .int s.bandwidth), ("packets", .int s.packets)]

end NetworkOffer

namespace VolumeSpec

def ofJson : Reader (VolumeSpec Reference) := fun j => do
  let j ← j.asStruct ["sizeGb", "skuRef", "sourceImageRef"] 0
  some { sizeGb := ← j.required "sizeGb" Json.asSize
         offer := ← j.required "skuRef" Reference.ofJson
         image := ← j.optional "sourceImageRef" Reference.ofJson }

def toJson (s : VolumeSpec Reference) : Json :=
  .record [("sizeGb", Json.nat s.sizeGb), ("skuRef", s.offer.toJson),
    ("sourceImageRef", Json.ofOption Reference.toJson s.image)]

end VolumeSpec

namespace VolumeFacts

def ofFields (j : Json) : Option (VolumeFacts Reference) := do
  some { sizeGb := ← j.withDefault "sizeGb" 0 Json.asSize
         offer := ← j.optional "skuRef" Reference.ofJson
         attachedTo := ← j.optional "attachedTo" Reference.ofJson }

def fields (s : VolumeFacts Reference) : List (String × Json) :=
  [("sizeGb", Json.nat s.sizeGb), ("skuRef", Json.ofOption Reference.toJson s.offer),
   ("attachedTo", Json.ofOption Reference.toJson s.attachedTo)]

end VolumeFacts

namespace WorkspaceFacts

def ofFields (j : Json) : Option WorkspaceFacts := do
  some { resourceCount := ← j.optional "resourceCount" Json.asSize }

end WorkspaceFacts

namespace Kind

def specOfJson : (k : Kind) → Reader (k.Spec Reference)
  | .volume => VolumeSpec.ofJson
  | .workspace => WorkspaceSpec.ofJson
  | .storageOffer => StorageOffer.ofJson
  | .networkOffer => NetworkOffer.ofJson

def specToJson : (k : Kind) → k.Spec Reference → Json
  | .volume, s => s.toJson
  | .workspace, s => s.toJson
  | .storageOffer, s => s.toJson
  | .networkOffer, s => s.toJson

def defaultSpec? : (k : Kind) → Option (k.Spec Reference)
  | .workspace => some ⟨∅⟩
  | .volume => none
  | .storageOffer => none
  | .networkOffer => none

def factsOfFields : (k : Kind) → Json → Option (k.Facts Reference)
  | .volume, j => VolumeFacts.ofFields j
  | .workspace, j => WorkspaceFacts.ofFields j
  | .storageOffer, _ => none
  | .networkOffer, _ => none

def factsFields : (k : Kind) → k.Facts Reference → List (String × Json)
  | .volume, s => s.fields
  | .workspace, s => [("resourceCount", Json.ofOption Json.nat s.resourceCount)]
  | .storageOffer, s => nomatch s
  | .networkOffer, s => nomatch s

/-- Offers have no status, whatever a record says. -/
def hasStatus : Kind → Bool
  | .volume | .workspace => true
  | .storageOffer | .networkOffer => false

end Kind

namespace Status

variable {k : Kind}

def ofJson : Reader (Status k State Reference) := fun j => do
  let j ← j.asRecord
  some { lifecycle := ← Lifecycle.ofFields j, facts := ← k.factsOfFields j }

def toJson (s : Status k State Reference) : Json :=
  .record (s.lifecycle.fields ++ k.factsFields s.facts)

end Status

namespace Resource

variable {k : Kind}

def readSpec (k : Kind) (j : Json) : Option (k.Spec Reference) :=
  match k.defaultSpec? with
  | some fallback => j.withDefault "spec" fallback k.specOfJson
  | none => j.required "spec" k.specOfJson

def ofJson (k : Kind) : Reader (Resource k) := fun j => do
  let j ← j.asStruct (["metadata", "spec"] ++ if k.hasStatus then ["status"] else []) 0
  some { metadata := ← j.required "metadata" Metadata.ofJson
         spec := ← readSpec k j
         status := ← if k.hasStatus then j.optional "status" Status.ofJson else some none }

def toJson (r : Resource k) : Json :=
  .record <|
    [("metadata", r.metadata.toJson), ("spec", k.specToJson r.spec)] ++
      if k.hasStatus then [("status", Json.ofOption Status.toJson r.status)] else []

end Resource

end Reconciler
