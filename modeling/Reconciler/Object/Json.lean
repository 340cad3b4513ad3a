import Reconciler.Object
import Reconciler.Resource.Json
/-!
Stored objects as records. Absent values are left out, and the time stamps of the
metadata are written to the second.
-/

set_option autoImplicit false

namespace Reconciler

open Json (Reader)

namespace OwnerReference

def ofJson : Reader OwnerReference := fun j => do
  let j ← j.asRecord
  some { apiVersion := (← j.optional "apiVersion" Json.asText).getD ""
         blockOwnerDeletion := ← j.optional "blockOwnerDeletion" Json.asBool
         controller := ← j.optional "controller" Json.asBool
         kind := (← j.optional "kind" Json.asText).getD ""
         name := (← j.optional "name" Json.asText).getD ""
         uid := (← j.optional "uid" Json.asText).getD "" }

def toJson (o : OwnerReference) : Json :=
  .record <|
    [("apiVersion", .text o.apiVersion)] ++
    Json.present "blockOwnerDeletion" .bool o.blockOwnerDeletion ++
    Json.present "controller" .bool o.controller ++
    [("kind", .text o.kind), ("name", .text o.name), ("uid", .text o.uid)]

end OwnerReference

namespace ManagedFields

def ofJson : Reader ManagedFields := fun j => do
  let j ← j.asRecord
  some { apiVersion := ← j.optional "apiVersion" Json.asText
         fieldsType := ← j.optional "fieldsType" Json.asText
         fieldsV1 := ← j.optional "fieldsV1" some
         manager := ← j.optional "manager" Json.asText
         operation := ← j.optional "operation" Json.asText
         subresource := ← j.optional "subresource" Json.asText
         time := ← j.optional "time" Instant.ofJson }

def toJson (m : ManagedFields) : Json :=
  .record <|
    Json.present "apiVersion" .text m.apiVersion ++
    Json.present "fieldsType" .text m.fieldsType ++
    Json.present "fieldsV1" id m.fieldsV1 ++
    Json.present "manager" .text m.manager ++
    Json.present "operation" .text m.operation ++
    Json.present "subresource" .text m.subresource ++
    Json.present "time" (fun t : Instant => .text t.toSecondsText) m.time

end ManagedFields

namespace ObjectMeta

def ofJson : Reader ObjectMeta := fun j => do
  let j ← j.asRecord
  some { annotations := ← j.optional "annotations" TextMap.ofJson
         creationTimestamp := ← j.optional "creationTimestamp" Instant.ofJson
         deletionGracePeriodSeconds := ← j.optional "deletionGracePeriodSeconds" Json.asInt64
         deletionTimestamp := ← j.optional "deletionTimestamp" Instant.ofJson
         finalizers := ← j.optional "finalizers" (Json.asList Json.asText)
         generateName := ← j.optional "generateName" Json.asText
         generation := ← j.optional "generation" Json.asInt64
         labels := ← j.optional "labels" TextMap.ofJson
         managedFields := ← j.optional "managedFields" (Json.asList ManagedFields.ofJson)
         name := ← j.optional "name" Json.asText
         namespaceName := ← j.optional "namespace" Json.asText
         ownerReferences := ← j.optional "ownerReferences" (Json.asList OwnerReference.ofJson)
         resourceVersion := ← j.optional "resourceVersion" Json.asText
         selfLink := ← j.optional "selfLink" Json.asText
         uid := ← j.optional "uid" Json.asText }

def toJson (m : ObjectMeta) : Json :=
  let second (t : Instant) : Json := .text t.toSecondsText
  .record <|
    Json.present "annotations" TextMap.toJson m.annotations ++
    Json.present "creationTimestamp" second m.creationTimestamp ++
    Json.present "deletionGracePeriodSeconds" .int m.deletionGracePeriodSeconds ++
    Json.present "deletionTimestamp" second m.deletionTimestamp ++
    Json.present "finalizers" (fun fs => .list (fs.map .text)) m.finalizers ++
    Json.present "generateName" .text m.generateName ++
    Json.present "generation" .int m.generation ++
    Json.present "labels" TextMap.toJson m.labels ++
    Json.present "managedFields" (fun ms => .list (ms.map ManagedFields.toJson)) m.managedFields ++
    Json.present "name" .text m.name ++
    Json.present "namespace" .text m.namespaceName ++
    Json.present "ownerReferences" (fun os => .list (os.map OwnerReference.toJson))
      m.ownerReferences ++
    Json.present "resourceVersion" .text m.resourceVersion ++
    Json.present "selfLink" .text m.selfLink ++
    Json.present "uid" .text m.uid

end ObjectMeta

namespace Object

/-- A condition whose state is any text; reason and message may be missing. -/
def conditionOfJson : Reader (Condition String) := fun j => do
  let j ← j.asStruct ["state", "reason", "message", "lastTransitionAt"] 0
  some { state := ← j.required "state" Json.asText
         reason := ← j.withDefault "reason" "" Json.asText
         message := ← j.withDefault "message" "" Json.asText
         since := ← j.required "lastTransitionAt" Instant.ofJson }

def conditionToJson (c : Condition String) : Json :=
  .record [("state", .text c.state), ("reason", .text c.reason), ("message", .text c.message),
    ("lastTransitionAt", c.since.toJson)]

def lifecycleOfFields (j : Json) : Option (Lifecycle String) := do
  some { state := ← j.optional "state" Json.asText
         conditions := ← j.withDefault "conditions" [] (Json.asList conditionOfJson) }

def lifecycleOfJson : Reader (Lifecycle String) := fun j =>
  (j.asStruct ["state", "conditions"] 0).bind lifecycleOfFields

def lifecycleFields (l : Lifecycle String) : List (String × Json) :=
  Json.present "state" .text l.state ++
    [("conditions", .list (l.conditions.map conditionToJson))]

def volumeSpecOfJson : Reader (VolumeSpec String) := fun j => do
  let j ← j.asStruct ["sizeGB", "skuRef", "sourceImageRef"] 0
  some { sizeGb := ← j.required "sizeGB" Json.asSize
         offer := ← j.required "skuRef" Json.asText
         image := ← j.optional "sourceImageRef" Json.asText }

def volumeSpecToJson (s : VolumeSpec String) : Json :=
  .record <|
    [("sizeGB", Json.nat s.sizeGb), ("skuRef", .text s.offer)] ++
    Json.present "sourceImageRef" .text s.image

def volumeFactsOfFields (j : Json) : Option (VolumeFacts String) := do
  some { sizeGb := ← j.withDefault "sizeGB" 0 Json.asSize
         offer := ← j.optional "skuRef" Json.asText
         attachedTo := ← j.optional "attachedTo" Json.asText }

def volumeFactsFields (s : VolumeFacts String) : List (String × Json) :=
  [("sizeGB", Json.nat s.sizeGb)] ++ Json.present "skuRef" .text s.offer ++
    Json.present "attachedTo" .text s.attachedTo

def specOfJson : (k : Kind) → Reader (k.Spec String)
  | .volume => volumeSpecOfJson
  | .workspace => WorkspaceSpec.ofJson
  | .storageOffer => StorageOffer.ofJson
  | .networkOffer => NetworkOffer.ofJson

def specToJson : (k : Kind) → k.Spec String → Json
  | .volume, s => volumeSpecToJson s
  | .workspace, s => s.toJson
  | .storageOffer, s => s.toJson
  | .networkOffer, s => s.toJson

def factsOfFields : (k : Kind) → Json → Option (k.Facts String)
  | .volume, j => volumeFactsOfFields j
  | .workspace, j => WorkspaceFacts.ofFields j
  | .storageOffer, _ => none
  | .networkOffer, _ => none

def factsFields : (k : Kind) → k.Facts String → List (String × Json)
  | .volume, s => volumeFactsFields s
  | .workspace, s => Json.present "resourceCount" Json.nat s.resourceCount
  | .storageOffer, s => nomatch s
  | .networkOffer, s => nomatch s

variable {k : Kind}

def statusOfJson : Reader (Status k String String) := fun j => do
  let j ← j.asRecord
  some { lifecycle := ← lifecycleOfFields j, facts := ← factsOfFields k j }

def statusToJson (s : Status k String String) : Json :=
  .record (lifecycleFields s.lifecycle ++ factsFields k s.facts)

/-- Reads an object of a kind; what the record itself says about its kind does not count. -/
def ofJson (k : Kind) : Reader (Object k) := fun j => do
  let names := ["metadata", "spec"] ++ if k.hasStatus then ["status"] else []
  let j ← j.asStruct names names.length
  some { metadata := ← j.required "metadata" ObjectMeta.ofJson
         spec := ← j.required "spec" (specOfJson k)
         status := ← if k.hasStatus then j.optional "status" statusOfJson else some none }

def toJson (o : Object k) : Json :=
  .record <|
    [("apiVersion", .text k.apiVersion), ("kind", .text k.name),
     ("metadata", o.metadata.toJson), ("spec", specToJson k o.spec)] ++
    Json.present "status" statusToJson o.status

end Object

end Reconciler
