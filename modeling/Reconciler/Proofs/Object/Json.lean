import Reconciler.Cluster
import Reconciler.Proofs.Json
import Reconciler.Proofs.SortedMap
import Reconciler.Proofs.Time.Relaxed

/-!
Objects that are read back from their records. Whoever reads the metadata that was written
reads what clients say in it as it was meant.
-/

set_option autoImplicit false

namespace Reconciler

deriving instance DecidableEq for OwnerReference
deriving instance DecidableEq for ManagedFields
deriving instance DecidableEq for ObjectMeta
deriving instance DecidableEq for Object

theorem TextMap.ofJson_toJson (m : TextMap) : TextMap.ofJson (TextMap.toJson m) = some m := by
  unfold TextMap.ofJson TextMap.toJson
  rw [Json.asEntries_map Json.text fun _ => rfl]
  exact congrArg some (SortedMap.ofList_entries m)

theorem Instant.eq_of_ofJson {t t' : Instant} (shown : t.Shown)
    (read : ofJson t.toJson = some t') : t' = t := by
  simp only [ofJson, toJson, Json.asText, Option.bind_some,
    Rfc3339.relaxed?_toText shown, Option.ite_none_right_eq_some, Option.some.injEq] at read
  exact read.2.symm

theorem OwnerReference.ofJson_toJson (r : OwnerReference) :
    OwnerReference.ofJson r.toJson = some r := by
  have apiVersion : r.toJson.optional "apiVersion" Json.asText = some (some r.apiVersion) :=
    Json.optional_text (by simp [toJson])
  have block : r.toJson.optional "blockOwnerDeletion" Json.asBool = some r.blockOwnerDeletion :=
    Json.optional_of_written Json.bool (by simp [toJson]) fun _ => rfl
  have controller : r.toJson.optional "controller" Json.asBool = some r.controller :=
    Json.optional_of_written Json.bool (by simp [toJson]) fun _ => rfl
  have kind : r.toJson.optional "kind" Json.asText = some (some r.kind) :=
    Json.optional_text (by simp [toJson])
  have name : r.toJson.optional "name" Json.asText = some (some r.name) :=
    Json.optional_text (by simp [toJson])
  have uid : r.toJson.optional "uid" Json.asText = some (some r.uid) :=
    Json.optional_text (by simp [toJson])
  have proper : r.toJson.asRecord = some r.toJson := rfl
  simp only [ofJson, proper, apiVersion, block, controller, kind, name, uid, Option.bind_eq_bind,
    Option.bind_some, Option.getD_some]

namespace ObjectMeta

/-- Metadata that was read from the record of other metadata. What only the server says may have
been written coarsely; the rest is as it was. -/
structure Reread (m m' : ObjectMeta) : Prop where
  annotations : m'.annotations = m.annotations
  finalizers : m'.finalizers = m.finalizers
  generateName : m'.generateName = m.generateName
  labels : m'.labels = m.labels
  name : m'.name = m.name
  namespaceName : m'.namespaceName = m.namespaceName
  ownerReferences : m'.ownerReferences = m.ownerReferences
  resourceVersion : m'.resourceVersion = m.resourceVersion
  uid : m'.uid = m.uid

structure Tells (m : ObjectMeta) (j : Json) : Prop where
  annotations : j.optional "annotations" TextMap.ofJson = some m.annotations
  finalizers : j.optional "finalizers" (Json.asList Json.asText) = some m.finalizers
  generateName : j.optional "generateName" Json.asText = some m.generateName
  labels : j.optional "labels" TextMap.ofJson = some m.labels
  name : j.optional "name" Json.asText = some m.name
  namespaceName : j.optional "namespace" Json.asText = some m.namespaceName
  owners : j.optional "ownerReferences" (Json.asList OwnerReference.ofJson) =
    some m.ownerReferences
  version : j.optional "resourceVersion" Json.asText = some m.resourceVersion
  uid : j.optional "uid" Json.asText = some m.uid

theorem tells_toJson (m : ObjectMeta) : m.Tells m.toJson where
  annotations := Json.optional_of_written TextMap.toJson (by simp [toJson]) fun a =>
    congrArg (Option.map some) (TextMap.ofJson_toJson a)
  finalizers := Json.optional_list Json.text (by simp [toJson]) fun _ => rfl
  generateName := Json.optional_text (by simp [toJson])
  labels := Json.optional_of_written TextMap.toJson (by simp [toJson]) fun a =>
    congrArg (Option.map some) (TextMap.ofJson_toJson a)
  name := Json.optional_text (by simp [toJson])
  namespaceName := Json.optional_text (by simp [toJson])
  owners := Json.optional_list OwnerReference.toJson (by simp [toJson]) OwnerReference.ofJson_toJson
  version := Json.optional_text (by simp [toJson])
  uid := Json.optional_text (by simp [toJson])

theorem reread_of_toJson {m m' : ObjectMeta} (read : ofJson m.toJson = some m') : m.Reread m' := by
  obtain ⟨annotations, finalizers, generateName, labels, name, namespaceName, owners, version, uid⟩ :=
    m.tells_toJson
  have proper : m.toJson.asRecord = some m.toJson := rfl
  unfold ofJson at read
  generalize m.toJson = j at *
  replace read := Json.bind_of_known read proper
  replace read := Json.bind_of_known read annotations
  obtain ⟨_, read⟩ := Json.bind_of_some read
  obtain ⟨_, read⟩ := Json.bind_of_some read
  obtain ⟨_, read⟩ := Json.bind_of_some read
  replace read := Json.bind_of_known read finalizers
  replace read := Json.bind_of_known read generateName
  obtain ⟨_, read⟩ := Json.bind_of_some read
  replace read := Json.bind_of_known read labels
  obtain ⟨_, read⟩ := Json.bind_of_some read
  replace read := Json.bind_of_known read name
  replace read := Json.bind_of_known read namespaceName
  replace read := Json.bind_of_known read owners
  replace read := Json.bind_of_known read version
  obtain ⟨_, read⟩ := Json.bind_of_some read
  replace read := Json.bind_of_known read uid
  cases read
  constructor <;> rfl

end ObjectMeta

namespace Object

variable {k : Kind}

theorem toJson_metadata (o : Object k) :
    o.toJson.required "metadata" ObjectMeta.ofJson = ObjectMeta.ofJson o.metadata.toJson := by
  simp [Json.required, toJson]

theorem toJson_spec (o : Object k) : o.toJson.field? "spec" = some (specToJson k o.spec) := by
  simp [toJson]

theorem field?_factsFields {facts : k.Facts String} :
    (Json.record (factsFields k facts)).field? "state" = none ∧
      (Json.record (factsFields k facts)).field? "conditions" = none := by
  cases k with
  | volume => simp [factsFields, volumeFactsFields]
  | workspace => simp [factsFields]
  | storageOffer => exact nomatch facts
  | networkOffer => exact nomatch facts

theorem conditionOfJson_toJson (c : Condition String) : conditionOfJson (conditionToJson c) =
    (Instant.ofJson c.since.toJson).map fun since => { c with since } := by
  have proper : Json.asStruct ["state", "reason", "message", "lastTransitionAt"] 0
      (conditionToJson c) = some (conditionToJson c) := rfl
  have state : (conditionToJson c).required "state" Json.asText = some c.state := by
    simp [conditionToJson, Json.required, Json.asText]
  have reason : (conditionToJson c).withDefault "reason" "" Json.asText = some c.reason := by
    simp [conditionToJson, Json.withDefault, Json.asText]
  have message : (conditionToJson c).withDefault "message" "" Json.asText = some c.message := by
    simp [conditionToJson, Json.withDefault, Json.asText]
  have since : (conditionToJson c).required "lastTransitionAt" Instant.ofJson =
      Instant.ofJson c.since.toJson := by
    simp [conditionToJson, Json.required]
  unfold conditionOfJson
  rw [Json.bind_eq_of_known proper, Json.bind_eq_of_known state, Json.bind_eq_of_known reason,
    Json.bind_eq_of_known message, since]
  cases Instant.ofJson c.since.toJson <;> rfl

theorem eq_of_condition {c c' : Condition String} (shown : c.since.Shown)
    (read : conditionOfJson (conditionToJson c) = some c') : c' = c := by
  rw [conditionOfJson_toJson] at read
  obtain ⟨t, stamped, rfl⟩ := Option.map_eq_some_iff.mp read
  rw [Instant.eq_of_ofJson shown stamped]

theorem volumeSpecOfJson_toJson (s : VolumeSpec String) : volumeSpecOfJson (volumeSpecToJson s) =
    (Json.asSize (Json.nat s.sizeGb)).map fun sizeGb => { s with sizeGb } := by
  have proper : Json.asStruct ["sizeGB", "skuRef", "sourceImageRef"] 0 (volumeSpecToJson s) =
      some (volumeSpecToJson s) := rfl
  have size : (volumeSpecToJson s).required "sizeGB" Json.asSize =
      Json.asSize (Json.nat s.sizeGb) := by
    simp [volumeSpecToJson, Json.required]
  have offer : (volumeSpecToJson s).required "skuRef" Json.asText = some s.offer := by
    simp [volumeSpecToJson, Json.required, Json.asText]
  have image : (volumeSpecToJson s).optional "sourceImageRef" Json.asText = some s.image :=
    Json.optional_text (by simp [volumeSpecToJson])
  unfold volumeSpecOfJson
  rw [Json.bind_eq_of_known proper, size]
  cases Json.asSize (Json.nat s.sizeGb) with
  | none => rfl
  | some n =>
    rw [Json.bind_eq_of_known rfl, Json.bind_eq_of_known offer, Json.bind_eq_of_known image]
    rfl

theorem eq_of_volumeSpec {a b : VolumeSpec String}
    (read : volumeSpecOfJson (volumeSpecToJson a) = some b) : b = a := by
  rw [volumeSpecOfJson_toJson] at read
  obtain ⟨n, sized, rfl⟩ := Option.map_eq_some_iff.mp read
  rw [Json.eq_of_asNat sized]

theorem eq_of_workspaceSpec {a b : WorkspaceSpec}
    (read : WorkspaceSpec.ofJson a.toJson = some b) : b = a := by
  unfold WorkspaceSpec.ofJson WorkspaceSpec.toJson at read
  rw [TextMap.ofJson_toJson] at read
  exact (Option.some.inj read).symm

theorem eq_of_spec (reconciled : k.hasStatus = true) {a b : k.Spec String}
    (read : specOfJson k (specToJson k a) = some b) : b = a := by
  cases k with
  | volume => exact eq_of_volumeSpec read
  | workspace => exact eq_of_workspaceSpec read
  | storageOffer => cases reconciled
  | networkOffer => cases reconciled

end Object

end Reconciler
