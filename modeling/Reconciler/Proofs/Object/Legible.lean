import Reconciler.Proofs.Object.Json

/-!
Objects that survive the trip through their record. What is legible is read back as it was
written, but for its times: those of the metadata are written to the second, and any of them comes
back as `Instant.settled` has it, that is as the second after where it was a leap second that does
not end its minute. A set of managed fields that is `null` is read back as none.
-/

set_option autoImplicit false

namespace Reconciler

namespace Instant

/-- Less than two seconds of a second, in a year that can be told. -/
structure Legible (t : Instant) : Prop where
  clocked : t.nanos < 2 * nanosPerSecond
  within : t.inRange = true

theorem Legible.ofJson_toJson {t : Instant} (legible : t.Legible) :
    ofJson t.toJson = some t.settled := by
  have written : t.toJson = t.settled.toJson := congrArg Json.text (toText_settled t).symm
  rw [written]
  simp [ofJson, toJson, Json.asText, Rfc3339.relaxed?_toText (shown_settled legible.clocked),
    legible.within]

theorem shown_truncate {t : Instant} (clocked : t.nanos < 2 * nanosPerSecond) :
    t.truncate.Shown := by
  obtain ⟨bound, leap⟩ := shown_settled clocked
  have early : t.truncate.nanos ≤ t.settled.nanos := Nat.div_mul_le_self _ _
  exact ⟨Nat.lt_of_le_of_lt early bound, fun late => leap (Nat.le_trans late early)⟩

theorem toSecondsText_eq (t : Instant) : t.toSecondsText = t.truncate.toText := by
  rw [← toSecondsText_settled]
  unfold truncate
  generalize t.settled = t
  have whole : t.nanos / nanosPerSecond * nanosPerSecond % nanosPerSecond = 0 :=
    Nat.mul_mod_left _ _
  have leap : t.nanos / nanosPerSecond * nanosPerSecond / nanosPerSecond =
      t.nanos / nanosPerSecond := Nat.mul_div_cancel _ (by decide)
  simp [toSecondsText, toText, localText, whole, leap, fractionText]

theorem Legible.ofJson_toSecondsText {t : Instant} (legible : t.Legible) :
    ofJson (.text t.toSecondsText) = some t.truncate := by
  have shown := shown_truncate legible.clocked
  have within : t.truncate.inRange = true := (inRange_settled t).trans legible.within
  rw [toSecondsText_eq]
  exact (Legible.ofJson_toJson ⟨shown.nanos_lt, within⟩).trans
    (congrArg some (settled_of_shown shown))

end Instant

namespace Json

variable {α β : Type} {name : String} {j : Json}

theorem asStruct_record (names : List String) (least : Nat) (fields : List (String × Json)) :
    asStruct names least (.record fields) = some (.record fields) := rfl

theorem asNat_nat {bits n : Nat} (fits : n < wordBound bits) : asNat bits (nat n) = some n := by
  have within : (0 : Int) ≤ n ∧ (n : Int) ≤ wordBound bits - 1 := by omega
  simp [asNat, nat, asIntBetween, within]

def FitsInt64 (n : Int) : Prop := -(wordBound 63) ≤ n ∧ n ≤ wordBound 63 - 1

theorem asInt64_int {n : Int} (fits : FitsInt64 n) : asInt64 (.int n) = some n := by
  simp only [asInt64, asIntBetween]
  exact if_pos fits

theorem optional_legible {read : Reader α} (write : α → Json) {a : Option α}
    (found : j.field? name = a.map write) (proper : ∀ x ∈ a, (write x).isNull = false)
    (reads : ∀ x ∈ a, read (write x) = some x) : j.optional name read = some a := by
  rw [optional_map write id found proper reads, Option.map_id, id_eq]

end Json

open Json (bind_eq_of_known)

namespace ManagedFields

def Legible (f : ManagedFields) : Prop := ∀ t ∈ f.time, t.Legible

def asWritten (f : ManagedFields) : ManagedFields :=
  { f with
    fieldsV1 := f.fieldsV1.filter (!·.isNull)
    time := f.time.map Instant.truncate }

theorem Legible.ofJson_toJson {f : ManagedFields} (legible : f.Legible) :
    ofJson f.toJson = some f.asWritten := by
  have apiVersion : f.toJson.optional "apiVersion" Json.asText = some f.apiVersion :=
    Json.optional_text (by simp [toJson])
  have fieldsType : f.toJson.optional "fieldsType" Json.asText = some f.fieldsType :=
    Json.optional_text (by simp [toJson])
  have fieldsV1 : f.toJson.optional "fieldsV1" some = some (f.fieldsV1.filter (!·.isNull)) := by
    have found : f.toJson.field? "fieldsV1" = f.fieldsV1 := by simp [toJson]
    rw [Json.optional, Json.withDefault, found]
    rcases f.fieldsV1 with _ | _ | _ <;> rfl
  have manager : f.toJson.optional "manager" Json.asText = some f.manager :=
    Json.optional_text (by simp [toJson])
  have operation : f.toJson.optional "operation" Json.asText = some f.operation :=
    Json.optional_text (by simp [toJson])
  have subresource : f.toJson.optional "subresource" Json.asText = some f.subresource :=
    Json.optional_text (by simp [toJson])
  have time : f.toJson.optional "time" Instant.ofJson = some (f.time.map Instant.truncate) :=
    Json.optional_map (fun t : Instant => .text t.toSecondsText) Instant.truncate
      (by simp [toJson]) (fun _ _ => rfl) fun t listed => (legible t listed).ofJson_toSecondsText
  have proper : f.toJson.asRecord = some f.toJson := rfl
  simp only [ofJson, proper, apiVersion, fieldsType, fieldsV1, manager, operation, subresource, time,
    Option.bind_eq_bind, Option.bind_some]
  rfl

end ManagedFields

namespace ObjectMeta

structure Legible (m : ObjectMeta) : Prop where
  created : ∀ t ∈ m.creationTimestamp, t.Legible
  deleted : ∀ t ∈ m.deletionTimestamp, t.Legible
  grace : ∀ n ∈ m.deletionGracePeriodSeconds, Json.FitsInt64 n
  generation : ∀ n ∈ m.generation, Json.FitsInt64 n
  managed : ∀ fs ∈ m.managedFields, ∀ f ∈ fs, f.Legible

/-- The metadata as its record tells it, with time stamps to the second. -/
def asWritten (m : ObjectMeta) : ObjectMeta :=
  { m with
    creationTimestamp := m.creationTimestamp.map Instant.truncate
    deletionTimestamp := m.deletionTimestamp.map Instant.truncate
    managedFields := m.managedFields.map fun fs => fs.map ManagedFields.asWritten }

theorem Legible.ofJson_toJson {m : ObjectMeta} (legible : m.Legible) :
    ofJson m.toJson = some m.asWritten := by
  obtain ⟨annotations, finalizers, generateName, labels, name, namespaceName, owners, version, uid⟩ :=
    m.tells_toJson
  have stamped {n : String} {t : Option Instant} (found : m.toJson.field? n =
      t.map fun t : Instant => .text t.toSecondsText) (legible : ∀ t' ∈ t, t'.Legible) :
      m.toJson.optional n Instant.ofJson = some (t.map Instant.truncate) :=
    Json.optional_map _ Instant.truncate found (fun _ _ => rfl) fun t' listed =>
      (legible t' listed).ofJson_toSecondsText
  have numbered {n : String} {i : Option Int} (found : m.toJson.field? n = i.map .int)
      (fits : ∀ x ∈ i, Json.FitsInt64 x) : m.toJson.optional n Json.asInt64 = some i :=
    Json.optional_legible _ found (fun _ _ => rfl) fun x listed => Json.asInt64_int (fits x listed)
  have created := stamped (n := "creationTimestamp") (by simp [toJson]) legible.created
  have deleted := stamped (n := "deletionTimestamp") (by simp [toJson]) legible.deleted
  have grace := numbered (n := "deletionGracePeriodSeconds") (by simp [toJson]) legible.grace
  have generation := numbered (n := "generation") (by simp [toJson]) legible.generation
  have managed : m.toJson.optional "managedFields" (Json.asList ManagedFields.ofJson) =
      some (m.managedFields.map fun fs => fs.map ManagedFields.asWritten) :=
    Json.optional_map (fun fs => .list (fs.map ManagedFields.toJson)) _ (by simp [toJson])
      (fun _ _ => rfl) fun fs listed => Json.asList_map_of _ _ fun f among =>
        (legible.managed fs listed f among).ofJson_toJson
  have selfLink : m.toJson.optional "selfLink" Json.asText = some m.selfLink :=
    Json.optional_text (by simp [toJson])
  have proper : m.toJson.asRecord = some m.toJson := rfl
  unfold ofJson
  generalize m.toJson = j at *
  rw [bind_eq_of_known proper, bind_eq_of_known annotations, bind_eq_of_known created,
    bind_eq_of_known grace, bind_eq_of_known deleted, bind_eq_of_known finalizers,
    bind_eq_of_known generateName, bind_eq_of_known generation, bind_eq_of_known labels,
    bind_eq_of_known managed, bind_eq_of_known name, bind_eq_of_known namespaceName,
    bind_eq_of_known owners, bind_eq_of_known version, bind_eq_of_known selfLink,
    bind_eq_of_known uid]
  rfl

end ObjectMeta

namespace Object

variable {k : Kind}

theorem conditionOfJson_of_legible {c : Condition String} (legible : c.since.Legible) :
    conditionOfJson (conditionToJson c) = some c.settled := by
  rw [conditionOfJson_toJson, legible.ofJson_toJson]
  rfl

def SpecFits : (k : Kind) → k.Spec String → Prop
  | .volume, s => s.sizeGb < wordBound 32
  | .workspace, _ => True
  | .storageOffer, s => Json.FitsInt64 s.iops ∧ Json.FitsInt64 s.minVolumeSize
  | .networkOffer, s => Json.FitsInt64 s.bandwidth ∧ Json.FitsInt64 s.packets

def FactsFit : (k : Kind) → k.Facts String → Prop
  | .volume, s => s.sizeGb < wordBound 32
  | .workspace, s => ∀ n ∈ s.resourceCount, n < wordBound 32
  | .storageOffer, _ | .networkOffer, _ => True

theorem specOfJson_toJson {s : k.Spec String} (fits : SpecFits k s) :
    specOfJson k (specToJson k s) = some s := by
  cases k with
  | volume =>
    have size : Json.asSize (Json.nat s.sizeGb) = some s.sizeGb := Json.asNat_nat fits
    change volumeSpecOfJson (volumeSpecToJson s) = some s
    rw [volumeSpecOfJson_toJson, size]
    rfl
  | workspace =>
    change (TextMap.ofJson (TextMap.toJson s.properties)).map WorkspaceSpec.mk = some s
    rw [TextMap.ofJson_toJson]
    rfl
  | storageOffer =>
    have proper : Json.asStruct ["iops", "minVolumeSize", "type"] 0 s.toJson = some s.toJson := rfl
    have iops : s.toJson.required "iops" Json.asInt64 = some s.iops := by
      simpa [StorageOffer.toJson, Json.required] using Json.asInt64_int fits.1
    have least : s.toJson.required "minVolumeSize" Json.asInt64 = some s.minVolumeSize := by
      simpa [StorageOffer.toJson, Json.required] using Json.asInt64_int fits.2
    have medium : s.toJson.required "type" Json.asText = some s.mediaType := by
      simp [StorageOffer.toJson, Json.required, Json.asText]
    change StorageOffer.ofJson s.toJson = some s
    unfold StorageOffer.ofJson
    rw [bind_eq_of_known proper, bind_eq_of_known iops, bind_eq_of_known least,
      bind_eq_of_known medium]
  | networkOffer =>
    have proper : Json.asStruct ["bandwidth", "packets"] 0 s.toJson = some s.toJson := rfl
    have bandwidth : s.toJson.required "bandwidth" Json.asInt64 = some s.bandwidth := by
      simpa [NetworkOffer.toJson, Json.required] using Json.asInt64_int fits.1
    have packets : s.toJson.required "packets" Json.asInt64 = some s.packets := by
      simpa [NetworkOffer.toJson, Json.required] using Json.asInt64_int fits.2
    change NetworkOffer.ofJson s.toJson = some s
    unfold NetworkOffer.ofJson
    rw [bind_eq_of_known proper, bind_eq_of_known bandwidth,
      bind_eq_of_known packets]

theorem factsOfFields_status {s : Status k String String} (fits : FactsFit k s.facts) :
    factsOfFields k (statusToJson s) = some s.facts := by
  obtain ⟨lifecycle, facts⟩ := s
  cases k with
  | volume =>
    have size : (statusToJson (k := .volume) ⟨lifecycle, facts⟩).withDefault "sizeGB" 0
        Json.asSize = some facts.sizeGb := by
      have read : Json.asSize (Json.nat facts.sizeGb) = some facts.sizeGb := Json.asNat_nat fits
      simp [statusToJson, lifecycleFields, factsFields, volumeFactsFields, Json.withDefault, read]
    have offer : (statusToJson (k := .volume) ⟨lifecycle, facts⟩).optional "skuRef"
        Json.asText = some facts.offer :=
      Json.optional_text (by simp [statusToJson, lifecycleFields, factsFields, volumeFactsFields])
    have attached : (statusToJson (k := .volume) ⟨lifecycle, facts⟩).optional "attachedTo"
        Json.asText = some facts.attachedTo :=
      Json.optional_text (by simp [statusToJson, lifecycleFields, factsFields, volumeFactsFields])
    change volumeFactsOfFields _ = some facts
    unfold volumeFactsOfFields
    rw [bind_eq_of_known size, bind_eq_of_known offer, bind_eq_of_known attached]
  | workspace =>
    have count : (statusToJson (k := .workspace) ⟨lifecycle, facts⟩).optional "resourceCount"
        Json.asSize = some facts.resourceCount :=
      Json.optional_legible Json.nat (by simp [statusToJson, lifecycleFields, factsFields])
        (fun _ _ => rfl) fun n told => Json.asNat_nat (fits n told)
    change WorkspaceFacts.ofFields _ = some facts
    unfold WorkspaceFacts.ofFields
    rw [bind_eq_of_known count]
  | storageOffer | networkOffer => cases facts

/-- A history that is read where another one was written. -/
theorem asList_conditions {conditions : List (Condition String)}
    (legible : ∀ c ∈ conditions, c.since.Legible) :
    Json.asList conditionOfJson (.list (conditions.map conditionToJson)) =
      some (conditions.map Condition.settled) :=
  Json.asList_map_of _ _ fun c among => conditionOfJson_of_legible (legible c among)

theorem lifecycleOfFields_status {s : Status k String String}
    (legible : ∀ c ∈ s.lifecycle.conditions, c.since.Legible) :
    lifecycleOfFields (statusToJson s) =
      some { s.lifecycle with conditions := s.lifecycle.conditions.map Condition.settled } := by
  have state : (statusToJson s).optional "state" Json.asText = some s.lifecycle.state :=
    Json.optional_text (by simp [statusToJson, lifecycleFields, field?_factsFields.1])
  have conditions : (statusToJson s).withDefault "conditions" [] (Json.asList conditionOfJson) =
      some (s.lifecycle.conditions.map Condition.settled) := by
    simp [statusToJson, lifecycleFields, field?_factsFields.2, Json.withDefault,
      asList_conditions legible]
  unfold lifecycleOfFields
  rw [bind_eq_of_known state, bind_eq_of_known conditions]

structure LegibleStatus (s : Status k String String) : Prop where
  history : ∀ c ∈ s.lifecycle.conditions, c.since.Legible
  facts : FactsFit k s.facts

def statusAsWritten (s : Status k String String) : Status k String String :=
  { s with lifecycle :=
    { s.lifecycle with conditions := s.lifecycle.conditions.map Condition.settled } }

theorem LegibleStatus.read {s : Status k String String} (legible : LegibleStatus s) :
    statusOfJson (statusToJson s) = some (statusAsWritten s) := by
  have proper : (statusToJson s).asRecord = some (statusToJson s) := rfl
  unfold statusOfJson
  rw [bind_eq_of_known proper, bind_eq_of_known (lifecycleOfFields_status legible.history),
    bind_eq_of_known (factsOfFields_status legible.facts)]
  rfl

structure Legible (o : Object k) : Prop where
  metadata : o.metadata.Legible
  spec : SpecFits k o.spec
  status : ∀ s ∈ o.status, LegibleStatus s

def asWritten (o : Object k) : Object k :=
  { o with metadata := o.metadata.asWritten, status := o.status.map statusAsWritten }

theorem status_of_offer (o : Object k) (offer : k.hasStatus = false) : o.status = none := by
  cases told : o.status with
  | none => rfl
  | some s =>
    cases k with
    | volume | workspace => cases offer
    | storageOffer | networkOffer => exact nomatch s.facts

theorem ofJson_of_fields {o : Object k} (legible : o.Legible) {fields : List (String × Json)}
    {status : Option (Status k String String)}
    (metadata : (Json.record fields).field? "metadata" = some o.metadata.toJson)
    (spec : (Json.record fields).field? "spec" = some (specToJson k o.spec))
    (observed : (if k.hasStatus then (Json.record fields).optional "status" statusOfJson
      else some none) = some status) :
    ofJson k (.record fields) = some { o with metadata := o.metadata.asWritten, status } := by
  have head : (Json.record fields).required "metadata" ObjectMeta.ofJson =
      some o.metadata.asWritten := by
    rw [Json.required, metadata, Option.bind_some, legible.metadata.ofJson_toJson]
  have body : (Json.record fields).required "spec" (specOfJson k) = some o.spec := by
    rw [Json.required, spec, Option.bind_some, specOfJson_toJson legible.spec]
  unfold ofJson
  dsimp only
  rw [bind_eq_of_known (Json.asStruct_record _ _ fields), bind_eq_of_known head,
    bind_eq_of_known body]
  cases kept : k.hasStatus with
  | true =>
    rw [kept, if_pos rfl] at observed
    rw [if_pos rfl, bind_eq_of_known observed]
  | false =>
    rw [kept, if_neg Bool.false_ne_true] at observed
    rw [if_neg Bool.false_ne_true, bind_eq_of_known observed]

theorem Legible.ofJson_toJson {o : Object k} (legible : o.Legible) :
    ofJson k o.toJson = some o.asWritten := by
  have status : (if k.hasStatus then o.toJson.optional "status" statusOfJson else some none) =
      some (o.status.map statusAsWritten) := by
    cases kept : k.hasStatus with
    | true =>
      exact Json.optional_map statusToJson statusAsWritten (by simp [toJson]) (fun _ _ => rfl)
        fun s told => (legible.status s told).read
    | false =>
      rw [o.status_of_offer kept, if_neg Bool.false_ne_true]
      rfl
  exact ofJson_of_fields legible (by simp) (by simp) status

end Object

end Reconciler
