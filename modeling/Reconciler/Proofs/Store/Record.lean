import Reconciler.Json.Patch
import Reconciler.Proofs.Cluster.Exchange
import Reconciler.Proofs.Object.Legible
import Reconciler.Proofs.Store.Versions

/-!
Recording a condition. The history of an object is the list in its record, and an object whose
record has a longer one is the same otherwise, but for the fractions of seconds in its metadata.
What is recorded in memory is what is sent to a server that has the object.
-/

set_option autoImplicit false

namespace Reconciler

variable {k : Kind}

theorem Condition.map_settled {conditions : List (Condition String)}
    (shown : ∀ c ∈ conditions, c.since.Shown) : conditions.map Condition.settled = conditions := by
  refine (List.map_congr_left fun c listed => ?_).trans (List.map_id _)
  unfold Condition.settled
  rw [Instant.settled_of_shown (shown c listed)]
  rfl

namespace Json

/-- The history that the record of an object tells, none where there is nothing. -/
def history? (j : Json) : Option (List (Condition String)) :=
  match j.follow ["status", "conditions"] with
  | some told => if told.isNull then some [] else asList Object.conditionOfJson told
  | none => some []

def withHistory (history : Json) (root : List (String × Json)) : List (String × Json) :=
  match (record root).field? "status" with
  | some (.record status) =>
    setField "status" (.record (setField "conditions" history status)) root
  | _ => setField "status" (.record [("conditions", history)]) root

end Json

namespace Object

def historyToJson (conditions : List (Condition String)) : Json :=
  .list (conditions.map conditionToJson)

/-- Appends a condition by way of the record, which is written, edited and read again; the inner
value is absent where the last condition says the same already. -/
def editHistory? (o : Object k) (c : Condition String) : Option (Option (Object k)) := do
  let conditions ← o.toJson.history?
  if conditions.getLast?.any (·.repeats c) then some none
  else do
    let edited := Json.withHistory (historyToJson (conditions ++ [c])) o.toJson.fields
    let read ← ofJson k (.record edited)
    some (some read)

variable {o : Object k} {conditions : List (Condition String)}

theorem field?_status (o : Object k) : o.toJson.field? "status" = o.status.map statusToJson := by
  simp [toJson]

theorem field?_conditions (s : Status k String String) :
    (statusToJson s).field? "conditions" = some (historyToJson s.lifecycle.conditions) := by
  simp [statusToJson, lifecycleFields, field?_factsFields.2, historyToJson]

@[simp] theorem conditionToJson_settled (c : Condition String) :
    conditionToJson c.settled = conditionToJson c := by
  have since : c.settled.since.toJson = c.since.toJson :=
    congrArg Json.text (Instant.toText_settled c.since)
  unfold conditionToJson
  rw [since]
  rfl

theorem historyToJson_settled (conditions later : List (Condition String)) :
    historyToJson (conditions.map Condition.settled ++ later) =
      historyToJson (conditions ++ later) := by
  simp [historyToJson, Function.comp_def]

theorem Legible.history?_toJson (legible : o.Legible) :
    o.toJson.history? = some (o.conditions.map Condition.settled) := by
  have path : o.toJson.follow ["status", "conditions"] =
      (o.toJson.field? "status").bind fun j => j.follow ["conditions"] := rfl
  unfold Json.history? Object.conditions
  rw [path, o.field?_status]
  cases told : o.status with
  | none => rfl
  | some s =>
    have step : (statusToJson s).follow ["conditions"] =
        ((statusToJson s).field? "conditions").bind some := rfl
    rw [Option.map_some, Option.bind_some, step, field?_conditions]
    exact asList_conditions (legible.status s told).history

theorem setField_conditions (s : Status k String String) (conditions : List (Condition String)) :
    Json.setField "conditions" (historyToJson conditions) (statusToJson s).fields =
      (statusToJson { s with lifecycle := { s.lifecycle with conditions } }).fields := by
  obtain ⟨⟨state, history⟩, facts⟩ := s
  cases state <;> rfl

theorem withHistory_of_status {s : Status k String String} (told : o.status = some s)
    (conditions : List (Condition String)) :
    Json.withHistory (historyToJson conditions) o.toJson.fields =
      ({ o with status := some { s with lifecycle := { s.lifecycle with conditions } } } :
        Object k).toJson.fields := by
  have found : (Json.record o.toJson.fields).field? "status" = some (statusToJson s) := by
    change o.toJson.field? "status" = _
    rw [field?_status, told, Option.map_some]
  have status : statusToJson s = .record (statusToJson s).fields := rfl
  rw [status] at found
  unfold Json.withHistory
  rw [found]
  dsimp only
  rw [setField_conditions]
  simp [toJson, told, Json.fields, Json.present, Json.setField, statusToJson]

theorem statusOfJson_history (reconciled : k.hasStatus = true)
    (told : ∀ c ∈ conditions, c.since.Legible) :
    statusOfJson (.record [("conditions", historyToJson conditions)]) =
      k.noFacts?.map fun facts =>
        (⟨⟨none, conditions.map Condition.settled⟩, facts⟩ : Status k String String) := by
  have read : Json.asList conditionOfJson (historyToJson conditions) =
      some (conditions.map Condition.settled) := asList_conditions told
  have lifecycle : lifecycleOfFields (.record [("conditions", historyToJson conditions)]) =
      some ⟨none, conditions.map Condition.settled⟩ := by
    simp [lifecycleOfFields, Json.optional, Json.withDefault, read]
  have proper : (Json.record [("conditions", historyToJson conditions)]).asRecord =
      some (.record [("conditions", historyToJson conditions)]) := rfl
  unfold statusOfJson
  rw [Json.bind_eq_of_known proper, Json.bind_eq_of_known lifecycle]
  cases k with
  | volume =>
    simp [factsOfFields, volumeFactsOfFields, Json.optional, Json.withDefault, Kind.noFacts?,
      VolumeFacts.none]
  | workspace =>
    simp [factsOfFields, WorkspaceFacts.ofFields, Json.optional, Json.withDefault, Kind.noFacts?]
  | storageOffer | networkOffer => cases reconciled

theorem withHistory_of_none (unobserved : o.status = none) (history : Json) :
    Json.withHistory history o.toJson.fields =
      o.toJson.fields ++ [("status", .record [("conditions", history)])] := by
  have found : (Json.record o.toJson.fields).field? "status" = none := by
    change o.toJson.field? "status" = _
    rw [field?_status, unobserved, Option.map_none]
  unfold Json.withHistory
  rw [found]
  simp [toJson, unobserved, Json.fields, Json.present, Json.setField]

theorem Legible.ofJson_withHistory (legible : o.Legible) (reconciled : k.hasStatus = true)
    (told : ∀ c ∈ conditions, c.since.Legible) :
    ofJson k (.record (Json.withHistory (historyToJson conditions) o.toJson.fields)) =
      some (MemoryStore.withConditions o conditions) := by
  cases observed : o.status with
  | some s =>
    have kept : LegibleStatus { s with lifecycle := { s.lifecycle with conditions } } :=
      ⟨told, (legible.status s observed).facts⟩
    have legible' : Legible ({ o with
        status := some { s with lifecycle := { s.lifecycle with conditions } } } : Object k) :=
      ⟨legible.metadata, legible.spec, by rintro _ ⟨⟩; exact kept⟩
    rw [withHistory_of_status observed]
    refine legible'.ofJson_toJson.trans ?_
    unfold MemoryStore.withConditions
    rw [observed]
    rfl
  | none =>
    have metadata : (Json.record (o.toJson.fields ++
        [("status", .record [("conditions", historyToJson conditions)])])).field? "metadata" =
          some o.metadata.toJson := by
      simp [toJson, Json.fields]
    have spec : (Json.record (o.toJson.fields ++
        [("status", .record [("conditions", historyToJson conditions)])])).field? "spec" =
          some (specToJson k o.spec) := by
      simp [toJson, Json.fields]
    have status : (if k.hasStatus then (Json.record (o.toJson.fields ++
        [("status", .record [("conditions", historyToJson conditions)])])).optional "status"
          statusOfJson else some none) =
        some (k.noFacts?.map fun facts =>
          (⟨⟨none, conditions.map Condition.settled⟩, facts⟩ : Status k String String)) := by
      have found : (Json.record (o.toJson.fields ++
          [("status", .record [("conditions", historyToJson conditions)])])).field? "status" =
            some (.record [("conditions", historyToJson conditions)]) := by simp
      rw [if_pos reconciled, Json.optional, Json.withDefault, found]
      dsimp only
      rw [Json.asOption_of_ne_null rfl, statusOfJson_history reconciled told]
      cases k with
      | volume | workspace => rfl
      | storageOffer | networkOffer => cases reconciled
    rw [withHistory_of_none observed]
    refine (ofJson_of_fields legible metadata spec status).trans ?_
    unfold MemoryStore.withConditions
    rw [observed]
    rfl

theorem conditionsWith?_eq (o : Object k) (c : Condition String) : o.conditionsWith? c =
    if o.conditions.getLast?.any (·.repeats c) then none else some (o.conditions ++ [c]) := by
  unfold conditionsWith?
  cases o.conditions.getLast? <;> rfl

theorem Legible.editHistory?_eq (legible : o.Legible) (reconciled : k.hasStatus = true)
    {c : Condition String} (told : c.since.Legible) :
    o.editHistory? c = some ((o.conditionsWith? c).map (MemoryStore.withConditions o)) := by
  have known : ∀ c ∈ o.conditions, c.since.Legible := by
    intro c among
    unfold Object.conditions at among
    cases observed : o.status with
    | none =>
      rw [observed] at among
      cases among
    | some s =>
      rw [observed] at among
      exact (legible.status s observed).history c among
  have longer : ∀ x ∈ o.conditions ++ [c], x.since.Legible :=
    List.forall_mem_append.mpr ⟨known, List.forall_mem_singleton.mpr told⟩
  have last : (o.conditions.map Condition.settled).getLast?.any (·.repeats c) =
      o.conditions.getLast?.any (·.repeats c) := by
    rw [List.getLast?_map, Option.any_map]
    rfl
  unfold editHistory?
  rw [Json.bind_eq_of_known legible.history?_toJson, conditionsWith?_eq, last,
    historyToJson_settled]
  cases o.conditions.getLast?.any (·.repeats c) with
  | true => rfl
  | false =>
    simp only [Bool.false_eq_true, if_false]
    rw [Json.bind_eq_of_known (legible.ofJson_withHistory reconciled longer)]
    rfl

/-- The last condition says the same, whatever its time. -/
def Repeats (o : Object k) (c : Condition String) : Prop :=
  ∃ last, o.conditions.getLast? = some last ∧ last.state = c.state ∧ last.reason = c.reason ∧
    last.message = c.message

theorem repeats_iff {c : Condition String} :
    o.Repeats c ↔ o.conditions.getLast?.any (·.repeats c) = true := by
  unfold Repeats
  cases o.conditions.getLast? with
  | none => simp
  | some last => simp [Condition.repeats, and_assoc]

theorem conditionsWith?_of_repeats {c : Condition String} (repeats : o.Repeats c) :
    o.conditionsWith? c = none := by
  rw [conditionsWith?_eq, if_pos (repeats_iff.mp repeats)]

theorem conditionsWith?_of_new {c : Condition String} (new : ¬ o.Repeats c) :
    o.conditionsWith? c = some (o.conditions ++ [c]) := by
  rw [conditionsWith?_eq, if_neg fun repeats => new (repeats_iff.mpr repeats)]

/-- An object with a condition more, in whose history every time is the one that its written form
names. The rest of its status, its desired state and its metadata are as they were, but for the
version and the fractions of seconds. -/
structure Extended (o : Object k) (c : Condition String) (o' : Object k) : Prop where
  conditions : o'.conditions = (o.conditions ++ [c]).map Condition.settled
  state : o'.status.bind (·.lifecycle.state) = o.status.bind (·.lifecycle.state)
  facts : o'.status.map (·.facts) = (o.status.map (·.facts)).or k.noFacts?
  spec : o'.spec = o.spec
  metadata : o'.metadata = { o.metadata.asWritten with resourceVersion := o'.version }

theorem extended_withConditions (reconciled : k.hasStatus = true) (o : Object k)
    (c : Condition String) (version : Option String) :
    Extended o c
      ((MemoryStore.withConditions o (o.conditions ++ [c])).setVersion version) := by
  have observable : ∃ facts, (k.noFacts? : Option (k.Facts String)) = some facts := by
    cases k with
    | volume | workspace => exact ⟨_, rfl⟩
    | storageOffer | networkOffer => cases reconciled
  obtain ⟨facts, fresh⟩ := observable
  refine ⟨?_, ?_, ?_, rfl, rfl⟩ <;>
    simp only [setVersion, MemoryStore.withConditions, Object.conditions] <;>
      cases o.status <;> simp [fresh]

end Object

namespace Cluster

variable {key : ObjectKey} {ns : String} {o : Object k} {c : Condition String} {r : ApiRequest}
  {reply : ApiRequest → ApiReply}

/-- A server sends an object when it is asked for a key. -/
structure Sends (reply : ApiRequest → ApiReply) (key : ObjectKey) (ns : String) (r : ApiRequest)
    (o : Object k) : Prop where
  home : key.namespaceName = some ns
  asked : request .get (itemTarget k ns key) none = some r
  told : (reply r).read (Object.ofJson k) = .ok o

def historyPatch (ns : String) (key : ObjectKey) (o : Object k)
    (conditions : List (Condition String)) : Option ApiRequest :=
  request .patch (itemTarget k ns key ++ "/status?") (patchBody (.record
    [versionGuard o.version, ("status", .record [("conditions", Object.historyToJson conditions)])]))

theorem historyPatch_settled (ns : String) (key : ObjectKey) (o : Object k)
    (conditions : List (Condition String)) :
    historyPatch ns key o (conditions.map Condition.settled) = historyPatch ns key o conditions := by
  have same := Object.historyToJson_settled conditions []
  rw [List.append_nil, List.append_nil] at same
  unfold historyPatch
  rw [same]

theorem run_record (sends : Sends reply key ns r o) :
    (record k key c).run.run (noting reply) [] =
      (match o.conditionsWith? c with
        | none => pure false
        | some conditions =>
          perform (k := k) key (Object.ofJson k) (historyPatch ns key o conditions) >>=
            fun _ => pure true : Work Bool).run.run (noting reply) [r] := by
  have home : requireNamespace k key = pure ns := by
    rw [requireNamespace, sends.home]
  have begins {α : Type} (next : String → Work α) : (pure ns >>= next) = next ns := rfl
  unfold record
  rw [home, begins, fetch, sends.asked, run_perform_of_read sends.told]
  cases o.conditionsWith? c <;> rfl

theorem record_of_repeats (sends : Sends reply key ns r o) (repeats : o.Repeats c) :
    (record k key c).outcome reply = .ok false ∧ (record k key c).requests reply = [r] := by
  have run := run_record (c := c) sends
  rw [Object.conditionsWith?_of_repeats repeats] at run
  unfold Work.outcome Work.requests
  rw [run]
  exact ⟨rfl, rfl⟩

theorem requests_record_of_new (sends : Sends reply key ns r o) (new : ¬ o.Repeats c) :
    (record k key c).requests reply =
      r :: (historyPatch ns key o (o.conditions ++ [c])).toList := by
  unfold Work.requests
  rw [run_record sends, Object.conditionsWith?_of_new new]
  exact requests_perform _ _

end Cluster

namespace MemoryStore

open Cluster (Sends historyPatch)

/-- Recording a condition that the history does not end with appends it and changes nothing else
of the object but its version; one that it ends with changes nothing at all. A time that no written
form names becomes the one that its own names, so that a history of others is kept as it was.
Writing the record, editing and reading it comes to the same, and the history that a server of the
same object is sent is the one that is stored. -/
theorem record_extends_history (reconciled : k.hasStatus = true) {s : MemoryStore k}
    (sound : s.Sound) {key : ObjectKey} {o : Object k} (stored : s.objects.get? key = some o)
    (legible : o.Legible) {c : Condition String} (told : c.since.Legible) {ctx : Context}
    {clock : Moment} (live : ctx.check clock = .ok ()) (now : Instant) :
    (o.Repeats c →
      s.performUnder ctx clock now (.record key c) = (.ok false, s) ∧
      o.editHistory? c = some none ∧
      ∀ {reply : ApiRequest → ApiReply} {ns : String} {r : ApiRequest}, Sends reply key ns r o →
        (Cluster.record k key c).outcome reply = .ok false ∧
        (Cluster.record k key c).requests reply = [r]) ∧
    (¬ o.Repeats c →
      ∃ o' : Object k,
        s.performUnder ctx clock now (.record key c) = (.ok true,
          { objects := s.objects.insert key o', lastVersion := s.lastVersion + 1 }) ∧
        Object.Extended o c o' ∧
        ((∀ d ∈ o.conditions ++ [c], d.since.Shown) → o'.conditions = o.conditions ++ [c]) ∧
        (∀ key₁ o₁, s.objects.get? key₁ = some o₁ → o₁.version ≠ o'.version) ∧
        (o.editHistory? c).map (fun edited => edited.map (·.setVersion o'.version)) =
          some (some o') ∧
        ∀ {reply : ApiRequest → ApiReply} {ns : String} {r : ApiRequest}, Sends reply key ns r o →
          (Cluster.record k key c).requests reply =
            r :: (historyPatch ns key o o'.conditions).toList) := by
  have edits := legible.editHistory?_eq reconciled told
  rw [performUnder_of_live now s _ live, perform]
  constructor
  · intro repeats
    have unchanged : s.record key c = .ok (false, s) :=
      record_eq_ok.mpr ⟨o, stored, .inl ⟨Object.conditionsWith?_of_repeats repeats, rfl, rfl⟩⟩
    rw [Object.conditionsWith?_of_repeats repeats] at edits
    rw [unchanged]
    exact ⟨rfl, edits, fun sends => Cluster.record_of_repeats sends repeats⟩
  · intro new
    have appended := record_eq_ok.mpr
      ⟨o, stored, .inr ⟨_, Object.conditionsWith?_of_new new, rfl, rfl⟩⟩
    have extended := Object.extended_withConditions reconciled o c
      (some (natText (s.lastVersion + 1)))
    rw [Object.conditionsWith?_of_new new] at edits
    rw [appended]
    refine ⟨_, rfl, extended, ?_, ?_, ?_, ?_⟩
    · intro shown
      rw [extended.conditions]
      exact Condition.map_settled shown
    · intro key₁ o₁ listed same
      obtain ⟨n, version, -, bound⟩ := sound.versioned listed
      rw [version, Object.version_setVersion, Option.some.injEq, natText_inj] at same
      omega
    · rw [edits]
      rfl
    · intro reply ns r sends
      rw [Cluster.requests_record_of_new sends new, extended.conditions, Cluster.historyPatch_settled]

def toldAt (t : Instant) (state : String) : Condition String :=
  { state, reason := "Told", message := "", since := t }

def volumeActiveSince (t : Instant) : Object .volume :=
  { Object.plainVolume with
    status := some ⟨⟨some "active", [toldAt t "active"]⟩, ⟨10, none, none⟩⟩ }

/-- The store in which it was created half a minute after 1970 began. -/
def storeActiveSince (t : Instant) : MemoryStore .volume :=
  .afterAll .empty [.call .unbounded .zero ⟨30, 5⟩ (.create (volumeActiveSince t))]

def storedVolume : Object .volume :=
  { volumeActiveSince ⟨60, 0⟩ with
    metadata :=
      { (volumeActiveSince ⟨60, 0⟩).metadata with
        resourceVersion := some "1"
        creationTimestamp := some ⟨30, 5⟩ } }

theorem get?_storeActiveSince :
    (storeActiveSince ⟨60, 0⟩).objects.get? ⟨some "a", "v"⟩ = some storedVolume := by
  rfl

theorem legible_storedVolume : storedVolume.Legible where
  metadata :=
    { created := by rintro t ⟨⟩; exact ⟨by decide, by decide⟩
      deleted := nofun
      grace := nofun
      generation := nofun
      managed := nofun }
  spec := show 10 < wordBound 32 by decide
  status := by
    rintro s ⟨⟩
    refine ⟨List.forall_mem_singleton.mpr ⟨by decide, by decide⟩, ?_⟩
    exact show 10 < wordBound 32 by decide

/-- The stored volume as a server sends it. The text is made of parts, since long ones are slow to
evaluate. -/
def storedLetters : List Char :=
  ["\x7b\"metadata\":\x7b\"name\":\"v\",\"namespace\":\"a\",", "\"resourceVersion\":\"1\",",
    "\"labels\":\x7b\"internal/tenant\":\"a\"\x7d,",
    "\"creationTimestamp\":", "\"1970-01-01T00:00:30.000000005Z\"\x7d,",
    "\"spec\":\x7b\"sizeGB\":10,\"skuRef\":\"offers/small\"\x7d,",
    "\"status\":\x7b\"state\":\"active\",\"sizeGB\":10,\"conditions\":[",
    "\x7b\"state\":\"active\",\"reason\":\"Told\",",
    "\"lastTransitionAt\":\"1970-01-01T00:01:00Z\"\x7d]\x7d\x7d"].flatMap String.toList

def storedReply : ApiReply := .answered 200 (.ofList storedLetters)

theorem exists_sends_storedReply :
    ∃ r, Sends (fun _ => storedReply) ⟨some "a", "v"⟩ "a" r storedVolume := by
  have placed : (Address.ofText? (Cluster.itemTarget .volume "a" ⟨some "a", "v"⟩)).isSome = true := by
    decide +kernel
  obtain ⟨r, sent⟩ := Cluster.exists_request placed
  refine ⟨r, rfl, sent, ApiReply.read_answered ?_⟩
  rw [Json.parse?, String.toList_ofList]
  decide +kernel

/-- That the volume is active is not recorded again, but that it is to go is, in memory and on a
server. -/
theorem deletion_recorded :
    let key : ObjectKey := ⟨some "a", "v"⟩
    let s := storeActiveSince ⟨60, 0⟩
    let again := toldAt ⟨90, 0⟩ "active"
    let next := toldAt ⟨90, 0⟩ "deleting"
    s.performUnder .unbounded .zero default (.record key again) = (.ok false, s) ∧
    (∃ o s', s.performUnder .unbounded .zero default (.record key next) = (.ok true, s') ∧
      s'.objects.get? key = some o ∧
      o.conditions = [toldAt ⟨60, 0⟩ "active", next] ∧
      o.metadata.creationTimestamp = some ⟨30, 0⟩) ∧
    ∃ r, (Cluster.record .volume key again).requests (fun _ => storedReply) = [r] ∧
      (Cluster.record .volume key next).requests (fun _ => storedReply) =
        r :: (historyPatch "a" key storedVolume [toldAt ⟨60, 0⟩ "active", next]).toList := by
  intro key s again next
  have sound : s.Sound := sound_empty.afterAll _
  have stored : s.objects.get? key = some storedVolume := get?_storeActiveSince
  have legible : (⟨90, 0⟩ : Instant).Legible := ⟨by decide, by decide⟩
  have live : Context.unbounded.check .zero = .ok () := rfl
  have repeats : storedVolume.Repeats again := ⟨_, rfl, rfl, rfl, rfl⟩
  have new : ¬ storedVolume.Repeats next := by
    rintro ⟨last, ⟨⟩, same, -⟩
    exact absurd same (by decide)
  obtain ⟨r, sends⟩ := exists_sends_storedReply
  have unchanged := (record_extends_history rfl sound stored legible_storedVolume (c := again)
    legible live default).1 repeats
  obtain ⟨o, recorded, extended, kept, -, -, patched⟩ := (record_extends_history rfl sound stored
    legible_storedVolume (c := next) legible live default).2 new
  have conditions : o.conditions = [toldAt ⟨60, 0⟩ "active", next] := by
    refine kept fun d among => ?_
    have times : d.since.nanos = 0 := by
      simp [storedVolume, volumeActiveSince, Object.conditions, toldAt, next] at among
      rcases among with rfl | rfl <;> rfl
    refine ⟨by rw [times]; decide, fun late => ?_⟩
    rw [times] at late
    exact absurd late (by decide)
  refine ⟨unchanged.1, ⟨o, _, recorded, SortedMap.get?_insert_self _ _ _, conditions, ?_⟩, r,
    (unchanged.2.2 sends).2, ?_⟩
  · rw [extended.metadata]
    rfl
  · rw [patched sends, conditions]

/-- A volume that has been active since a leap second within a minute has been so since the second
after once it is recorded that it is to go; and nothing is recorded any more where the context has
ended. -/
theorem leap_within_minute_moved :
    let key : ObjectKey := ⟨some "a", "v"⟩
    let s := storeActiveSince .lateLeap
    let next := toldAt ⟨90, 0⟩ "deleting"
    (∃ o o' s', s.objects.get? key = some o ∧
      s.performUnder .unbounded .zero default (.record key next) = (.ok true, s') ∧
      s'.objects.get? key = some o' ∧
      o'.conditions = [toldAt ⟨31, 500000000⟩ "active", next] ∧
      o'.conditions ≠ o.conditions ++ [next]) ∧
    s.performUnder (Context.unbounded.cancelledBy .zero) .zero default (.record key next) =
      (.error .cancelled, s) :=
  ⟨⟨_, _, _, rfl, rfl, rfl, rfl, by decide⟩, rfl⟩

end MemoryStore

end Reconciler
