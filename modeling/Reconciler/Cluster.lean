import Reconciler.Cluster.Exchange
import Reconciler.Object.Json
import Reconciler.Selector
/-!
A store behind an API server. Every object that is written carries the cleanup finalizer, so
that a deletion by others only marks it; `Cluster.delete` releases the finalizer. The status
is written apart from the rest, by a patch that names the version it follows on.
-/

set_option autoImplicit false

namespace Reconciler

namespace Cluster

/-- Keeps an object until the engine has cleaned up. -/
def cleanupFinalizer : String := "secapi.cloud.foundation/cleanup"

abbrev Asking (α : Type) : Type := Dialogue ClusterQuery ClusterQuery.Answer α

abbrev Work (α : Type) : Type := ExceptT Error (Dialogue ClusterQuery ClusterQuery.Answer) α

variable {k : Kind} {α : Type}

def collection (k : Kind) (namespaceName : Option String) : String :=
  let place := match namespaceName with
    | some ns => "namespaces/" ++ ns ++ "/"
    | none => ""
  "/apis/" ++ k.apiVersion ++ "/" ++ place ++ k.plural

def request (method : HttpMethod) (target : String) (body : Option RequestBody) :
    Option ApiRequest :=
  (Address.ofText? target).map fun address => { method, address, body }

def jsonBody (content : Json) : Option RequestBody := some ⟨"application/json", content⟩

def patchBody (content : Json) : Option RequestBody := some ⟨"application/merge-patch+json", content⟩

/-- Exchanges a request for a reply; one without an address is not sent. -/
def exchange (reader : Json.Reader α) :
    Option ApiRequest → Asking (Except Interruption (Except ExchangeFailure α))
  | some r => do
    let reply : Except Interruption ApiReply ← Dialogue.put (ClusterQuery.exchange r)
    return reply.map (·.read reader)
  | none => do
    let alive : Except Interruption Unit ← Dialogue.put ClusterQuery.check
    return alive.map fun _ => .error .unaddressable

/-- An exchange that is a step of some work; the step may still make something of a failure. -/
def tryExchange (reader : Json.Reader α) (r : Option ApiRequest) : Work (Except ExchangeFailure α) :=
  ExceptT.mk do
    let result ← exchange reader r
    return result.mapError Interruption.toError

def perform (key : ObjectKey) (reader : Json.Reader α) (r : Option ApiRequest) : Work α := do
  match ← tryExchange reader r with
  | .ok a => return a
  | .error failure => throw (failure.toError k.name key)

def requireNamespace (k : Kind) (key : ObjectKey) : Work String :=
  match key.namespaceName with
  | some ns => pure ns
  | none => throw (.validation (k.name ++ " " ++ key.name ++ " has no namespace"))

def itemTarget (k : Kind) (namespaceName : String) (key : ObjectKey) : String :=
  collection k (some namespaceName) ++ "/" ++ key.name

def fetch (ns : String) (key : ObjectKey) : Work (Object k) :=
  perform (k := k) key (Object.ofJson k) (request .get (itemTarget k ns key) none)

def putRequest (ns : String) (key : ObjectKey) (o : Object k) : Option ApiRequest :=
  request .put (itemTarget k ns key ++ "?") (jsonBody o.toJson)

def patchStatus (ns : String) (key : ObjectKey) (patch : Json) : Work (Object k) :=
  perform (k := k) key (Object.ofJson k)
    (request .patch (itemTarget k ns key ++ "/status?") (patchBody patch))

def get (key : ObjectKey) : Work (Object k) := do
  fetch (← requireNamespace k key) key

def listOfJson (k : Kind) : Json.Reader (Page (Object k)) := fun j => do
  let j ← j.asRecord
  let about ← j.required "metadata" Json.asRecord
  let token ← about.optional "continue" Json.asText
  let _ ← about.optional "remainingItemCount" Json.asInt64
  let _ ← about.optional "resourceVersion" Json.asText
  let _ ← about.optional "selfLink" Json.asText
  let items ← j.required "items" (Json.asOption (Json.asList (Object.ofJson k)))
  some ⟨items.getD [], token⟩

/-- The parameters of a listing; the server takes limits of 32 bits. -/
def listParameters (query : ListQuery) (selector : Selector) : List (String × String) :=
  (match selector.serverText? with
    | some text => [("labelSelector", text)]
    | none => []) ++
  (match query.limit with
    | some n => [("limit", natText (min n (wordBound 32 - 1)))]
    | none => []) ++
  (match query.continueAfter with
    | some token => [("continue", token)]
    | none => [])

/-- Lists objects. The server goes by the part of the selector that it knows; the rest is
held against what it sends, so that a page may come out shorter. -/
def list (only : Option String) (query : ListQuery) : Work (Page (Object k)) := do
  match Selector.parseOptional query.selector with
  | .error fault => throw (.invalidSelector fault.message)
  | .ok selector =>
    let ns := query.namespaceName.or only
    let target := collection k ns ++ "?" ++ Address.queryText (listParameters query selector)
    let page ← perform (k := k) ⟨ns, ""⟩ (listOfJson k) (request .get target none)
    return { items := page.items.filter fun o => selector.selects o.metadata.labelMap
             next := page.next.filter (· ≠ "") }

def ensureFinalizer (m : ObjectMeta) : ObjectMeta :=
  let held := m.finalizers.getD []
  let finalizers := if held.contains cleanupFinalizer then held else held ++ [cleanupFinalizer]
  { m with finalizers := some finalizers }

/-- Takes over what the server manages and the engine does not know about. -/
def keepUnmanaged (current desired : ObjectMeta) : ObjectMeta :=
  ensureFinalizer { desired with
    uid := current.uid, ownerReferences := current.ownerReferences
    finalizers := current.finalizers, generation := current.generation }

/-- A version in a patch, which is refused where the version is not the head. -/
def versionGuard (version : Option String) : String × Json :=
  ("metadata", .record [("resourceVersion", Json.ofOption .text version)])

def writeStatus (ns : String) (key : ObjectKey) (written : Object k)
    (status : Option (Status k String String)) : Work (Object k) :=
  match status with
  | none => pure written
  | some s =>
    patchStatus ns key (.record [versionGuard written.version, ("status", Object.statusToJson s)])

def create (o : Object k) : Work (Object k) := do
  let key := ObjectKey.ofObject o
  let ns ← requireNamespace k key
  let desired := { o with metadata := ensureFinalizer { o.metadata with resourceVersion := none } }
  let created ← perform (k := k) key (Object.ofJson k)
    (request .post (collection k (some ns) ++ "?") (jsonBody desired.toJson))
  writeStatus ns key created o.status

def replace (o : Object k) : Work (Object k) := do
  let key := ObjectKey.ofObject o
  let ns ← requireNamespace k key
  if o.version.isNone then throw (.unversioned k key)
  else
    let current : Object k ← fetch ns key
    let desired := { o with metadata := keepUnmanaged current.metadata o.metadata }
    let replaced ← perform (k := k) key (Object.ofJson k) (putRequest ns key desired)
    writeStatus ns key replaced o.status

def isStatusDetails (j : Json) : Bool :=
  (do
    let j ← j.asRecord
    let _ ← j.withDefault "name" "" Json.asText
    let _ ← j.withDefault "group" "" Json.asText
    let _ ← j.withDefault "kind" "" Json.asText
    let _ ← j.withDefault "uid" "" Json.asText
    let _ ← j.withDefault "causes" [] (Json.asList fun c => do
      let c ← c.asRecord
      let _ ← c.withDefault "reason" "" Json.asText
      let _ ← c.withDefault "message" "" Json.asText
      c.withDefault "field" "" Json.asText)
    j.withDefault "retryAfterSeconds" 0 (Json.asNat 32)).isSome

/-- The reply to a deletion: a status record, or the object as it was. -/
def deletionOfJson (k : Kind) : Json.Reader Unit := fun j =>
  match j.field? "kind" with
  | some (.text "Status") => do
    let _ ← j.optional "status" fun s =>
      s.asText.bind fun s => if s = "Success" ∨ s = "Failure" then some () else none
    let _ ← j.withDefault "code" 0 (Json.asNat 16)
    let _ ← j.withDefault "message" "" Json.asText
    let _ ← j.withDefault "reason" "" Json.asText
    let _ ← j.optional "details" fun d => if isStatusDetails d then some () else none
    some ()
  | _ => (Object.ofJson k j).map fun _ => ()

def deletionOptions (version : Option String) : Json :=
  .record (Json.present "preconditions"
    (fun v => .record [("resourceVersion", .text v)]) version)

/-- Releases the cleanup finalizer; the answer is the version after that. `none` says that
the object went with its last finalizer. -/
def release (ns : String) (key : ObjectKey) (o : Object k) (guard : Option String) :
    Work (Option (Option String)) := do
  match ← tryExchange (Object.ofJson k) (putRequest ns key o) with
  | .ok released => return some (if guard.isSome then released.version else guard)
  | .error failure =>
    if failure.isMissing then return none else throw (failure.toError k.name key)

/-- Asks the server to delete an object; one that is gone is deleted. -/
def remove (k : Kind) (ns : String) (key : ObjectKey) (guard : Option String) : Work Unit := do
  let r := request .delete (itemTarget k ns key ++ "?") (jsonBody (deletionOptions guard))
  match ← tryExchange (deletionOfJson k) r with
  | .ok () => return ()
  | .error failure =>
    if failure.isMissing then return () else throw (failure.toError k.name key)

def releaseFinalizer (m : ObjectMeta) : ObjectMeta :=
  { m with finalizers := some ((m.finalizers.getD []).filter (· ≠ cleanupFinalizer)) }

def delete (k : Kind) (key : ObjectKey) (version : Option String) : Work Unit := do
  let ns ← requireNamespace k key
  let current : Object k ← fetch ns key
  match version with
  | some expected =>
    if current.version ≠ some expected then throw (.stale k key expected current.version)
  | none => pure ()
  let held := (current.metadata.finalizers.getD []).contains cleanupFinalizer
  let guard ←
    if held then
      release ns key { current with metadata := releaseFinalizer current.metadata } version
    else pure (some version)
  match guard with
  | none => return ()
  | some guard =>
    if current.metadata.deletionTimestamp.isSome then return ()
    else remove k ns key guard

/-- Appends a condition to the history, which a patch replaces as a whole. -/
def record (k : Kind) (key : ObjectKey) (c : Condition String) : Work Bool := do
  let ns ← requireNamespace k key
  let current : Object k ← fetch ns key
  match current.conditionsWith? c with
  | none => return false
  | some conditions =>
    let history := Json.list (conditions.map Object.conditionToJson)
    let _ : Object k ← patchStatus ns key
      (.record [versionGuard current.version, ("status", .record [("conditions", history)])])
    return true

/-- Answers a call; listings without a namespace of their own are those of `only`. -/
def call (only : Option String) : (c : StoreCall k) → Asking c.Answer
  | .get key => (get key).run
  | .list query => (list only query).run
  | .create o => (create o).run
  | .replace o => (replace o).run
  | .delete key version => (delete k key version).run
  | .record key c => (record k key c).run

end Cluster

end Reconciler
