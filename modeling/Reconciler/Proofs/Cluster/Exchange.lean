import Mathlib.Logic.Relation
import Reconciler.Json.Patch
import Reconciler.Proofs.Cluster.Server
import Reconciler.Proofs.Dialogue

/-!
Exchanges with an API server that others write on as well. A request may be carried out and
its reply lost; a server that says it knows no such object keeps none. What `Serves` lets a server
reply to a write is an object under a new version, or a failure; only a deletion of what
terminates anyway is agreed to without a write. Every request of the store comes down to one of a
few outcomes.
-/

set_option autoImplicit false

namespace Reconciler

variable {k : Kind} {α β σ : Type}

namespace Address

def pathText (cs : List Char) : List Char := (cs.takeWhile (· ≠ '#')).takeWhile (· ≠ '?')

theorem pathText_query (cs : List Char) : pathText (cs ++ ['?']) = pathText cs := by
  induction cs with
  | nil => rfl
  | cons c rest ih =>
    by_cases hash : c = '#'
    · simp [pathText, hash]
    by_cases mark : c = '?'
    · simp [pathText, mark]
    · simpa [pathText, hash, mark] using ih

theorem path_of_ofText? {text : String} {a : Address} (named : ofText? text = some a) :
    a.path = String.ofList (pathText text.toList) := by
  unfold ofText? at named
  dsimp only at named
  split at named
  · split at named
    · cases named
      rfl
    · cases named
  · split at named
    · cases named
      rfl
    · cases named

theorem path_query {text : String} {a b : Address} (named : ofText? text = some a)
    (named' : ofText? (text ++ "?") = some b) : b.path = a.path := by
  rw [path_of_ofText? named, path_of_ofText? named', String.toList_append]
  exact congrArg String.ofList (pathText_query _)

end Address

namespace ApiReply

def content (reply : ApiReply) : Except ExchangeFailure Json := reply.read some

def Fails (reply : ApiReply) : Prop := ∃ failure, reply.content = .error failure

/-- The server says that it keeps no such object. -/
def Misses (reply : ApiReply) : Prop :=
  ∃ failure, reply.content = .error failure ∧ failure.isMissing = true

end ApiReply

/-- The record of an object as a server keeps it. -/
structure Json.Shows (j : Json) (x : ApiObject) : Prop where
  proper : j.isRecord = true
  metadata : j.required "metadata" ObjectMeta.ofJson = some x.metadata
  spec : j.field? "spec" = some x.spec
  status : j.field? "status" = x.status

def ApiReply.Tells (reply : ApiReply) (x : ApiObject) : Prop :=
  ∃ j, reply.content = .ok j ∧ j.Shows x

/-- The object was read from the record of what a server keeps. -/
def Object.Reads (o : Object k) (x : ApiObject) : Prop :=
  ∃ j : Json, j.Shows x ∧ Object.ofJson k j = some o

namespace ApiReply

variable {reply : ApiReply} {reader : Json.Reader α}

theorem content_of_read {a : α} (read : reply.read reader = .ok a) :
    ∃ j, reply.content = .ok j ∧ reader j = some a := by
  cases reply with
  | broken reason => cases read
  | answered status body =>
    unfold ApiReply.read at read
    unfold content ApiReply.read
    dsimp only at read ⊢
    split at read
    · cases read
    · rename_i fine
      rw [if_neg fine]
      cases parsed : Json.parse? body with
      | none =>
        rw [parsed] at read
        cases read
      | some j =>
        rw [parsed] at read
        refine ⟨j, rfl, ?_⟩
        cases found : reader j with
        | none => simp [found] at read
        | some a' =>
          simp only [Option.bind_some, found] at read
          cases read
          rfl

theorem misses_of_read {failure : ExchangeFailure} (read : reply.read reader = .error failure)
    (missing : failure.isMissing = true) : reply.Misses := by
  cases reply with
  | broken reason =>
    cases read
    cases missing
  | answered status body =>
    unfold ApiReply.read at read
    dsimp only at read
    split at read
    · rename_i bad
      cases read
      refine ⟨_, ?_, missing⟩
      unfold content ApiReply.read
      exact if_pos bad
    · split at read
      · cases read
      · cases read
        cases missing

end ApiReply

namespace Object

variable {o : Object k} {x : ApiObject} {j : Json}

def readStatus (k : Kind) (kept : Option Json) : Option (Option (Status k String String)) :=
  (Json.record (Json.present "status" id kept)).optional "status" statusOfJson

theorem readStatus_some (j : Json) : readStatus k (some j) = Json.asOption statusOfJson j := by
  simp [readStatus, Json.present, Json.optional, Json.withDefault]

theorem ofJson_of_shows (shows : j.Shows x) :
    ofJson k j = (specOfJson k x.spec).bind fun spec =>
      (if k.hasStatus then readStatus k x.status else some none).bind fun status =>
        some ⟨x.metadata, spec, status⟩ := by
  obtain ⟨fields, rfl⟩ : ∃ fields, j = .record fields := by
    have proper := shows.proper
    cases j with
    | record fields => exact ⟨fields, rfl⟩
    | _ => cases proper
  have proper : ∀ names least, (Json.record fields).asStruct names least =
      some (Json.record fields) := fun _ _ => rfl
  have spec : (Json.record fields).required "spec" (specOfJson k) = specOfJson k x.spec := by
    simp [Json.required, shows.spec]
  have status : (Json.record fields).optional "status" statusOfJson = readStatus k x.status := by
    simp [readStatus, Json.optional, Json.withDefault, shows.status]
  simp only [ofJson, proper, shows.metadata, spec, status, Option.bind_eq_bind, Option.bind_some]
  cases k.hasStatus <;> rfl

theorem Reads.cases (reads : o.Reads x) : o.metadata = x.metadata ∧
    specOfJson k x.spec = some o.spec ∧
      (k.hasStatus = true → readStatus k x.status = some o.status) := by
  obtain ⟨j, shows, read⟩ := reads
  rw [ofJson_of_shows shows] at read
  obtain ⟨spec, desired, read⟩ := Option.bind_eq_some_iff.mp read
  obtain ⟨status, observed, read⟩ := Option.bind_eq_some_iff.mp read
  cases read
  refine ⟨rfl, desired, fun reconciled => ?_⟩
  rw [if_pos reconciled] at observed
  exact observed

theorem Reads.metadata (reads : o.Reads x) : o.metadata = x.metadata := reads.cases.1

end Object

def ApiObject.ofText? (text : String) : Option ApiObject := do
  let j ← Json.parse? text
  let m ← j.required "metadata" ObjectMeta.ofJson
  let desired ← j.field? "spec"
  some ⟨m, desired, j.field? "status"⟩

theorem ApiObject.shows_of_ofText? {text : String} {x : ApiObject} (shown : ofText? text = some x) :
    ∃ j, Json.parse? text = some j ∧ j.Shows x := by
  obtain ⟨j, parsed, shown⟩ := Option.bind_eq_some_iff.mp shown
  obtain ⟨m, metadata, shown⟩ := Option.bind_eq_some_iff.mp shown
  obtain ⟨desired, spec, shown⟩ := Option.bind_eq_some_iff.mp shown
  cases shown
  refine ⟨j, parsed, ?_, metadata, spec, rfl⟩
  cases j with
  | record fields => rfl
  | _ => cases spec

theorem ApiReply.read_answered {text : String} {reader : Json.Reader α} {a : α}
    (found : (Json.parse? text).bind reader = some a) :
    (ApiReply.answered 200 text).read reader = .ok a := by
  simp [ApiReply.read, found]

theorem ApiReply.tells_of_ofText? {text : String} {x : ApiObject}
    (shown : ApiObject.ofText? text = some x) : (ApiReply.answered 200 text).Tells x := by
  obtain ⟨j, parsed, shows⟩ := ApiObject.shows_of_ofText? shown
  exact ⟨j, read_answered (by rw [parsed]; rfl), shows⟩

theorem ApiReply.read_of_ofText? {text : String} {x : ApiObject} {spec : k.Spec String}
    {status : Option (Status k String String)} (shown : ApiObject.ofText? text = some x)
    (desired : Object.specOfJson k x.spec = some spec)
    (observed : (if k.hasStatus then Object.readStatus k x.status else some none) = some status) :
    (ApiReply.answered 200 text).read (Object.ofJson k) = .ok ⟨x.metadata, spec, status⟩ ∧
      Object.Reads ⟨x.metadata, spec, status⟩ x := by
  obtain ⟨j, parsed, shows⟩ := ApiObject.shows_of_ofText? shown
  have read := Object.ofJson_of_shows (k := k) shows
  rw [desired, observed] at read
  refine ⟨read_answered ?_, j, shows, read⟩
  rw [parsed]
  exact read

theorem Cluster.exists_request {method : HttpMethod} {target : String} {body : Option RequestBody}
    (placed : (Address.ofText? target).isSome = true) : ∃ r, request method target body = some r :=
  Option.isSome_iff_exists.mp (Option.isSome_map.trans placed)

/-- The version that a part of a request names. -/
def Json.versionNamed (j : Option Json) : Option String :=
  j.bind fun j => (j.field? "resourceVersion").bind Json.asText

def Json.patchedStatus (patch : Json) (status : Option Json) : Option Json :=
  (Json.merge (.record (Json.present "status" id status)) patch).field? "status"

/-- The edit that a request asks for, and the path of what it is about. -/
inductive ApiRequest.Asks : ApiRequest → String → ApiEdit → Prop
  | create {address : Address} {path : String} {j spec : Json} {m : ObjectMeta}
      (metadata : j.required "metadata" ObjectMeta.ofJson = some m)
      (desired : j.field? "spec" = some spec) :
      Asks ⟨.post, address, Cluster.jsonBody j⟩ path (.create m spec)
  | replace {address : Address} {j spec : Json} {m : ObjectMeta}
      (metadata : j.required "metadata" ObjectMeta.ofJson = some m)
      (desired : j.field? "spec" = some spec) :
      Asks ⟨.put, address, Cluster.jsonBody j⟩ address.path (.replace m spec)
  | restate {address : Address} {path : String} {j : Json}
      (sub : address.path = path ++ "/status") :
      Asks ⟨.patch, address, Cluster.patchBody j⟩ path
        (.restate (Json.versionNamed (j.field? "metadata")) j.patchedStatus)
  | delete {address : Address} {j : Json} :
      Asks ⟨.delete, address, Cluster.jsonBody j⟩ address.path
        (.delete (Json.versionNamed (j.field? "preconditions")))

namespace ApiServer

/-- What a server replies to a client, and what it does. -/
inductive Serves (k : Kind) (who : Client) :
    ApiServer → ApiRequest → ApiReply → ApiServer → Prop
  | shown {s : ApiServer} {r : ApiRequest} {reply : ApiReply} {x : ApiObject}
      (get : r.method = .get) (kept : s.kept r.address.path = some x) (told : reply.Tells x) :
      Serves k who s r reply s
  | carried {s s' : ApiServer} {r : ApiRequest} {reply : ApiReply} {path : String}
      {edit : ApiEdit} {x : ApiObject} (asks : r.Asks path edit)
      (carries : Carries k who path edit x s s') (told : reply.Tells x) :
      Serves k who s r reply s'
  | deleted {s s' : ApiServer} {r : ApiRequest} {reply : ApiReply} {path : String}
      {version : Option String} {x : ApiObject} {j : Json} (asks : r.Asks path (.delete version))
      (carries : Carries k who path (.delete version) x s s') (agreed : reply.content = .ok j) :
      Serves k who s r reply s'
  /-- A deletion that changes nothing, since the object terminates anyway. -/
  | awaited {s : ApiServer} {r : ApiRequest} {reply : ApiReply} {path : String}
      {version : Option String} {b : ApiObject} {j : Json} (asks : r.Asks path (.delete version))
      (kept : s.kept path = some b) (terminating : b.Terminating) (admitted : b.Admits version)
      (agreed : reply.content = .ok j) : Serves k who s r reply s
  /-- The edit is carried out, but the client does not learn that it was. -/
  | lost {s s' : ApiServer} {r : ApiRequest} {reply : ApiReply} {path : String}
      {edit : ApiEdit} {x : ApiObject} (asks : r.Asks path edit)
      (carries : Carries k who path edit x s s') (failed : reply.Fails)
      (silent : ¬reply.Misses) : Serves k who s r reply s'
  | refused {s : ApiServer} {r : ApiRequest} {reply : ApiReply} (failed : reply.Fails)
      (missing : reply.Misses → s.kept r.address.path = none) : Serves k who s r reply s

/-- How a question of a call is answered, by the server or by the end of the call's time. -/
inductive Responds (k : Kind) (who : Client) :
    ApiServer → (q : ClusterQuery) → q.Answer → ApiServer → Prop
  | checked {s : ApiServer} {answer : Except Interruption Unit} :
      Responds k who s .check answer s
  | served {s s' : ApiServer} {r : ApiRequest} {reply : ApiReply}
      (serves : Serves k who s r reply s') : Responds k who s (.exchange r) (.ok reply) s'
  | abandoned {s : ApiServer} {r : ApiRequest} {i : Interruption} :
      Responds k who s (.exchange r) (.error i) s
  | overtaken {s s' : ApiServer} {r : ApiRequest} {i : Interruption} {path : String}
      {edit : ApiEdit} {x : ApiObject} (asks : r.Asks path edit)
      (carries : Carries k who path edit x s s') :
      Responds k who s (.exchange r) (.error i) s'

/-- A client that is not this one writes. -/
inductive Foreign (k : Kind) (me : Client) : ApiServer → ApiServer → Prop
  | wrote {s s' : ApiServer} {who : Client} {path : String} {edit : ApiEdit} {x : ApiObject}
      (foreign : who ≠ me) (carries : Carries k who path edit x s s') : Foreign k me s s'

/-- Others may do anything before a question is answered. -/
def Amid (k : Kind) (me : Client) (others : ApiServer → ApiServer → Prop) (s : ApiServer)
    (q : ClusterQuery) (answer : q.Answer) (s' : ApiServer) : Prop :=
  ∃ s₁, Relation.ReflTransGen others s s₁ ∧ Responds k me s₁ q answer s'

end ApiServer

namespace Cluster

open Dialogue (Held)

variable {answers : σ → (q : ClusterQuery) → q.Answer → σ → Prop} {s s' : σ}
  {result : Except Error β}

def Ends (answers : σ → (q : ClusterQuery) → q.Answer → σ → Prop) (work : Work α) (s : σ)
    (result : Except Error α) (s' : σ) : Prop :=
  ∃ log, Held answers work.run s log result s'

namespace Ends

theorem of_pure {b : β} (ends : Ends answers (pure b) s result s') : result = .ok b ∧ s' = s := by
  obtain ⟨log, held⟩ := ends
  exact held.of_done.2

theorem of_throw {e : Error} (ends : Ends answers (throw e : Work β) s result s') :
    result = .error e ∧ s' = s := by
  obtain ⟨log, held⟩ := ends
  exact held.of_done.2

theorem pure (b : β) (s : σ) : Ends answers (Pure.pure b) s (.ok b) s := ⟨[], .done⟩

theorem bind {work : Work α} {next : α → Work β} {a : α} {s₁ : σ}
    (first : Ends answers work s (.ok a) s₁) (rest : Ends answers (next a) s₁ result s') :
    Ends answers (work >>= next) s result s' := by
  obtain ⟨log, first⟩ := first
  obtain ⟨log', rest⟩ := rest
  exact ⟨_, first.bind rest⟩

theorem of_bind {work : Work α} {next : α → Work β}
    (ends : Ends answers (work >>= next) s result s') :
    (∃ e, Ends answers work s (.error e) s' ∧ result = .error e) ∨
      ∃ a s₁, Ends answers work s (.ok a) s₁ ∧ Ends answers (next a) s₁ result s' := by
  obtain ⟨log, held⟩ := ends
  obtain ⟨outcome, s₁, first, second, -, earlier, later⟩ := Held.of_bind held
  cases outcome with
  | error e =>
    obtain ⟨-, rfl, rfl⟩ := later.of_done
    exact .inl ⟨e, ⟨first, earlier⟩, rfl⟩
  | ok a => exact .inr ⟨a, s₁, ⟨first, earlier⟩, ⟨second, later⟩⟩

end Ends

section Requests

open ApiServer (Carries Responds Amid)

variable {me : Client} {others : ApiServer → ApiServer → Prop} {s s' : ApiServer}
  {reader : Json.Reader α} {r : ApiRequest} {ns path : String} {key : ObjectKey} {o : Object k}

abbrev Meanwhile (others : ApiServer → ApiServer → Prop) : ApiServer → ApiServer → Prop :=
  Relation.ReflTransGen others

/-- What comes of a request once it is the turn of the one who asks. -/
inductive Outcome (k : Kind) (me : Client) (reader : Json.Reader α) (r : ApiRequest)
    (s : ApiServer) : Except Error (Except ExchangeFailure α) → ApiServer → Prop
  | shown {x : ApiObject} {j : Json} {a : α} (get : r.method = .get)
      (kept : s.kept r.address.path = some x) (shows : j.Shows x) (read : reader j = some a) :
      Outcome k me reader r s (.ok (.ok a)) s
  | carried {result : Except Error (Except ExchangeFailure α)} {s' : ApiServer} {path : String}
      {edit : ApiEdit} {x : ApiObject} (asks : r.Asks path edit)
      (carries : Carries k me path edit x s s')
      (told : ∀ a, result = .ok (.ok a) →
        r.method = .delete ∨ ∃ j : Json, j.Shows x ∧ reader j = some a)
      (silent : ∀ failure, result = .ok (.error failure) → failure.isMissing = false) :
      Outcome k me reader r s result s'
  | awaited {a : α} {path : String} {version : Option String} {b : ApiObject}
      (asks : r.Asks path (.delete version)) (kept : s.kept path = some b)
      (terminating : b.Terminating) (admitted : b.Admits version) :
      Outcome k me reader r s (.ok (.ok a)) s
  | failed {result : Except Error (Except ExchangeFailure α)}
      (failed : ∀ a, result ≠ .ok (.ok a))
      (missing : ∀ failure, result = .ok (.error failure) → failure.isMissing = true →
        s.kept r.address.path = none) : Outcome k me reader r s result s

theorem Outcome.of_responds {answer : Except Interruption ApiReply}
    (responds : Responds k me s (.exchange r) answer s') :
    Outcome k me reader r s ((answer.map (·.read reader)).mapError Interruption.toError) s' := by
  cases responds with
  | abandoned => exact .failed (fun _ told => nomatch told) fun _ told => nomatch told
  | overtaken asks carries =>
    exact .carried asks carries (fun _ told => nomatch told) fun _ told => nomatch told
  | served serves =>
    rename_i reply
    have misses : ∀ failure, (.ok (reply.read reader) : Except Error _) = .ok (.error failure) →
        failure.isMissing = true → reply.Misses := fun failure told =>
      ApiReply.misses_of_read (Except.ok.inj told)
    have content : ∀ a, (.ok (reply.read reader) : Except Error _) = .ok (.ok a) →
        ∃ j, reply.content = .ok j ∧ reader j = some a := fun a told =>
      ApiReply.content_of_read (Except.ok.inj told)
    have agrees : ∀ {j}, reply.content = .ok j → ¬reply.Misses := by
      rintro j agreed ⟨failure, failed, -⟩
      cases agreed.symm.trans failed
    have silent : ¬reply.Misses → ∀ failure,
        (.ok (reply.read reader) : Except Error _) = .ok (.error failure) →
          failure.isMissing = false := fun silent failure told =>
      Bool.eq_false_iff.mpr fun missing => silent (misses failure told missing)
    have fails : reply.Fails → ∀ a, (.ok (reply.read reader) : Except Error _) ≠ .ok (.ok a) := by
      rintro ⟨failure, failed⟩ a told
      obtain ⟨j, agreed, -⟩ := content a told
      cases agreed.symm.trans failed
    show Outcome k me reader r s (.ok (reply.read reader)) s'
    cases serves with
    | shown get kept told =>
      obtain ⟨j, agreed, shows⟩ := told
      cases read : reply.read reader with
      | ok a =>
        obtain ⟨j', agreed', found⟩ := content a (congrArg Except.ok read)
        cases agreed.symm.trans agreed'
        exact .shown get kept shows found
      | error failure =>
        rw [read] at silent
        refine .failed (fun _ told => nomatch told) fun failure told missing => ?_
        rw [silent (agrees agreed) failure told] at missing
        cases missing
    | carried asks carries told =>
      obtain ⟨j, agreed, shows⟩ := told
      refine .carried asks carries (fun a told => .inr ?_) (silent (agrees agreed))
      obtain ⟨j', agreed', found⟩ := content a told
      cases agreed.symm.trans agreed'
      exact ⟨j, shows, found⟩
    | deleted asks carries agreed =>
      refine .carried asks carries (fun a told => .inl ?_) (silent (agrees agreed))
      cases asks
      rfl
    | awaited asks kept terminating admitted agreed =>
      cases read : reply.read reader with
      | ok a => exact .awaited asks kept terminating admitted
      | error failure =>
        rw [read] at silent
        refine .failed (fun _ told => nomatch told) fun failure told missing => ?_
        rw [silent (agrees agreed) failure told] at missing
        cases missing
    | lost asks carries failed silent' =>
      exact .carried asks carries (fun a told => absurd told (fails failed a)) (silent silent')
    | refused failed missing =>
      exact .failed (fails failed) fun failure told said => missing (misses failure told said)

theorem tryExchange_ends {result : Except Error (Except ExchangeFailure α)}
    (ends : Ends (Amid k me others) (tryExchange reader (some r)) s result s') :
    ∃ s₁, Meanwhile others s s₁ ∧ Outcome k me reader r s₁ result s' := by
  obtain ⟨log, held⟩ := ends
  obtain ⟨answer, s₂, rest, -, ⟨s₁, meanwhile, responds⟩, held⟩ := held.of_ask
  obtain ⟨-, rfl, rfl⟩ := held.of_done
  exact ⟨s₁, meanwhile, .of_responds responds⟩

theorem tryExchange_served {s₁ : ApiServer} {reply : ApiReply} (meanwhile : Meanwhile others s s₁)
    (serves : ApiServer.Serves k me s₁ r reply s') :
    Ends (Amid k me others) (tryExchange reader (some r)) s (.ok (reply.read reader)) s' :=
  ⟨_, .ask ⟨s₁, meanwhile, .served serves⟩ .done⟩

theorem perform_served {reply : ApiReply} {a : α} (serves : ApiServer.Serves k me s r reply s')
    (read : reply.read reader = .ok a) :
    Ends (Amid k me others) (perform (k := k) key reader (some r)) s (.ok a) s' := by
  refine (tryExchange_served .refl serves).bind ?_
  rw [read]
  exact .pure a s'

theorem tryExchange_none_ends {result : Except Error (Except ExchangeFailure α)}
    (ends : Ends (Amid k me others) (tryExchange reader none) s result s') :
    Meanwhile others s s' ∧ (∀ a, result ≠ .ok (.ok a)) ∧
      ∀ failure, result = .ok (.error failure) → failure.isMissing = false := by
  obtain ⟨log, held⟩ := ends
  obtain ⟨answer, s₂, rest, -, ⟨s₁, meanwhile, responds⟩, held⟩ := held.of_ask
  obtain ⟨-, rfl, rfl⟩ := held.of_done
  cases responds
  refine ⟨meanwhile, ?_⟩
  cases answer with
  | error i => exact ⟨(fun _ told => nomatch told), (fun _ told => nomatch told)⟩
  | ok alive =>
    refine ⟨(fun _ told => nomatch told), ?_⟩
    rintro failure ⟨⟩
    rfl

theorem perform_ends {r : Option ApiRequest} {result : Except Error α}
    (ends : Ends (Amid k me others) (perform (k := k) key reader r) s result s') :
    ∃ outcome, Ends (Amid k me others) (tryExchange reader r) s outcome s' ∧
      ∀ a, result = .ok a → outcome = .ok (.ok a) := by
  rcases ends.of_bind with ⟨e, tried, rfl⟩ | ⟨outcome, s₁, tried, rest⟩
  · exact ⟨_, tried, fun _ told => nomatch told⟩
  · cases outcome with
    | ok a =>
      obtain ⟨rfl, rfl⟩ := rest.of_pure
      exact ⟨_, tried, fun _ told => by cases told; rfl⟩
    | error failure =>
      obtain ⟨rfl, rfl⟩ := rest.of_throw
      exact ⟨_, tried, fun _ told => nomatch told⟩

end Requests

section Answered

variable {β : Type} {reply : ApiRequest → ApiReply} {reader : Json.Reader α} {key : ObjectKey}
  {sent : List ApiRequest}

/-- Answers every request, and takes it down. -/
def noting (reply : ApiRequest → ApiReply) :
    (q : ClusterQuery) → List ApiRequest → q.Answer × List ApiRequest
  | .check, sent => (.ok (), sent)
  | .exchange r, sent => (.ok (reply r), sent ++ [r])

def Work.outcome (work : Work α) (reply : ApiRequest → ApiReply) : Except Error α :=
  (work.run.run (noting reply) []).1

def Work.requests (work : Work α) (reply : ApiRequest → ApiReply) : List ApiRequest :=
  (work.run.run (noting reply) []).2

theorem run_perform {r : ApiRequest} {next : α → Work β} :
    (perform (k := k) key reader (some r) >>= next).run.run (noting reply) sent =
      ((match (reply r).read reader with
        | .ok a => Pure.pure a
        | .error failure => throw (failure.toError k.name key) : Work α) >>= next).run.run
          (noting reply) (sent ++ [r]) := rfl

theorem run_perform_of_read {r : ApiRequest} {a : α} {next : α → Work β}
    (read : (reply r).read reader = .ok a) :
    (perform (k := k) key reader (some r) >>= next).run.run (noting reply) sent =
      (next a).run.run (noting reply) (sent ++ [r]) := by
  rw [run_perform, read]
  rfl

/-- A request is sent once, if it has an address, whatever is made of the reply. -/
theorem requests_perform (r : Option ApiRequest) (b : β) :
    ((perform (k := k) key reader r >>= fun _ => Pure.pure b).run.run (noting reply) sent).2 =
      sent ++ r.toList := by
  cases r with
  | none => exact (List.append_nil sent).symm
  | some r =>
    rw [run_perform]
    cases (reply r).read reader <;> rfl

end Answered

end Cluster

end Reconciler
