import Reconciler.Cluster.Address
import Reconciler.Context
import Reconciler.Dialogue
import Reconciler.Store
/-!
Exchanges with an API server: requests, replies, and what can go wrong with them. A reply
that refuses says so in a record of its own, whose code counts more than that of the reply.
-/

set_option autoImplicit false

namespace Reconciler

inductive HttpMethod where
  | get
  | post
  | put
  | patch
  | delete
  deriving DecidableEq, Repr

def HttpMethod.name : HttpMethod → String
  | .get => "GET"
  | .post => "POST"
  | .put => "PUT"
  | .patch => "PATCH"
  | .delete => "DELETE"

structure RequestBody where
  contentType : String
  content : Json

structure ApiRequest where
  method : HttpMethod
  address : Address
  body : Option RequestBody

inductive ApiReply where
  | answered (status : Nat) (body : String)
  | broken (reason : String)
  deriving DecidableEq, Repr

inductive ExchangeFailure where
  | refused (r : Refusal)
  | unreadable
  | broken (reason : String)
  | unaddressable
  deriving DecidableEq, Repr

namespace ExchangeFailure

def toError (kind : String) (key : ObjectKey) : ExchangeFailure → Error
  | .refused r =>
    match r.code with
    | 404 => .notFound kind key.text
    | 409 =>
      if r.reason = "AlreadyExists" then .alreadyExists kind key.text
      else .conflict kind key.text r.message
    | 400 | 422 => .validation r.message
    | 401 | 403 => .forbidden r.message
    | code => .unavailable (r.reason ++ " (" ++ natText code ++ "): " ++ r.message)
  | .unreadable => .unavailable "Error deserializing response"
  | .broken reason => .unavailable ("ServiceError: " ++ reason)
  | .unaddressable =>
    .unavailable "Failed to build request: failed to build request: invalid uri character"

def isMissing : ExchangeFailure → Bool
  | .refused r => r.code = 404
  | _ => false

end ExchangeFailure

namespace Refusal

/-- The record of a refusal: a status, a code of 16 bits and perhaps words. -/
def ofJson : Json.Reader Refusal := fun j => do
  let j ← j.asStruct ["status", "message", "reason", "code"] 4
  some { status := ← j.required "status" Json.asText
         message := ← j.withDefault "message" "" Json.asText
         reason := ← j.withDefault "reason" "" Json.asText
         code := ← j.required "code" (Json.asNat 16) }

def ofReply (status : Nat) (body : String) : Refusal :=
  match (Json.parse? body).bind ofJson with
  | some r => r
  | none =>
    { status := natText status, message := Text.quoted body
      reason := "Failed to parse error data", code := status }

end Refusal

/-- What a store behind an API server asks of its surroundings. -/
inductive ClusterQuery where
  | check
  /-- An exchange, given up when the context ends. -/
  | exchange (r : ApiRequest)

@[reducible] def ClusterQuery.Answer : ClusterQuery → Type
  | .check => Except Interruption Unit
  | .exchange _ => Except Interruption ApiReply

namespace ApiReply

def read {α : Type} (reader : Json.Reader α) : ApiReply → Except ExchangeFailure α
  | .broken reason => .error (.broken reason)
  | .answered status body =>
    if 400 ≤ status ∧ status < 600 then .error (.refused (Refusal.ofReply status body))
    else
      match (Json.parse? body).bind reader with
      | some a => .ok a
      | none => .error .unreadable

end ApiReply

end Reconciler
