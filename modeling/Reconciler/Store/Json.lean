import Reconciler.Store.Repository
import Reconciler.Resource.Json
/-!
Questions to a store as records.
-/

set_option autoImplicit false

namespace Reconciler.ResourceQuery

open Json (Reader)

def ofJson : Reader ResourceQuery := fun j => do
  let j ← j.asStruct ["scope", "limit", "skipToken", "labelSelector"] 4
  some { scope := ← j.optional "scope" Scope.ofJson
         limit := ← j.optional "limit" (Json.asNat 64)
         continueAfter := ← j.optional "skipToken" Json.asText
         selector := ← j.optional "labelSelector" Json.asText }

def toJson (q : ResourceQuery) : Json :=
  .record [("scope", Json.ofOption Scope.toJson q.scope), ("limit", Json.ofOption Json.nat q.limit),
    ("skipToken", Json.ofOption .text q.continueAfter),
    ("labelSelector", Json.ofOption .text q.selector)]

end Reconciler.ResourceQuery
