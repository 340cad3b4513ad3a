import Reconciler.Provider.Dummy
import Reconciler.Resource.Json
/-!
The options of the dummy provider as records.
-/

set_option autoImplicit false

namespace Reconciler.Dummy.Config

open Json (Reader)

def ofJson : Reader Config := fun j => do
  let j ← j.asStruct ["deletePolls", "maxSizeGb"] 0
  some { deletePolls := ← j.withDefault "deletePolls" 0 Json.asSize
         maxSizeGb := ← j.optional "maxSizeGb" Json.asSize }

def toJson (c : Config) : Json :=
  .record [("deletePolls", Json.nat c.deletePolls), ("maxSizeGb", Json.ofOption Json.nat c.maxSizeGb)]

end Reconciler.Dummy.Config
