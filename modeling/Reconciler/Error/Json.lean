import Reconciler.Error
import Reconciler.Json.Loose
/-!
Errors as records: described in full where one is planned, and by kind and message where one
is answered.
-/

set_option autoImplicit false

namespace Reconciler

open Json.Loose

namespace Error

def kindName : Error → String
  | .internal _ => "Internal"
  | .configuration _ => "Configuration"
  | .refused _ => "Kube"
  | .notFound .. => "NotFound"
  | .alreadyExists .. => "AlreadyExists"
  | .conflict .. => "Conflict"
  | .validation _ => "Validation"
  | .forbidden _ => "Forbidden"
  | .unavailable _ => "Unavailable"
  | .invalidSelector _ => "InvalidSelector"
  | .admission _ => "Admission"
  | .conversion .. => "Conversion"
  | .cancelled => "Cancelled"
  | .deadlineExceeded => "DeadlineExceeded"
  | .malformedJson => "JsonParse"
  | .malformedYaml => "YamlParse"
  | .metrics _ => "Metrics"
  | .file _ => "Io"

/-- The kind of an error, and its message if it has one of its own. -/
def toJson (e : Error) : Json :=
  .record (("error", .text e.kindName) :: Json.present "message" .text e.message?)

def refusalOfJson (j : Json) : Refusal :=
  { status := textOr j "status" "Failure", message := text j "message", reason := text j "reason",
    code := nat j "code" }

/-- The error that is described; what is described in no known way is a failure of a file. -/
def ofJson (j : Json) : Error :=
  let message := text j "message"
  let kind := text j "kind"
  let name := text j "name"
  let reason := text j "reason"
  match text j "variant" with
  | "Internal" => .internal message
  | "Configuration" => .configuration message
  | "Kube" => .refused (refusalOfJson j)
  | "NotFound" => .notFound kind name
  | "AlreadyExists" => .alreadyExists kind name
  | "Conflict" => .conflict kind name reason
  | "Validation" => .validation message
  | "Forbidden" => .forbidden message
  | "Unavailable" => .unavailable message
  | "InvalidSelector" => .invalidSelector message
  | "Admission" => .admission ((items j "violations").filterMap Json.asText)
  | "Conversion" => .conversion kind name reason
  | "Cancelled" => .cancelled
  | "DeadlineExceeded" => .deadlineExceeded
  | "JsonParse" => .malformedJson
  | "YamlParse" => .malformedYaml
  | "Metrics" => .metrics message
  | _ => .file message

end Error

namespace ProviderError

def kindName : ProviderError → String
  | .stillProcessing => "StillProcessing"
  | .failed .. => "Failed"
  | .unknownResource .. => "PluginNotFound"

def toJson (e : ProviderError) : Json :=
  .record [("error", .text e.kindName), ("message", .text e.message)]

/-- The error that is described, a failure unless another is named. -/
def ofJson (j : Json) : ProviderError :=
  match text j "variant" with
  | "StillProcessing" => .stillProcessing
  | "NotFound" => .unknownResource (text j "provider") (text j "name")
  | _ => .failed (text j "provider") (text j "operation") (text j "reason")

end ProviderError

end Reconciler
