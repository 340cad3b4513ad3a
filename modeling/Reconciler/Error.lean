import Reconciler.Decimal
import Reconciler.Text.Quoted
/-!
What can go wrong: the causes of a failed step, what each asks of a scheduler, and
the answers of a provider that could not do its work.
-/

set_option autoImplicit false

namespace Reconciler

structure Duration where
  nanos : Nat
  deriving DecidableEq, Repr, Inhabited

namespace Duration

def zero : Duration := ⟨0⟩
def ofSeconds (n : Nat) : Duration := ⟨n * 1000000000⟩
def ofMillis (n : Nat) : Duration := ⟨n * 1000000⟩

def seconds (d : Duration) : Nat := d.nanos / 1000000000

def subsecond (d : Duration) : Nat := d.nanos % 1000000000

/-- The longest duration: 2 ^ 64 - 1 seconds and all but a nanosecond of another. -/
def longest : Duration := ⟨wordBound 64 * 1000000000 - 1⟩

/-- A multiple, or the longest duration where that is not enough. -/
def scale (d : Duration) (n : Nat) : Duration := ⟨min (d.nanos * n) longest.nanos⟩

instance : Min Duration := ⟨fun a b => if b.nanos < a.nanos then b else a⟩

end Duration

structure Refusal where
  status : String
  message : String
  reason : String
  code : Nat
  deriving DecidableEq, Repr

/-- Strings are quoted; the code is that of the refusal, not of the exchange. -/
def Refusal.describe (r : Refusal) : String :=
  "ApiError: " ++ r.message ++ ": " ++ r.reason ++ " (ErrorResponse \x7b status: " ++
    Text.quoted r.status ++ ", message: " ++ Text.quoted r.message ++ ", reason: " ++
    Text.quoted r.reason ++ ", code: " ++ natText r.code ++ " \x7d)"

inductive Error where
  | internal (message : String)
  | configuration (message : String)
  | refused (refusal : Refusal)
  | notFound (kind name : String)
  | alreadyExists (kind name : String)
  | conflict (kind name reason : String)
  | validation (message : String)
  | forbidden (message : String)
  | unavailable (message : String)
  | invalidSelector (message : String)
  | admission (violations : List String)
  | conversion (kind name reason : String)
  | cancelled
  | deadlineExceeded
  | malformedJson
  | malformedYaml
  | metrics (message : String)
  | file (message : String)
  deriving DecidableEq, Repr

/-- What a scheduler does about an error. -/
inductive Remedy where
  /-- Try again, later each time. -/
  | backOff
  /-- Try again after a fixed delay. -/
  | retryAfter (delay : Duration)
  /-- Only a change of the object helps. -/
  | awaitChange
  deriving DecidableEq, Repr

namespace Error

/-- The text shown to people; `none` where it is that of a reader of documents. -/
def message? : Error → Option String
  | .internal m => some ("Internal error: " ++ m)
  | .configuration m => some ("Configuration error: " ++ m)
  | .refused r => some ("Kubernetes API error: " ++ r.describe)
  | .notFound kind name => some ("Resource not found: " ++ kind ++ "/" ++ name)
  | .alreadyExists kind name => some ("Resource already exists: " ++ kind ++ "/" ++ name)
  | .conflict kind name reason =>
    some ("Resource version conflict on " ++ kind ++ "/" ++ name ++ ": " ++ reason)
  | .validation m => some ("Validation failed: " ++ m)
  | .forbidden m => some ("Forbidden: " ++ m)
  | .unavailable m => some ("Store unavailable: " ++ m)
  | .invalidSelector m => some ("Invalid label selector: " ++ m)
  | .admission violations => some ("admission failed: " ++ String.intercalate "; " violations)
  | .conversion kind name reason =>
    some ("Failed to convert " ++ kind ++ "/" ++ name ++ " to its domain model: " ++ reason)
  | .cancelled => some "Operation cancelled"
  | .deadlineExceeded => some "Operation deadline exceeded"
  | .malformedJson => none
  | .malformedYaml => none
  | .metrics m => some ("Metrics error: Error: " ++ m)
  | .file m => some ("IO error: " ++ m)

def message (e : Error) : String := e.message?.getD "malformed document"

/-- Conflicts and outages pass, a vanished object is looked at again soon, a lack of
permission is retried slowly, and what would fail again waits for a change. -/
def remedy : Error → Remedy
  | .notFound .. | .alreadyExists .. => .retryAfter (.ofSeconds 5)
  | .forbidden _ => .retryAfter (.ofSeconds 300)
  | .configuration _ | .validation _ | .invalidSelector _ | .admission _ | .conversion ..
  | .cancelled => .awaitChange
  | .refused _ | .unavailable _ | .conflict .. | .deadlineExceeded => .backOff
  | .internal _ | .malformedJson | .malformedYaml | .metrics _ | .file _ => .backOff

def isRetryable (e : Error) : Bool := e.remedy ≠ .awaitChange

def isNotFound : Error → Bool
  | .notFound .. => true
  | _ => false

def isConflict : Error → Bool
  | .conflict .. => true
  | _ => false

def label : Error → String
  | .notFound .. => "not_found"
  | .alreadyExists .. => "already_exists"
  | .conflict .. => "conflict"
  | .validation _ | .invalidSelector _ | .admission _ => "validation"
  | .forbidden _ => "forbidden"
  | .unavailable _ | .refused _ => "unavailable"
  | .conversion .. => "conversion"
  | .cancelled | .deadlineExceeded => "cancelled"
  | .internal _ | .configuration _ | .malformedJson | .malformedYaml | .metrics _
  | .file _ => "internal"

end Error

inductive ProviderError where
  /-- The provider has taken the request and wants to be asked again. -/
  | stillProcessing
  | failed (provider operation reason : String)
  | unknownResource (provider name : String)
  deriving DecidableEq, Repr

namespace ProviderError

def message : ProviderError → String
  | .stillProcessing => "operation still in progress"
  | .failed provider operation reason => provider ++ " " ++ operation ++ " failed: " ++ reason
  | .unknownResource provider name => provider ++ " has no resource " ++ name

def isStillProcessing (e : ProviderError) : Bool := e = .stillProcessing

end ProviderError

end Reconciler
