import Reconciler.Error
/-!
Errors as a failed run shows them: the cause by name, with its parts.
-/

set_option autoImplicit false

namespace Reconciler

def diagnosticOf (cause part : String) : String := cause ++ "(" ++ Text.quoted part ++ ")"

def diagnosticRecord (cause : String) (parts : List (String × String)) : String :=
  cause ++ " \x7b " ++
    String.intercalate ", " (parts.map fun (name, part) => name ++ ": " ++ Text.quoted part) ++ " \x7d"

/-- The error with its parts; those of malformed documents are left out. -/
def Error.diagnostic : Error → String
  | .internal m => diagnosticOf "Internal" m
  | .configuration m => diagnosticOf "Configuration" m
  | .refused r =>
    "Kube(Api(ErrorResponse \x7b status: " ++ Text.quoted r.status ++ ", message: " ++
      Text.quoted r.message ++ ", reason: " ++ Text.quoted r.reason ++ ", code: " ++
      natText r.code ++ " \x7d))"
  | .notFound kind name => diagnosticRecord "NotFound" [("kind", kind), ("name", name)]
  | .alreadyExists kind name => diagnosticRecord "AlreadyExists" [("kind", kind), ("name", name)]
  | .conflict kind name reason =>
    diagnosticRecord "Conflict" [("kind", kind), ("name", name), ("reason", reason)]
  | .validation m => diagnosticOf "Validation" m
  | .forbidden m => diagnosticOf "Forbidden" m
  | .unavailable m => diagnosticOf "Unavailable" m
  | .invalidSelector m => diagnosticOf "InvalidSelector" m
  | .admission violations =>
    "Admission \x7b violations: [" ++ String.intercalate ", " (violations.map Text.quoted) ++ "] \x7d"
  | .conversion kind name reason =>
    diagnosticRecord "Conversion" [("kind", kind), ("name", name), ("reason", reason)]
  | .cancelled => "Cancelled"
  | .deadlineExceeded => "DeadlineExceeded"
  | .malformedJson => "JsonParse"
  | .malformedYaml => "YamlParse"
  | .metrics m => "Metrics(" ++ diagnosticOf "Msg" m ++ ")"
  | .file m => "Io(Custom \x7b kind: Other, error: " ++ Text.quoted m ++ " \x7d)"

end Reconciler
