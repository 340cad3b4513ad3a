import Reconciler.Decimal
/-!
The command line: settings by long name, some of which the environment may give as well.
`CommandLine.parse` says what is asked for; whatever is not understood is misuse.
-/

set_option autoImplicit false

namespace Reconciler.CommandLine

inductive ValueShape where
  /-- No value on the command line; the environment says `true` or `false`. -/
  | switch
  | text
  /-- A text that is not empty. -/
  | path
  /-- A natural number of 64 bits, with or without a plus sign. -/
  | seconds
  deriving DecidableEq, Repr

structure Setting where
  name : String
  shape : ValueShape
  /-- The variable of the environment that gives it too. -/
  fromEnv : Option String
  about : String
  deriving DecidableEq, Repr

def settings : List Setting :=
  [⟨"config", .path, some "DELEGATOR_CONFIG", "Configuration file (YAML)"⟩,
    ⟨"health-addr", .text, some "HEALTH_ADDR", "Health server bind address"⟩,
    ⟨"metrics-addr", .text, some "METRICS_ADDR", "Metrics server bind address"⟩,
    ⟨"provider", .text, some "PROVIDER", "CSP provider, overrides the configuration file"⟩,
    ⟨"requeue-after-secs", .seconds, some "REQUEUE_AFTER",
      "Requeue delay in seconds, overrides the configuration file"⟩,
    ⟨"namespace", .text, some "WATCH_NAMESPACE", "Only watch this namespace"⟩,
    ⟨"log-level", .text, some "LOG_LEVEL", "Log level (trace, debug, info, warn, error)"⟩,
    ⟨"log-json", .switch, some "LOG_JSON", "Output logs as JSON"⟩,
    ⟨"standalone", .switch, some "STANDALONE", "Run in standalone mode (no Kubernetes)"⟩,
    ⟨"manifest", .path, some "MANIFEST",
      "Manifest seeding the in-memory store in standalone mode"⟩,
    ⟨"crd", .switch, none, "Print the custom resource definitions and exit"⟩]

def setting? (name : String) : Option Setting := settings.find? (·.name = name)

def seconds? (text : String) : Option Nat :=
  let ds := match text.toList with
    | '+' :: rest => rest
    | cs => cs
  if ds ≠ [] ∧ ds.all isDigit ∧ digitsValue ds < wordBound 64 then some (digitsValue ds) else none

def ValueShape.takes (shape : ValueShape) (value : String) : Bool :=
  match shape with
  | .switch => value = "true" || value = "false"
  | .text => true
  | .path => value ≠ ""
  | .seconds => (seconds? value).isSome

structure Arguments where
  config : Option String
  provider : Option String
  requeueAfterSecs : Option Nat
  namespaceName : Option String
  logLevel : String
  logJson : Bool
  standalone : Bool
  manifest : Option String
  definitions : Bool
  deriving DecidableEq, Repr

inductive Request where
  | run (a : Arguments)
  | help
  | version
  | misuse
  deriving DecidableEq, Repr

/-- Settings with their values, the first ones last. -/
abbrev Given := List (String × String)

def Given.has (g : Given) (name : String) : Bool := (g.lookup name).isSome

/-- Adds a setting, which may be given once. -/
def give (g : Given) (s : Setting) (value : String) : Except Request Given :=
  if !s.shape.takes value ∨ g.has s.name then .error .misuse else .ok ((s.name, value) :: g)

/-- Looks like the name of a setting, so that it cannot be a value. -/
def isName (arg : String) : Bool :=
  match arg.toList with
  | '-' :: _ :: _ => true
  | _ => false

def splitValue (cs : List Char) : String × Option String :=
  let name := String.ofList (cs.takeWhile (· ≠ '='))
  match cs.dropWhile (· ≠ '=') with
  | [] => (name, none)
  | _ :: value => (name, some (String.ofList value))

/-- A word after two hyphens, and the words that follow: what it gives, and the words left. -/
def readLong (g : Given) (word : List Char) (rest : List String) :
    Except Request (Given × List String) :=
  let (name, value?) := splitValue word
  match setting? name, value? with
  | none, some _ => .error .misuse
  | none, none =>
    if name = "help" then .error .help
    else if name = "version" then .error .version
    else if name = "" ∧ rest = [] then .ok (g, [])
    else .error .misuse
  | some s, value? =>
    if s.shape = .switch then
      if value?.isSome then .error .misuse else (give g s "true").map (·, rest)
    else
      match value?, rest with
      | some value, _ => (give g s value).map (·, rest)
      | none, value :: rest =>
        if isName value then .error .misuse else (give g s value).map (·, rest)
      | none, [] => .error .misuse

/-- Reads words one after another; the fuel is their count. -/
def readWords : Nat → Given → List String → Except Request Given
  | 0, g, _ => .ok g
  | _ + 1, g, [] => .ok g
  | fuel + 1, g, word :: rest =>
    match word.toList with
    | '-' :: '-' :: name =>
      match readLong g name rest with
      | .ok (g, rest) => readWords fuel g rest
      | .error r => .error r
    | ['-'] => .error .misuse
    | '-' :: 'h' :: _ => .error .help
    | '-' :: 'V' :: _ => .error .version
    | _ => .error .misuse

/-- Adds what the environment gives and the command line does not. -/
def addVariables (env : String → Option String) : List Setting → Given → Except Request Given
  | [], g => .ok g
  | s :: rest, g =>
    match s.fromEnv.bind env with
    | some value =>
      if g.has s.name then addVariables env rest g
      else
        match give g s value with
        | .ok g => addVariables env rest g
        | .error r => .error r
    | none => addVariables env rest g

def argumentsOf (g : Given) : Arguments where
  config := g.lookup "config"
  provider := g.lookup "provider"
  requeueAfterSecs := (g.lookup "requeue-after-secs").bind seconds?
  namespaceName := g.lookup "namespace"
  logLevel := (g.lookup "log-level").getD "info"
  logJson := g.lookup "log-json" = some "true"
  standalone := g.lookup "standalone" = some "true"
  manifest := g.lookup "manifest"
  definitions := g.has "crd"

/-- Understands a command line. A manifest goes with the standalone mode only. -/
def parse (words : List String) (env : String → Option String) : Request :=
  match (readWords words.length [] words).bind (addVariables env settings) with
  | .error r => r
  | .ok g => if g.has "manifest" ∧ !g.has "standalone" then .misuse else .run (argumentsOf g)

def programName : String := "cloud-delegator"

def version : String := "0.2.0"

def versionText : String := programName ++ " " ++ version ++ "\n"

def Setting.usage (s : Setting) : String :=
  let value := match s.shape with
    | .switch => ""
    | _ => " <" ++ (s.name.map fun c => if c = '-' then '_' else c).toUpper ++ ">"
  let source := match s.fromEnv with
    | some v => " [env: " ++ v ++ "]"
    | none => ""
  "      --" ++ s.name ++ value ++ "\n          " ++ s.about ++ source ++ "\n"

def helpText : String :=
  "Usage: " ++ programName ++ " [OPTIONS]\n\nOptions:\n" ++ String.join (settings.map Setting.usage) ++
    "  -h, --help\n          Print help\n  -V, --version\n          Print version\n"

end Reconciler.CommandLine
