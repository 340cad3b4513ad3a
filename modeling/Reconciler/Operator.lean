import Reconciler.Bench
import Reconciler.CommandLine
import Reconciler.Configuration.Reader
import Reconciler.Definition
import Reconciler.Error.Diagnostic
import Reconciler.Files
import Reconciler.Manifest.Reader
/-!
A run of the operator from its command line: it is configured, gets its provider, fills its
stores from a manifest, and works until it is interrupted.
-/

set_option autoImplicit false

namespace Reconciler.Operator

open CommandLine (Arguments)

structure Ending where
  code : Nat
  output : String
  /-- The line that tells of the error. -/
  complaint : Option String
  /-- The messages it logs about itself. -/
  said : List String
  deriving DecidableEq, Repr

namespace Ending

def silent (code : Nat) : Ending := ⟨code, "", none, []⟩

def printing (output : String) : Ending := ⟨0, output, none, []⟩

def failed (said : List String) (e : Error) : Ending :=
  ⟨1, "", some ("Error: " ++ e.diagnostic), said⟩

end Ending

def readFile (read : FileReader) (what path : String) : Except Error String :=
  match read path with
  | .ok text => .ok text
  | .error fault => .error (.configuration ("cannot read " ++ what ++ path ++ ": " ++ fault.message))

/-- The configuration of the file, or the usual one, and what the command line says instead.
It is checked before and after. -/
def configure (read : FileReader) (a : Arguments) : Except Error Configuration := do
  let c ← match a.config with
    | some path => do Configuration.ofText (← readFile read "" path)
    | none => .ok default
  let c := { c with
    provider := { c.provider with name := a.provider.getD c.provider.name }
    requeueAfterSecs := a.requeueAfterSecs.getD c.requeueAfterSecs
    namespaceName := a.namespaceName.or c.namespaceName }
  c.validate
  .ok c

/-- Messages about itself are shown unless only warnings or errors are. -/
def isTalkative (a : Arguments) : Bool := Text.lower a.logLevel ∉ ["warn", "error"]

def greeting (a : Arguments) (c : Configuration) : List String :=
  ["Starting Cloud Delegator", "  Version: " ++ CommandLine.version,
    "  Provider: " ++ c.provider.name, "  Requeue after: " ++ c.requeueAfter.describe,
    "  Standalone mode: " ++ if a.standalone then "true" else "false"]

def farewell : String := "Delegator shutdown complete"

/-- The stores and the provider of a standalone run, filled from the manifest if there is one. -/
def equip (read : FileReader) (wall : Instant) (a : Arguments) (c : Configuration) :
    Except Error Bench := do
  let provider ← c.provider.create
  let bench := Bench.assemble (.dummy provider) .standard (some .empty)
  match a.manifest with
  | none => .ok bench
  | some path =>
    let m ← Manifest.ofText (← readFile read "manifest " path)
    match bench.seed .unbounded wall m with
    | (.ok _, bench) => .ok bench
    | (.error e, _) => .error e

def pace (c : Configuration) : Pace where
  requeueAfter := c.requeueAfter
  reconcileTimeout := c.reconcileTimeout
  interval := c.pollInterval
  pageSize := 100

def sweep (wall : Instant) (p : Pace) (b : Bench) : Except Stop Unit × Bench :=
  let (first, b) := b.work .volume (Station.sweep p wall .unbounded)
  let (second, b) := b.work .workspace (Station.sweep p wall .unbounded)
  match first, second with
  | .error (.crashed c), _ => (.error (.crashed c), b)
  | _, .error (.crashed c) => (.error (.crashed c), b)
  | _, _ => (.ok (), b)

inductive Start where
  | ended (e : Ending)
  /-- It works on its own stores. -/
  | standalone (said : List String) (pace : Pace) (bench : Bench)
  /-- It works on a cluster. -/
  | attached (said : List String) (c : Configuration)

def begin (read : FileReader) (wall : Instant) (a : Arguments) : Start :=
  match configure read a with
  | .error e => .ended (.failed [] e)
  | .ok c =>
    let said := if isTalkative a then greeting a c else []
    if a.standalone then
      match equip read wall a c with
      | .ok bench => .standalone said (pace c) bench
      | .error e => .ended (.failed said e)
    else
      match c.provider.create with
      | .ok _ => .attached said c
      | .error e => .ended (.failed said e)

def start (words : List String) (env : String → Option String) (read : FileReader)
    (wall : Instant) : Start :=
  match CommandLine.parse words env with
  | .misuse => .ended (.silent 2)
  | .help => .ended (.printing CommandLine.helpText)
  | .version => .ended (.printing CommandLine.versionText)
  | .run a => if a.definitions then .ended (.printing Definition.render) else begin read wall a

/-- A run that is interrupted once it works. One that needs a cluster finds none; a crash in
the first sweep comes before the interruption. -/
def run (words : List String) (env : String → Option String) (read : FileReader)
    (wall : Instant) : Ending :=
  match start words env read wall with
  | .ended e => e
  | .attached said _ => .failed said (.unavailable "no cluster is configured")
  | .standalone said pace bench =>
    match (sweep wall pace bench).1 with
    | .ok () => ⟨0, "", none, if said = [] then [] else said ++ [farewell]⟩
    | .error _ => ⟨101, "", none, said⟩

end Reconciler.Operator
