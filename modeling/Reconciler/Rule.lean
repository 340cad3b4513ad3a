import Reconciler.Resource
import Reconciler.Context
import Reconciler.Dialogue
import Reconciler.Text.Quoted
/-!
The rules that drive a resource. A rule says when it applies, what is asked of the
provider, how the outcome shows in the resource and what is written to the store. A call
must leave the state of the resource alone: `Rule.perform` stops for good where it does not.
-/

set_option autoImplicit false

namespace Reconciler

/-- What no step recovers from. -/
inductive Crash where
  /-- A call changed the state that only rules may change. -/
  | stateChanged (kind name rule : String) (before after : Option State)
  /-- A moment lies beyond what the clock can tell. -/
  | momentOutOfRange
  /-- A clock was to tick without time between the ticks. -/
  | emptyInterval
  deriving DecidableEq, Repr

namespace Crash

def stateText : Option State → String
  | some s => "Some(" ++ s.title ++ ")"
  | none => "None"

def message : Crash → String
  | .stateChanged kind name rule before after =>
    kind ++ " " ++ name ++ ": delegate of '" ++ rule ++ "' changed the lifecycle state from " ++
      stateText before ++ " to " ++ stateText after
  | .momentOutOfRange => "overflow when adding duration to instant"
  | .emptyInterval => "`period` must be non-zero."

end Crash

inductive Stop where
  | failed (e : Error)
  | crashed (c : Crash)
  deriving DecidableEq, Repr

/-- How a provider call ended, if it was not cut short. -/
abbrev CallOutcome := Except ProviderError Unit

/-- What a rule asks for, with calls of type `C` and writes of type `W`. -/
inductive Demand (k : Kind) (C W : Type) where
  | check
  | call (c : C) (r : Resource k)
  | write (w : W) (r : Resource k)

/-- A call and a write may change the resource, even where they fail. -/
@[reducible] def Demand.Answer {k : Kind} {C W : Type} : Demand k C W → Type
  | .check => Except Interruption Unit
  | .call .. => Resource k × Except Interruption CallOutcome
  | .write .. => Resource k × Except Error Unit

structure Rule (k : Kind) (C W : Type) where
  name : String
  applies : Resource k → Bool
  /-- What to ask of the provider, if anything. -/
  call : Option C
  onSuccess : Instant → Resource k → Resource k
  onFailure : ProviderError → Instant → Resource k → Resource k
  writeSuccess : Option W
  writeFailure : Option W
  /-- Look at the resource again after a success. -/
  requeues : Bool

namespace Rule

variable {k : Kind} {C W : Type}

abbrev Work (k : Kind) (C W : Type) (α : Type) : Type := Dialogue (Demand k C W) Demand.Answer α

/-- A rule that only records failures. -/
def plain (name : String) (applies : Resource k → Bool) : Rule k C W :=
  { name, applies, call := none, onSuccess := fun _ r => r, onFailure := fun e now r => r.fail e now,
    writeSuccess := none, writeFailure := none, requeues := false }

def describe (rule : Rule k C W) : String :=
  "ResourceOperation \x7b name: " ++ Text.quoted rule.name ++ ", requeue_on_success: " ++
    (if rule.requeues then "true" else "false") ++ ", .. \x7d"

def askProvider (rule : Rule k C W) (r : Resource k) :
    Work k C W (Resource k × Except Interruption CallOutcome) :=
  match rule.call with
  | some c => Dialogue.put (Demand.call c r)
  | none => do
    let alive : Except Interruption Unit ← Dialogue.put Demand.check
    return (r, alive.map fun _ => .ok ())

def store (w : Option W) (r : Resource k) : Work k C W (Resource k × Except Error Unit) :=
  match w with
  | some w => Dialogue.put (Demand.write w r)
  | none => do
    let alive : Except Interruption Unit ← Dialogue.put Demand.check
    return (r, alive.mapError Interruption.toError)

def conclude (w : Option W) (again : Bool) (r : Resource k) :
    Work k C W (Resource k × Except Stop Bool) := do
  let (r, written) ← store w r
  return (r, (written.map fun _ => again).mapError .failed)

def settle (rule : Rule k C W) (now : Instant) (r : Resource k) :
    CallOutcome → Work k C W (Resource k × Except Stop Bool)
  | .ok () => conclude rule.writeSuccess rule.requeues (rule.onSuccess now r)
  | .error .stillProcessing => return (r, .ok true)
  | .error e => conclude rule.writeFailure true (rule.onFailure e now r)

/-- Performs a rule; the answer says whether to look at the resource again. -/
def perform (rule : Rule k C W) (now : Instant) (r : Resource k) :
    Work k C W (Resource k × Except Stop Bool) := do
  let (called, ended) ← rule.askProvider r
  match ended with
  | .error i => return (called, .error (.failed i.toError))
  | .ok outcome =>
    if r.rawState ≠ called.rawState then
      return (called, .error (.crashed
        (.stateChanged k.name called.name rule.name r.rawState called.rawState)))
    else rule.settle now called outcome

end Rule

end Reconciler
