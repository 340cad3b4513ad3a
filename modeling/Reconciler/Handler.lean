import Reconciler.Rule
/-!
Handlers: the objections that keep a resource from being admitted, and the rules that
drive it, of which the first that applies is performed.
-/

set_option autoImplicit false

namespace Reconciler

/-- Why a resource is not admitted, if it is not. -/
abbrev Objection (k : Kind) : Type := Resource k → Option String

structure Handler (k : Kind) (C W : Type) where
  objections : List (Objection k)
  rules : List (Rule k C W)

namespace Handler

variable {k : Kind} {C W : Type}

def violations (h : Handler k C W) (r : Resource k) : List String :=
  h.objections.filterMap fun objection => objection r

/-- Admits a resource that meets with no objection. -/
def admission (h : Handler k C W) (r : Resource k) : Except Error Unit :=
  if h.violations r = [] then .ok () else .error (.admission (h.violations r))

def rule? (h : Handler k C W) (r : Resource k) : Option (Rule k C W) :=
  h.rules.find? fun rule => rule.applies r

/-- Performs the rule for a resource; without one there is nothing to do. -/
def reconcile (h : Handler k C W) (now : Instant) (r : Resource k) :
    Rule.Work k C W (Resource k × Except Stop Bool) := do
  let alive : Except Interruption Unit ← Dialogue.put Demand.check
  match alive with
  | .error i => return (r, .error (.failed i.toError))
  | .ok () =>
    match h.rule? r with
    | none => return (r, .ok false)
    | some rule => rule.perform now r

end Handler

end Reconciler
