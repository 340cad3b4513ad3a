import Reconciler.Time.Instant
import Reconciler.Error
/-!
The states a resource passes through and the history of its transitions. A history is
only ever extended: `Lifecycle.enter` and `Lifecycle.fail` set the state and append the
condition that tells of it.
-/

set_option autoImplicit false

namespace Reconciler

inductive State where
  | pending
  | creating
  | active
  | updating
  | deleting
  | suspended
  | error
  deriving DecidableEq, Repr, Inhabited

namespace State

def all : List State := [.pending, .creating, .active, .updating, .deleting, .suspended, .error]

def name : State → String
  | .pending => "pending"
  | .creating => "creating"
  | .active => "active"
  | .updating => "updating"
  | .deleting => "deleting"
  | .suspended => "suspended"
  | .error => "error"

/-- The state with exactly this name. -/
def ofName? (name : String) : Option State := all.find? (·.name = name)

/-- The state of a text in which upper case letters count as lower case ones. -/
def parse? (text : String) : Option State :=
  all.find? fun s => s.name.toList = text.toList.map Char.toLower

def announcement : State → String
  | .pending => "Resource is pending initialization."
  | .creating => "Resource is being created."
  | .active => "Resource is active and ready."
  | .updating => "Resource is being updated."
  | .deleting => "Resource is being deleted."
  | .suspended => "Resource is suspended."
  | .error => "Resource reconciliation failed."

def title (s : State) : String :=
  match s.name.toList with
  | c :: rest => String.ofList (c.toUpper :: rest)
  | [] => ""

end State

/-- One transition on record. States are `State`s in a resource and free text in a stored
object. -/
structure Condition (τ : Type) where
  state : τ
  reason : String
  message : String
  since : Instant
  deriving DecidableEq, Repr

/-- The state, absent until the resource is looked at for the first time, and the
history, oldest first. -/
structure Lifecycle (τ : Type) where
  state : Option τ
  conditions : List (Condition τ)
  deriving DecidableEq, Repr

def failureReason : String := "ReconcileError"

namespace Condition

def entering (s : State) (now : Instant) : Condition State :=
  { state := s, reason := s.name, message := s.announcement, since := now }

def failing (e : ProviderError) (now : Instant) : Condition State :=
  { state := .error, reason := failureReason, message := e.message, since := now }

variable {τ : Type}

/-- The same condition but for its time. -/
def repeats [DecidableEq τ] (c d : Condition τ) : Bool :=
  c.state = d.state && c.reason = d.reason && c.message = d.message

/-- The condition that is read where this one was written. -/
def settled (c : Condition τ) : Condition τ := { c with since := c.since.settled }

@[simp] theorem state_settled (c : Condition τ) : c.settled.state = c.state := rfl

@[simp] theorem reason_settled (c : Condition τ) : c.settled.reason = c.reason := rfl

@[simp] theorem message_settled (c : Condition τ) : c.settled.message = c.message := rfl

@[simp] theorem repeats_settled [DecidableEq τ] (c d : Condition τ) :
    c.settled.repeats d = c.repeats d := rfl

end Condition

namespace Lifecycle

variable {τ σ : Type}

def fresh : Lifecycle τ := ⟨none, []⟩

instance : Inhabited (Lifecycle τ) := ⟨fresh⟩

/-- The state of the condition before the latest one. -/
def previous (l : Lifecycle τ) : Option τ :=
  match l.conditions.reverse with
  | _ :: c :: _ => some c.state
  | _ => none

def lastMessage (l : Lifecycle τ) : Option String :=
  l.conditions.getLast?.map (·.message)

/-- Sets the state of a condition and appends it. -/
def record (l : Lifecycle τ) (c : Condition τ) : Lifecycle τ :=
  ⟨some c.state, l.conditions ++ [c]⟩

def enter (l : Lifecycle State) (s : State) (now : Instant) : Lifecycle State :=
  l.record (.entering s now)

def fail (l : Lifecycle State) (e : ProviderError) (now : Instant) : Lifecycle State :=
  l.record (.failing e now)

/-- Reads every state, the current one first and the history in order; the first text that
names none is the failure. -/
def mapStates {ε : Type} (read : τ → Except ε σ) (l : Lifecycle τ) :
    Except ε (Lifecycle σ) := do
  let state ← match l.state with
    | some s => (read s).map some
    | none => .ok none
  let conditions ← l.conditions.mapM fun c =>
    (read c.state).map fun s => { state := s, reason := c.reason, message := c.message, since := c.since }
  .ok ⟨state, conditions⟩

def renameStates (write : τ → σ) (l : Lifecycle τ) : Lifecycle σ :=
  { state := l.state.map write
    conditions := l.conditions.map fun c =>
      { state := write c.state, reason := c.reason, message := c.message, since := c.since } }

end Lifecycle

end Reconciler
