import Reconciler.Kind
import Reconciler.Metadata
import Reconciler.Lifecycle
/-!
Resources as the engine sees them: metadata, a desired state and, once something was
observed, a status with the lifecycle.
-/

set_option autoImplicit false

namespace Reconciler

/-- What was observed: a lifecycle with states of type `τ` and facts that mention other
resources by `ρ`. -/
structure Status (k : Kind) (τ ρ : Type) where
  lifecycle : Lifecycle τ
  facts : k.Facts ρ

structure Resource (k : Kind) where
  metadata : Metadata
  spec : k.Spec Reference
  status : Option (Status k State Reference)

abbrev Volume := Resource .volume
abbrev Workspace := Resource .workspace

deriving instance DecidableEq for Status
deriving instance DecidableEq for Resource

namespace Resource

variable {k : Kind}

def name (r : Resource k) : String := r.metadata.name

def reference (r : Resource k) : ResourceRef := r.metadata.reference

def lifecycle (r : Resource k) : Lifecycle State :=
  (r.status.map (·.lifecycle)).getD .fresh

/-- The state on record, absent when it was never set. -/
def rawState (r : Resource k) : Option State := r.lifecycle.state

/-- The state, where an absent one counts as pending. -/
def state (r : Resource k) : State := r.rawState.getD .pending

def conditions (r : Resource k) : List (Condition State) := r.lifecycle.conditions

/-- The state of the condition before the latest one. -/
def previousState (r : Resource k) : Option State := r.lifecycle.previous

def isDeleted (r : Resource k) : Bool := r.metadata.isDeleted

/-- The status, or an empty one where a kind can have one. -/
def statusOrFresh? (r : Resource k) : Option (Status k State Reference) :=
  match r.status with
  | some s => some s
  | none => k.noFacts?.map fun facts => ⟨.fresh, facts⟩

/-- Changes the lifecycle, of an empty status if there was none. -/
def mapLifecycle (f : Lifecycle State → Lifecycle State) (r : Resource k) : Resource k :=
  { r with status := r.statusOrFresh?.map fun s => { s with lifecycle := f s.lifecycle } }

/-- Changes the facts, of an empty status if there was none. -/
def mapFacts (f : k.Facts Reference → k.Facts Reference) (r : Resource k) : Resource k :=
  { r with status := r.statusOrFresh?.map fun s => { s with facts := f s.facts } }

def enter (s : State) (now : Instant) (r : Resource k) : Resource k :=
  r.mapLifecycle (·.enter s now)

def fail (e : ProviderError) (now : Instant) (r : Resource k) : Resource k :=
  r.mapLifecycle (·.fail e now)

/-- Sets the state without recording it. -/
def setState (s : Option State) (r : Resource k) : Resource k :=
  r.mapLifecycle fun l => { l with state := s }

end Resource

namespace Volume

/-- The provisioned size in GB, 0 before the volume was created. -/
def observedSize (v : Volume) : Nat :=
  match v.status with
  | some s => s.facts.sizeGb
  | none => 0

def observedOffer (v : Volume) : Option Reference := v.status.bind (·.facts.offer)

def needsResize (v : Volume) : Bool := v.observedSize < v.spec.sizeGb

def copySize (v : Volume) : Volume :=
  Resource.mapFacts (k := .volume) (fun facts => { facts with sizeGb := v.spec.sizeGb }) v

def adoptSpec (v : Volume) : Volume :=
  Resource.mapFacts (k := .volume)
    (fun facts => { facts with sizeGb := v.spec.sizeGb, offer := some v.spec.offer }) v

end Volume

end Reconciler
