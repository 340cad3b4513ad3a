import Reconciler.Bench.Station
import Reconciler.Manifest
/-!
The bench: a store for volumes and one for workspaces, one provider for both, and a clock.
The controller of a kind runs at its station of the bench.
-/

set_option autoImplicit false

namespace Reconciler

/-- The store of a kind and what sweeps over it remember. -/
structure Lane (k : Kind) where
  shelf : Shelf k
  patience : Patience

structure Bench where
  now : Moment
  volumes : Lane .volume
  workspaces : Lane .workspace
  backend : Backend
  metrics : Option Metrics

namespace Bench

def assemble (backend : Backend) (backoff : Backoff) (metrics : Option Metrics) : Bench :=
  { now := .zero, backend, metrics
    volumes := ⟨.empty, .ofBackoff backoff⟩
    workspaces := ⟨.empty, .ofBackoff backoff⟩ }

/-- The lane of a kind, an empty one for kinds that are not reconciled. -/
def lane (b : Bench) : (k : Kind) → Lane k
  | .volume => b.volumes
  | .workspace => b.workspaces
  | .storageOffer => ⟨.empty, .ofBackoff .standard⟩
  | .networkOffer => ⟨.empty, .ofBackoff .standard⟩

def setLane (b : Bench) : (k : Kind) → Lane k → Bench
  | .volume, l => { b with volumes := l }
  | .workspace, l => { b with workspaces := l }
  | .storageOffer, _ => b
  | .networkOffer, _ => b

variable {k : Kind} {α : Type}

def station (b : Bench) (k : Kind) : Station k :=
  let l := b.lane k
  { now := b.now, surroundings := ⟨l.shelf, b.backend⟩, metrics := b.metrics, patience := l.patience }

def setStation (b : Bench) (s : Station k) : Bench :=
  { b.setLane k ⟨s.surroundings.shelf, s.patience⟩ with
    now := s.now, backend := s.surroundings.backend, metrics := s.metrics }

def work (b : Bench) (k : Kind) (f : Station k → α × Station k) : α × Bench :=
  let (a, s) := f (b.station k)
  (a, b.setStation s)

/-- Changes the store of a kind past its log and its faults. -/
def mapShelf (b : Bench) (k : Kind) (f : Shelf k → Shelf k) : Bench :=
  b.setLane k { b.lane k with shelf := f (b.lane k).shelf }

def advance (b : Bench) (d : Duration) : Bench := { b with now := Moment.add b.now d }

def plant (ctx : Context) (wall : Instant) (q : Manifest.Seedling) (b : Bench) :
    Except Error (Object q.kind) × Bench :=
  b.work q.kind (Station.answer ctx wall (Query.read (.create q.object)))

def seed (ctx : Context) (wall : Instant) (m : Manifest) (b : Bench) : Except Error Nat × Bench :=
  m.seed.run (plant ctx wall) b

end Bench

end Reconciler
