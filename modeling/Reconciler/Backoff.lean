import Reconciler.Context
import Reconciler.Store.Key
/-!
Delays after failures: a key that keeps failing waits twice as long each time, up to a
limit, and no key's failures concern another.
-/

set_option autoImplicit false

namespace Reconciler

structure Backoff where
  base : Duration
  max : Duration
  /-- Failures on record, counted up to the largest number of 32 bits. -/
  counts : SortedMap ObjectKey Nat

namespace Backoff

def ofLimits (base max : Duration) : Backoff := ⟨base, max, SortedMap.empty⟩

def standard : Backoff := ofLimits (.ofSeconds 5) (.ofSeconds 300)

instance : Inhabited Backoff := ⟨standard⟩

def failures (b : Backoff) (key : ObjectKey) : Nat := (b.counts.get? key).getD 0

/-- The delay after a number of failures; from the 17th on it stays the same. -/
def delay (b : Backoff) (failures : Nat) : Duration :=
  min (b.base.scale (Nat.pow 2 (Nat.min failures 16))) b.max

def next (b : Backoff) (key : ObjectKey) : Duration × Backoff :=
  (b.delay (b.failures key),
    { b with counts := b.counts.insert key (Nat.min (b.failures key + 1) (wordBound 32 - 1)) })

def reset (b : Backoff) (key : ObjectKey) : Backoff := { b with counts := b.counts.erase key }

def retain (b : Backoff) (live : List ObjectKey) : Backoff :=
  { b with counts := b.counts.filter fun key _ => live.contains key }

/-- The delay after an error; none if only a change of the object helps. -/
def retry (b : Backoff) (e : Error) (key : ObjectKey) : Option Duration × Backoff :=
  match e.remedy with
  | .backOff => ((b.next key).map some id)
  | .retryAfter delay => (some delay, b)
  | .awaitChange => (none, b)

end Backoff

end Reconciler
