import Reconciler.Proofs.Handler.Turn
import Reconciler.Proofs.Mapping

/-!
What is observed of a volume. Its size and offer are changed by what the engine notes down at
the end of a call, and by nothing else.
-/

set_option autoImplicit false

namespace Reconciler

namespace Volume

theorem observedSize_mapLifecycle (f : Lifecycle State → Lifecycle State) (v : Volume) :
    observedSize (v.mapLifecycle f) = observedSize v := by
  unfold observedSize Resource.mapLifecycle Resource.statusOrFresh?
  cases v.status <;> rfl

theorem observedOffer_mapLifecycle (f : Lifecycle State → Lifecycle State) (v : Volume) :
    observedOffer (v.mapLifecycle f) = observedOffer v := by
  unfold observedOffer Resource.mapLifecycle Resource.statusOrFresh?
  cases v.status <;> rfl

theorem observedSize_enter (v : Volume) (s : State) (now : Instant) :
    observedSize (v.enter s now) = observedSize v := observedSize_mapLifecycle _ v

theorem observedSize_adoptSpec (v : Volume) : observedSize (adoptSpec v) = v.spec.sizeGb := by
  unfold observedSize adoptSpec Resource.mapFacts Resource.statusOrFresh?
  cases v.status <;> rfl

theorem observedSize_copySize (v : Volume) : observedSize (copySize v) = v.spec.sizeGb := by
  unfold observedSize copySize Resource.mapFacts Resource.statusOrFresh?
  cases v.status <;> rfl

theorem observedOffer_adoptSpec (v : Volume) :
    observedOffer (adoptSpec v) = some v.spec.offer := by
  unfold observedOffer adoptSpec Resource.mapFacts Resource.statusOrFresh?
  cases v.status <;> rfl

theorem observedOffer_copySize (v : Volume) : observedOffer (copySize v) = observedOffer v := by
  unfold observedOffer copySize Resource.mapFacts Resource.statusOrFresh?
  cases v.status <;> rfl

theorem observedSize_stored (v : Volume) : observedSize (Resource.stored v) = observedSize v := by
  unfold observedSize Resource.stored
  cases v.status <;> rfl

theorem observedOffer_stored (v : Volume) :
    observedOffer (Resource.stored v) = (observedOffer v).map Reference.stored := by
  unfold observedOffer Resource.stored
  cases v.status <;> rfl

end Volume

namespace Resource

variable {k : Kind}

theorem rawState_enter (r : Resource k)
    (observable : (k.noFacts? : Option (k.Facts Reference)).isSome) (s : State) (now : Instant) :
    (r.enter s now).rawState = some s := congrArg Lifecycle.state (r.lifecycle_enter observable s now)

theorem rawState_fail (r : Resource k)
    (observable : (k.noFacts? : Option (k.Facts Reference)).isSome) (e : ProviderError)
    (now : Instant) : (r.fail e now).rawState = some .error :=
  congrArg Lifecycle.state (r.lifecycle_fail observable e now)

theorem driven_of_turned {r : Resource k}
    (observable : (k.noFacts? : Option (k.Facts Reference)).isSome) (driven : Driven r.rawState)
    {now : Instant} {outcome : CallOutcome} {t : Turn k} (turned : Turned r now outcome t) :
    Driven t.left.rawState := by
  cases turned with
  | entered enters =>
    rw [r.rawState_enter observable]
    exact (enters.transition driven).1.driven
  | @activated op asks lasting =>
    rw [(r.noting op).rawState_enter observable]
    exact .active
  | failed asks final =>
    rw [r.rawState_fail observable]
    exact .error
  | _ => exact driven

theorem outgrown_mapLifecycle (f : Lifecycle State → Lifecycle State) (r : Resource k) :
    (r.mapLifecycle f).outgrown = r.outgrown := by
  cases k with
  | volume =>
    change decide (Volume.observedSize _ < _) = decide (Volume.observedSize _ < _)
    rw [Volume.observedSize_mapLifecycle f r]
    rfl
  | workspace => rfl
  | storageOffer => rfl
  | networkOffer => rfl

theorem outgrown_enter (r : Resource k) (s : State) (now : Instant) :
    (r.enter s now).outgrown = r.outgrown := r.outgrown_mapLifecycle _

theorem outgrown_noting {op : Operation} (lasting : op ≠ .delete) (r : Resource k) :
    (r.noting op).outgrown = false := by
  cases k with
  | volume =>
    refine decide_eq_false (Nat.not_lt.mpr ?_)
    cases op with
    | create => exact (Volume.observedSize_adoptSpec r).ge
    | increaseSize => exact (Volume.observedSize_copySize r).ge
    | delete => exact absurd rfl lasting
  | workspace => rfl
  | storageOffer => rfl
  | networkOffer => rfl

theorem outgrown_stored (r : Resource k) : r.stored.outgrown = r.outgrown := by
  cases k with
  | volume =>
    change decide (Volume.observedSize _ < _) = decide (Volume.observedSize _ < _)
    rw [Volume.observedSize_stored r]
    rfl
  | workspace => rfl
  | storageOffer => rfl
  | networkOffer => rfl

end Resource

end Reconciler
