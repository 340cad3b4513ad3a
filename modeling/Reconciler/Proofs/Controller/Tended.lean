import Reconciler.Proofs.Handler
import Reconciler.Proofs.Mapping
import Reconciler.Store.Key

/-!
Objects that the engine tends: their status, if there is one, is of the engine's own making,
so that nothing is lost between the object and its resource. Users may change the
desired state of such an object, and the engine its status.
-/

set_option autoImplicit false

namespace Reconciler

variable {k : Kind}

namespace Resource

@[simp] theorem lifecycle_stored (r : Resource k) : r.stored.lifecycle = r.lifecycle := by
  unfold stored lifecycle
  cases r.status <;> rfl

theorem rawState_of_lifecycle {r r' : Resource k} (same : r'.lifecycle = r.lifecycle) :
    r'.rawState = r.rawState := congrArg Lifecycle.state same

theorem rawState_of_unobserved {r : Resource k} (unobserved : r.status = none) :
    r.rawState = none := by
  unfold rawState lifecycle
  rw [unobserved]
  rfl

end Resource

namespace Object

def lifecycle (o : Object k) : Lifecycle String := (o.status.map (·.lifecycle)).getD .fresh

/-- The object stands for the resource, lies in the namespace of its scope, and was last
changed, if it tells, in a year of four digits. -/
structure WellFormed (o : Object k) (r : Resource k) : Prop where
  read : o.toResource = .ok r
  home : o.metadata.namespaceName = some r.metadata.scope.namespaceName
  dated : ∀ {t}, r.metadata.modifiedAt = some t → 0 ≤ t.year ∧ t.year ≤ 9999

/-- A well-formed object whose status is of the engine's own making. -/
structure Tended (o : Object k) (r : Resource k) : Prop extends WellFormed o r where
  told : o.status.map (·.lifecycle) = r.status.map fun s => s.lifecycle.renameStates State.name
  driven : Driven r.rawState

namespace WellFormed

variable {o : Object k} {r : Resource k}

theorem metadata (formed : o.WellFormed r) :
    Mapping.readMetadata o.metadata = .ok r.metadata := (toResource_eq_ok.mp formed.read).1

theorem storable (formed : o.WellFormed r) : r.metadata.Storable :=
  storable_of_toResource formed.read fun _ told => formed.dated told

theorem isDeleted (formed : o.WellFormed r) :
    r.isDeleted = o.metadata.deletionTimestamp.isSome :=
  congrArg Option.isSome (Mapping.of_readMetadata formed.metadata).2.2.2.2.1

theorem key (formed : o.WellFormed r) : ObjectKey.ofObject o = .ofReference r.reference := by
  have name := (Mapping.of_readMetadata formed.metadata).1
  simp only [ObjectKey.ofObject, ObjectMeta.anyName, formed.home, name]
  rfl

theorem unobserved (formed : o.WellFormed r) (fresh : o.status = none) : r.status = none := by
  have status := (toResource_eq_ok.mp formed.read).2.1
  rw [fresh] at status
  exact (Except.ok.inj status).symm

theorem fresh (formed : o.WellFormed r) (fresh : o.status = none) : o.Tended r := by
  have unobserved := formed.unobserved fresh
  refine { toWellFormed := formed, told := ?_, driven := ?_ }
  · rw [fresh, unobserved]
    rfl
  · rw [Resource.rawState_of_unobserved unobserved]
    exact .fresh

theorem unique (formed : o.WellFormed r) {r' : Resource k} (formed' : o.WellFormed r') : r = r' :=
  Except.ok.inj (formed.read.symm.trans formed'.read)

theorem restamp (formed : o.WellFormed r) (version : Option String)
    (created deleted : Option Instant) :
    (o.restamp version created deleted).WellFormed
      (r.restamp (version.getD "") created deleted) where
  read := toResource_restamp formed.read version created deleted
  home := formed.home
  dated := formed.dated

theorem respec (formed : o.WellFormed r) (spec : k.Spec String) :
    WellFormed { o with spec := spec } { r with spec := k.mapSpec Reference.plain spec } where
  read := by
    obtain ⟨metadata, status, -⟩ := toResource_eq_ok.mp formed.read
    exact toResource_eq_ok.mpr ⟨metadata, status, rfl⟩
  home := formed.home
  dated := formed.dated

theorem written (formed : o.WellFormed r) {r' : Resource k} (placed : r'.metadata = r.metadata) :
    (ofResource r').WellFormed r'.stored where
  read := toResource_ofResource (placed ▸ formed.storable)
  home := rfl
  dated := fun told => formed.dated (placed ▸ told)

end WellFormed

namespace Tended

variable {o : Object k} {r : Resource k}

theorem lifecycle (tended : o.Tended r) :
    o.lifecycle = r.lifecycle.renameStates State.name := by
  unfold Object.lifecycle Resource.lifecycle
  rw [tended.told]
  cases r.status <;> rfl

theorem state (tended : o.Tended r) : o.lifecycle.state = r.rawState.map State.name :=
  congrArg Lifecycle.state tended.lifecycle

theorem rawState (tended : o.Tended r) {s : State} (state : o.lifecycle.state = some s.name) :
    r.rawState = some s := by
  have named : r.rawState.map State.name = some s.name := tended.state.symm.trans state
  obtain ⟨s', raw, same⟩ := Option.map_eq_some_iff.mp named
  have parsed := congrArg State.parse? same
  rw [State.parse?_name, State.parse?_name] at parsed
  exact raw.trans parsed

theorem rawState_eq_none (tended : o.Tended r) (state : o.lifecycle.state = none) :
    r.rawState = none := Option.map_eq_none_iff.mp (tended.state.symm.trans state)

theorem restamp (tended : o.Tended r) (version : Option String)
    (created deleted : Option Instant) :
    (o.restamp version created deleted).Tended (r.restamp (version.getD "") created deleted) where
  toWellFormed := tended.toWellFormed.restamp version created deleted
  told := tended.told
  driven := tended.driven

theorem respec (tended : o.Tended r) (spec : k.Spec String) :
    Tended { o with spec := spec } { r with spec := k.mapSpec Reference.plain spec } where
  toWellFormed := tended.toWellFormed.respec spec
  told := tended.told
  driven := tended.driven

theorem written (tended : o.Tended r) {r' : Resource k} (placed : r'.metadata = r.metadata)
    (driven : Driven r'.rawState) : (ofResource r').Tended r'.stored where
  toWellFormed := tended.toWellFormed.written placed
  told := by
    unfold ofResource Resource.stored
    cases r'.status <;> rfl
  driven := by
    rw [Resource.rawState_of_lifecycle (Resource.lifecycle_stored r')]
    exact driven

end Tended

end Object

end Reconciler
