import Reconciler.Proofs.Controller.Changes
import Reconciler.Proofs.Handler.Retry
import Reconciler.Proofs.Volume.Gauge

/-!
Where a volume stands. Its state, the state it failed in and what was provisioned for it belong
together: nothing before it was made, and afterwards whatever is known of volumes that were made
and of those that are to grow. The history keeps this through failures, since the state that a
volume failed in is that of its condition before the latest.
-/

set_option autoImplicit false

namespace Reconciler

open MemoryStore (Bears Change Stands)

namespace Volume

/-- What goes with the state of a volume, where `made` is known of volumes that were made and
`short` of those that are to grow. -/
inductive Standing (made short : Gauge → Prop) (v : Volume) : Option State → Prop
  | fresh (unmade : v.gauge.Unmade) : Standing made short v none
  | creating (unmade : v.gauge.Unmade) : Standing made short v (some .creating)
  | active (known : made v.gauge) : Standing made short v (some .active)
  | updating (known : short v.gauge) : Standing made short v (some .updating)
  | failedCreation (before : v.previousState = some .creating) (unmade : v.gauge.Unmade) :
      Standing made short v (some .error)
  | failedGrowth (before : v.previousState = some .updating) (known : short v.gauge) :
      Standing made short v (some .error)
  | failedDeletion (mark : v.isDeleted = true) : Standing made short v (some .error)

structure Traced (made short : Gauge → Prop) (v : Volume) : Prop where
  recorded : v.lifecycle.Recorded
  standing : Standing made short v v.rawState

/-- What turns and fair edits keep of the knowledge about volumes. -/
structure Steady (fair : Fairness .volume) (made short : Gauge → Prop) : Prop where
  adopted : ∀ g : Gauge, made g.adopted
  grown : ∀ {g : Gauge}, short g → made g.grown
  outgrown : ∀ {g : Gauge}, made g → g.size < g.wantedSize → short g
  edited : ∀ {o o' : Object .volume}, fair (some o) (some o') → o'.gauge.size = o.gauge.size →
    o'.gauge.offer = o.gauge.offer →
      (made o.gauge → made o'.gauge) ∧ (short o.gauge → short o'.gauge)

section Turns

variable {fair : Fairness .volume} {made short : Gauge → Prop} {v v' : Volume} {now : Instant}
  {outcome : CallOutcome} {t : Turn .volume} {state : Option State}

theorem Standing.of_same (standing : Standing made short v state)
    (unmade : v.gauge.Unmade → v'.gauge.Unmade) (known : made v.gauge → made v'.gauge)
    (small : short v.gauge → short v'.gauge) (before : v'.previousState = v.previousState)
    (mark : v.isDeleted = true → v'.isDeleted = true) : Standing made short v' state := by
  cases standing with
  | fresh here => exact .fresh (unmade here)
  | creating here => exact .creating (unmade here)
  | active here => exact .active (known here)
  | updating here => exact .updating (small here)
  | failedCreation failed here => exact .failedCreation (before.trans failed) (unmade here)
  | failedGrowth failed here => exact .failedGrowth (before.trans failed) (small here)
  | failedDeletion here => exact .failedDeletion (mark here)

theorem Traced.of_active (recorded : v.lifecycle.Recorded) (active : v.rawState = some .active)
    (known : made v.gauge) : Traced made short v where
  recorded := recorded
  standing := by
    rw [active]
    exact .active known

theorem Traced.driven (traced : Traced made short v) : Driven v.rawState := by
  have standing := traced.standing
  generalize v.rawState = state at standing
  cases standing <;> constructor

theorem Traced.unmade_of_creating (traced : Traced made short v)
    (creating : v.rawState = some .creating) : v.gauge.Unmade := by
  have standing := traced.standing
  rw [creating] at standing
  cases standing with
  | creating unmade => exact unmade

theorem Traced.made_of_active (traced : Traced made short v) (active : v.rawState = some .active) :
    made v.gauge := by
  have standing := traced.standing
  rw [active] at standing
  cases standing with
  | active known => exact known

theorem Traced.short_of_updating (traced : Traced made short v)
    (updating : v.rawState = some .updating) : short v.gauge := by
  have standing := traced.standing
  rw [updating] at standing
  cases standing with
  | updating known => exact known

theorem Traced.enter (traced : Traced made short v) {s : State} (enters : v.Enters s)
    (steady : Steady fair made short) : Standing made short (v.enter s now) (some s) := by
  have standing := traced.standing
  -- A retry is told by the state that the volume failed in, and so is where the volume stands.
  have failed {s' : State} (here : v.failedIn s' = true) :
      v.rawState = some .error ∧ v.previousState = some s' :=
    ⟨Resource.rawState_of_state (Resource.state_of_failedIn here) (by decide),
      of_decide_eq_true (Bool.and_eq_true_iff.mp here).2⟩
  cases enters with
  | begin pending =>
    rw [Resource.rawState_of_pending traced.driven pending] at standing
    cases standing with
    | fresh unmade => exact .creating (v.gauge_enter .creating now ▸ unmade)
  | outgrow active small =>
    have known := steady.outgrown (traced.made_of_active active) (size_lt_of_outgrown small)
    exact .updating (v.gauge_enter .updating now ▸ known)
  | retryCreation retried unwanted =>
    obtain ⟨error, before⟩ := failed retried
    rw [error] at standing
    cases standing with
    | failedCreation _ unmade => exact .creating (v.gauge_enter .creating now ▸ unmade)
    | failedGrowth other _ => cases before.symm.trans other
    | failedDeletion mark =>
      cases unwanted.symm.trans (Resource.wantsDeletion_of_mark mark)
  | retryGrowth retried small unwanted =>
    obtain ⟨error, before⟩ := failed retried
    rw [error] at standing
    cases standing with
    | failedCreation other _ => cases before.symm.trans other
    | failedGrowth _ known => exact .updating (v.gauge_enter .updating now ▸ known)
    | failedDeletion mark =>
      cases unwanted.symm.trans (Resource.wantsDeletion_of_mark mark)

theorem Traced.activate (traced : Traced made short v) {op : Operation} (asks : v.Asks op)
    (lasting : op ≠ .delete) (steady : Steady fair made short) :
    Standing made short ((v.noting op).enter .active now) (some .active) := by
  refine .active ?_
  rw [gauge_enter]
  cases asks with
  | create creating => exact v.gauge_adoptSpec ▸ steady.adopted _
  | grow updating small =>
    exact v.gauge_copySize ▸ steady.grown (traced.short_of_updating updating)
  | delete => exact absurd rfl lasting

theorem Traced.fail (traced : Traced made short v) {op : Operation} (asks : v.Asks op)
    (e : ProviderError) : Standing made short (v.fail e now) (some .error) := by
  have before : (v.fail e now).previousState = v.rawState :=
    v.previousState_fail rfl traced.recorded e now
  cases asks with
  | create creating =>
    exact .failedCreation (before.trans creating)
      (v.gauge_fail e now ▸ traced.unmade_of_creating creating)
  | grow updating small =>
    exact .failedGrowth (before.trans updating)
      (v.gauge_fail e now ▸ traced.short_of_updating updating)
  | delete wanted begun made large =>
    have mark : v.isDeleted = true := Resource.isDeleted_of_wantsDeletion traced.driven wanted
    exact .failedDeletion mark

theorem Traced.turned (traced : Traced made short v) (turned : Turned v now outcome t)
    (steady : Steady fair made short) : Traced made short t.left := by
  refine ⟨turned.recorded rfl traced.recorded, ?_⟩
  cases turned with
  | rested idle => exact traced.standing
  | entered enters =>
    rw [v.rawState_enter rfl]
    exact traced.enter enters steady
  | @activated op asks lasting =>
    rw [(v.noting op).rawState_enter rfl]
    exact traced.activate asks lasting steady
  | deleted asks => exact traced.standing
  | awaited asks => exact traced.standing
  | failed asks final =>
    rw [v.rawState_fail rfl]
    exact traced.fail asks _

theorem Traced.restamp (traced : Traced made short v) (version : String)
    (created deleted : Option Instant) (mark : v.isDeleted = true → deleted.isSome = true) :
    Traced made short (Resource.restamp v version created deleted) where
  recorded := traced.recorded
  standing := traced.standing.of_same id id id rfl mark

theorem Traced.stored (traced : Traced made short v) : Traced made short (Resource.stored v) := by
  have same : (Resource.stored v).lifecycle = v.lifecycle := Resource.lifecycle_stored v
  refine ⟨same ▸ traced.recorded, ?_⟩
  rw [Resource.rawState_of_lifecycle same]
  have before : (Resource.stored v).previousState = v.previousState :=
    congrArg Lifecycle.previous same
  refine traced.standing.of_same ?_ ?_ ?_ before id
  · exact fun unmade => v.gauge_stored ▸ unmade
  · exact fun known => v.gauge_stored ▸ known
  · exact fun known => v.gauge_stored ▸ known

theorem Traced.edited (traced : Traced made short v) (steady : Steady fair made short)
    {o o' : Object .volume} (formed : o.WellFormed v) (formed' : o'.WellFormed v')
    (allowed : fair (some o) (some o')) (status : v'.status = v.status)
    (mark : v.isDeleted = true → v'.isDeleted = true) : Traced made short v' := by
  have lifecycle : v'.lifecycle = v.lifecycle := by
    unfold Resource.lifecycle
    rw [status]
  have size : v'.gauge.size = v.gauge.size := by
    unfold gauge observedSize
    rw [status]
  have offer : v'.gauge.offer = v.gauge.offer := by
    unfold gauge observedOffer
    rw [status]
  have known := steady.edited allowed (formed'.gauge ▸ formed.gauge ▸ size)
    (formed'.gauge ▸ formed.gauge ▸ offer)
  rw [← formed.gauge, ← formed'.gauge] at known
  refine ⟨lifecycle ▸ traced.recorded, ?_⟩
  rw [Resource.rawState_of_lifecycle lifecycle]
  refine traced.standing.of_same ?_ known.1 known.2 (congrArg Lifecycle.previous lifecycle) mark
  intro unmade
  exact ⟨size.trans unmade.1, offer.trans unmade.2⟩

theorem Traced.of_unobserved (unobserved : v.status = none) : Traced made short v := by
  have fresh : v.lifecycle = .fresh := by
    unfold Resource.lifecycle
    rw [unobserved]
    rfl
  refine ⟨fresh ▸ Lifecycle.recorded_fresh, ?_⟩
  rw [Resource.rawState_of_unobserved unobserved]
  refine .fresh ⟨?_, ?_⟩
  · unfold gauge observedSize
    rw [unobserved]
  · unfold gauge observedOffer
    rw [unobserved]
    rfl

theorem Steady.lasting (steady : Steady fair made short) : Lasting fair (Traced made short) where
  fresh := fun _ unobserved _ => .of_unobserved unobserved
  changed := by
    intro o v spec version created deleted formed traced marked allowed
    exact traced.edited steady formed ((formed.respec spec).restamp version created deleted)
      allowed rfl marked
  turned := by
    intro v now outcome t version created deleted traced turned written marked
    refine (traced.turned turned steady).stored.restamp version created deleted ?_
    intro mark
    have same : t.left.isDeleted = v.isDeleted := congrArg Metadata.isDeleted turned.metadata
    exact marked.trans (same.symm.trans mark)

theorem Traced.onward (traced : Traced made short v) (turned : Turned v now outcome t) :
    v.gauge.Onward (gauge t.left) := by
  cases turned with
  | rested idle => exact .refl _
  | entered enters => exact v.gauge_enter _ now ▸ .refl _
  | @activated op asks lasting =>
    rw [gauge_enter]
    cases asks with
    | create creating => exact (traced.unmade_of_creating creating).onward _
    | grow updating small => exact v.gauge_copySize ▸ Gauge.onward_grown (size_lt_of_outgrown small)
    | delete => exact absurd rfl lasting
  | deleted asks => exact .refl _
  | awaited asks => exact .refl _
  | failed asks final => exact v.gauge_fail _ now ▸ .refl _

end Turns

end Volume

end Reconciler
